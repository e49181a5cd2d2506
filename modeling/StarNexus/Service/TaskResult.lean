import StarNexus.Service.TaskBilling

/-!
# Applying an upstream answer to a task

`ApplyTaskResult` of `service/task_polling.go`, through which every answer of a video provider goes, whether the
poller or a user asked for it: the copy of the task is changed as the answer says, stored with a compare-and-set on the
status that the copy had, and billed if the answer was the last one.
-/

namespace StarNexus.Service

open Lib Lib.Tx Model

def isVideoTokenPreAuthorizationTask (task : Task) : Bool := taskUsesPreAuthorization task ∧ usesVideoTokenBilling task

def withContext (task : Task) (f : TaskBillingContext → TaskBillingContext) : Task :=
  { task with privateData := { task.privateData with billingContext := task.privateData.billingContext.map f } }

def videoSettlementFallbackAfter : ℤ := 600

/-- `prepareVideoTaskSettlement` with the billing context `bc`, and whether the settlement has to wait. -/
def prepareVideoTaskSettlement (a : Adaptor) (task : Task) (bc : TaskBillingContext) (result : TaskInfo) (now : ℤ) :
    Task × TaskInfo × Bool :=
  if 0 < result.totalTokens then
    let result := if result.usageSource = "" then { result with usageSource := "upstream_status" } else result
    (withContext task fun bc => { bc with settlementSource := result.usageSource }, result, false)
  else match (a.fetchTaskUsage task).filter fun usage => 0 < usage.totalTokens with
    | some usage =>
      (withContext task fun bc => { bc with settlementSource := usage.usageSource },
        { result with totalTokens := usage.totalTokens, completionTokens := usage.completionTokens,
                      resolution := usage.resolution, usageSource := usage.usageSource }, false)
    | none =>
      let startedAt := if bc.settlementStartedAt = 0 then now else bc.settlementStartedAt
      if now - startedAt < videoSettlementFallbackAfter then
        (withContext task fun bc => { bc with settlementStartedAt := startedAt }, result, true)
      else
        let textTokens := if bc.estimatedTextTokens ≤ 0 then 500 else bc.estimatedTextTokens
        let videoTokens := if bc.estimatedVideoTokens ≤ 0 then 250000 else bc.estimatedVideoTokens
        (withContext task fun bc =>
            { bc with settlementStartedAt := startedAt, settlementSource := "estimated_inference" },
          { result with completionTokens := videoTokens, totalTokens := textTokens + videoTokens,
                        resolution := bc.videoResolution, usageSource := "estimated_inference" }, false)

def prepareSettlement (a : Adaptor) (task : Task) (result : TaskInfo) (now : ℤ) : Task × TaskInfo × Bool :=
  match task.privateData.billingContext with
  | some bc =>
    if result.status = .success ∧ isVideoTokenPreAuthorizationTask task then
      prepareVideoTaskSettlement a task bc result now
    else (task, result, false)
  | none => (task, result, false)

def finishedAt (task : Task) (result : TaskInfo) (now : ℤ) : Task :=
  { task with
    finishTime := if task.finishTime ≠ 0 then task.finishTime
      else if result.completedAt ≠ 0 then result.completedAt else now
    startTime := if task.startTime ≠ 0 then task.startTime
      else if result.createdAt ≠ 0 then result.createdAt else task.submitTime }

/-- Where the result of a task is found: behind the content proxy, or at the provider. -/
def withResultURL (a : Adaptor) (task : Task) (url : String) : Task :=
  { task with privateData :=
      if url.startsWith "data:" ∨ url = "" then { task.privateData with resultURL := a.proxyURL task.taskID }
      else if a.privateResult task then
        { task.privateData with upstreamResultURL := url, resultURL := a.proxyURL task.taskID }
      else { task.privateData with resultURL := url } }

/-- The `switch` of `ApplyTaskResult`: the task and the answer after it; `none` for an unknown status. -/
def applyStatus (a : Adaptor) (task : Task) (result : TaskInfo) (pending : Bool) (now : ℤ) :
    Option (Task × TaskInfo) :=
  match result.status with
  | .submitted => some ({ task with status := .submitted, progress := progressSubmitted }, result)
  | .queued => some ({ task with status := .queued, progress := progressQueued }, result)
  | .inProgress =>
    some ({ task with
      status := .inProgress, progress := progressInProgress
      startTime := if task.startTime ≠ 0 then task.startTime
        else if result.createdAt ≠ 0 then result.createdAt else now }, result)
  | .success =>
    let finished := withResultURL a (finishedAt (clearTaskRecoveryPayload task) result now) result.url
    if pending then
      some ({ finished with status := .pendingSettlement, progress := progressPendingSettlement, failReason := "" },
        result)
    else some ({ finished with status := .success, progress := progressComplete, failReason := "" }, result)
  | .failure =>
    some ({ finishedAt (clearTaskRecoveryPayload task) result now with
      status := .failure, progress := progressComplete, failReason := result.reason },
      { result with progress := progressComplete })
  | _ => none

/-- What an accepted answer makes of a task: the task to be stored and the answer to be settled. -/
structure Outcome where
  task : Task
  result : TaskInfo

/-- The pure part of `ApplyTaskResult`: the changed copy of the task, and the outcome unless the answer is refused. -/
def transition (a : Adaptor) (task : Task) (answer : TaskInfo) (body : String) (now : ℤ) : Task × Except Err Outcome :=
  let received := { task with data := a.redact body }
  if answer.status = .other "" then
    (received, .error (.msg s!"upstream returned empty status for task {task.taskID}"))
  else
    let prepared := prepareSettlement a received answer now
    match applyStatus a prepared.1 prepared.2.1 prepared.2.2 now with
    | none =>
      ({ prepared.1 with status := answer.status },
        .error (.msg s!"unknown task status {answer.status.text} for task {task.taskID}"))
    | some (task, result) =>
      let task := if result.progress ≠ "" ∧ prepared.2.2 = false then { task with progress := result.progress } else task
      (task, .ok ⟨task, result⟩)

/-- `task.PrivateData.BillingContext.VideoResolution = taskResult.Resolution`, if there are both. -/
def withResolution (task : Task) (result : TaskInfo) : Task :=
  if result.resolution ≠ "" ∧ usesVideoTokenBilling task then
    withContext task fun bc => { bc with videoResolution := result.resolution }
  else task

/-- The reload after a lost compare-and-set: the stored task, and `answer` of it. -/
def reloadAfterLoss (id : ℕ) (task : Task) (what : String) (answer : Task → Bool) :
    Model.Tx (Task × Except Err Bool) := do
  let stored ← attempt (reloadTask id)
  match stored with
  | .error e => pure (task, .error (.msg s!"reload task {task.taskID} after {what}: {e.text}"))
  | .ok stored => pure (stored, .ok (answer stored))

def billOutcome (a : Adaptor) (id : ℕ) (o : Outcome) : Model.Tx Task :=
  if o.task.status = .success then do
    let settled ← settleTaskBillingOnComplete a id (withResolution o.task o.result) o.result
    finalizeTaskPreAuthorization a id settled
    pure settled
  else if o.task.status = .failure then refundTaskQuota id o.task
  else pure o.task

/-- The end of `ApplyTaskResult` for a task without durable billing: stored, and then billed. -/
def storeOutcome (a : Adaptor) (id : ℕ) (oldStatus : TaskStatus) (o : Outcome) (what : String) :
    Model.Tx (Task × Except Err Bool) := do
  let won ← attempt (updateWithStatus .applyTaskResult id o.task oldStatus)
  match won with
  | .error e => pure (o.task, .error (.msg s!"{what} {o.task.taskID}: {e.text}"))
  | .ok false => reloadAfterLoss id o.task "CAS loss" fun _ => false
  | .ok true => do
    let billed ← billOutcome a id o
    pure (billed, .ok true)

/-- The end of `ApplyTaskResult` for a finished task with durable billing. -/
def storeDurableOutcome (a : Adaptor) (owner : String) (id : ℕ) (oldStatus : TaskStatus) (o : Outcome) :
    Model.Tx (Task × Except Err Bool) := do
  let task := if o.task.status = .success then withResolution o.task o.result else o.task
  let finalQuota := if o.task.status = .success then a.durableQuota task o.result else task.quota
  let won ← attempt (createTaskBillingIntent .applyTaskResult id task oldStatus finalQuota (some o.result)
    task.failReason)
  match won with
  | .error e => pure (task, .error (.msg s!"persist terminal billing intent for task {task.taskID}: {e.text}"))
  | .ok false => reloadAfterLoss id task "durable billing CAS loss" fun _ => false
  | .ok true => do
    let _ ← attempt (processDurableBillingOnce owner 1)
    pure ({ task with billingState := some (intentState task) }, .ok true)

def applyTaskResult (a : Adaptor) (owner : String) (id : ℕ) (task : Task) (answer : TaskInfo) (body : String) :
    Model.Tx (Task × Except Err Bool) := do
  Tx.emit (S := schema) (Event.applyTaskResult id task answer)
  let now ← now
  match transition a task answer body now with
  | (changed, .error e) => pure (changed, .error e)
  | (_, .ok o) =>
    if o.task.status.terminal ∧ task.status ≠ o.task.status then do
      let durable ← taskHasDurableBilling id
      if durable then storeDurableOutcome a owner id task.status o
      else storeOutcome a id task.status o "update terminal task"
    else if task.snapshot ≠ o.task.snapshot then storeOutcome a id task.status o "update task"
    else pure (o.task, .ok false)

end StarNexus.Service
