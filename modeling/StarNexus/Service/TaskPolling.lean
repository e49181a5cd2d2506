import StarNexus.Service.TaskResult

/-!
# Polling of tasks

`service/task_polling.go` and the realtime fetch of `relay/relay_task.go`.  The poller loads the unfinished tasks and
works on these copies: it fails the ones that cannot be polled, asks the provider about the others and applies the
answers.  A user who looks at a task makes the same functions run on a copy of it.  What a function changes in the
copy it was given is part of its result, also when it fails.

Answers of the providers, channels and settings are fields of `Env`.  The panic of the poller, on a task id that it has not
asked Suno for, is an error that no function of the iteration handles.
-/

namespace StarNexus.Service

open Lib Lib.Tx Model
open Function (update)

/-! ### Failing a task -/

/-- The terminal update of a task: the billing intent if it has durable billing, the compare-and-set alone
otherwise. -/
def storeFinished (site : CasSite) (id : ℕ) (task : Task) (oldStatus : TaskStatus) (finalQuota : ℤ)
    (result : Option TaskInfo) (reason : String) (durable : Bool) : Model.Tx (Task × Except Err Bool) :=
  if durable then do
    let won ← attempt (createTaskBillingIntent site id task oldStatus finalQuota result reason)
    match won with
    | .ok true => pure ({ task with billingState := some (intentState task) }, .ok true)
    | won => pure (task, won)
  else do
    let won ← attempt (updateWithStatus site id task oldStatus)
    pure (task, won)

def failTaskWithDurableBilling (site : CasSite) (owner : String) (id : ℕ) (task : Task) (oldStatus : TaskStatus)
    (reason : String) : Model.Tx (Task × Except Err Bool) := do
  let now ← now
  let durable ← taskHasDurableBilling id
  let stored ← storeFinished site id
    { task with status := .failure, progress := progressComplete, failReason := reason,
                finishTime := if task.finishTime = 0 then now else task.finishTime } oldStatus 0 none reason durable
  match stored with
  | (task, .ok true) =>
    if durable then do
      let _ ← attempt (processDurableBillingOnce owner 1)
      pure (task, .ok true)
    else pure (task, .ok true)
  | stored => pure stored

def refundUnlessDurable (id : ℕ) (task : Task) : Model.Tx Task := do
  let durable ← taskHasDurableBilling id
  if durable then pure task else refundTaskQuota id task

/-! ### Sweeps -/

def legacyTaskCutoff : ℤ := 1740182400

def failTimedOutTasks (minutes now : ℤ) : List (ℕ × Task) → Model.Tx Unit
  | [] => pure ()
  | (id, task) :: rest => do
    let isLegacy := 0 < task.submitTime ∧ task.submitTime < legacyTaskCutoff
    let reason := if isLegacy then "任务超时（旧系统遗留任务，不进行退款，请联系管理员）"
      else s!"任务超时（{minutes}分钟）"
    let durable ← taskHasDurableBilling id
    let stored ← storeFinished .timeoutSweep id
      { task with status := .failure, progress := progressComplete, finishTime := now, failReason := reason }
      task.status 0 none reason durable
    match stored with
    | (task, .ok true) =>
      if isLegacy then do
        let _ ← taskHasDurableBilling id
        failTimedOutTasks minutes now rest
      else do
        let _ ← refundUnlessDurable id task
        failTimedOutTasks minutes now rest
    | _ => failTimedOutTasks minutes now rest

def sweepTimedOutTasks (taskTimeoutMinutes : ℤ) : Model.Tx Unit :=
  if taskTimeoutMinutes ≤ 0 then pure ()
  else do
    let start ← now
    let tasks ← getTimedOutUnfinishedTasks (start - taskTimeoutMinutes * 60) 100
    let now ← now
    failTimedOutTasks taskTimeoutMinutes now tasks

def failStaleRetryingTasks (now : ℤ) : List (ℕ × Task) → Model.Tx Unit
  | [] => pure ()
  | (id, task) :: rest => do
    let reason := taskRecoveryProviderName task ++
      " automatic recovery was interrupted; the task was stopped to prevent a duplicate upstream submission"
    let durable ← taskHasDurableBilling id
    let stored ← storeFinished .staleRetryingSweep id
      (clearTaskRecoveryPayload
        { task with status := .failure, progress := progressComplete, finishTime := now, failReason := reason })
      .retrying 0 none reason durable
    match stored with
    | (task, .ok true) => do
      let _ ← refundUnlessDurable id task
      failStaleRetryingTasks now rest
    | _ => failStaleRetryingTasks now rest

def zqbapiRecoveryLeaseTimeout : ℤ := 120

def sweepStaleRetryingTasks : Model.Tx Unit := do
  let start ← now
  let tasks ← getStaleRetryingTasks (start - zqbapiRecoveryLeaseTimeout) 100
  let now ← now
  failStaleRetryingTasks now tasks

/-! ### Recovery of rejected tasks -/

def claimedTask (task : Task) (now : ℤ) : Task :=
  { setTaskRecoveryClaim { task with status := .retrying } now task.status with progress := progressInProgress }

/-- The task after a recovery that failed: as it was before the claim, with the number of attempts used up. -/
def restoredTask (task claimed : Task) (count : ℕ) : Task :=
  setTaskRecoveryRetryCount { claimed with status := task.status, progress := task.progress,
                                           startTime := task.startTime, finishTime := task.finishTime,
                                           failReason := task.failReason, privateData := task.privateData } count

/-- The end of a recovery that failed; `answer` is returned once the task is restored. -/
def restoreTask (id : ℕ) (task claimed : Task) (count : ℕ) (answer : Except Err Bool) :
    Model.Tx (Task × Except Err Bool) := do
  let restored ← attempt (updateWithStatus .recoveryRestore id (restoredTask task claimed count) .retrying)
  match restored with
  | .error e =>
    pure (restoredTask task claimed count,
      .error (.msg s!"restore task {task.taskID} after recovery failure: {e.text}"))
  | .ok _ => pure (restoredTask task claimed count, answer)

def resubmittedTask (claimed : Task) (upstreamTaskID taskData : String) : Task :=
  { clearTaskRecoveryPayload
      { claimed with privateData := { claimed.privateData with upstreamTaskID := upstreamTaskID } } with
    data := taskData, failReason := "", progress := progressQueued, startTime := 0, status := .submitted }

def resubmitTask (id : ℕ) (claimed : Task) (upstreamTaskID taskData : String) :
    Model.Tx (Task × Except Err Bool) := do
  let won ← attempt (updateWithStatus .recoveryDone id (resubmittedTask claimed upstreamTaskID taskData) .retrying)
  match won with
  | .error e =>
    pure (resubmittedTask claimed upstreamTaskID taskData,
      .error (.msg s!"persist automatic recovery for task {claimed.taskID}: {e.text}"))
  | .ok false =>
    reloadAfterLoss id (resubmittedTask claimed upstreamTaskID taskData) "recovery CAS loss" fun stored =>
      0 < taskRecoveryRetryCount stored
  | .ok true => pure (resubmittedTask claimed upstreamTaskID taskData, .ok true)

def finishRecovery (id : ℕ) (task claimed : Task) : Recovery → Model.Tx (Task × Except Err Bool)
  | .temporary _ => restoreTask id task claimed 0 (.ok true)
  | .failed reason => restoreTask id task claimed 1 (.error (.msg reason))
  | .empty =>
    restoreTask id task claimed 1 (.error (.msg "automatic recovery returned an empty upstream task ID"))
  | .resubmitted upstreamTaskID taskData =>
    if upstreamTaskID = "" then
      restoreTask id task claimed 1 (.error (.msg "automatic recovery returned an empty upstream task ID"))
    else resubmitTask id claimed upstreamTaskID taskData

def tryRecoverFailedVideoTask (a : Adaptor) (id : ℕ) (task : Task) (result : TaskInfo) (body : String) :
    Model.Tx (Task × Except Err Bool) :=
  if result.status ≠ .failure ∨ a.shouldRecover task body = false ∨ 0 < taskRecoveryRetryCount task then
    pure (task, .ok false)
  else do
    let now ← now
    let won ← attempt (updateWithStatus .recoveryClaim id (claimedTask task now) task.status)
    match won with
    | .error e =>
      pure (claimedTask task now, .error (.msg s!"claim automatic recovery for task {task.taskID}: {e.text}"))
    | .ok false =>
      reloadAfterLoss id (claimedTask task now) "recovery claim CAS loss" fun stored =>
        stored.status = .retrying ∨ 0 < taskRecoveryRetryCount stored
    | .ok true => finishRecovery id task (claimedTask task now) (a.recover (claimedTask task now) body)

/-! ### The world of the poller -/

inductive ErrorBody where
  | unreadable
  | rateLimited
  | openAIError
  | unrecognized

structure Response where
  result : TaskInfo
  body : String := ""
  errorBody : ErrorBody := .unreadable

structure SunoDataResponse where
  taskID : String
  status : TaskStatus
  failReason : String := ""
  submitTime : ℤ := 0
  startTime : ℤ := 0
  finishTime : ℤ := 0
  data : String := ""

structure MapOrder (α : Type) where
  order : List α → List α
  perm : ∀ keys, (order keys).Perm keys

instance {α : Type} : Inhabited (MapOrder α) := ⟨⟨id, fun _ => .refl _⟩⟩

/-- Settings, channels and providers; an error of `fetchTask` may also be a body that does not parse. -/
structure Env where
  owner : String := ""
  taskTimeoutMinutes : ℤ := 1440
  taskQueryLimit : ℕ := 1000
  platforms : MapOrder TaskPlatform := default
  channels : MapOrder ℕ := default
  channelType : ℕ → Option ℕ := some
  adaptor : TaskPlatform → Option Adaptor := fun _ => some {}
  fetchTask : ℕ → Task → Except Err Response
  fetchSuno : ℕ → List String → Except Err (List SunoDataResponse) := fun _ _ => .ok []

/-- `taskM`: the copies that the poller works on, with their primary keys, by upstream id. -/
abbrev Copies := String → Option (ℕ × Task)

/-! ### Video tasks -/

/-- What `updateVideoSingleTask` makes of an answer without a status; `none` leaves the task as it is. -/
def emptyStatusResult (task : Task) (response : Response) : Option TaskInfo :=
  match response.errorBody with
  | .unreadable => some response.result
  | .rateLimited => none
  | .openAIError => some { status := .failure, reason := "upstream returned error" }
  | .unrecognized =>
    if isVideoTokenPreAuthorizationTask task then none
    else some { status := .failure, reason := "upstream returned unrecognized message" }

def resultToApply (task : Task) (response : Response) : Option TaskInfo :=
  if response.result.status = .other "" then emptyStatusResult task response else some response.result

def updateVideoSingleTask (env : Env) (a : Adaptor) (id : ℕ) (task : Task) : Model.Tx (Task × Except Err Bool) :=
  match env.fetchTask id task with
  | .error e => pure (task, .error e)
  | .ok response => do
    let recovered ← tryRecoverFailedVideoTask a id task response.result response.body
    match recovered with
    | (task, .ok true) => pure (task, .ok false)
    | (task, _) =>
      match resultToApply task response with
      | none => pure (task, .ok false)
      | some result => applyTaskResult a env.owner id task result response.body

def updateVideoTaskIds (env : Env) (a : Adaptor) : List String → Copies → Model.Tx Copies
  | [], copies => pure copies
  | upstreamID :: rest, copies =>
    match copies upstreamID with
    | none => updateVideoTaskIds env a rest copies
    | some (id, task) => do
      let updated ← updateVideoSingleTask env a id task
      updateVideoTaskIds env a rest (update copies upstreamID (some (id, updated.1)))

/-- `updateVideoTasks` for a channel that cannot be loaded: a lost compare-and-set is not noticed. -/
def failVideoTasks (owner : String) (reason : String) : List String → Copies → Model.Tx Copies
  | [], copies => pure copies
  | upstreamID :: rest, copies =>
    match copies upstreamID with
    | none => failVideoTasks owner reason rest copies
    | some (id, task) => do
      let failed ← failTaskWithDurableBilling .videoChannelLookup owner id task task.status reason
      match failed with
      | (task, .error _) => failVideoTasks owner reason rest (update copies upstreamID (some (id, task)))
      | (task, .ok _) => do
        let refunded ← refundUnlessDurable id task
        failVideoTasks owner reason rest (update copies upstreamID (some (id, refunded)))

def updateVideoTasks (env : Env) (platform : TaskPlatform) (channelId : ℕ) (taskIds : List String) (copies : Copies) :
    Model.Tx Copies :=
  if taskIds.isEmpty then pure copies
  else match env.channelType channelId with
    | none => failVideoTasks env.owner s!"Failed to get channel info, channel ID: {channelId}" taskIds copies
    | some _ =>
      match env.adaptor platform with
      | none => pure copies
      | some a => updateVideoTaskIds env a taskIds copies

/-! ### Suno tasks -/

def sortedBytes (text : String) : List ℕ := (text.toUTF8.toList.map UInt8.toNat).insertionSort (· ≤ ·)

def taskNeedsUpdate (task : Task) (item : SunoDataResponse) : Bool :=
  task.submitTime ≠ item.submitTime ∨ task.startTime ≠ item.startTime ∨ task.finishTime ≠ item.finishTime ∨
    task.status ≠ item.status ∨ task.failReason ≠ item.failReason ∨
    (task.status.terminal ∧ task.progress ≠ progressComplete) ∨ sortedBytes task.data ≠ sortedBytes item.data

def sunoUpdated (task : Task) (item : SunoDataResponse) : Task :=
  let status := if item.failReason ≠ "" then .failure
    else if item.status ≠ .other "" then item.status else task.status
  { task with
    status := status
    failReason := if item.failReason ≠ "" then item.failReason else task.failReason
    submitTime := if item.submitTime ≠ 0 then item.submitTime else task.submitTime
    startTime := if item.startTime ≠ 0 then item.startTime else task.startTime
    finishTime := if item.finishTime ≠ 0 then item.finishTime else task.finishTime
    progress := if item.failReason ≠ "" ∨ status = .failure ∨ item.status = .success then progressComplete
      else task.progress
    data := item.data }

def updateSunoTask (owner : String) (id : ℕ) (oldStatus : TaskStatus) (task : Task) : Model.Tx Task :=
  if task.status.terminal then do
    let durable ← taskHasDurableBilling id
    let stored ← storeFinished .sunoUpdate id task oldStatus (if task.status = .failure then 0 else task.quota) none
      task.failReason durable
    match stored with
    | (task, .ok true) =>
      if durable then do
        let _ ← attempt (processDurableBillingOnce owner 1)
        pure task
      else if task.status = .failure then refundTaskQuota id task
      else pure task
    | (task, _) => pure task
  else do
    let _ ← attempt (updateWithStatus .sunoUpdate id task oldStatus)
    pure task

def updateSunoItems (owner : String) : List SunoDataResponse → Copies → Model.Tx Copies
  | [], copies => pure copies
  | item :: rest, copies =>
    match copies item.taskID with
    | none => fail (.msg "runtime error: invalid memory address or nil pointer dereference")
    | some (id, task) =>
      if taskNeedsUpdate task item then do
        let updated ← updateSunoTask owner id task.status (sunoUpdated task item)
        updateSunoItems owner rest (update copies item.taskID (some (id, updated)))
      else updateSunoItems owner rest copies

def failSunoTasks (owner : String) (reason : String) : List String → Copies → Model.Tx Copies
  | [], copies => pure copies
  | upstreamID :: rest, copies =>
    match copies upstreamID with
    | none => failSunoTasks owner reason rest copies
    | some (id, task) => do
      let failed ← failTaskWithDurableBilling .sunoChannelLookup owner id task task.status reason
      match failed with
      | (task, .ok true) => do
        let refunded ← refundUnlessDurable id task
        failSunoTasks owner reason rest (update copies upstreamID (some (id, refunded)))
      | (task, _) => failSunoTasks owner reason rest (update copies upstreamID (some (id, task)))

def updateSunoTasks (env : Env) (channelId : ℕ) (taskIds : List String) (copies : Copies) : Model.Tx Copies :=
  if taskIds.isEmpty then pure copies
  else match env.channelType channelId with
    | none => failSunoTasks env.owner s!"获取渠道信息失败，请联系管理员，渠道ID：{channelId}" taskIds copies
    | some _ =>
      match env.adaptor .suno with
      | none => pure copies
      | some _ =>
        match env.fetchSuno channelId taskIds with
        | .error _ => pure copies
        | .ok items => updateSunoItems env.owner items copies

/-! ### The iteration -/

/-- `taskM` of the tasks of one platform; of two tasks with the same upstream id the later one is kept. -/
def copiesOf (tasks : List (ℕ × Task)) : Copies := fun upstreamID =>
  if upstreamID = "" then none else (tasks.filter fun x => x.2.upstreamTaskID = upstreamID).getLast?

def taskIdsOf (tasks : List (ℕ × Task)) (channelId : ℕ) : List String :=
  (tasks.filter fun x => x.2.upstreamTaskID ≠ "" ∧ x.2.channelId = channelId).map fun x => x.2.upstreamTaskID

def channelsOf (tasks : List (ℕ × Task)) : List ℕ :=
  ((tasks.filter fun x => x.2.upstreamTaskID ≠ "").map fun x => x.2.channelId).dedup

/-- `DispatchPlatformUpdate` with `UpdateSunoTasks` and `UpdateVideoTasks`: the loop over the channels. -/
def dispatchPlatformUpdate (env : Env) (platform : TaskPlatform) (tasks : List (ℕ × Task)) :
    List ℕ → Copies → Model.Tx Unit
  | [], _ => pure ()
  | channelId :: rest, copies =>
    match platform with
    | .midjourney => pure ()
    | .suno => do
      let copies ← updateSunoTasks env channelId (taskIdsOf tasks channelId) copies
      dispatchPlatformUpdate env platform tasks rest copies
    | .video _ => do
      let copies ← updateVideoTasks env platform channelId (taskIdsOf tasks channelId) copies
      dispatchPlatformUpdate env platform tasks rest copies

/-- The tasks without an upstream id: a lost compare-and-set is not noticed. -/
def failTasksWithoutUpstreamID (owner : String) : List (ℕ × Task) → Model.Tx Unit
  | [] => pure ()
  | (id, task) :: rest => do
    let failed ← failTaskWithDurableBilling .missingUpstreamID owner id task task.status "任务缺少上游任务 ID"
    match failed with
    | (_, .error e) => fail (.msg s!"mark task without upstream id failed: {e.text}")
    | (task, .ok _) => do
      let _ ← refundUnlessDurable id task
      failTasksWithoutUpstreamID owner rest

def pollPlatforms (env : Env) (all : List (ℕ × Task)) : List TaskPlatform → Model.Tx Unit
  | [] => pure ()
  | platform :: rest => do
    let tasks := all.filter fun x => x.2.platform = platform
    failTasksWithoutUpstreamID env.owner (tasks.filter fun x => x.2.upstreamTaskID = "")
    dispatchPlatformUpdate env platform tasks (env.channels.order (channelsOf tasks)) (copiesOf tasks)
    pollPlatforms env all rest

def runTaskPollingIteration (env : Env) : Model.Tx Unit := do
  sweepStaleRetryingTasks
  sweepTimedOutTasks env.taskTimeoutMinutes
  let all ← getAllUnFinishSyncTasks env.taskQueryLimit
  pollPlatforms env all (env.platforms.order (all.map fun x => x.2.platform).dedup)

/-! ### The realtime fetch -/

/-- `supportsRealtimeTaskFetch`: Vertex AI, Gemini, Sora, ZQBAPI and DoubaoVideo2. -/
def supportsRealtimeTaskFetch (channelType : ℕ) : Bool :=
  channelType ∈ [41, 24, 55, channelTypeZQBAPI, channelTypeDoubaoVideo2]

def shouldIgnoreEmptyRealtimeTaskStatus (task : Task) (status : TaskStatus) : Bool :=
  status = .other "" ∧ isVideoTokenPreAuthorizationTask task

def applyRealtimeResponse (a : Adaptor) (owner : String) (id : ℕ) (task : Task) (response : Response) :
    Model.Tx Unit := do
  let recovered ← tryRecoverFailedVideoTask a id task response.result response.body
  match recovered with
  | (_, .error e) => fail e
  | (_, .ok true) => pure ()
  | (task, .ok false) => do
    let applied ← applyTaskResult a owner id task response.result response.body
    match applied.2 with
    | .error e => fail e
    | .ok _ => pure ()

def tryRealtimeFetch (env : Env) (id : ℕ) (task : Task) : Model.Tx Unit :=
  match env.channelType task.channelId with
  | none => pure ()
  | some channelType =>
    if supportsRealtimeTaskFetch channelType then
      match env.adaptor (.video channelType), env.fetchTask id task with
      | some a, .ok response =>
        if shouldIgnoreEmptyRealtimeTaskStatus task response.result.status then pure ()
        else applyRealtimeResponse a env.owner id task response
      | _, _ => pure ()
    else pure ()

/-- `videoFetchByIDRespBodyBuilder`: a user asks for a task, in whatever status it is. -/
def videoFetchByID (env : Env) (userId : ℕ) (taskID : String) : Model.Tx Unit := do
  let found ← getByTaskId userId taskID
  match found with
  | none => fail (.msg "task_not_exist")
  | some (id, task) => tryRealtimeFetch env id task

end StarNexus.Service
