import StarNexus.Model.DurableBilling

/-!
# Tasks

`model/task.go`: the queries of the poller and of the sweeps, the compare-and-set on the status, and the narrow
update of the billing columns; and the retry fields of a task, which the two channels that can repair a rejected
task keep apart.
-/

namespace StarNexus.Model

open Lib Lib.Tx

/-- `ProgressSubmitted` and its relatives, and `TaskProgressPendingSettlement`. -/
def progressSubmitted : String := "10%"
def progressQueued : String := "20%"
def progressInProgress : String := "30%"
def progressComplete : String := "100%"
def progressPendingSettlement : String := "settling"

def channelTypeZQBAPI : ℕ := 61
def channelTypeDoubaoVideo2 : ℕ := 62

def TaskStatus.text : TaskStatus → String
  | .notStart => "NOT_START"
  | .submitted => "SUBMITTED"
  | .queued => "QUEUED"
  | .inProgress => "IN_PROGRESS"
  | .failure => "FAILURE"
  | .success => "SUCCESS"
  | .pendingSettlement => "PENDING_SETTLEMENT"
  | .retrying => "RETRYING"
  | .unknown => "UNKNOWN"
  | .other text => text

def TaskStatus.terminal (status : TaskStatus) : Bool := status = .success ∨ status = .failure

def Task.upstreamTaskID (task : Task) : String :=
  if task.privateData.upstreamTaskID ≠ "" then task.privateData.upstreamTaskID else task.taskID

/-- `taskSnapshot`, the columns that decide whether a task has to be written. -/
structure TaskSnapshot where
  status : TaskStatus
  progress : String
  startTime : ℤ
  finishTime : ℤ
  failReason : String
  resultURL : String
  data : String
  deriving DecidableEq

def Task.snapshot (task : Task) : TaskSnapshot where
  status := task.status
  progress := task.progress
  startTime := task.startTime
  finishTime := task.finishTime
  failReason := task.failReason
  resultURL := task.privateData.resultURL
  data := task.data

/-! ### Retry fields -/

def Task.usesDoubaoVideo2Recovery (task : Task) : Bool := task.platform = .video channelTypeDoubaoVideo2

def Task.retry (task : Task) : RetryState :=
  if task.usesDoubaoVideo2Recovery then task.privateData.doubaoVideo2 else task.privateData.zqbapi

def Task.setRetry (task : Task) (f : RetryState → RetryState) : Task :=
  if task.usesDoubaoVideo2Recovery then
    { task with privateData := { task.privateData with doubaoVideo2 := f task.privateData.doubaoVideo2 } }
  else { task with privateData := { task.privateData with zqbapi := f task.privateData.zqbapi } }

def taskRecoveryProviderName (task : Task) : String :=
  if task.usesDoubaoVideo2Recovery then "DoubaoVideo2.0" else "ZQBAPI"

def taskRecoveryRetryCount (task : Task) : ℕ := task.retry.count

def setTaskRecoveryRetryCount (task : Task) (count : ℕ) : Task := task.setRetry fun r => { r with count := count }

def setTaskRecoveryClaim (task : Task) (startedAt : ℤ) (fromStatus : TaskStatus) : Task :=
  task.setRetry fun r =>
    { r with count := r.count + 1, recoveryStartedAt := startedAt, recoveryFromStatus := fromStatus }

/-- The retry fields without the payload, the start and the origin of a recovery; the count stays. -/
def RetryState.cleared (r : RetryState) : RetryState :=
  { r with payload := "", recoveryStartedAt := 0, recoveryFromStatus := .other "" }

def clearTaskRecoveryPayload (task : Task) : Task :=
  { task with privateData := { task.privateData with
      zqbapi := task.privateData.zqbapi.cleared
      doubaoVideo2 := task.privateData.doubaoVideo2.cleared } }

lemma setRetry_status (task : Task) (f : RetryState → RetryState) : (task.setRetry f).status = task.status := by
  unfold Task.setRetry
  split <;> rfl

/-! ### Queries -/

def getTimedOutUnfinishedTasks (cutoff : ℤ) (limit : ℕ) : Tx (List (ℕ × Task)) :=
  select (S := schema) Label.plain fun s =>
    ((selectTasks s fun t => t.progress ≠ progressComplete ∧ t.status ≠ .failure ∧ t.status ≠ .success ∧
      t.status ≠ .pendingSettlement ∧ t.submitTime < cutoff).insertionSort
        fun a b => a.2.submitTime ≤ b.2.submitTime).take limit

def getAllUnFinishSyncTasks (limit : ℕ) : Tx (List (ℕ × Task)) :=
  select (S := schema) Label.plain fun s =>
    (selectTasks s fun t => t.progress ≠ progressComplete ∧ t.status ≠ .failure ∧ t.status ≠ .success ∧
      t.status ≠ .retrying).take limit

def getStaleRetryingTasks (cutoff : ℤ) (limit : ℕ) : Tx (List (ℕ × Task)) :=
  select (S := schema) Label.plain fun s =>
    ((selectTasks s fun t => t.status = .retrying ∧ t.updatedAt < cutoff).insertionSort
      fun a b => a.2.updatedAt ≤ b.2.updatedAt).take limit

/-- `GetByTaskId`: the task of a user by its public id, with its primary key. -/
def getByTaskId (userId : ℕ) (taskID : String) : Tx (Option (ℕ × Task)) :=
  if taskID = "" then pure none
  else select (S := schema) Label.plain fun s =>
    (selectTasks s fun t => t.userId = userId ∧ t.taskID = taskID).head?

def reloadTask (id : ℕ) : Tx Task := do
  let row ← select (S := schema) Label.plain fun s => s (.task id)
  match row with
  | none => fail .recordNotFound
  | some task => pure task

/-! ### Updates -/

/-- The full-row update of a task guarded by its status, as `UpdateWithStatus` and `CreateTaskBillingIntent` do it. -/
def casTask (oldStatus : TaskStatus) (task : Task) (now : ℤ) (stored : Task) : Option Task :=
  if stored.status = oldStatus then some { task with updatedAt := now } else none

def updateWithStatus (site : CasSite) (id : ℕ) (task : Task) (fromStatus : TaskStatus) : Tx Bool := do
  let now ← now
  let affected ← execAuto (S := schema) (Label.taskCas site id fromStatus)
    (rowWrite (S := schema) (.task id) (onRow (casTask fromStatus task now)))
  pure (0 < affected)

def updateBillingSnapshot (id : ℕ) (task : Task) : Tx Unit := do
  let now ← now
  let _ ← autoRow (.task id) (onRow fun t =>
    some { t with quota := task.quota, privateData := task.privateData, updatedAt := now })
  pure ()

end StarNexus.Model
