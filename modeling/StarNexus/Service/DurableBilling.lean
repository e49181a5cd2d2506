import StarNexus.Model.Task

/-!
# Durable billing

`service/durable_billing.go` and `service/task_billing_durable.go`: a request reserves its quota together with a
row of `billing_transactions`; the row is settled or refunded by the request itself, or it is bound to a task and
a coordinator applies the intent that the end of the task leaves in it.

The invalidation of the Redis caches after a transaction, and the payloads of the outbox rows, are not modelled.
-/

namespace StarNexus.Service

open Lib Lib.Tx Model

def adjustDurableFundingTx (why : Why) (row : BillingTransaction) (consumeDelta : ℤ) : Model.Tx Unit :=
  if consumeDelta = 0 then pure ()
  else match row.fundingSource with
    | .subscription => postConsumeUserSubscriptionDeltaTx why row.subscriptionID consumeDelta
    | .wallet => adjustUserQuotaTx why row.userID (-consumeDelta)

def adjustDurableTokenTx (why : Why) (row : BillingTransaction) (consumeDelta : ℤ) : Model.Tx Unit :=
  adjustTokenUnless row.skipTokenQuota why row.tokenID (-consumeDelta)

/-! ### The coordinator -/

def createOutbox (event : EventID) (row : ℕ) : Model.Tx Unit := do
  let now ← now
  let created ← updateRow (.outbox event) (ifAbsent { billingTransactionID := row, nextRetryAt := now })
  if created = 0 then fail (.msg "duplicate event id") else pure ()

def enqueueQuotaCacheOutbox (row : ℕ) : Model.Tx Unit := createOutbox (.quotaCache row) row

def taskUsesPreAuthorization (task : Task) : Bool :=
  match task.privateData.billingContext with
  | some bc => bc.preAuthorization
  | none => false

/-- The row that a finished application writes, if the row is still being applied. -/
def finishRow (finalState : BillingState) (finalQuota now : ℤ) (row : BillingTransaction) :
    Option BillingTransaction :=
  if row.state = .applying then
    some { row with state := finalState, finalQuota := finalQuota, leaseOwner := "", leaseUntil := 0,
                    lastError := "", updatedAt := now }
  else none

def adjustTaskUsageTx (billing : BillingTransaction) (task : Task) (finalQuota : ℤ) : Model.Tx Unit :=
  if billing.targetTaskStatus = .success then do
    adjustUserUsageTx billing.userID finalQuota 1
    adjustChannelUsageTx task.channelId finalQuota
  else pure ()

def enqueueTaskBillingOutbox (transactionID : ℕ) (billing : BillingTransaction) (task : Task) : Model.Tx Unit :=
  if billing.targetTaskStatus = .success ∨ ¬taskUsesPreAuthorization task then
    createOutbox (.taskBilling transactionID) transactionID
  else pure ()

/-- The rest of `applyDurableTaskBilling` for a row that is bound to the task `billing.taskDBID`. -/
def applyBoundTaskBilling (transactionID : ℕ) (billing : BillingTransaction) (finalQuota : ℤ) : Model.Tx Unit := do
  let task ← select (S := schema) Label.plain fun s => s (.task billing.taskDBID)
  match task with
  | none => fail .recordNotFound
  | some task => do
    adjustTaskUsageTx billing task finalQuota
    let finalState : BillingState := if billing.targetTaskStatus = .failure then .refunded else .settled
    let now ← now
    let _ ← updateRow (.task billing.taskDBID) (onRow fun t =>
      some { t with quota := finalQuota, billingState := some finalState, privateData := task.privateData,
                    updatedAt := now })
    let _ ← updateRow (.billing transactionID) (onRow (finishRow finalState finalQuota now))
    if taskUsesPreAuthorization task ∧ billing.targetTaskStatus = .failure then
      enqueueQuotaCacheOutbox transactionID
    else do
      enqueueTaskBillingOutbox transactionID billing task
      enqueueQuotaCacheOutbox transactionID

def applyDurableTaskBillingTx (transactionID : ℕ) : Model.Tx Unit := do
  let row ← select (S := schema) Label.plain fun s => s (.billing transactionID)
  match row with
  | none => fail .recordNotFound
  | some billing =>
    if billing.state ≠ .applying then fail .recordNotFound
    else do
      let finalQuota := if billing.targetTaskStatus = .failure then 0 else billing.finalQuota
      let delta := finalQuota - billing.reservedQuota
      let why : Why := fun _ => .durable .apply transactionID
      adjustDurableFundingTx why billing delta
      adjustDurableTokenTx why billing delta
      if billing.taskDBID = 0 then
        if billing.targetTaskStatus ≠ .failure then
          fail (.msg "unbound billing transaction can only be refunded")
        else do
          let now ← now
          let _ ← updateRow (.billing transactionID) (onRow (finishRow .refunded 0 now))
          enqueueQuotaCacheOutbox transactionID
      else applyBoundTaskBilling transactionID billing finalQuota

def applyDurableTaskBilling (transactionID : ℕ) : Model.Tx Unit := transaction (applyDurableTaskBillingTx transactionID)

/-- The state to which a failed application returns a row, as `ProcessDurableBillingOnce` computes it. -/
def pendingStateOf (candidate : BillingTransaction) : BillingState :=
  if candidate.state = .applying then
    if candidate.targetTaskStatus = .failure then .refundPending else .settlePending
  else candidate.state

def durableBillingLease : ℤ := 30

def processCandidates (owner : String) : List (ℕ × BillingTransaction) → Model.Tx Unit
  | [] => pure ()
  | (id, candidate) :: rest => do
    let won ← attempt (claimBillingTransaction id candidate.version owner durableBillingLease)
    match won with
    | .ok true => do
      let applied ← attempt (applyDurableTaskBilling id)
      match applied with
      | .ok _ => processCandidates owner rest
      | .error e => do
        let _ ← attempt (releaseBillingTransaction id (pendingStateOf candidate) e.text (candidate.attempts + 1))
        Tx.emit (S := schema) (Event.sysLog s!"durable task billing failed transaction {id}: {e.text}")
        processCandidates owner rest
    | _ => processCandidates owner rest

def repairRow (id : ℕ) (task : Task) (state : BillingState) (now : ℤ) (row : BillingTransaction) :
    Option BillingTransaction :=
  if row.taskDBID = id ∧ row.state = .reserved then
    some { row with state := state, targetTaskStatus := task.status,
                    finalQuota := if state = .refundPending then 0 else task.quota,
                    nextRetryAt := now, updatedAt := now }
  else none

def repairTasks (now : ℤ) : List (ℕ × Task) → Model.Tx Unit
  | [] => pure ()
  | (id, task) :: rest => do
    let _ ← execAuto (S := schema) Label.plain fun s =>
      match task.billingState with
      | none => []
      | some state =>
        (selectBilling s fun row => (repairRow id task state now row).isSome).map fun r =>
          ⟨.billing r.1, repairRow id task state now r.2⟩
    repairTasks now rest

def repairPendingTaskBillingIntents (limit : ℕ) : Model.Tx Unit := do
  let tasks ← select (S := schema) Label.plain fun s =>
    (selectTasks s fun t => t.billingState = some .settlePending ∨ t.billingState = some .refundPending).take
      (if limit = 0 then 100 else limit)
  let now ← now
  repairTasks now tasks

/-! ### The intent of a finished task -/

def intentState (task : Task) : BillingState := if task.status = .failure then .refundPending else .settlePending

/-- What the intent writes to the row; the tokens are those of the upstream result, if there is one. -/
def intentRow (task : Task) (finalQuota : ℤ) (taskResult : Option TaskInfo) (reason : String) (now : ℤ)
    (row : BillingTransaction) : BillingTransaction :=
  { row with
    state := intentState task
    finalQuota := finalQuota
    targetTaskStatus := task.status
    promptTokens := match taskResult with | some r => max 0 (r.totalTokens - r.completionTokens) | none => 0
    completionTokens := match taskResult with | some r => r.completionTokens | none => 0
    reason := reason
    nextRetryAt := now
    lastError := ""
    updatedAt := now }

/-- The second half of the transaction of `CreateTaskBillingIntent`, once the row of the task has been found. -/
def writeTaskBillingIntentTx (id : ℕ) (task : Task) (finalQuota : ℤ) (taskResult : Option TaskInfo) (reason : String)
    (now : ℤ) (row : ℕ) (billing : BillingTransaction) : Model.Tx Unit :=
  if billing.state = .settled ∧ intentState task = .settlePending then do
    let _ ← updateRow (.task id) (onRow fun t => some { t with billingState := some .settled, updatedAt := now })
    pure ()
  else if billing.state ≠ .reserved ∧ billing.state ≠ .settled ∧ billing.state ≠ intentState task then
    fail (.msg s!"billing transaction is not reservable: {billing.state.text}")
  else do
    let _ ← updateRow (.billing row) (onRow fun r => some (intentRow task finalQuota taskResult reason now r))
    let _ ← updateRow (.task id) (onRow fun t =>
      some { t with billingState := some (intentState task), updatedAt := now })
    pure ()

def createTaskBillingIntentTx (site : CasSite) (id : ℕ) (task : Task) (oldStatus : TaskStatus) (finalQuota : ℤ)
    (taskResult : Option TaskInfo) (reason : String) (now : ℤ) : Model.Tx Unit := do
  let affected ← Lib.Tx.exec (S := schema) (Label.taskCas site id oldStatus)
    (rowWrite (S := schema) (.task id) (onRow (casTask oldStatus task now)))
  if affected ≠ 1 then fail .recordNotFound
  else do
    let first ← select (S := schema) Label.plain fun s => firstBilling s fun r => r.taskDBID = id
    match first with
    | none => fail .recordNotFound
    | some (row, billing) => writeTaskBillingIntentTx id task finalQuota taskResult reason now row billing

def createTaskBillingIntent (site : CasSite) (id : ℕ) (task : Task) (oldStatus : TaskStatus) (finalQuota : ℤ)
    (taskResult : Option TaskInfo) (reason : String) : Model.Tx Bool :=
  if id = 0 then fail (.msg "persisted task is required for billing intent")
  else if finalQuota < 0 then fail (.msg "final quota cannot be negative")
  else do
    let now ← now
    let result ← attempt (transaction (createTaskBillingIntentTx site id task oldStatus
      (if task.status = .failure then 0 else finalQuota) taskResult reason now))
    match result with
    | .ok _ => do
      Tx.emit (S := schema) (Event.taskBillingIntent id)
      pure true
    | .error .recordNotFound => pure false
    | .error e => fail e

/-- `taskHasDurableBilling`: a failing query counts as "no". -/
def taskHasDurableBilling (id : ℕ) : Model.Tx Bool :=
  if id = 0 then pure false
  else do
    let found ← attempt (select (S := schema) Label.plain fun s => (firstBilling s fun r => r.taskDBID = id).isSome)
    match found with
    | .ok b => pure b
    | .error _ => pure false

def processDurableBillingOnce (owner : String) (limit : ℕ) : Model.Tx Unit := do
  let now ← now
  markStaleUnboundBillingRefundPending (now - 3600)
  repairPendingTaskBillingIntents limit
  let rows ← getDueBillingTransactions limit
  processCandidates owner rows

end StarNexus.Service
