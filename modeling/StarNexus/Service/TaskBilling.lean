import StarNexus.Model.Quota
import StarNexus.Service.DurableBilling

/-!
# Billing of finished tasks

`service/task_billing.go`: the refund of a failed task, the settlement of the difference between what was charged in
advance and what a finished task costs, and the release of a pre-authorisation.  All errors are logged and dropped;
what a function changes in the task it was given is part of its result.

What a task costs depends on prices and on the adaptor of its channel; both are fields of `Adaptor`.  The consumption
log is not modelled, except for whether writing it succeeds.
-/

namespace StarNexus.Service

open Lib Lib.Tx Model

inductive Recovery where
  | resubmitted (upstreamTaskID taskData : String)
  | temporary (reason : String)
  | failed (reason : String)
  | empty

/-- `TaskPollingAdaptor` with its optional interfaces, and the settings that billing reads. -/
structure Adaptor where
  /-- `ShouldRecoverFailedTask`; constantly `false` for an adaptor that is no `TaskFailureRecoverer`. -/
  shouldRecover : Task → String → Bool := fun _ _ => false
  /-- `RecoverFailedTask`. -/
  recover : Task → String → Recovery := fun _ _ => .empty
  /-- `FetchTaskUsage`, `none` for a channel or an answer that cannot be loaded. -/
  fetchTaskUsage : Task → Option TaskInfo := fun _ => none
  /-- `AdjustBillingOnComplete`. -/
  adjustBillingOnComplete : Task → TaskInfo → ℤ := fun _ _ => 0
  /-- The price of `totalTokens`, of which `completionTokens` are output; `none` without a ratio or a group. -/
  priceOfTokens : Task → ℤ → ℤ → Option ℤ := fun _ _ _ => none
  /-- `recalculateDurableVideoBilling`. -/
  durableQuota : Task → TaskInfo → ℤ := fun task _ => task.quota
  /-- `redactVideoResponseBody`. -/
  redact : String → String := id
  /-- `BuildProxyURL`. -/
  proxyURL : String → String := id
  /-- The channel of the task can be loaded and is one of ZQBAPI. -/
  privateResult : Task → Bool := fun _ => false
  /-- `RecordTaskBillingLog` answers the id of a log. -/
  recordTaskBillingLog : Bool := true

def taskIsSubscription (task : Task) : Bool :=
  task.privateData.billingSource = .subscription ∧ 0 < task.privateData.subscriptionId

/-- `taskAdjustFunding`: a positive `delta` charges, a negative one gives back. -/
def taskAdjustFunding (why : Cause) (task : Task) (delta : ℤ) : Model.Tx Unit :=
  if taskIsSubscription task then
    postConsumeUserSubscriptionDelta (fun _ => why) task.privateData.subscriptionId delta
  else if 0 < delta then decreaseUserQuota why task.userId delta
  else increaseUserQuota why task.userId (-delta)

/-- `resolveTokenKey`: whether the token can be loaded. -/
def resolveTokenKey (tokenId : ℕ) : Model.Tx Bool := do
  let token ← attempt (select (S := schema) Label.plain fun s => (s (.token tokenId)).isSome)
  match token with
  | .ok found => pure found
  | .error _ => pure false

def taskAdjustTokenQuota (why : Cause) (task : Task) (delta : ℤ) : Model.Tx Unit :=
  if task.privateData.tokenId = 0 ∨ delta = 0 then pure ()
  else do
    let found ← resolveTokenKey task.privateData.tokenId
    if found then do
      let _ ← attempt (if 0 < delta then decreaseTokenQuota why task.privateData.tokenId delta
        else increaseTokenQuota why task.privateData.tokenId (-delta))
      pure ()
    else pure ()

def refundTaskQuota (id : ℕ) (task : Task) : Model.Tx Task :=
  if task.quota = 0 then pure task
  else do
    Tx.emit (S := schema) (Event.refundTaskQuota id)
    let adjusted ← attempt (taskAdjustFunding (.taskRefund id) task (-task.quota))
    match adjusted with
    | .error _ => pure task
    | .ok _ => do
      taskAdjustTokenQuota (.taskRefund id) task (-task.quota)
      if taskUsesPreAuthorization task then do
        let _ ← attempt (updateBillingSnapshot id { task with quota := 0 })
        pure { task with quota := 0 }
      else pure task

/-- The usage counters that an additional charge of a task without pre-authorisation moves. -/
def addTaskUsage (task : Task) (quota : ℤ) (count : ℤ) : Model.Tx Unit := do
  let _ ← attempt (updateUserUsedQuota task.userId quota count)
  let _ ← attempt (updateChannelUsedQuota task.channelId quota)
  pure ()

def recalculateTaskQuota (id : ℕ) (task : Task) (actualQuota : ℤ) : Model.Tx Task :=
  if actualQuota ≤ 0 ∨ actualQuota - task.quota = 0 then pure task
  else do
    let adjusted ← attempt (taskAdjustFunding (.taskRecalculate id) task (actualQuota - task.quota))
    match adjusted with
    | .error _ => pure task
    | .ok _ => do
      taskAdjustTokenQuota (.taskRecalculate id) task (actualQuota - task.quota)
      let _ ← attempt (updateBillingSnapshot id { task with quota := actualQuota })
      if taskUsesPreAuthorization task = false ∧ 0 < actualQuota - task.quota then do
        addTaskUsage task (actualQuota - task.quota) 0
        pure { task with quota := actualQuota }
      else pure { task with quota := actualQuota }

def recalculateTaskQuotaByTokenDetails (a : Adaptor) (id : ℕ) (task : Task) (totalTokens completionTokens : ℤ) :
    Model.Tx Task :=
  if totalTokens ≤ 0 then pure task
  else match a.priceOfTokens task totalTokens (min (max completionTokens 0) totalTokens) with
    | none => pure task
    | some actualQuota => recalculateTaskQuota id task actualQuota

def usesVideoTokenBilling (task : Task) : Bool :=
  match task.privateData.billingContext with
  | some bc => bc.videoTokenBilling
  | none => false

def usesPerCallBilling (task : Task) : Bool :=
  match task.privateData.billingContext with
  | some bc => bc.perCallBilling
  | none => false

def settleTaskBillingOnComplete (a : Adaptor) (id : ℕ) (task : Task) (result : TaskInfo) : Model.Tx Task := do
  Tx.emit (S := schema) (Event.settleTaskBilling id)
  if usesVideoTokenBilling task ∧ 0 < result.totalTokens then
    recalculateTaskQuotaByTokenDetails a id task result.totalTokens result.completionTokens
  else if usesPerCallBilling task then pure task
  else if 0 < a.adjustBillingOnComplete task result then
    recalculateTaskQuota id task (a.adjustBillingOnComplete task result)
  else if 0 < result.totalTokens then
    recalculateTaskQuotaByTokenDetails a id task result.totalTokens result.completionTokens
  else pure task

def finalizeTaskPreAuthorization (a : Adaptor) (id : ℕ) (task : Task) : Model.Tx Unit :=
  if taskUsesPreAuthorization task then do
    Tx.emit (S := schema) (Event.finalizePreAuthorization id)
    if a.recordTaskBillingLog then do
      let _ ← attempt (updateBillingSnapshot id task)
      addTaskUsage task task.quota 1
    else pure ()
  else pure ()

end StarNexus.Service
