import StarNexus.Lib.Prog

/-!
# The tables

The tables of the `model` package that billing works on, one Lean structure per Go structure and one field per
column that some modelled function reads or writes.  Primary keys are not part of a row: `Key.user 7` is the row
of `users` with id 7, and its contents are `none` if there is no such row.  Ids are naturals, `0` standing for
"no row" as in the code (`TaskDBID == 0`, `TokenID <= 0`); amounts are integers.

Balance rows carry one column that the database does not have: `ledger`, the list of the changes made to the
balance so far, each with the reason it was made for.  It is written together with the balance and read by
no modelled function; the theorems use it to say what one reservation, task or order has contributed.
-/

namespace StarNexus.Model

open Lib (Snap)

/-- `TaskStatus`, a string type in the source: the named constants and any other text. -/
inductive TaskStatus where
  | notStart
  | submitted
  | queued
  | inProgress
  | failure
  | success
  | pendingSettlement
  | retrying
  | unknown
  | other (text : String)
  deriving DecidableEq

inductive BillingState where
  | reserved
  | settlePending
  | refundPending
  | applying
  | settled
  | refunded
  | actionNeeded
  deriving DecidableEq

def BillingState.text : BillingState → String
  | .reserved => "reserved"
  | .settlePending => "settle_pending"
  | .refundPending => "refund_pending"
  | .applying => "applying"
  | .settled => "settled"
  | .refunded => "refunded"
  | .actionNeeded => "action_required"

inductive FundingSource where
  | wallet
  | subscription
  deriving DecidableEq

/-- The durable operation that moves quota for a billing transaction. -/
inductive DurableOp where
  | reserve
  | adjust
  | settle
  | apply
  deriving DecidableEq

/-- Why a balance changed: for a billing transaction, for a task billed without one, or for a request session. -/
inductive Cause where
  | durable (op : DurableOp) (row : ℕ)
  | taskRecalculate (task : ℕ)
  | taskRefund (task : ℕ)
  | session
  deriving DecidableEq

structure Entry where
  cause : Cause
  delta : ℤ
  deriving DecidableEq

structure User where
  quota : ℤ
  usedQuota : ℤ := 0
  requestCount : ℤ := 0
  ledger : List Entry := []

structure Token where
  remainQuota : ℤ
  usedQuota : ℤ := 0
  unlimitedQuota : Bool := false
  accessedTime : ℤ := 0
  ledger : List Entry := []

/-- `UserSubscription`; `active` is `status = "active"`. -/
structure UserSubscription where
  userId : ℕ
  planId : ℕ
  amountTotal : ℤ
  amountUsed : ℤ
  endTime : ℤ
  active : Bool
  startTime : ℤ := 0
  lastResetTime : ℤ := 0
  nextResetTime : ℤ := 0
  ledger : List Entry := []
  deriving DecidableEq

/-- `SubscriptionPreConsumeRecord`; `refunded` is `status = "refunded"`, otherwise the status is `"consumed"`. -/
structure PreConsumeRecord where
  userId : ℕ
  userSubscriptionId : ℕ
  preConsumed : ℤ
  refunded : Bool

structure BillingTransaction where
  businessKey : String
  taskDBID : ℕ := 0
  userID : ℕ
  tokenID : ℕ
  skipTokenQuota : Bool
  subscriptionID : ℕ := 0
  fundingSource : FundingSource
  reservedQuota : ℤ
  finalQuota : ℤ
  promptTokens : ℤ := 0
  completionTokens : ℤ := 0
  targetTaskStatus : TaskStatus := .other ""
  state : BillingState
  version : ℕ := 1
  leaseOwner : String := ""
  leaseUntil : ℤ := 0
  attempts : ℕ := 0
  nextRetryAt : ℤ := 0
  lastError : String := ""
  reason : String := ""
  updatedAt : ℤ

/-- `EventID` of a `BillingOutbox` row: `task-billing:<id>` or `quota-cache:<id>`. -/
inductive EventID where
  | taskBilling (row : ℕ)
  | quotaCache (row : ℕ)
  deriving DecidableEq

structure BillingOutbox where
  billingTransactionID : ℕ
  nextRetryAt : ℤ

/-! ### Tasks -/

/-- `TaskPlatform`: the two platforms with their own update function, and every video platform by its channel
type. -/
inductive TaskPlatform where
  | suno
  | midjourney
  | video (channelType : ℕ)
  deriving DecidableEq

structure TaskBillingContext where
  perCallBilling : Bool := false
  preAuthorization : Bool := false
  videoTokenBilling : Bool := false
  videoResolution : String := ""
  estimatedTextTokens : ℤ := 0
  estimatedVideoTokens : ℤ := 0
  settlementStartedAt : ℤ := 0
  settlementSource : String := ""
  deriving DecidableEq

/-- The four retry fields that `TaskPrivateData` has for ZQBAPI and once more for DoubaoVideo2. -/
structure RetryState where
  payload : String := ""
  count : ℕ := 0
  recoveryStartedAt : ℤ := 0
  recoveryFromStatus : TaskStatus := .other ""
  deriving DecidableEq

structure TaskPrivateData where
  upstreamTaskID : String := ""
  resultURL : String := ""
  upstreamResultURL : String := ""
  billingSource : FundingSource := .wallet
  subscriptionId : ℕ := 0
  tokenId : ℕ := 0
  billingContext : Option TaskBillingContext := none
  zqbapi : RetryState := {}
  doubaoVideo2 : RetryState := {}
  deriving DecidableEq

/-- `Task`; `billingState` is `none` for the empty string. -/
structure Task where
  taskID : String := ""
  platform : TaskPlatform := .video 0
  userId : ℕ
  channelId : ℕ := 0
  quota : ℤ
  billingState : Option BillingState := none
  status : TaskStatus
  failReason : String := ""
  submitTime : ℤ := 0
  startTime : ℤ := 0
  finishTime : ℤ := 0
  progress : String := ""
  privateData : TaskPrivateData := {}
  data : String := ""
  updatedAt : ℤ := 0
  deriving DecidableEq

/-- `relaycommon.TaskInfo`, the answer of an upstream provider about a task. -/
structure TaskInfo where
  status : TaskStatus
  url : String := ""
  progress : String := ""
  reason : String := ""
  totalTokens : ℤ := 0
  completionTokens : ℤ := 0
  resolution : String := ""
  usageSource : String := ""
  createdAt : ℤ := 0
  completedAt : ℤ := 0
  deriving DecidableEq

/-! ### The database -/

/-- The rows, by table and primary key; `billingSeq` and `subscriptionSeq` are the next free ids. -/
inductive Key where
  | user (id : ℕ)
  | token (id : ℕ)
  | subscription (id : ℕ)
  | subscriptionSeq
  | preConsumeRecord (requestId : String)
  | billing (id : ℕ)
  | billingSeq
  | task (id : ℕ)
  | taskSeq
  | channelUsed (id : ℕ)
  | outbox (id : EventID)
  deriving DecidableEq

@[reducible] def Val : Key → Type
  | .user _ => Option User
  | .token _ => Option Token
  | .subscription _ => Option UserSubscription
  | .subscriptionSeq => ℕ
  | .preConsumeRecord _ => Option PreConsumeRecord
  | .billing _ => Option BillingTransaction
  | .billingSeq => ℕ
  | .task _ => Option Task
  | .taskSeq => ℕ
  | .channelUsed _ => ℤ
  | .outbox _ => Option BillingOutbox

/-- The functions that move a task from one status to another with a compare-and-set on the status. -/
inductive CasSite where
  | applyTaskResult
  | missingUpstreamID
  | videoChannelLookup
  | sunoChannelLookup
  | sunoUpdate
  | timeoutSweep
  | staleRetryingSweep
  | recoveryClaim
  | recoveryRestore
  | recoveryDone
  deriving DecidableEq

/-- Names of the statements that a condition on a run refers to; all other statements are `plain`. -/
inductive Label where
  | plain
  | settleState (row : ℕ) (delta : ℤ)
  | taskCas (site : CasSite) (id : ℕ) (fromStatus : TaskStatus)

/-- Calls that the theorems count, and the lines a function writes to the log. -/
inductive Event where
  | applyTaskResult (id : ℕ) (task : Task) (answer : TaskInfo)
  | settleTaskBilling (id : ℕ)
  | finalizePreAuthorization (id : ℕ)
  | refundTaskQuota (id : ℕ)
  | taskBillingIntent (id : ℕ)
  | sysLog (text : String)
  deriving DecidableEq

abbrev schema : Lib.Schema where
  Key := Key
  Val := Val
  Event := Event
  Label := Label
  Mutex := Empty

abbrev Tx (α : Type) := Lib.Tx schema α

def noRows : Snap schema
  | .user _ | .token _ | .subscription _ | .preConsumeRecord _ | .billing _ | .task _ | .outbox _ => none
  | .subscriptionSeq | .billingSeq | .taskSeq => (1 : ℕ)
  | .channelUsed _ => (0 : ℤ)

/-- A row of `billing_transactions` by its id, and the first one that satisfies `p`, in the order of the ids. -/
def firstBilling (s : Snap schema) (p : BillingTransaction → Bool) : Option (ℕ × BillingTransaction) :=
  (List.range (s .billingSeq)).findSome? fun id =>
    (s (.billing id)).bind fun row => if p row then some (id, row) else none

def selectBilling (s : Snap schema) (p : BillingTransaction → Bool) : List (ℕ × BillingTransaction) :=
  (List.range (s .billingSeq)).filterMap fun id =>
    (s (.billing id)).bind fun row => if p row then some (id, row) else none

def selectTasks (s : Snap schema) (p : Task → Bool) : List (ℕ × Task) :=
  (List.range (s .taskSeq)).filterMap fun id =>
    (s (.task id)).bind fun task => if p task then some (id, task) else none

variable {s : Snap schema} {p : BillingTransaction → Bool}

lemma mem_selectBilling {x : ℕ × BillingTransaction} :
    x ∈ selectBilling s p ↔ x.1 < (s .billingSeq : ℕ) ∧ s (.billing x.1) = some x.2 ∧ p x.2 = true := Lib.mem_select

lemma firstBilling_eq_some {id : ℕ} {row : BillingTransaction} (h : firstBilling s p = some (id, row)) :
    s (.billing id) = some row ∧ p row = true :=
  (mem_selectBilling.1 (List.mem_filterMap.2 (List.exists_of_findSome?_eq_some h))).2

lemma mem_selectTasks {p : Task → Bool} {id : ℕ} {task : Task} (h : (id, task) ∈ selectTasks s p) :
    s (.task id) = some task ∧ p task = true := (Lib.mem_select.1 h).2

lemma mem_billingWrites {f : BillingTransaction → Option BillingTransaction} {x : Lib.Write schema}
    (h : x ∈ (selectBilling s fun row => (f row).isSome).map fun x => ⟨.billing x.1, f x.2⟩) :
    ∃ i row row', x = ⟨.billing i, some row'⟩ ∧ s (.billing i) = some row ∧ f row = some row' := by
  obtain ⟨⟨i, row⟩, hmem, rfl⟩ := List.mem_map.1 h
  obtain ⟨-, hrow, hsome⟩ := mem_selectBilling.1 hmem
  obtain ⟨row', hrow'⟩ := Option.isSome_iff_exists.1 hsome
  exact ⟨i, row, row', by rw [hrow'], hrow, hrow'⟩

end StarNexus.Model
