import StarNexus.Service.DurableBilling

/-!
# The request's side of durable billing

The first half of `service/durable_billing.go`, with the session object of `service/billing_session.go` and the
funding sources of `service/funding_source.go` that both halves share.
-/

namespace StarNexus.Service

open Lib Lib.Tx Model

structure RelayInfo where
  requestId : String
  userId : ℕ
  tokenId : ℕ
  tokenUnlimited : Bool := false
  isPlayground : Bool := false
  forcePreConsume : Bool := false
  deriving DecidableEq

inductive Funding where
  | wallet (userId : ℕ) (consumed : ℤ)
  | subscription (requestId : String) (userId : ℕ) (amount : ℤ) (subscriptionId : ℕ) (preConsumed : ℤ)
  deriving DecidableEq

/-- `BillingSession`; `subscriptionId` is the id that `syncRelayInfo` copies to the relay info. -/
structure BillingSession where
  relayInfo : RelayInfo
  funding : Funding
  preConsumedQuota : ℤ := 0
  tokenConsumed : ℤ := 0
  extraReserved : ℤ := 0
  trusted : Bool := false
  fundingSettled : Bool := false
  settled : Bool := false
  refunded : Bool := false
  durableTxID : ℕ := 0
  subscriptionId : ℕ := 0
  deriving DecidableEq

def BillingSession.syncRelayInfo (s : BillingSession) : BillingSession :=
  match s.funding with
  | .wallet _ _ => { s with subscriptionId := 0 }
  | .subscription _ _ _ id _ => { s with subscriptionId := id }

inductive BillingPreference where
  | subscriptionFirst
  | walletFirst
  | subscriptionOnly
  | walletOnly
  deriving DecidableEq

def durableSessionFromRow (info : RelayInfo) (id : ℕ) (quota : ℤ) (funding : Funding) : BillingSession :=
  BillingSession.syncRelayInfo
    { relayInfo := info, funding := funding, preConsumedQuota := quota, tokenConsumed := quota, durableTxID := id }

def reserveCause : Why := fun s => .durable .reserve (s .billingSeq)

def reservedRow (info : RelayInfo) (businessKey : String) (quota : ℤ) (source : FundingSource) (subscriptionID : ℕ) :
    BillingTransaction :=
  { businessKey := businessKey, userID := info.userId, tokenID := info.tokenId, skipTokenQuota := info.isPlayground,
    fundingSource := source, subscriptionID := subscriptionID, reservedQuota := quota, finalQuota := quota,
    state := .reserved, updatedAt := 0 }

def tryDurableWallet (info : RelayInfo) (businessKey : String) (quota : ℤ) : Model.Tx BillingSession := do
  let id ← transaction do
    reserveWalletAndTokenTx reserveCause info.userId info.tokenId quota info.isPlayground
    createReservedBillingTransactionTx (reservedRow info businessKey quota .wallet 0)
  pure (durableSessionFromRow info id quota (.wallet info.userId quota))

def tryDurableSubscription (reset : ResetRule) (info : RelayInfo) (businessKey subscriptionRequestID : String)
    (quota : ℤ) : Model.Tx BillingSession := do
  let (id, result) ← transaction do
    let result ← reserveSubscriptionAndTokenTx reset reserveCause subscriptionRequestID info.userId info.tokenId
      quota info.isPlayground
    let id ← createReservedBillingTransactionTx
      (reservedRow info businessKey quota .subscription result.userSubscriptionId)
    pure (id, result)
  pure (durableSessionFromRow info id quota
    (.subscription subscriptionRequestID info.userId quota result.userSubscriptionId result.preConsumed))

/-- `a`, and `b` if `a` returned an error. -/
def orElse {α : Type} (a b : Model.Tx α) : Model.Tx α := do
  let r ← attempt a
  match r with
  | .ok x => pure x
  | .error _ => b

/-- `newDurableBillingSession`; the two keys are those that the request id determines. -/
def newDurableBillingSession (reset : ResetRule) (info : RelayInfo) (businessKey subscriptionRequestID : String)
    (quota : ℤ) (preference : BillingPreference) : Model.Tx BillingSession :=
  let tryWallet := tryDurableWallet info businessKey quota
  let trySubscription := tryDurableSubscription reset info businessKey subscriptionRequestID quota
  match preference with
  | .walletOnly => tryWallet
  | .subscriptionOnly => trySubscription
  | .walletFirst => orElse tryWallet trySubscription
  | .subscriptionFirst => do
    let hasSub ← hasActiveUserSubscription info.userId
    if hasSub then orElse trySubscription tryWallet else orElse tryWallet trySubscription

def settleRow (actualQuota now : ℤ) (row : BillingTransaction) : Option BillingTransaction :=
  if row.state = .reserved then some { row with state := .settled, finalQuota := actualQuota, updatedAt := now }
  else none

/-- The transaction of `settleDurableRequestBilling`, for a row read before as `row`. -/
def settleReservedTx (id : ℕ) (row : BillingTransaction) (delta actualQuota : ℤ) : Model.Tx Unit := do
  let why : Why := fun _ => .durable .settle id
  adjustDurableFundingTx why row delta
  adjustDurableTokenTx why row delta
  let now ← now
  let _ ← Lib.Tx.exec (S := schema) (Label.settleState id delta)
    (rowWrite (S := schema) (.billing id) (onRow (settleRow actualQuota now)))
  pure ()

def settleDurableRequestBilling (s : BillingSession) (actualQuota : ℤ) : Model.Tx Unit :=
  transaction do
    let row ← select (S := schema) Label.plain fun d => d (.billing s.durableTxID)
    match row with
    | none => fail .recordNotFound
    | some row =>
      if row.state ≠ .reserved then
        if row.state = .settled then pure ()
        else fail (.msg s!"billing transaction state is {row.state.text}")
      else settleReservedTx s.durableTxID row (actualQuota - s.preConsumedQuota) actualQuota

/-- What `refundDurableRequestBilling` writes to a row that is still reserved and not bound to a task. -/
def refundRow (now : ℤ) (row : BillingTransaction) : Option BillingTransaction :=
  if row.taskDBID = 0 ∧ row.state = .reserved then
    some { row with state := .refundPending, targetTaskStatus := .failure, finalQuota := 0,
                    reason := "request failed before task binding", nextRetryAt := now, updatedAt := now }
  else none

/-- The first part of `refundDurableRequestBilling`: leave the intent to refund in the row. -/
def markDurableRefund (s : BillingSession) : Model.Tx Unit := do
  let now ← now
  let affected ← autoRow (.billing s.durableTxID) (onRow (refundRow now))
  if affected = 0 then do
    let row ← select (S := schema) Label.plain fun d => d (.billing s.durableTxID)
    match row with
    | none => fail .recordNotFound
    | some row =>
      if row.state ≠ .refundPending ∧ row.state ≠ .applying ∧ row.state ≠ .refunded then
        fail (.msg s!"billing transaction state is {row.state.text}")
      else pure ()
  else pure ()

def refundDurableRequestBilling (owner : String) (s : BillingSession) : Model.Tx Unit := do
  markDurableRefund s
  let _ ← attempt (processDurableBillingOnce owner 100)
  pure ()

/-- `adjustDurableReservation` (and `reserveDurableRequestBilling`, which only calls it). -/
def adjustDurableReservation (s : BillingSession) (targetQuota : ℤ) : Model.Tx Unit :=
  let delta := targetQuota - s.preConsumedQuota
  transaction do
    let row ← select (S := schema) Label.plain fun d => d (.billing s.durableTxID)
    match row with
    | none => fail .recordNotFound
    | some row =>
      if row.state ≠ .reserved then fail .recordNotFound
      else do
        let why : Why := fun _ => .durable .adjust s.durableTxID
        adjustDurableFundingTx why row delta
        adjustDurableTokenTx why row delta
        let now ← now
        let _ ← updateRow (.billing s.durableTxID) (onRow fun r =>
          some { r with reservedQuota := targetQuota, finalQuota := targetQuota, updatedAt := now })
        pure ()

/-- The session after a reservation has been adjusted, as `holdForAsyncTask` leaves it. -/
def BillingSession.hold (s : BillingSession) (targetQuota : ℤ) : BillingSession :=
  BillingSession.syncRelayInfo
    { s with preConsumedQuota := targetQuota, tokenConsumed := targetQuota,
             extraReserved := s.extraReserved + (targetQuota - s.preConsumedQuota) }

def bindRow (task : ℕ) (now : ℤ) (row : BillingTransaction) : Option BillingTransaction :=
  if row.taskDBID = 0 ∧ (row.state = .reserved ∨ row.state = .settled) then
    some { row with taskDBID := task, updatedAt := now }
  else none

/-- `InsertTaskWithBilling` for a durable session: the task and its binding to the reservation. -/
def insertTaskWithBilling (s : BillingSession) (task : Task) : Model.Tx Unit :=
  transaction do
    let now ← now
    let _ ← Lib.Tx.exec (S := schema) Label.plain fun d =>
      [⟨.task (d .taskSeq), some { task with updatedAt := now }⟩, ⟨.taskSeq, (d .taskSeq + 1 : ℕ)⟩]
    let id ← select (S := schema) Label.plain fun d => d .taskSeq - 1
    let bound ← updateRow (.billing s.durableTxID) (onRow (bindRow id now))
    if bound ≠ 1 then fail (.msg "durable billing reservation could not be bound to task") else pure ()

end StarNexus.Service
