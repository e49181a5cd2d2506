import StarNexus.Model.Subscription

/-!
# Balances and billing transactions

`model/durable_billing.go`: the guarded balance updates and the statements on `billing_transactions`.  The
argument `why` of the balance updates goes to the ledger column only.
-/

namespace StarNexus.Model

open Lib Lib.Tx

def User.add (u : User) (why : Cause) (delta : ℤ) : User :=
  { u with quota := u.quota + delta, ledger := u.ledger ++ [⟨why, delta⟩] }

def Token.add (t : Token) (why : Cause) (delta now : ℤ) : Token :=
  { t with remainQuota := t.remainQuota + delta, usedQuota := t.usedQuota - delta, accessedTime := now,
           ledger := t.ledger ++ [⟨why, delta⟩] }

def errUserQuotaInsufficient : Err := .msg "user quota is insufficient"

def User.adjust (why : Cause) (delta : ℤ) (u : User) : Option User :=
  if delta < 0 ∧ u.quota < -delta then none else some (u.add why delta)

def Token.adjust (why : Cause) (delta now : ℤ) (t : Token) : Option Token :=
  if delta < 0 ∧ t.unlimitedQuota = false ∧ t.remainQuota < -delta then none else some (t.add why delta now)

def adjustUserQuotaTx (why : Why) (userID : ℕ) (delta : ℤ) : Tx Unit :=
  if userID = 0 ∨ delta = 0 then pure ()
  else do
    let affected ← balanceRow (.user userID) why fun c => onRow (User.adjust c delta)
    if affected ≠ 1 then fail errUserQuotaInsufficient else pure ()

def adjustTokenQuotaTx (why : Why) (tokenID : ℕ) (delta : ℤ) : Tx Unit :=
  if tokenID = 0 ∨ delta = 0 then pure ()
  else do
    let now ← now
    let affected ← balanceRow (.token tokenID) why fun c => onRow (Token.adjust c delta now)
    if affected ≠ 1 then fail (.msg "token quota is insufficient or token does not exist") else pure ()

def adjustTokenUnless (playground : Bool) (why : Why) (tokenID : ℕ) (delta : ℤ) : Tx Unit :=
  if playground then pure () else adjustTokenQuotaTx why tokenID delta

def reserveWalletAndTokenTx (why : Why) (userID tokenID : ℕ) (quota : ℤ) (playground : Bool) : Tx Unit :=
  if quota ≤ 0 then pure ()
  else do
    adjustUserQuotaTx why userID (-quota)
    adjustTokenUnless playground why tokenID (-quota)

def reserveSubscriptionAndTokenTx (reset : ResetRule) (why : Why) (requestID : String) (userID tokenID : ℕ)
    (quota : ℤ) (playground : Bool) : Tx PreConsumeResult := do
  let result ← preConsumeUserSubscriptionTx reset why requestID userID quota
  adjustTokenUnless playground why tokenID (-quota)
  pure result

/-- `CreateReservedBillingTransactionTx`: the business key is unique; answers the new id. -/
def createReservedBillingTransactionTx (row : BillingTransaction) : Tx ℕ :=
  if row.businessKey = "" then fail (.msg "invalid billing transaction")
  else do
    let now ← now
    let created ← Lib.Tx.exec (S := schema) Label.plain fun s =>
      match firstBilling s (fun r => r.businessKey = row.businessKey) with
      | some _ => []
      | none => [⟨.billing (s .billingSeq), some { row with updatedAt := now, version := 1 }⟩,
                 ⟨.billingSeq, (s .billingSeq + 1 : ℕ)⟩]
    if created = 0 then fail (.msg "duplicate business key")
    else select (S := schema) Label.plain fun s => s .billingSeq - 1

def adjustUserUsageTx (userID : ℕ) (quotaDelta requestDelta : ℤ) : Tx Unit :=
  if userID = 0 ∨ (quotaDelta = 0 ∧ requestDelta = 0) then pure ()
  else do
    let _ ← updateRow (.user userID) (onRow fun u =>
      some { u with usedQuota := u.usedQuota + quotaDelta, requestCount := u.requestCount + requestDelta })
    pure ()

def adjustChannelUsageTx (channelID : ℕ) (quotaDelta : ℤ) : Tx Unit :=
  if channelID = 0 ∨ quotaDelta = 0 then pure ()
  else do
    let _ ← updateRow (.channelUsed channelID) fun used => some (used + quotaDelta : ℤ)
    pure ()

namespace BillingTransaction

def isDue (row : BillingTransaction) (now : ℤ) : Bool :=
  ((row.state = .settlePending ∨ row.state = .refundPending) ∧ row.nextRetryAt ≤ now) ∨
    (row.state = .applying ∧ row.leaseUntil < now)

def markStale (before now : ℤ) (row : BillingTransaction) : Option BillingTransaction :=
  if row.taskDBID = 0 ∧ row.state = .reserved ∧ row.updatedAt < before then
    some { row with state := .refundPending, targetTaskStatus := .failure, finalQuota := 0,
                    reason := "stale unbound reservation recovery", nextRetryAt := now, updatedAt := now }
  else none

def claim (version : ℕ) (owner : String) (lease now : ℤ) (row : BillingTransaction) : Option BillingTransaction :=
  if row.version = version ∧ row.isDue now then
    some { row with state := .applying, leaseOwner := owner, leaseUntil := now + lease,
                    version := row.version + 1, updatedAt := now }
  else none

def release (pendingState : BillingState) (errorMessage : String) (attempts : ℕ) (now : ℤ)
    (row : BillingTransaction) : Option BillingTransaction :=
  if row.state = .applying then
    some { row with state := if 20 ≤ attempts then .actionNeeded else pendingState, leaseOwner := "",
                    leaseUntil := 0, attempts := attempts, nextRetryAt := now + 2 ^ min attempts 8,
                    lastError := errorMessage, updatedAt := now }
  else none

end BillingTransaction

def autoRow (k : Key) (f : Val k → Option (Val k)) : Tx ℕ :=
  execAuto (S := schema) Label.plain (rowWrite (S := schema) k f)

def getDueBillingTransactions (limit : ℕ) : Tx (List (ℕ × BillingTransaction)) := do
  let now ← now
  select (S := schema) Label.plain fun s =>
    (selectBilling s fun row => row.isDue now).take (if limit = 0 then 100 else limit)

def markStaleUnboundBillingRefundPending (before : ℤ) : Tx Unit :=
  if before ≤ 0 then pure ()
  else do
    let now ← now
    let _ ← execAuto (S := schema) Label.plain fun s =>
      (selectBilling s fun row => (row.markStale before now).isSome).map fun r =>
        ⟨.billing r.1, r.2.markStale before now⟩
    pure ()

def claimBillingTransaction (id version : ℕ) (owner : String) (lease : ℤ) : Tx Bool := do
  let now ← now
  let affected ← autoRow (.billing id) (onRow (BillingTransaction.claim version owner lease now))
  pure (affected = 1)

def releaseBillingTransaction (id : ℕ) (pendingState : BillingState) (errorMessage : String) (attempts : ℕ) :
    Tx Unit :=
  if pendingState ≠ .settlePending ∧ pendingState ≠ .refundPending then fail (.msg "invalid pending billing state")
  else do
    let now ← now
    let _ ← autoRow (.billing id) (onRow (BillingTransaction.release pendingState errorMessage attempts now))
    pure ()

end StarNexus.Model
