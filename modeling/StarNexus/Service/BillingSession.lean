import StarNexus.Model.Quota
import StarNexus.Service.DurableSession

/-!
# Billing sessions

`service/billing_session.go` and `service/funding_source.go`: the life of one request's charge, from the
pre-consumption through `Reserve` to `Settle` or `Refund`.  A method takes the session and answers the session it
leaves together with the errors it returned or logged; the mutex makes the methods of one session atomic with
respect to each other, and the part of `Refund` that runs in the background is executed at once.

Which funding source is tried first, and the fallback from one to the other, is decided by the caller's preference;
`openSession` is given the source that succeeds.  Amounts in messages are printed plainly.
-/

namespace StarNexus.Service

open Lib Lib.Tx Model

def preConsumeTokenQuota (info : RelayInfo) (quota : ℤ) : Model.Tx Unit :=
  if quota < 0 then fail errNegativeQuota
  else if info.isPlayground then pure ()
  else do
    let token ← select (S := schema) Label.plain fun s => s (.token info.tokenId)
    match token with
    | none => fail .recordNotFound
    | some token =>
      if info.tokenUnlimited = false ∧ token.remainQuota < quota then
        fail (.msg s!"token quota is not enough, token remain quota: {token.remainQuota}, need quota: {quota}")
      else decreaseTokenQuota .session info.tokenId quota

def refundWithRetry (fn : Model.Tx Unit) : ℕ → Model.Tx Unit
  | 0 => fn
  | retries + 1 => do
    let r ← attempt fn
    match r with
    | .ok _ => pure ()
    | .error _ => refundWithRetry fn retries

namespace Funding

/-- `PreConsume`: a subscription ignores the argument and takes the amount it was made with. -/
def preConsume (reset : ResetRule) (amount : ℤ) : Funding → Model.Tx Funding
  | .wallet userId consumed =>
    if amount ≤ 0 then pure (.wallet userId consumed)
    else do
      decreaseUserQuota .session userId amount
      pure (.wallet userId amount)
  | .subscription requestId userId own _ _ => do
    let result ← preConsumeUserSubscription reset (fun _ => .session) requestId userId own
    pure (.subscription requestId userId own result.userSubscriptionId result.preConsumed)

def settle (delta : ℤ) : Funding → Model.Tx Unit
  | .wallet userId _ =>
    if delta = 0 then pure ()
    else if 0 < delta then decreaseUserQuota .session userId delta
    else increaseUserQuota .session userId (-delta)
  | .subscription _ _ _ subscriptionId _ =>
    if delta = 0 then pure () else postConsumeUserSubscriptionDelta (fun _ => .session) subscriptionId delta

def refund : Funding → Model.Tx Unit
  | .wallet userId consumed => if consumed ≤ 0 then pure () else increaseUserQuota .session userId consumed
  | .subscription requestId _ _ _ preConsumed =>
    if preConsumed ≤ 0 then pure ()
    else refundWithRetry (refundSubscriptionPreConsume (fun _ => .session) requestId) 2

def reserve (delta : ℤ) : Funding → Model.Tx Funding
  | .wallet userId consumed => do
    decreaseUserQuota .session userId delta
    pure (.wallet userId (consumed + delta))
  | .subscription requestId userId own subscriptionId preConsumed => do
    postConsumeUserSubscriptionDelta (fun _ => .session) subscriptionId delta
    pure (.subscription requestId userId own subscriptionId preConsumed)

def rollbackReserve (delta : ℤ) : Funding → Model.Tx Funding
  | .wallet userId consumed => do
    increaseUserQuota .session userId delta
    pure (.wallet userId (consumed - delta))
  | .subscription requestId userId own subscriptionId preConsumed => do
    postConsumeUserSubscriptionDelta (fun _ => .session) subscriptionId (-delta)
    pure (.subscription requestId userId own subscriptionId preConsumed)

end Funding

/-- What `shouldTrust` reads besides the session. -/
structure Trust where
  trustQuota : ℤ
  tokenQuota : ℤ
  userQuota : ℤ

def errorsOf {α : Type} : Except Err α → List Err
  | .ok _ => []
  | .error e => [e]

namespace BillingSession

def shouldTrust (s : BillingSession) (trust : Trust) : Bool :=
  !s.relayInfo.forcePreConsume && 0 < trust.trustQuota &&
    (s.relayInfo.tokenUnlimited || trust.trustQuota < trust.tokenQuota) &&
    match s.funding with
    | .wallet _ _ => trust.trustQuota < trust.userQuota
    | .subscription _ _ _ _ _ => false

def preConsumeToken (s : BillingSession) (effectiveQuota : ℤ) : Model.Tx BillingSession :=
  if 0 < effectiveQuota then do
    preConsumeTokenQuota s.relayInfo effectiveQuota
    pure { s with tokenConsumed := effectiveQuota }
  else pure s

def preConsume (reset : ResetRule) (trust : Trust) (quota : ℤ) (s : BillingSession) : Model.Tx BillingSession := do
  let trusted := s.shouldTrust trust
  let effectiveQuota := if trusted then 0 else quota
  let s ← preConsumeToken { s with trusted := trusted } effectiveQuota
  let funding ← attempt (s.funding.preConsume reset effectiveQuota)
  match funding with
  | .error e =>
    if 0 < s.tokenConsumed ∧ s.relayInfo.isPlayground = false then do
      let _ ← attempt (increaseTokenQuota .session s.relayInfo.tokenId s.tokenConsumed)
      fail e
    else fail e
  | .ok funding => pure (syncRelayInfo { s with funding := funding, preConsumedQuota := effectiveQuota })

def settleFunding (s : BillingSession) (delta : ℤ) : Model.Tx Unit :=
  if s.fundingSettled then pure () else s.funding.settle delta

def settleToken (s : BillingSession) (delta : ℤ) : Model.Tx Unit :=
  if s.relayInfo.isPlayground then pure ()
  else if 0 < delta then decreaseTokenQuota .session s.relayInfo.tokenId delta
  else increaseTokenQuota .session s.relayInfo.tokenId (-delta)

def settle (s : BillingSession) (actualQuota : ℤ) : Model.Tx (BillingSession × List Err) :=
  let delta := actualQuota - s.preConsumedQuota
  if s.settled then pure (s, [])
  else if 0 < s.durableTxID then do
    let r ← attempt (settleDurableRequestBilling s actualQuota)
    match r with
    | .error e => pure (s, [e])
    | .ok _ => pure ({ s with settled := true }, [])
  else if delta = 0 then pure ({ s with settled := true }, [])
  else do
    let funded ← attempt (s.settleFunding delta)
    match funded with
    | .error e => pure (s, [e])
    | .ok _ => do
      let tokenErr ← attempt (s.settleToken delta)
      pure ({ s with fundingSettled := true, settled := true }, errorsOf tokenErr)

def needsRefund (s : BillingSession) : Bool :=
  if s.refunded || s.fundingSettled then false
  else if s.settled && s.durableTxID = 0 then false
  else if 0 < s.tokenConsumed then true
  else match s.funding with
    | .wallet _ _ => false
    | .subscription _ _ _ _ preConsumed => 0 < preConsumed

def refundExtra (s : BillingSession) : Model.Tx Unit :=
  match s.funding with
  | .wallet _ _ => pure ()
  | .subscription _ _ _ _ _ =>
    if 0 < s.extraReserved ∧ 0 < s.subscriptionId then
      postConsumeUserSubscriptionDelta (fun _ => .session) s.subscriptionId (-s.extraReserved)
    else pure ()

def refundToken (s : BillingSession) : Model.Tx Unit :=
  if 0 < s.tokenConsumed ∧ s.relayInfo.isPlayground = false then
    increaseTokenQuota .session s.relayInfo.tokenId s.tokenConsumed
  else pure ()

def refund (owner : String) (s : BillingSession) : Model.Tx (BillingSession × List Err) :=
  if s.refunded || !s.needsRefund then pure (s, [])
  else if 0 < s.durableTxID then do
    let r ← attempt (refundDurableRequestBilling owner s)
    match r with
    | .error e => pure ({ s with refunded := false }, [e])
    | .ok _ => pure ({ s with refunded := true }, [])
  else do
    let fundingErr ← attempt s.funding.refund
    let extraErr ← attempt s.refundExtra
    let tokenErr ← attempt s.refundToken
    pure ({ s with refunded := true }, errorsOf fundingErr ++ errorsOf extraErr ++ errorsOf tokenErr)

def reserveToken (s : BillingSession) (delta : ℤ) : Model.Tx Unit :=
  if delta ≤ 0 ∨ s.relayInfo.isPlayground then pure () else preConsumeTokenQuota s.relayInfo delta

/-- The session after `delta` more has been reserved from `funding` and from the token. -/
def reserved (s : BillingSession) (funding : Funding) (delta : ℤ) : BillingSession :=
  syncRelayInfo
    { s with funding := funding, preConsumedQuota := s.preConsumedQuota + delta,
             tokenConsumed := s.tokenConsumed + delta, extraReserved := s.extraReserved + delta }

def reserve (s : BillingSession) (targetQuota : ℤ) : Model.Tx (BillingSession × List Err) :=
  let delta := targetQuota - s.preConsumedQuota
  if s.settled ∨ s.refunded ∨ s.trusted ∨ targetQuota ≤ s.preConsumedQuota then pure (s, [])
  else if 0 < s.durableTxID then do
    let r ← attempt (adjustDurableReservation s targetQuota)
    match r with
    | .error e => pure (s, [e])
    | .ok _ => pure (s.reserved s.funding delta, [])
  else do
    let funded ← attempt (s.funding.reserve delta)
    match funded with
    | .error e => pure (s, [e])
    | .ok funding => do
      let token ← attempt (s.reserveToken delta)
      match token with
      | .ok _ => pure (s.reserved funding delta, [])
      | .error e => do
        let back ← attempt (funding.rollbackReserve delta)
        match back with
        | .ok funding => pure ({ s with funding := funding }, [e])
        | .error e' => pure ({ s with funding := funding }, [e, e'])

end BillingSession

/-! ### Opening a session -/

def tryWallet (reset : ResetRule) (trustQuota tokenQuota : ℤ) (info : RelayInfo) (quota : ℤ) :
    Model.Tx BillingSession := do
  let userQuota ← getUserQuota info.userId
  if userQuota ≤ 0 then fail (.msg s!"用户额度不足, 剩余额度: {userQuota}")
  else if userQuota - quota < 0 then
    fail (.msg s!"预扣费额度失败, 用户剩余额度: {userQuota}, 需要预扣费额度: {quota}")
  else
    BillingSession.preConsume reset ⟨trustQuota, tokenQuota, userQuota⟩ quota
      { relayInfo := info, funding := .wallet info.userId 0 }

/-- `trySubscription` of `NewBillingSession`: at least 1 is pre-consumed. -/
def trySubscription (reset : ResetRule) (trustQuota tokenQuota : ℤ) (info : RelayInfo) (quota : ℤ) :
    Model.Tx BillingSession :=
  let subConsume := if quota ≤ 0 then 1 else quota
  BillingSession.preConsume reset ⟨trustQuota, tokenQuota, 0⟩ subConsume
    { relayInfo := info, funding := .subscription info.requestId info.userId subConsume 0 0 }

structure Opening where
  reset : ResetRule
  trustQuota : ℤ
  tokenQuota : ℤ
  businessKey : String
  subscriptionRequestID : String

/-- `PreConsumeBilling`, for the funding source that `NewBillingSession` ends up with. -/
def openSession (opening : Opening) (info : RelayInfo) (source : FundingSource) (quota : ℤ) : Model.Tx BillingSession :=
  if quota < 0 then fail (.msg s!"pre-consume quota cannot be negative: {quota}")
  else if info.forcePreConsume ∧ 0 < quota then
    match source with
    | .wallet => tryDurableWallet info opening.businessKey quota
    | .subscription =>
      tryDurableSubscription opening.reset info opening.businessKey opening.subscriptionRequestID quota
  else
    match source with
    | .wallet => tryWallet opening.reset opening.trustQuota opening.tokenQuota info quota
    | .subscription => trySubscription opening.reset opening.trustQuota opening.tokenQuota info quota

end StarNexus.Service
