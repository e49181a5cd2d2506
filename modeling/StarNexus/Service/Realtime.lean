import StarNexus.Pricing.TextQuota
import StarNexus.Service.BillingSession
import StarNexus.Lib.Calm

/-!
# Realtime sessions

A realtime session is a pair of websocket readers that count usage while they pass messages on.  `OpenaiRealtimeHandler`
charges the usage of a response as soon as the response is done (`preConsumeUsage`, `PreWssConsumeQuota`), adds it to a sum,
and at the end of the session `PostWssConsumeQuota` settles the quota of the sum.

The model is of sessions that are billed per token.  No statement fails and a message is handled in one step; whether
balances suffice is seen in the rows.
-/

namespace StarNexus.Service

open Lib Lib.Tx Model

@[ext]
structure RealtimeUsage where
  totalTokens : ℤ := 0
  inputTokens : ℤ := 0
  outputTokens : ℤ := 0
  inputText : ℤ := 0
  inputAudio : ℤ := 0
  inputCached : ℤ := 0
  outputText : ℤ := 0
  outputAudio : ℤ := 0
  deriving DecidableEq

namespace RealtimeUsage

def add (u v : RealtimeUsage) : RealtimeUsage where
  totalTokens := u.totalTokens + v.totalTokens
  inputTokens := u.inputTokens + v.inputTokens
  outputTokens := u.outputTokens + v.outputTokens
  inputText := u.inputText + v.inputText
  inputAudio := u.inputAudio + v.inputAudio
  inputCached := u.inputCached + v.inputCached
  outputText := u.outputText + v.outputText
  outputAudio := u.outputAudio + v.outputAudio

instance instAddRealtimeUsage : Add RealtimeUsage := ⟨add⟩

lemma totalTokens_add (u v : RealtimeUsage) : (u + v).totalTokens = u.totalTokens + v.totalTokens := rfl

lemma empty_add (u : RealtimeUsage) : ({} : RealtimeUsage) + u = u := by
  ext <;> exact Int.zero_add _

variable (u v w : RealtimeUsage)

lemma add_assoc : u + v + w = u + (v + w) := by
  ext <;> exact Int.add_assoc _ _ _

lemma add_right_comm : u + v + w = u + w + v := by
  ext <;> exact Int.add_right_comm _ _ _

def input (text audio : ℤ) : RealtimeUsage where
  totalTokens := text + audio
  inputTokens := text + audio
  inputText := text
  inputAudio := audio

def output (text audio : ℤ) : RealtimeUsage where
  totalTokens := text + audio
  outputTokens := text + audio
  outputText := text
  outputAudio := audio

end RealtimeUsage

/-! ### Quotas -/

/-- The ratios in force, and the token pricing of the request's context. -/
structure AudioRates where
  groupRatio : ℚ := 1
  modelRatio : ℚ := 1
  completionRatio : ℚ := 1
  audioRatio : ℚ := 1
  audioCompletionRatio : ℚ := 1
  tokenPricing : Pricing.EffectiveTokenPricing := {}

namespace AudioRates

variable (r : AudioRates)

def ratio : ℚ := r.groupRatio * r.modelRatio

def exact (u : RealtimeUsage) : ℚ :=
  let inText := Pricing.applyInputTokenPricing r.tokenPricing u.inputText
  let outText := Pricing.applyOutputTokenPricing r.tokenPricing u.outputText
  let inAudio := Pricing.applyInputTokenPricing r.tokenPricing u.inputAudio
  let outAudio := Pricing.applyOutputTokenPricing r.tokenPricing u.outputAudio
  (inText + outText * r.completionRatio + inAudio * r.audioRatio + outAudio * r.audioRatio * r.audioCompletionRatio) *
    r.ratio

def calculateAudioQuota (u : RealtimeUsage) : ℤ :=
  Pricing.quotaFromDecimal (if r.ratio ≠ 0 ∧ r.exact u ≤ 0 then 1 else r.exact u)

end AudioRates

/-- `applyMinimumTokenConsumeQuota`: a thousandth of a unit at least. -/
def applyMinimumTokenConsumeQuota (quotaPerUnit : ℚ) (quota tokenCount : ℤ) (billable : Bool) : ℤ :=
  if tokenCount ≤ 0 ∨ billable = false ∨ quotaPerUnit ≤ 0 then quota
  else
    let minimumQuota := Pricing.quotaFromDecimal (1 / 1000 * quotaPerUnit)
    if quota < minimumQuota then minimumQuota else quota

structure FinalRates extends AudioRates where
  modelPrice : ℚ := 0
  quotaPerUnit : ℚ := 500000
  /-- The result of `TryTieredSettle` for the input and output tokens, if the model has a pricing expression. -/
  tieredSettle : ℤ → ℤ → Option ℤ := fun _ _ => none

def FinalRates.quota (r : FinalRates) (u : RealtimeUsage) : ℤ :=
  let tieredQuota := r.tieredSettle u.inputTokens u.outputTokens
  let billable := decide (0 < r.groupRatio ∧ (0 < r.modelRatio ∨ 0 < r.modelPrice ∨ tieredQuota.isSome))
  if u.totalTokens = 0 then 0
  else
    applyMinimumTokenConsumeQuota r.quotaPerUnit (tieredQuota.getD (r.calculateAudioQuota u)) u.totalTokens billable

/-! ### Charges -/

namespace BillingSession

def postConsumeFunding (s : BillingSession) (quota : ℤ) : Model.Tx Unit :=
  match s.funding with
  | .wallet userId _ =>
    if 0 < quota then decreaseUserQuota .session userId quota else increaseUserQuota .session userId (-quota)
  | .subscription _ _ _ _ _ =>
    if s.subscriptionId = 0 then fail (.msg "subscription id is missing")
    else if quota = 0 then pure ()
    else postConsumeUserSubscriptionDelta (fun _ => .session) s.subscriptionId quota

/-- `PostConsumeQuota` for the request of a session; the token's part is that of `Settle`. -/
def postConsumeQuota (s : BillingSession) (quota : ℤ) : Model.Tx Unit := do
  s.postConsumeFunding quota
  s.settleToken quota

/-- The charge of `PreWssConsumeQuota` once the user's quota and the token have been read. -/
def preWssCharge (s : BillingSession) (quota userQuota : ℤ) : Option Token → Model.Tx Unit
  | none => fail .recordNotFound
  | some token =>
    if userQuota < quota then
      fail (.msg s!"user quota is not enough, user quota: {userQuota}, need quota: {quota}")
    else if token.unlimitedQuota = false ∧ token.remainQuota < quota then
      fail (.msg s!"token quota is not enough, token remain quota: {token.remainQuota}, need quota: {quota}")
    else s.postConsumeQuota quota

def preWssConsumeQuota (s : BillingSession) (quota : ℤ) : Model.Tx Unit := do
  let userQuota ← getUserQuota s.relayInfo.userId
  let token ← select (S := schema) Label.plain fun rows => rows (.token s.relayInfo.tokenId)
  s.preWssCharge quota userQuota token

/-- `PostWssConsumeQuota`: the statistics are updated before the session is settled, and only if tokens were used. -/
def postWssConsumeQuota (s : BillingSession) (channelId : ℕ) (rates : FinalRates) (usage : RealtimeUsage) :
    Model.Tx (BillingSession × List Err) :=
  if usage.totalTokens = 0 then s.settle (rates.quota usage)
  else do
    let _ ← attempt (updateUserUsedQuota s.relayInfo.userId (rates.quota usage) 1)
    let _ ← attempt (updateChannelUsedQuota channelId (rates.quota usage))
    s.settle (rates.quota usage)

end BillingSession

/-! ### The handler -/

/-- The handler's variables and the rows; `reported`, `counted` and `charged` are not in the code. -/
structure Realtime where
  rows : Snap schema
  usage : RealtimeUsage := {}
  localUsage : RealtimeUsage := {}
  sumUsage : RealtimeUsage := {}
  clientReads : Bool := true
  targetReads : Bool := true
  reported : RealtimeUsage := {}
  counted : RealtimeUsage := {}
  charged : ℤ := 0

/-- A message; `counted` are its tokens unless counting fails, `written` says whether it is passed on. -/
inductive RealtimeEvent where
  | client (counted : Option (ℤ × ℤ)) (written : Bool)
  /-- The client closes, or its next message cannot be read. -/
  | clientEnds
  | responseDone (now : ℤ) (rates : AudioRates) (usage : Option RealtimeUsage) (counted : Option (ℤ × ℤ)) (written : Bool)
  /-- `session.created` or `session.updated`. -/
  | sessionInfo (written : Bool)
  | upstream (counted : Option (ℤ × ℤ)) (written : Bool)
  /-- The upstream closes, or its next message cannot be read. -/
  | upstreamEnds

/-- How the session ends: the ratios when the rest is charged, and those of the settlement. -/
structure Ending where
  now : ℤ
  rates : AudioRates
  localNow : ℤ
  localRates : AudioRates
  final : FinalRates
  settleNow : ℤ
  channelId : ℕ

namespace Realtime

variable (ses : BillingSession)

/-- `preConsumeUsage`: whether the usage could be charged, and what is left behind. -/
def preConsumeUsage (now : ℤ) (rates : AudioRates) (usage : RealtimeUsage) (σ : Realtime) : Bool × Realtime :=
  let quota := rates.calculateAudioQuota usage
  let out := Prog.calm now (ses.preWssConsumeQuota quota) σ.rows σ.rows
  let σ := { σ with sumUsage := σ.sumUsage + usage, rows := out.2.1 }
  match out.1 with
  | .ok _ => (true, { σ with charged := σ.charged + quota })
  | .error _ => (false, σ)

def reportedDone (now : ℤ) (rates : AudioRates) (reported : RealtimeUsage) (written : Bool) (σ : Realtime) : Realtime :=
  let σ := { σ with usage := σ.usage + reported, reported := σ.reported + reported }
  let (charged, σ) := preConsumeUsage ses now rates σ.usage σ
  if charged then { σ with usage := {}, localUsage := {}, targetReads := written } else { σ with targetReads := false }

def countedDone (now : ℤ) (rates : AudioRates) (text audio : ℤ) (written : Bool) (σ : Realtime) : Realtime :=
  let σ := { σ with localUsage := σ.localUsage + RealtimeUsage.input text audio }
  let (charged, σ) := preConsumeUsage ses now rates σ.localUsage { σ with counted := σ.counted + σ.localUsage }
  if charged then { σ with localUsage := {}, targetReads := written } else { σ with targetReads := false }

def step (σ : Realtime) : RealtimeEvent → Option Realtime
  | .client counted written =>
    if !σ.clientReads then none
    else
      match counted with
      | none => some { σ with clientReads := false }
      | some (text, audio) => some { σ with localUsage := σ.localUsage + RealtimeUsage.input text audio, clientReads := written }
  | .clientEnds => if !σ.clientReads then none else some { σ with clientReads := false }
  | .responseDone now rates usage counted written =>
    if !σ.targetReads then none
    else
      match usage with
      | some reported => some (reportedDone ses now rates reported written σ)
      | none =>
        match counted with
        | none => some { σ with targetReads := false }
        | some (text, audio) => some (countedDone ses now rates text audio written σ)
  | .sessionInfo written => if !σ.targetReads then none else some { σ with targetReads := written }
  | .upstream counted written =>
    if !σ.targetReads then none
    else
      match counted with
      | none => some { σ with targetReads := false }
      | some (text, audio) => some { σ with localUsage := σ.localUsage + RealtimeUsage.output text audio, targetReads := written }
  | .upstreamEnds => if !σ.targetReads then none else some { σ with targetReads := false }

def flushUsage (e : Ending) (σ : Realtime) : Realtime :=
  if σ.usage.totalTokens ≠ 0 then (preConsumeUsage ses e.now e.rates σ.usage σ).2 else σ

def flushLocal (e : Ending) (σ : Realtime) : Realtime :=
  if σ.localUsage.totalTokens ≠ 0 then
    (preConsumeUsage ses e.localNow e.localRates σ.localUsage { σ with counted := σ.counted + σ.localUsage }).2
  else σ

def flush (e : Ending) (σ : Realtime) : Realtime := flushLocal ses e (flushUsage ses e σ)

/-- The end of the session, with the settled quota; `none` if the settlement reports an error. -/
def finish (e : Ending) (σ : Realtime) : Option (Realtime × ℤ) :=
  let σ := flush ses e σ
  let out := Prog.calm e.settleNow (ses.postWssConsumeQuota e.channelId e.final σ.sumUsage) σ.rows σ.rows
  match out.1 with
  | .ok (_, []) => some ({ σ with rows := out.2.1 }, e.final.quota σ.sumUsage)
  | _ => none

end Realtime

end StarNexus.Service
