import StarNexus.Pricing.Monotone

/-!
# The quota of a tiered request

A request of a tiered model freezes its billing rules, the ratio of its group among them, in a snapshot
(`modelPriceHelperTiered`).  A retry may move the request to another group: `getChannel` then replaces the group ratio of
its price data, not that of the snapshot.  `ComputeTieredQuota` settles by the snapshot; `composeTieredTextQuota` returns
that quota if no tool was called, and otherwise prices the tokens again, by the price data.
-/

namespace StarNexus.Pricing

open Lib

/-- `GetGroupGroupRatio`, `GetGroupRatio` and the token pricing of a group, at some time. -/
structure GroupSettings where
  groupGroupRatio : String → String → Option ℚ≥0 := fun _ _ => none
  groupRatio : String → ℚ≥0
  tokenPricing : String → EffectiveTokenPricing := fun _ => {}

/-- The rest of `BillingSnapshot`; `expr` is the expression, which may fail. -/
structure TieredSnapshot extends BillingSnapshot where
  groupRatio : ℚ≥0
  quotaPerUnit : ℚ
  estimatedQuotaAfterGroup : ℤ
  expr : TokenParams → Option ℚ

structure TieredRequest where
  info : RelayInfo
  userGroup : String
  usingGroup : String
  /-- `auto_group` of the context -/
  autoGroup : Option String := none
  finalPreConsumedQuota : ℤ
  snapshot : TieredSnapshot

structure TieredResult where
  actualQuotaBeforeGroup : ℚ
  actualQuotaAfterGroup : ℤ
  deriving DecidableEq

/-- A retry: the settings at that time, and the group that the selection of a channel has put into the context, if any. -/
structure Retry where
  settings : GroupSettings
  selected : Option String

/-- `ComputeTieredQuotaWithRequest`; `QuotaRound` rounds and saturates as `QuotaFromDecimal` does. -/
def TieredSnapshot.computeTieredQuota (snap : TieredSnapshot) (params : TokenParams) : Option TieredResult := do
  let cost ← snap.expr (applyTieredCacheBillingOffset (some snap.toBillingSnapshot) params).1
  let quotaBeforeGroup := cost / 1000000 * snap.quotaPerUnit
  pure ⟨quotaBeforeGroup, quotaFromDecimal (quotaBeforeGroup * snap.groupRatio)⟩

namespace TieredRequest

def handleGroupRatio (g : GroupSettings) (q : TieredRequest) : TieredRequest :=
  let group := q.autoGroup.getD q.usingGroup
  let ratio := (g.groupGroupRatio q.userGroup group).getD (g.groupRatio group)
  { q with
    usingGroup := group
    info := { q.info with
      priceData := { q.info.priceData with groupRatio := ratio }, tokenPricing := g.tokenPricing group } }

/-- The group ratio goes into the price data and into the snapshot. -/
def modelPriceHelperTiered (g : GroupSettings) (q : TieredRequest) : TieredRequest :=
  let q := q.handleGroupRatio g
  { q with snapshot := { q.snapshot with groupRatio := q.info.priceData.groupRatio } }

def getChannel (q : TieredRequest) (x : Retry) : TieredRequest :=
  { q with autoGroup := x.selected.or q.autoGroup }.handleGroupRatio x.settings

def retried (q : TieredRequest) (retries : List Retry) : TieredRequest := retries.foldl getChannel q

def surcharge (q : TieredRequest) : ℚ := calculateTextToolCallSurcharge q.info

def tieredResult (q : TieredRequest) (u : Usage) : Option TieredResult :=
  q.snapshot.computeTieredQuota (q.info.tieredParams u q.snapshot.usedVars)

/-- The quota of `TryTieredSettle`: the reserved or the estimated one if the expression fails. -/
def tryTieredSettle (q : TieredRequest) (u : Usage) : ℤ :=
  match q.tieredResult u with
  | some result => result.actualQuotaAfterGroup
  | none => if q.finalPreConsumedQuota ≤ 0 then q.snapshot.estimatedQuotaAfterGroup else q.finalPreConsumedQuota

def composeTieredTextQuota (q : TieredRequest) (u : Usage) : ℤ :=
  if q.surcharge = 0 then q.tryTieredSettle u
  else match q.tieredResult u with
    | some result => quotaFromDecimal (result.actualQuotaBeforeGroup * q.info.priceData.groupRatio + q.surcharge)
    | none => quotaFromDecimal (q.tryTieredSettle u + q.surcharge)

def Steady (q : TieredRequest) : Prop := q.surcharge = 0 ∨ q.info.priceData.groupRatio = q.snapshot.groupRatio

variable {q : TieredRequest} {u : Usage} {result : TieredResult}

lemma retried_snapshot (q : TieredRequest) (retries : List Retry) : (q.retried retries).snapshot = q.snapshot := by
  induction retries generalizing q with
  | nil => rfl
  | cons x retries ih => exact ih _

lemma steady_of_no_retry (g : GroupSettings) (q : TieredRequest) : ((q.modelPriceHelperTiered g).retried []).Steady :=
  .inr rfl

lemma tieredResult_after (h : q.tieredResult u = some result) :
    result.actualQuotaAfterGroup = quotaFromDecimal (result.actualQuotaBeforeGroup * q.snapshot.groupRatio) := by
  obtain ⟨cost, -, hcost⟩ := Option.bind_eq_some_iff.1 h
  rw [← Option.some.inj hcost]

lemma composeTieredTextQuota_steady (h : q.tieredResult u = some result) (hs : q.Steady) :
    q.composeTieredTextQuota u =
      quotaFromDecimal (result.actualQuotaBeforeGroup * q.snapshot.groupRatio + q.surcharge) := by
  unfold composeTieredTextQuota
  split_ifs with hzero
  · simp only [tryTieredSettle, h, hzero, add_zero]
    exact tieredResult_after h
  · simp [h, hs.resolve_left hzero]

end TieredRequest

lemma abs_quotaFromDecimal_sub_le {d : ℚ} (h : |d| ≤ 2147483647) : |(quotaFromDecimal d : ℚ) - d| ≤ 1 / 2 := by
  have hround := abs_roundAway_sub_le d
  have hlo : -2147483648 ≤ roundAway d := by
    have := roundAway_mono (neg_le_of_abs_le h)
    have hbound : roundAway (-2147483647) = -2147483647 := by norm_num [roundAway]
    omega
  have hhi : roundAway d ≤ 2147483647 := by
    have := roundAway_mono (le_of_abs_le h)
    have hbound : roundAway 2147483647 = 2147483647 := by norm_num [roundAway]
    omega
  rwa [quotaFromDecimal_eq, min_eq_right hhi, max_eq_right hlo]

open TieredRequest

/-- **One group ratio.** The tokens are charged by the ratio of the snapshot: the quota without its surcharges is the quota that
the expression alone gives, up to rounding. -/
theorem tiered_tokens_at_frozen_ratio (q : TieredRequest) (retries : List Retry) (u : Usage) (result : TieredResult)
    (hrun : (q.retried retries).tieredResult u = some result) (hs : (q.retried retries).Steady) :
    (q.retried retries).composeTieredTextQuota u =
      quotaFromDecimal (result.actualQuotaBeforeGroup * q.snapshot.groupRatio + (q.retried retries).surcharge) ∧
    (|result.actualQuotaBeforeGroup * q.snapshot.groupRatio| ≤ 2147483647 →
      |result.actualQuotaBeforeGroup * q.snapshot.groupRatio + (q.retried retries).surcharge| ≤ 2147483647 →
      |((q.retried retries).composeTieredTextQuota u : ℚ) - (q.retried retries).surcharge -
        result.actualQuotaAfterGroup| ≤ 1) := by
  have hquota := composeTieredTextQuota_steady hrun hs
  have hafter := tieredResult_after hrun
  rw [retried_snapshot] at hquota hafter
  refine ⟨hquota, fun hwithout hwith => ?_⟩
  have h₁ := abs_le.1 (abs_quotaFromDecimal_sub_le hwith)
  have h₂ := abs_le.1 (abs_quotaFromDecimal_sub_le hwithout)
  rw [hquota, hafter, abs_le]
  constructor <;> linarith [h₁.1, h₁.2, h₂.1, h₂.2]

def twoGroups : GroupSettings where
  groupRatio group := if group = "vip" then (2 : ℕ) else 1

def searched : TieredRequest :=
  TieredRequest.modelPriceHelperTiered twoGroups {
    info := {
      builtInTools := some fun tool => if tool = "web_search_preview" then some 1 else none
      toolPriceForModel := fun _ _ => (10 : ℕ)
      quotaPerUnit := (500000 : ℕ) }
    userGroup := "default"
    usingGroup := "default"
    finalPreConsumedQuota := 0
    snapshot := {
      billingMode := "tiered_expr", usedVars := fun _ => false, cacheBillingOffsetBps := 0
      groupRatio := 0, quotaPerUnit := (500000 : ℕ), estimatedQuotaAfterGroup := 0, expr := fun _ => some 2000 } }

theorem tiered_tokens_searched :
    searched.composeTieredTextQuota {} = quotaFromDecimal (1000 * 1 + searched.surcharge) := by
  have h := (tiered_tokens_at_frozen_ratio searched [] {} ⟨1000, 1000⟩ (by decide +kernel)
    (steady_of_no_retry _ _)).1
  exact h

/-- The search costs 10000 in the new group and the tokens 1000 at the frozen ratio, but 12000 are charged. -/
theorem tiered_tokens_at_new_ratio :
    (searched.retried [⟨twoGroups, some "vip"⟩]).composeTieredTextQuota {} = 12000 ∧
    (searched.retried [⟨twoGroups, some "vip"⟩]).surcharge = 10000 ∧
    (searched.retried [⟨twoGroups, some "vip"⟩]).tryTieredSettle {} = 1000 ∧ searched.snapshot.groupRatio = 1 := by
  decide +kernel

end StarNexus.Pricing
