import Mathlib.Tactic.Positivity
import StarNexus.Pricing.CacheOffset

/-!
# The quota grows with the counts

The exact quota is a sum of counts with weights that are not negative, so it is never negative and grows with every count,
as long as the prompt total grows with the parts it contains.  The cache offset moves tokens from the cache price to the
full price.
-/

namespace StarNexus.Pricing

open Lib

/-! ### Rounding -/

lemma quotaFromDecimal_eq (d : ℚ) : quotaFromDecimal d = max (-2147483648) (min 2147483647 (roundAway d)) := by
  dsimp only [quotaFromDecimal]
  split_ifs <;> omega

lemma quotaFromDecimal_mono {d d' : ℚ} (h : d ≤ d') : quotaFromDecimal d ≤ quotaFromDecimal d' := by
  have hround := roundAway_mono h
  rw [quotaFromDecimal_eq, quotaFromDecimal_eq]
  omega

lemma quotaFromDecimal_nonneg {d : ℚ} (h : 0 ≤ d) : 0 ≤ quotaFromDecimal d := by
  have hround := roundAway_nonneg h
  rw [quotaFromDecimal_eq]
  omega

lemma quotaFromDecimal_nonpos {d : ℚ} (h : d ≤ 0) : quotaFromDecimal d ≤ 0 := by
  have hround := roundAway_nonpos h
  rw [quotaFromDecimal_eq]
  omega

lemma quotaFromDecimal_one : quotaFromDecimal 1 = 1 := by
  have hround : roundAway 1 = 1 := by
    norm_num [roundAway]
  rw [quotaFromDecimal_eq]
  omega

lemma roundTokenCount_mono {x y : ℚ} (h : x ≤ y) : roundTokenCount x ≤ roundTokenCount y := by
  unfold roundTokenCount
  split_ifs with hx hy
  · exact le_rfl
  · exact roundAway_nonneg (by linarith)
  · exact absurd (h.trans (by assumption)) hx
  · exact roundAway_mono h

variable (pricing : EffectiveTokenPricing) {x y : ℤ}

lemma repriced_mono (enabled : Bool) (ratio : ℚ≥0) (h : x ≤ y) :
    (if enabled then roundTokenCount (x * ratio) else x) ≤ if enabled then roundTokenCount (y * ratio) else y := by
  split
  · exact roundTokenCount_mono (mul_le_mul_of_nonneg_right (by exact_mod_cast h) ratio.coe_nonneg)
  · exact h

lemma repriced_nonneg (enabled : Bool) (ratio : ℚ≥0) {x : ℤ} (h : 0 ≤ x) :
    0 ≤ if enabled then roundTokenCount (x * ratio) else x :=
  (by simp [roundTokenCount] : (0 : ℤ) = _).le.trans (repriced_mono enabled ratio h)

lemma applyInputTokenPricing_mono (h : x ≤ y) :
    applyInputTokenPricing pricing x ≤ applyInputTokenPricing pricing y :=
  repriced_mono _ _ h

lemma applyInputTokenPricing_nonneg {x : ℤ} (h : 0 ≤ x) : 0 ≤ applyInputTokenPricing pricing x := repriced_nonneg _ _ h

lemma applyInputTokenPricing_bounds (h₀ : 0 ≤ x) (h : x ≤ y) :
    0 ≤ applyInputTokenPricing pricing x ∧ applyInputTokenPricing pricing x ≤ applyInputTokenPricing pricing y :=
  ⟨applyInputTokenPricing_nonneg pricing h₀, applyInputTokenPricing_mono pricing h⟩

lemma applyOutputTokenPricing_bounds (h₀ : 0 ≤ x) (h : x ≤ y) :
    0 ≤ applyOutputTokenPricing pricing x ∧ applyOutputTokenPricing pricing x ≤ applyOutputTokenPricing pricing y :=
  ⟨repriced_nonneg _ _ h₀, repriced_mono _ _ h⟩

lemma cast_bounds (h : 0 ≤ x ∧ x ≤ y) : (0 : ℚ) ≤ x ∧ (x : ℚ) ≤ y := by exact_mod_cast h

/-! ### The exact quota -/

variable (price : PriceData)

lemma PriceData.applyOtherRatios_eq : ∃ c : ℚ, 0 ≤ c ∧ ∀ x, price.applyOtherRatios x = x * c := by
  unfold PriceData.applyOtherRatios
  generalize price.otherRatios = ratios
  induction ratios with
  | nil => exact ⟨1, by norm_num, fun x => by simp⟩
  | cons ratio rest ih =>
    obtain ⟨c, hc, heq⟩ := ih
    by_cases hratio : 0 < ratio ∧ ratio ≠ 1
    · refine ⟨ratio * c, mul_nonneg ratio.coe_nonneg hc, fun x => ?_⟩
      rw [List.foldl_cons, if_pos hratio, heq, mul_assoc]
    · refine ⟨c, hc, fun x => ?_⟩
      rw [List.foldl_cons, if_neg hratio, heq]

variable (r : RelayInfo)

lemma RelayInfo.callSurcharge_nonneg (price : ℚ≥0) {callCount : ℤ} (h : 0 ≤ callCount) :
    0 ≤ r.callSurcharge price callCount := by
  unfold RelayInfo.callSurcharge
  positivity

lemma calculateTextToolCallSurcharge_nonneg : 0 ≤ calculateTextToolCallSurcharge r := by
  have hweb : 0 ≤ r.webSearchCallCount := by
    unfold RelayInfo.webSearchCallCount
    split
    · split
      · split_ifs <;> omega
      · exact le_rfl
    · split_ifs <;> omega
  have hfile : 0 ≤ r.fileSearchCallCount := by
    unfold RelayInfo.fileSearchCallCount
    split
    · split
      · split_ifs <;> omega
      · exact le_rfl
    · exact le_rfl
  have hclaude : 0 ≤ (if 0 < r.claudeWebSearchRequests then
      r.callSurcharge (r.toolPrice "web_search") r.claudeWebSearchRequests else 0) := by
    split
    · exact r.callSurcharge_nonneg _ (by omega)
    · exact le_rfl
  have hsearch := r.callSurcharge_nonneg (r.toolPriceForModel "web_search_preview" r.originModelName) hweb
  have hfiles := r.callSurcharge_nonneg (r.toolPrice "file_search") hfile
  refine add_nonneg (add_nonneg (add_nonneg hsearch hclaude) hfiles) ?_
  split
  · positivity
  · exact le_rfl

def RelayInfo.weighted (r : RelayInfo) (s : TextQuotaSummary) : ℚ :=
  let promptQuota := s.promptQuota r.priceData (geminiInputAudioPricePerMillionTokens r.originModelName)
  let completionQuota := s.completionQuota r.priceData
  if r.isLongContext s then promptQuota * 2 + completionQuota * (3 / 2) else promptQuota + completionQuota

def RelayInfo.exactQuota (r : RelayInfo) (s : TextQuotaSummary) : ℚ :=
  r.priceData.applyOtherRatios (if r.priceData.usePrice then r.priceData.modelPrice * r.quotaPerUnit * r.priceData.groupRatio
    else r.weighted s * r.ratio + r.audioInputQuota s) + calculateTextToolCallSurcharge r

lemma max_one_quotaFromDecimal {d : ℚ} (h : 0 ≤ d) :
    (if quotaFromDecimal d = 0 then 1 else quotaFromDecimal d) = max 1 (quotaFromDecimal d) := by
  have hquota := quotaFromDecimal_nonneg h
  split_ifs <;> omega

lemma RelayInfo.exactQuota_usePrice_nonneg {r : RelayInfo} (h : r.priceData.usePrice = true) (s : TextQuotaSummary) :
    0 ≤ r.exactQuota s := by
  obtain ⟨c, hc, heq⟩ := r.priceData.applyOtherRatios_eq
  rw [RelayInfo.exactQuota, if_pos h, heq]
  have hsurcharge := calculateTextToolCallSurcharge_nonneg r
  positivity

variable (s : TextQuotaSummary)

lemma RelayInfo.quotaOf_eq : r.quotaOf s =
    if r.hasBillableUsage s = false then 0 else if r.ratio = 0 then quotaFromDecimal (r.exactQuota s)
      else max 1 (quotaFromDecimal (r.exactQuota s)) := by
  unfold RelayInfo.quotaOf
  cases r.hasBillableUsage s with
  | false => simp
  | true =>
    simp only [Bool.not_true, Bool.false_eq_true, Bool.true_eq_false, if_false]
    by_cases hratio : r.ratio = 0
    · rw [if_neg (by simp [hratio]), if_pos hratio]
      have hexact : r.quotaDecimal s = r.exactQuota s := by
        unfold RelayInfo.quotaDecimal RelayInfo.exactQuota
        simp only [hratio, ne_eq, not_true_eq_false, false_and, if_false, mul_zero]
        split_ifs <;> rfl
      rw [hexact]
    · simp only [ne_eq, hratio, not_false_eq_true, true_and, if_false]
      by_cases hprice : r.priceData.usePrice
      · have hexact : r.quotaDecimal s = r.exactQuota s := by
          rw [RelayInfo.quotaDecimal, RelayInfo.exactQuota, if_pos hprice, if_pos hprice]
        rw [hexact]
        exact max_one_quotaFromDecimal (RelayInfo.exactQuota_usePrice_nonneg hprice s)
      · have hexact : r.quotaDecimal s = if r.exactQuota s ≤ 0 then 1 else r.exactQuota s := by
          rw [RelayInfo.quotaDecimal, RelayInfo.exactQuota, if_neg hprice, if_neg hprice]
          simp only [ne_eq, hratio, not_false_eq_true, true_and]
          exact if_congr .rfl rfl rfl
        rw [hexact]
        split_ifs with hlow hzero
        · exact absurd (quotaFromDecimal_one.symm.trans hzero) one_ne_zero
        · have hquota := quotaFromDecimal_nonpos hlow
          rw [quotaFromDecimal_one]
          omega
        · omega
        · have hquota := quotaFromDecimal_nonneg (not_le.1 hlow).le
          omega

variable {r : RelayInfo} {s s' : TextQuotaSummary}

lemma RelayInfo.quotaOf_nonneg (h : 0 ≤ s.audioTokens) : 0 ≤ r.quotaOf s := by
  rw [r.quotaOf_eq]
  split_ifs with hbillable hratio
  · exact le_rfl
  · apply quotaFromDecimal_nonneg
    obtain ⟨c, hc, heq⟩ := r.priceData.applyOtherRatios_eq
    have hsurcharge := calculateTextToolCallSurcharge_nonneg r
    have haudio : 0 ≤ r.audioInputQuota s := by
      dsimp only [RelayInfo.audioInputQuota]
      split <;> positivity
    rw [RelayInfo.exactQuota, hratio, heq, mul_zero]
    split <;> positivity
  · omega

lemma RelayInfo.quotaOf_mono (hraw : s.rawTotalTokens ≤ s'.rawTotalTokens)
    (hfree : r.hasBillableUsage s = false → 0 ≤ r.quotaOf s')
    (h : r.priceData.usePrice = false → r.exactQuota s ≤ r.exactQuota s') : r.quotaOf s ≤ r.quotaOf s' := by
  have hexact : r.exactQuota s ≤ r.exactQuota s' := by
    cases hprice : r.priceData.usePrice with
    | true => rw [RelayInfo.exactQuota, RelayInfo.exactQuota, if_pos hprice, if_pos hprice]
    | false => exact h hprice
  have hquota := quotaFromDecimal_mono hexact
  by_cases hbillable : r.hasBillableUsage s = false
  · rw [r.quotaOf_eq s, if_pos hbillable]
    exact hfree hbillable
  · have hbillable' : ¬r.hasBillableUsage s' = false := by
      simp only [RelayInfo.hasBillableUsage, decide_eq_false_iff_not, not_not] at hbillable ⊢
      exact hbillable.imp_left fun hpos => hpos.trans_le hraw
    rw [r.quotaOf_eq s, r.quotaOf_eq s', if_neg hbillable']
    split_ifs <;> omega

lemma RelayInfo.exactQuota_mono (hweighted : r.weighted s ≤ r.weighted s') (haudio : s.audioTokens ≤ s'.audioTokens) :
    r.exactQuota s ≤ r.exactQuota s' := by
  obtain ⟨c, hc, heq⟩ := r.priceData.applyOtherRatios_eq
  have hratio : 0 ≤ r.ratio := by
    unfold RelayInfo.ratio
    positivity
  have haudio' : r.audioInputQuota s ≤ r.audioInputQuota s' := by
    have hform (t : TextQuotaSummary) : r.audioInputQuota t =
        geminiInputAudioPricePerMillionTokens r.originModelName / 1000000 * t.audioTokens * r.priceData.groupRatio *
          r.quotaPerUnit := by
      dsimp only [RelayInfo.audioInputQuota]
      split_ifs with hcharged
      · rfl
      · rcases not_and_or.1 hcharged with hnone | hfree
        · simp [not_not.1 hnone]
        · simp [le_antisymm (not_lt.1 hfree) zero_le]
    rw [hform, hform]
    gcongr
  unfold RelayInfo.exactQuota
  rw [heq, heq]
  split
  · exact le_rfl
  · gcongr

/-! ### The offset -/

structure TextQuotaSummary.Fresh (s : TextQuotaSummary) : Prop where
  billing : s.billingCacheTokens = s.cacheTokens
  reclassified : s.cacheReclassifiedTokens = 0

lemma TextQuotaSummary.Fresh.offset (h : s.Fresh) (price : PriceData) :
    ∃ total m, 0 ≤ m ∧ (s.cacheTokens = 0 → m = 0) ∧ applyCacheBillingOffset price s =
      { s with
        cacheBillingTotalInputTokens := total
        cacheReclassifiedTokens := m
        billingCacheTokens := s.cacheTokens - m } := by
  have hsame : s = { s with
      cacheReclassifiedTokens := 0
      billingCacheTokens := s.cacheTokens - 0 } := by
    obtain ⟨hbilling, hreclassified⟩ := h
    cases s
    simp only at hbilling hreclassified ⊢
    simp [hbilling, hreclassified]
  rw [applyCacheBillingOffset_eq price s rfl]
  split_ifs with hoff htotal hmoved
  · exact ⟨_, 0, le_rfl, fun _ => rfl, hsame⟩
  · exact ⟨_, 0, le_rfl, fun _ => rfl, hsame⟩
  · exact ⟨_, 0, le_rfl, fun _ => rfl, hsame⟩
  · refine ⟨_, _, (not_le.1 hmoved).le, fun hzero => ?_, rfl⟩
    simp [hzero] at hoff

def TextQuotaSummary.uncachedQuota (s : TextQuotaSummary) (price : PriceData) (audioPrice : ℚ≥0) : ℚ :=
  s.baseTokens audioPrice + s.imageTokensWithRatio price + s.cachedCreationTokensWithRatio price

open TextQuotaSummary

lemma TextQuotaSummary.Fresh.promptQuota (h : s.Fresh) (price : PriceData) (audioPrice : ℚ≥0) :
    (applyCacheBillingOffset price s).promptQuota price audioPrice = s.uncachedQuota price audioPrice +
      s.cacheTokens * price.cacheRatio + (applyCacheBillingOffset price s).cacheReclassifiedTokens * (1 - price.cacheRatio) := by
  obtain ⟨total, m, -, hnone, heq⟩ := h.offset price
  have hcached : (applyCacheBillingOffset price s).cachedTokensWithRatio price = (s.cacheTokens - m) * price.cacheRatio := by
    rw [heq]
    simp only [cachedTokensWithRatio]
    split_ifs with hcache
    · push_cast
      rfl
    · simp [not_not.1 hcache, hnone (not_not.1 hcache)]
  obtain ⟨hbase, himage, hcreation⟩ : (applyCacheBillingOffset price s).baseTokens audioPrice = s.baseTokens audioPrice ∧
      (applyCacheBillingOffset price s).imageTokensWithRatio price = s.imageTokensWithRatio price ∧
      (applyCacheBillingOffset price s).cachedCreationTokensWithRatio price = s.cachedCreationTokensWithRatio price := by
    rw [heq]
    exact ⟨rfl, rfl, rfl⟩
  rw [TextQuotaSummary.promptQuota, hcached, hbase, himage, hcreation, TextQuotaSummary.uncachedQuota, heq]
  ring

def PriceData.hasOffset (price : PriceData) : Prop := 1 ≤ price.cacheBillingOffsetBps ∧ price.cacheBillingOffsetBps ≤ 10000

/-! ### Larger counts -/

/-- The counts of a summary grow: what is charged grows, and so does the input that the offset is a share of. -/
structure TextQuotaSummary.Grows (s s' : TextQuotaSummary) : Prop where
  base : ∀ audioPrice, s.baseTokens audioPrice ≤ s'.baseTokens audioPrice
  creation : ∀ price, 0 ≤ s.cachedCreationTokensWithRatio price ∧
    s.cachedCreationTokensWithRatio price ≤ s'.cachedCreationTokensWithRatio price
  image : 0 ≤ s.imageTokens ∧ s.imageTokens ≤ s'.imageTokens
  cache : 0 ≤ s.cacheTokens ∧ s.cacheTokens ≤ s'.cacheTokens
  input : s.totalInput ≤ s'.totalInput
  completion : 0 ≤ s.completionTokens ∧ s.completionTokens ≤ s'.completionTokens
  audio : 0 ≤ s.audioTokens ∧ s.audioTokens ≤ s'.audioTokens
  rawPrompt : s.rawPromptTokens ≤ s'.rawPromptTokens
  rawTotal : s.rawTotalTokens ≤ s'.rawTotalTokens

lemma TextQuotaSummary.imageTokensWithRatio_eq :
    s.imageTokensWithRatio price = s.imageTokens * price.imageRatio := by
  unfold imageTokensWithRatio
  split_ifs with himage
  · rfl
  · simp [not_not.1 himage]

lemma subtract_if_ne_zero {p : Prop} [Decidable p] (base tokens : ℤ) :
    (if tokens ≠ 0 ∧ p then base - tokens else base) = base - if p then tokens else 0 := by
  by_cases hp : p
  · simp only [hp, and_true]
    split_ifs <;> omega
  · simp [hp]

variable (audioPrice : ℚ≥0)

lemma TextQuotaSummary.baseTokens_eq :
    s.baseTokens audioPrice = max 0 (s.promptTokens - (if s.separates then s.cacheTokens + s.cacheCreationTokens else 0) -
      s.imageTokens - if 0 < audioPrice then s.audioTokens else 0) := by
  have hcreation (base : ℤ) : (if (s.cacheCreationTokens ≠ 0 ∨ s.hasSplit) ∧ s.separates then
      base - s.cacheCreationTokens else base) = base - if s.separates then s.cacheCreationTokens else 0 := by
    cases s.hasSplit <;> cases s.separates <;> simp
    omega
  dsimp only [baseTokens]
  rw [subtract_if_ne_zero, hcreation, subtract_if_ne_zero]
  split_ifs <;> omega

lemma TextQuotaSummary.baseTokens_nonneg : 0 ≤ s.baseTokens audioPrice := by
  rw [s.baseTokens_eq]
  exact le_max_left _ _

lemma TextQuotaSummary.Grows.uncachedQuota (h : s.Grows s') (price : PriceData) (audioPrice : ℚ≥0) :
    0 ≤ s.uncachedQuota price audioPrice ∧ s.uncachedQuota price audioPrice ≤ s'.uncachedQuota price audioPrice := by
  obtain ⟨hbase₀, hbase⟩ := cast_bounds ⟨s.baseTokens_nonneg audioPrice, h.base audioPrice⟩
  obtain ⟨himage₀, himage⟩ := cast_bounds h.image
  obtain ⟨hcreation₀, hcreation⟩ := h.creation price
  unfold TextQuotaSummary.uncachedQuota
  rw [s.imageTokensWithRatio_eq, s'.imageTokensWithRatio_eq]
  refine ⟨by positivity, ?_⟩
  gcongr

lemma TextQuotaSummary.Grows.reclassified (h : s.Grows s') (hs : s.Fresh) (hs' : s'.Fresh) {price : PriceData}
    (hprice : price.usePrice = false) (ho : price.hasOffset) :
    (applyCacheBillingOffset price s).cacheReclassifiedTokens ≤ (applyCacheBillingOffset price s').cacheReclassifiedTokens := by
  rw [(applyCacheBillingOffset_moves price s hprice rfl ho.1 ho.2 h.cache.1 hs.reclassified hs.billing).1,
    (applyCacheBillingOffset_moves price s' hprice rfl ho.1 ho.2 (h.cache.1.trans h.cache.2) hs'.reclassified hs'.billing).1]
  refine min_le_min h.cache.2 (Int.ediv_le_ediv (by decide) ?_)
  exact mul_le_mul_of_nonneg_right h.input (by have := ho.1; omega)

lemma applyCacheBillingOffset_of_not_hasOffset {price : PriceData} (ho : ¬price.hasOffset) (s : TextQuotaSummary) :
    applyCacheBillingOffset price s = s := by
  rw [applyCacheBillingOffset_eq price s rfl, if_pos]
  unfold PriceData.hasOffset at ho
  omega

lemma TextQuotaSummary.Grows.promptQuota (h : s.Grows s') (hs : s.Fresh) (hs' : s'.Fresh) {price : PriceData}
    (hprice : price.usePrice = false) (hratio : price.hasOffset → price.cacheRatio ≤ 1) (audioPrice : ℚ≥0) :
    0 ≤ (applyCacheBillingOffset price s).promptQuota price audioPrice ∧
      (applyCacheBillingOffset price s).promptQuota price audioPrice ≤
        (applyCacheBillingOffset price s').promptQuota price audioPrice := by
  obtain ⟨huncached₀, huncached⟩ := h.uncachedQuota price audioPrice
  obtain ⟨hcache₀, hcache⟩ := cast_bounds h.cache
  have hprod := mul_le_mul_of_nonneg_right hcache price.cacheRatio.coe_nonneg
  have hprod₀ := mul_nonneg hcache₀ price.cacheRatio.coe_nonneg
  rw [hs.promptQuota, hs'.promptQuota]
  by_cases ho : price.hasOffset
  · have hle : (price.cacheRatio : ℚ) ≤ 1 := by exact_mod_cast hratio ho
    have hmoved := h.reclassified hs hs' hprice ho
    obtain ⟨total, m, hm, -, heq⟩ := hs.offset price
    have hm' : (applyCacheBillingOffset price s).cacheReclassifiedTokens = m := by rw [heq]
    rw [hm'] at hmoved ⊢
    obtain ⟨hmq, hmovedq⟩ := cast_bounds ⟨hm, hmoved⟩
    have hdiff := mul_le_mul_of_nonneg_right hmovedq (sub_nonneg.2 hle)
    have hdiff₀ := mul_nonneg hmq (sub_nonneg.2 hle)
    constructor <;> linarith
  · rw [applyCacheBillingOffset_of_not_hasOffset ho, applyCacheBillingOffset_of_not_hasOffset ho, hs.reclassified,
      hs'.reclassified]
    constructor <;> push_cast <;> linarith

lemma TextQuotaSummary.Fresh.settled_fields (h : s.Fresh) (price : PriceData) :
    (applyCacheBillingOffset price s).completionTokens = s.completionTokens ∧
      (applyCacheBillingOffset price s).audioTokens = s.audioTokens ∧
      (applyCacheBillingOffset price s).rawPromptTokens = s.rawPromptTokens ∧
      (applyCacheBillingOffset price s).rawTotalTokens = s.rawTotalTokens := by
  obtain ⟨total, m, -, -, heq⟩ := h.offset price
  rw [heq]
  simp

lemma weighted_mono {p p' c c' : ℚ} {long long' : Bool} (hlong : long = true → long' = true) (hp : 0 ≤ p) (hp' : p ≤ p')
    (hc : 0 ≤ c) (hc' : c ≤ c') :
    (if long then p * 2 + c * (3 / 2) else p + c) ≤ if long' then p' * 2 + c' * (3 / 2) else p' + c' := by
  split_ifs with h h' h'
  · linarith
  · exact absurd (hlong h) h'
  · linarith
  · linarith

/-- **The quota grows with the counts.** -/
lemma TextQuotaSummary.Grows.quotaOf (h : s.Grows s') (hs : s.Fresh) (hs' : s'.Fresh)
    (hratio : r.priceData.hasOffset → r.priceData.cacheRatio ≤ 1) :
    r.quotaOf (applyCacheBillingOffset r.priceData s) ≤ r.quotaOf (applyCacheBillingOffset r.priceData s') := by
  obtain ⟨hcompletion, haudio, hrawPrompt, hrawTotal⟩ := hs.settled_fields r.priceData
  obtain ⟨hcompletion', haudio', hrawPrompt', hrawTotal'⟩ := hs'.settled_fields r.priceData
  refine RelayInfo.quotaOf_mono ?_ (fun _ => RelayInfo.quotaOf_nonneg ?_) fun hprice => RelayInfo.exactQuota_mono ?_ ?_
  · rw [hrawTotal, hrawTotal']
    exact h.rawTotal
  · rw [haudio']
    exact h.audio.1.trans h.audio.2
  · have hprompt := h.promptQuota hs hs' hprice hratio (geminiInputAudioPricePerMillionTokens r.originModelName)
    obtain ⟨htokens₀, htokens⟩ := cast_bounds h.completion
    refine weighted_mono (fun hlong => ?_) hprompt.1 hprompt.2 ?_ ?_
    · simp only [RelayInfo.isLongContext, decide_eq_true_eq, hrawPrompt, hrawPrompt'] at hlong ⊢
      exact ⟨hlong.1, hlong.2.trans_le h.rawPrompt⟩
    · rw [completionQuota, hcompletion]
      positivity
    · rw [completionQuota, completionQuota, hcompletion, hcompletion']
      gcongr
  · rw [haudio, haudio']
    exact h.audio.2

/-! ### Larger records -/

structure Usage.NonNegative (u : Usage) : Prop where
  completion : 0 ≤ u.completionTokens
  cached : 0 ≤ u.promptTokensDetails.cachedTokens
  creation5m : 0 ≤ u.claudeCacheCreation5mTokens
  creation1h : 0 ≤ u.claudeCacheCreation1hTokens
  image : 0 ≤ u.promptTokensDetails.imageTokens
  audio : 0 ≤ u.promptTokensDetails.audioTokens

/-- The prompt total of the record contains its cached and its cache creation tokens. -/
def RelayInfo.promptContains (r : RelayInfo) (u : Usage) : Bool :=
  if r.isClaudeUsageSemantic (some u) then r.openRouter else !isLegacyClaudeDerivedOpenAIUsage r.format u

def RelayInfo.remainingCreation (r : RelayInfo) (u : Usage) : ℤ :=
  max (applyInputTokenPricing r.tokenPricing u.promptTokensDetails.cacheCreationTokensTotal -
    applyInputTokenPricing r.tokenPricing u.claudeCacheCreation5mTokens -
    applyInputTokenPricing r.tokenPricing u.claudeCacheCreation1hTokens) 0

/-- The repriced tokens that belong to no other category, which may come out negative. -/
def RelayInfo.plainTokens (r : RelayInfo) (contained : Bool) (u : Usage) : ℤ :=
  applyInputTokenPricing r.tokenPricing u.promptTokens -
    (if contained then applyInputTokenPricing r.tokenPricing u.promptTokensDetails.cachedTokens +
      applyInputTokenPricing r.tokenPricing u.promptTokensDetails.cacheCreationTokensTotal else 0) -
    applyInputTokenPricing r.tokenPricing u.promptTokensDetails.imageTokens -
    applyInputTokenPricing r.tokenPricing u.promptTokensDetails.audioTokens

/-- Some counts of the record are increased, and the prompt total with those it contains. -/
structure Usage.Grows (r : RelayInfo) (u u' : Usage) : Prop where
  semantic : u'.usageSemantic = u.usageSemantic
  source : u'.usageSource = u.usageSource
  cost : u'.cost = u.cost
  prompt : u.promptTokens ≤ u'.promptTokens
  completion : u.completionTokens ≤ u'.completionTokens
  cached : u.promptTokensDetails.cachedTokens ≤ u'.promptTokensDetails.cachedTokens
  creation : u.promptTokensDetails.cacheCreationTokensTotal ≤ u'.promptTokensDetails.cacheCreationTokensTotal
  creation5m : u.claudeCacheCreation5mTokens ≤ u'.claudeCacheCreation5mTokens
  creation1h : u.claudeCacheCreation1hTokens ≤ u'.claudeCacheCreation1hTokens
  remaining : r.remainingCreation u ≤ r.remainingCreation u'
  image : u.promptTokensDetails.imageTokens ≤ u'.promptTokensDetails.imageTokens
  audio : u.promptTokensDetails.audioTokens ≤ u'.promptTokensDetails.audioTokens
  plain : r.plainTokens (r.promptContains u') u ≤ r.plainTokens (r.promptContains u') u'

def RelayInfo.counted (r : RelayInfo) (u : Usage) : TextQuotaSummary := r.adjustOpenRouter u (r.summaryOf (some u))

def RelayInfo.Infers (r : RelayInfo) (u : Usage) : Prop :=
  r.openRouter ∧ r.isClaudeUsageSemantic (some u) ∧ r.infersCacheCreation u (r.summaryOf (some u))

lemma RelayInfo.counted_eq {u : Usage} (h : ¬r.Infers u) : r.counted u = { r.summaryOf (some u) with
    promptTokens := (r.summaryOf (some u)).promptTokens -
      if r.openRouter && r.isClaudeUsageSemantic (some u) then
        (r.summaryOf (some u)).cacheTokens + (r.summaryOf (some u)).cacheCreationTokens else 0 } := by
  unfold RelayInfo.counted RelayInfo.adjustOpenRouter
  by_cases hrouter : r.openRouter ∧ r.isClaudeUsageSemantic (some u)
  · have hreported : r.infersCacheCreation u (r.summaryOf (some u)) = false :=
      Bool.eq_false_iff.2 fun hinfers => h ⟨hrouter.1, hrouter.2, hinfers⟩
    rw [if_pos (show r.openRouter ∧ (r.summaryOf (some u)).isClaudeUsageSemantic from hrouter),
      if_pos (by simp [hrouter])]
    simp only [hreported, Bool.false_eq_true, false_and, if_false]
    congr 1
    omega
  · rw [if_neg (show ¬(r.openRouter ∧ (r.summaryOf (some u)).isClaudeUsageSemantic) from hrouter),
      if_neg (by simpa using hrouter), sub_zero]

lemma RelayInfo.adjustOpenRouter_fresh (u : Usage) (usage : Option Usage) :
    (r.adjustOpenRouter u (r.summaryOf usage)).Fresh := by
  unfold RelayInfo.adjustOpenRouter
  split
  all_goals exact ⟨rfl, rfl⟩

variable {u u' : Usage}

lemma Usage.Grows.isClaude (h : u.Grows r u') : r.isClaudeUsageSemantic (some u') = r.isClaudeUsageSemantic (some u) := by
  have hsame : usageSemanticFromUsage r.format (some u') = usageSemanticFromUsage r.format (some u) := by
    rw [usageSemanticFromUsage, usageSemanticFromUsage, h.semantic]
  rw [RelayInfo.isClaudeUsageSemantic, RelayInfo.isClaudeUsageSemantic, hsame]

lemma Usage.Grows.not_infers (h : u.Grows r u') (hno : ¬r.Infers u) : ¬r.Infers u' := by
  rintro ⟨hrouter, hclaude, hinfers⟩
  refine hno ⟨hrouter, h.isClaude.symm.trans hclaude, ?_⟩
  have hle := applyInputTokenPricing_mono r.tokenPricing h.creation
  have hnonneg := applyInputTokenPricing_nonneg r.tokenPricing u.promptTokensDetails.cacheCreationTokensTotal_nonneg
  simp only [RelayInfo.infersCacheCreation, decide_eq_true_eq, h.cost] at hinfers ⊢
  refine ⟨?_, hinfers.2⟩
  have hzero := hinfers.1
  simp only [RelayInfo.summaryOf, Option.getD_some] at hzero ⊢
  omega

lemma Usage.Grows.legacy (h : u.Grows r u') (hu : u.NonNegative) :
    (isLegacyClaudeDerivedOpenAIUsage r.format u = true → isLegacyClaudeDerivedOpenAIUsage r.format u' = true) ∧
      (isLegacyClaudeDerivedOpenAIUsage r.format u = false → isLegacyClaudeDerivedOpenAIUsage r.format u' = true →
        u.claudeCacheCreation5mTokens = 0 ∧ u.claudeCacheCreation1hTokens = 0) := by
  have h5m := h.creation5m
  have h1h := h.creation1h
  have h5m₀ := hu.creation5m
  have h1h₀ := hu.creation1h
  unfold isLegacyClaudeDerivedOpenAIUsage
  rw [h.semantic, h.source]
  split_ifs
  · simp
  · simp
  · simp only [decide_eq_true_eq, decide_eq_false_iff_not]
    omega

def PriceData.creationCharge (price : PriceData) (separates : Bool) (cc a b : ℤ) : ℚ :=
  if separates then cc * price.cacheCreationRatio
  else (max (cc - a - b) 0 : ℤ) * price.cacheCreationRatio + a * price.cacheCreation5mRatio + b * price.cacheCreation1hRatio

lemma TextQuotaSummary.cachedCreationTokensWithRatio_eq (h5m : 0 ≤ s.cacheCreationTokens5m) (h1h : 0 ≤ s.cacheCreationTokens1h)
    (price : PriceData) : s.cachedCreationTokensWithRatio price =
      price.creationCharge s.separates s.cacheCreationTokens s.cacheCreationTokens5m s.cacheCreationTokens1h := by
  have hremaining (n : ℤ) : (if n < 0 then 0 else n) = max n 0 := by
    split_ifs <;> omega
  dsimp only [cachedCreationTokensWithRatio]
  rw [hremaining]
  by_cases hany : s.cacheCreationTokens ≠ 0 ∨ s.hasSplit
  · exact if_pos hany
  · simp only [hasSplit, decide_eq_true_eq] at hany
    have hcreation : s.cacheCreationTokens = 0 := by omega
    have h5m' : s.cacheCreationTokens5m = 0 := by omega
    have h1h' : s.cacheCreationTokens1h = 0 := by omega
    simp [hcreation, h5m', h1h', PriceData.creationCharge]

lemma cacheWriteTokensTotal_eq (h5m : 0 ≤ s.cacheCreationTokens5m) (h1h : 0 ≤ s.cacheCreationTokens1h)
    (hcreation : 0 ≤ s.cacheCreationTokens) :
    cacheWriteTokensTotal s = max s.cacheCreationTokens (s.cacheCreationTokens5m + s.cacheCreationTokens1h) := by
  dsimp only [cacheWriteTokensTotal]
  split_ifs <;> omega

lemma creationCharge_mono {sep sep' : Bool} {cc cc' a a' b b' : ℤ} (hle : sep' ≤ sep)
    (hfirst : sep = true → sep' = false → a = 0 ∧ b = 0) (hcc : 0 ≤ cc ∧ cc ≤ cc') (ha : 0 ≤ a ∧ a ≤ a')
    (hb : 0 ≤ b ∧ b ≤ b') (hremaining : max (cc - a - b) 0 ≤ max (cc' - a' - b') 0) :
    0 ≤ price.creationCharge sep cc a b ∧ price.creationCharge sep cc a b ≤ price.creationCharge sep' cc' a' b' := by
  obtain ⟨hccq, hccq'⟩ := cast_bounds hcc
  obtain ⟨haq, haq'⟩ := cast_bounds ha
  obtain ⟨hbq, hbq'⟩ := cast_bounds hb
  obtain ⟨hremainingq₀, hremainingq⟩ := cast_bounds ⟨le_max_right (cc - a - b) 0, hremaining⟩
  unfold PriceData.creationCharge
  refine ⟨by split <;> positivity, ?_⟩
  split_ifs with hsep hsep' hsep'
  · gcongr
  · -- the first creation with a lifetime
    obtain ⟨rfl, rfl⟩ : a = 0 ∧ b = 0 := hfirst hsep (Bool.eq_false_iff.2 hsep')
    have hall : (cc : ℚ) ≤ (max (cc' - a' - b') 0 : ℤ) := by
      refine le_trans ?_ hremainingq
      exact_mod_cast (by omega : cc ≤ max (cc - 0 - 0) 0)
    have hcharge := mul_le_mul_of_nonneg_right hall price.cacheCreationRatio.coe_nonneg
    have h5m : (0 : ℚ) ≤ a' * price.cacheCreation5mRatio := mul_nonneg (haq.trans haq') price.cacheCreation5mRatio.coe_nonneg
    have h1h : (0 : ℚ) ≤ b' * price.cacheCreation1hRatio := mul_nonneg (hbq.trans hbq') price.cacheCreation1hRatio.coe_nonneg
    linarith
  · exact absurd (hle hsep') hsep
  · gcongr

lemma input_mono {sep sep' : Bool} {p p' cr cr' w w' : ℤ} (hle : sep' ≤ sep) (hp : p ≤ p') (hcr : cr ≤ cr') (hw : w ≤ w') :
    (if sep then max (max p 0 - max cr 0 - max w 0) 0 else max p 0) + max cr 0 + max w 0 ≤
      (if sep' then max (max p' 0 - max cr' 0 - max w' 0) 0 else max p' 0) + max cr' 0 + max w' 0 := by
  split_ifs with hsep hsep' hsep'
  · omega
  · omega
  · exact absurd (hle hsep') hsep
  · omega

lemma Usage.Grows.counted (h : u.Grows r u') (hu : u.NonNegative) (hno : ¬r.Infers u) : (r.counted u).Grows (r.counted u') := by
  obtain ⟨hlegacy, hflip⟩ := h.legacy hu
  have hclaude := h.isClaude
  have hprompt := applyInputTokenPricing_mono r.tokenPricing h.prompt
  have hcached := applyInputTokenPricing_bounds r.tokenPricing hu.cached h.cached
  have hcreation := applyInputTokenPricing_bounds r.tokenPricing u.promptTokensDetails.cacheCreationTokensTotal_nonneg h.creation
  have h5m := applyInputTokenPricing_bounds r.tokenPricing hu.creation5m h.creation5m
  have h1h := applyInputTokenPricing_bounds r.tokenPricing hu.creation1h h.creation1h
  have himage := applyInputTokenPricing_bounds r.tokenPricing hu.image h.image
  have haudio := applyInputTokenPricing_bounds r.tokenPricing hu.audio h.audio
  have hplain := h.plain
  have hremaining := h.remaining
  have hfirst : isLegacyClaudeDerivedOpenAIUsage r.format u = false → isLegacyClaudeDerivedOpenAIUsage r.format u' = true →
      applyInputTokenPricing r.tokenPricing u.claudeCacheCreation5mTokens = 0 ∧
        applyInputTokenPricing r.tokenPricing u.claudeCacheCreation1hTokens = 0 := by
    intro hnot hyes
    obtain ⟨hnone5m, hnone1h⟩ := hflip hnot hyes
    simp [hnone5m, hnone1h, applyInputTokenPricing, roundTokenCount]
  rw [RelayInfo.counted_eq hno, RelayInfo.counted_eq (h.not_infers hno)]
  simp only [RelayInfo.plainTokens, RelayInfo.promptContains, hclaude] at hplain hremaining
  -- the counts of the two summaries
  simp only [RelayInfo.summaryOf, Option.getD_some, hclaude]
  generalize isLegacyClaudeDerivedOpenAIUsage r.format u = legacy at *
  generalize isLegacyClaudeDerivedOpenAIUsage r.format u' = legacy' at *
  generalize r.isClaudeUsageSemantic (some u) = isClaude at *
  generalize r.openRouter = router at *
  have hsep : (!isClaude && !legacy') ≤ (!isClaude && !legacy) := by
    cases isClaude <;> cases legacy <;> cases legacy' <;> simp at hlegacy ⊢
  refine ⟨fun audioPrice => ?_, fun price => ?_, himage, hcached, ?_, applyOutputTokenPricing_bounds _ hu.completion h.completion,
    haudio, h.prompt, Int.add_le_add h.prompt h.completion⟩
  · rw [TextQuotaSummary.baseTokens_eq, TextQuotaSummary.baseTokens_eq]
    simp only [TextQuotaSummary.separates]
    cases router <;> cases isClaude <;> cases legacy <;> cases legacy' <;>
      simp only [Bool.not_true, Bool.not_false, Bool.and_true, Bool.and_false, Bool.false_eq_true, if_true,
        if_false, forall_true_left] at hplain hlegacy ⊢ <;> split <;> omega
  · rw [TextQuotaSummary.cachedCreationTokensWithRatio_eq h5m.1 h1h.1,
      TextQuotaSummary.cachedCreationTokensWithRatio_eq (h5m.1.trans h5m.2) (h1h.1.trans h1h.2)]
    refine creationCharge_mono price hsep (fun hyes hno => hfirst ?_ ?_) hcreation h5m h1h hremaining
    all_goals
      revert hyes hno
      cases isClaude <;> cases legacy <;> cases legacy' <;> simp [TextQuotaSummary.separates]
  · simp only [TextQuotaSummary.totalInput]
    rw [cacheWriteTokensTotal_eq h5m.1 h1h.1 hcreation.1,
      cacheWriteTokensTotal_eq (h5m.1.trans h5m.2) (h1h.1.trans h1h.2) (hcreation.1.trans hcreation.2)]
    refine input_mono hsep ?_ hcached.2 (max_le_max hcreation.2 (Int.add_le_add h5m.2 h1h.2))
    cases router <;> cases isClaude <;>
      simp only [Bool.and_true, Bool.and_false, Bool.false_eq_true, if_true, if_false] at hplain ⊢ <;> omega

/-! ### The quota of a request -/

def RelayInfo.withoutOffset (r : RelayInfo) : RelayInfo := { r with priceData := { r.priceData with cacheBillingOffsetBps := 0 } }

lemma TextQuotaSummary.Fresh.quotaOf_le_offset (h : s.Fresh) (hratio : r.priceData.cacheRatio ≤ 1) :
    r.quotaOf s ≤ r.quotaOf (applyCacheBillingOffset r.priceData s) := by
  obtain ⟨hcompletion, haudio, hrawPrompt, hrawTotal⟩ := h.settled_fields r.priceData
  have hbillable : r.hasBillableUsage (applyCacheBillingOffset r.priceData s) = r.hasBillableUsage s := by
    rw [RelayInfo.hasBillableUsage, RelayInfo.hasBillableUsage, hrawTotal]
  refine RelayInfo.quotaOf_mono hrawTotal.ge (fun hfree => ?_) fun _ => RelayInfo.exactQuota_mono ?_ haudio.ge
  · rw [r.quotaOf_eq, if_pos (hbillable.trans hfree)]
  · have hlong : r.isLongContext (applyCacheBillingOffset r.priceData s) = r.isLongContext s := by
      rw [RelayInfo.isLongContext, RelayInfo.isLongContext, hrawPrompt]
    have hprompt : s.promptQuota r.priceData (geminiInputAudioPricePerMillionTokens r.originModelName) ≤
        (applyCacheBillingOffset r.priceData s).promptQuota r.priceData
          (geminiInputAudioPricePerMillionTokens r.originModelName) := by
      -- without an offset the same decomposition holds with nothing moved
      have hplain := h.promptQuota { r.priceData with cacheBillingOffsetBps := 0 }
        (geminiInputAudioPricePerMillionTokens r.originModelName)
      rw [applyCacheBillingOffset_of_not_hasOffset (by simp [PriceData.hasOffset]), h.reclassified] at hplain
      obtain ⟨total, m, hm, -, heq⟩ := h.offset r.priceData
      have hmoved : (applyCacheBillingOffset r.priceData s).cacheReclassifiedTokens = m := by rw [heq]
      have hle : (r.priceData.cacheRatio : ℚ) ≤ 1 := by exact_mod_cast hratio
      have hmq : (0 : ℚ) ≤ m := by exact_mod_cast hm
      have hdiff := mul_nonneg hmq (sub_nonneg.2 hle)
      rw [h.promptQuota r.priceData, hmoved]
      refine hplain.le.trans ?_
      simp only [Int.cast_zero, zero_mul, add_zero]
      exact le_add_of_nonneg_right hdiff
    unfold RelayInfo.weighted
    simp only [hlong, completionQuota, hcompletion]
    split <;> linarith

/-- **The quota is never negative, it grows with the counts, and the offset never lowers it.** -/
theorem quota_nonneg_and_mono (r : RelayInfo) :
    (∀ usage : Option Usage, (∀ u ∈ usage, 0 ≤ u.promptTokensDetails.audioTokens) →
      0 ≤ (calculateTextQuotaSummary r usage).2) ∧
    (∀ u u', u.NonNegative → u.Grows r u' → ¬r.Infers u → (r.priceData.hasOffset → r.priceData.cacheRatio ≤ 1) →
      (calculateTextQuotaSummary r (some u)).2 ≤ (calculateTextQuotaSummary r (some u')).2) ∧
    (r.priceData.cacheRatio ≤ 1 → ∀ usage,
      (calculateTextQuotaSummary r.withoutOffset usage).2 ≤ (calculateTextQuotaSummary r usage).2) := by
  refine ⟨fun usage haudio => ?_, fun u u' hu hgrows hno hratio => ?_, fun hratio usage => ?_⟩
  · apply RelayInfo.quotaOf_nonneg
    have hfresh := r.adjustOpenRouter_fresh (usage.getD r.estimatedUsage) usage
    rw [RelayInfo.settled, (hfresh.settled_fields r.priceData).2.1]
    have hadjust : (r.adjustOpenRouter (usage.getD r.estimatedUsage) (r.summaryOf usage)).audioTokens =
        applyInputTokenPricing r.tokenPricing (usage.getD r.estimatedUsage).promptTokensDetails.audioTokens := by
      unfold RelayInfo.adjustOpenRouter
      split <;> rfl
    rw [hadjust]
    refine applyInputTokenPricing_nonneg _ ?_
    cases usage with
    | none => exact le_rfl
    | some u => exact haudio u rfl
  · exact (hgrows.counted hu hno).quotaOf (r.adjustOpenRouter_fresh u _) (r.adjustOpenRouter_fresh u' _) hratio
  · have hfresh := r.adjustOpenRouter_fresh (usage.getD r.estimatedUsage) usage
    have hoff : r.withoutOffset.settled usage = r.adjustOpenRouter (usage.getD r.estimatedUsage) (r.summaryOf usage) :=
      applyCacheBillingOffset_of_not_hasOffset (by simp [PriceData.hasOffset, RelayInfo.withoutOffset]) _
    have hquota : (calculateTextQuotaSummary r.withoutOffset usage).2 =
        r.quotaOf (r.adjustOpenRouter (usage.getD r.estimatedUsage) (r.summaryOf usage)) := by
      rw [← hoff]
      rfl
    rw [hquota]
    exact hfresh.quotaOf_le_offset hratio

def cachedRecord (prompt cached : ℤ) : Usage :=
  { promptTokens := prompt, promptTokensDetails := { cachedTokens := cached } }

theorem quota_nonneg_and_mono_cached :
    0 ≤ (calculateTextQuotaSummary { priceData := { cacheRatio := 1 / 10, cacheBillingOffsetBps := 2000 } }
        (some (cachedRecord 100 50))).2 ∧
      (calculateTextQuotaSummary { priceData := { cacheRatio := 1 / 10, cacheBillingOffsetBps := 2000 } }
        (some (cachedRecord 100 50))).2 ≤
      (calculateTextQuotaSummary { priceData := { cacheRatio := 1 / 10, cacheBillingOffsetBps := 2000 } }
        (some (cachedRecord 110 60))).2 ∧
      (calculateTextQuotaSummary { priceData := { cacheRatio := 1 / 10, cacheBillingOffsetBps := 0 } }
        (some (cachedRecord 100 50))).2 ≤
      (calculateTextQuotaSummary { priceData := { cacheRatio := 1 / 10, cacheBillingOffsetBps := 2000 } }
        (some (cachedRecord 100 50))).2 := by
  have hratio : (1 / 10 : ℚ≥0) ≤ 1 := by decide +kernel
  obtain ⟨hnonneg, hmono, hoffset⟩ :=
    quota_nonneg_and_mono { priceData := { cacheRatio := 1 / 10, cacheBillingOffsetBps := 2000 } }
  refine ⟨hnonneg _ ?_, hmono _ _ ?_ ?_ ?_ fun _ => hratio, hoffset hratio _⟩
  · decide
  · constructor <;> decide
  · constructor <;> decide
  · rintro ⟨hrouter, -⟩
    exact absurd hrouter (by decide)

/-- A negative audio count makes the charge negative; a cache price above the full price, roundings of the parts each for
itself, and a cheap lifetime that takes over tokens of the cache creation, make it fall. -/
theorem quota_not_mono :
    (calculateTextQuotaSummary { originModelName := "gemini-2.5-flash", priceData := { modelRatio := 0 } }
      (some { promptTokens := 1, promptTokensDetails := { audioTokens := -10 } })).2 = -5 ∧
    (let r : RelayInfo := { priceData := { cacheRatio := 4, cacheBillingOffsetBps := 5000 } };
      (calculateTextQuotaSummary r (some (cachedRecord 10000 10000))).2 = 25000 ∧
        (calculateTextQuotaSummary r (some (cachedRecord 12000 10000))).2 = 24000) ∧
    (let r : RelayInfo := { priceData := { cacheRatio := 1 / 10, modelRatio := 100 }, tokenPricing := ⟨true, 1 / 2, 1⟩ };
      (calculateTextQuotaSummary r (some (cachedRecord 3 2))).2 = 110 ∧
        (calculateTextQuotaSummary r (some (cachedRecord 4 3))).2 = 20) ∧
    (let r : RelayInfo :=
        { priceData := { cacheCreationRatio := 11 }, openRouter := true, format := .claude, defaultModelRatio := fun _ => some 1 };
      (calculateTextQuotaSummary r (some { promptTokens := 100, cost := .float (115 / 500000) })).2 = 120 ∧
        (calculateTextQuotaSummary r (some { promptTokens := 101, cost := .float (115 / 500000) })).2 = 111) ∧
    (let r : RelayInfo := { priceData := { cacheCreationRatio := 5 / 4, cacheCreation5mRatio := 1 / 2 }, format := .claude };
      let u : Usage := { promptTokens := 10, promptTokensDetails := { cachedCreationTokens := 100 } };
      (calculateTextQuotaSummary r (some u)).2 = 135 ∧
        (calculateTextQuotaSummary r (some { u with claudeCacheCreation5mTokens := 50 })).2 = 98) := by
  decide +kernel

end StarNexus.Pricing
