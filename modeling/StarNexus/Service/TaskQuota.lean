import StarNexus.Pricing.Monotone
import StarNexus.Service.Realtime

/-!
# The final quota of a task that is billed by tokens

A finished task is settled on one of two paths, `calculateDurableTaskFinalQuota` of `task_billing_durable.go` and
`RecalculateTaskQuotaByTokenDetails` of `task_billing.go`.  For video tasks both price the prompt as text and the completion
as video, each part saturated on its own.  They part company where the report has no completion tokens, the context of the
task lacks a ratio, or one of them keeps the reserved quota.
-/

namespace StarNexus.Service

open Pricing Int

/-- `QuotaFromFloat`: cut off, and kept within an `int32`. -/
def quotaFromFloat (value : ℚ) : ℤ :=
  if 2147483647 ≤ value then 2147483647 else if value ≤ -2147483648 then -2147483648
  else if 0 ≤ value then ⌊value⌋ else ⌈value⌉

structure TokenBillingContext where
  videoTokenBilling : Bool := true
  modelRatio : ℚ := 0
  groupRatio : ℚ := 0
  otherRatios : List (String × ℚ) := []

namespace TokenBillingContext

variable (bc : TokenBillingContext)

def ratioOf (key : String) : ℚ := (bc.otherRatios.lookup key).getD 0

def videoMultiplier : ℚ :=
  if 0 < bc.ratioOf "video_input" then bc.ratioOf "video_input"
  else if 0 < bc.ratioOf "size" then bc.ratioOf "size" else 1

def otherMultiplier : ℚ := bc.otherRatios.foldl (fun m r => if r.2 ≠ 1 ∧ 0 < r.2 then m * r.2 else m) 1

end TokenBillingContext

structure FinishedTask where
  quota : ℤ
  billingContext : Option TokenBillingContext
  group : String := "default"
  /-- The group of the user, empty if the user cannot be loaded. -/
  userGroup : String := ""
  tokenPricing : EffectiveTokenPricing := {}
  quotaPerUnit : ℚ := 500000
  /-- `GetModelRatio`, if the model has a ratio. -/
  modelRatio : Option ℚ := none
  getGroupRatio : String → ℚ := fun _ => 1
  getGroupGroupRatio : String → String → Option ℚ := fun _ _ => none

namespace FinishedTask

variable (t : FinishedTask) (total completion : ℤ)

def videoTokens : ℤ := min (max completion 0) total

def billingPrompt : ℤ := applyInputTokenPricing t.tokenPricing (total - videoTokens total completion)

def billingCompletion : ℤ := applyOutputTokenPricing t.tokenPricing (videoTokens total completion)

def partsQuota (bc : TokenBillingContext) (ratio : ℚ) : ℤ :=
  quotaFromFloat (t.billingPrompt total completion * ratio) +
    quotaFromFloat (t.billingCompletion total completion * ratio * bc.videoMultiplier)

def withMinimum (quota : ℤ) (billable : Bool) : ℤ :=
  applyMinimumTokenConsumeQuota t.quotaPerUnit quota (t.billingPrompt total completion + t.billingCompletion total completion)
    billable

def calculateDurableTaskFinalQuota : ℤ :=
  if total ≤ 0 then t.quota
  else match t.billingContext with
    | none => t.quota
    | some bc =>
      if bc.videoTokenBilling = false ∨ bc.modelRatio ≤ 0 ∨ bc.groupRatio ≤ 0 then t.quota
      else t.withMinimum total completion (t.partsQuota total completion bc (bc.modelRatio * bc.groupRatio))
        (0 < bc.modelRatio ∧ 0 < bc.groupRatio)

/-! ### The legacy path -/

def frozen (ratio : TokenBillingContext → ℚ) : Option ℚ :=
  t.billingContext.bind fun bc => if bc.videoTokenBilling ∧ 0 < ratio bc then some (ratio bc) else none

def usedModelRatio : Option ℚ := (t.frozen TokenBillingContext.modelRatio).or t.modelRatio

def usedGroup : String := if t.group = "" then t.userGroup else t.group

def usedGroupRatio : ℚ :=
  (t.frozen TokenBillingContext.groupRatio).getD
    ((t.getGroupGroupRatio t.usedGroup t.usedGroup).getD (t.getGroupRatio t.usedGroup))

def actualQuota (ratio : ℚ) : ℤ :=
  match t.billingContext with
  | none => quotaFromFloat (((t.billingPrompt total completion + t.billingCompletion total completion : ℤ) : ℚ) * ratio)
  | some bc =>
    if bc.videoTokenBilling ∧ 0 < videoTokens total completion then t.partsQuota total completion bc ratio
    else quotaFromFloat (((t.billingPrompt total completion + t.billingCompletion total completion : ℤ) : ℚ) * ratio *
      bc.otherMultiplier)

/-- The quota that `RecalculateTaskQuotaByTokenDetails` hands to `RecalculateTaskQuotaWithOther`, if it does. -/
def recalculated : Option ℤ :=
  if total ≤ 0 then none
  else match t.usedModelRatio with
    | none => none
    | some modelRatio =>
      if modelRatio ≤ 0 ∨ t.usedGroup = "" then none
      else some (t.withMinimum total completion (t.actualQuota total completion (modelRatio * t.usedGroupRatio))
        (0 < t.usedGroupRatio ∧ 0 < modelRatio))

/-- The quota to which `RecalculateTaskQuotaByTokenDetails` adjusts the task; only a positive one is taken over. -/
def recalculateTaskQuotaByTokenDetails : ℤ :=
  match t.recalculated total completion with
  | none => t.quota
  | some quota => if quota ≤ 0 then t.quota else quota

/-! ### Arithmetic -/

variable {t total completion} {bc : TokenBillingContext}

lemma quotaFromFloat_of_nonneg {v : ℚ} (h : 0 ≤ v) : quotaFromFloat v = min 2147483647 ⌊v⌋ := by
  unfold quotaFromFloat
  split_ifs with hmax hmin
  · have hfloor : 2147483647 ≤ ⌊v⌋ := le_floor.2 (by exact_mod_cast hmax)
    omega
  · linarith
  · have hfloor : ⌊v⌋ < 2147483647 := floor_lt.2 (by exact_mod_cast not_le.1 hmax)
    omega

lemma quotaFromFloat_le (v : ℚ) : quotaFromFloat v ≤ 2147483647 := by
  unfold quotaFromFloat
  split_ifs with hmax hmin hv
  · exact le_rfl
  · decide
  · exact (floor_lt.2 (by exact_mod_cast not_le.1 hmax)).le
  · exact ceil_le.2 (by exact_mod_cast (not_le.1 hmax).le)

lemma quotaFromFloat_nonpos {v : ℚ} (h : v ≤ 0) : quotaFromFloat v ≤ 0 := by
  unfold quotaFromFloat
  split_ifs with hmax hmin hv
  · linarith
  · decide
  · obtain rfl := le_antisymm h hv
    simp
  · exact ceil_le.2 (by exact h)

lemma videoMultiplier_pos (bc : TokenBillingContext) : 0 < bc.videoMultiplier := by
  unfold TokenBillingContext.videoMultiplier
  split_ifs with hinput hsize
  · exact hinput
  · exact hsize
  · exact one_pos

lemma billing_nonneg (t : FinishedTask) (completion : ℤ) (htotal : 0 < total) :
    0 ≤ t.billingPrompt total completion ∧ 0 ≤ t.billingCompletion total completion := by
  constructor
  · apply applyInputTokenPricing_nonneg
    unfold videoTokens
    omega
  · refine (applyOutputTokenPricing_bounds _ ?_ le_rfl).1
    unfold videoTokens
    omega

section

variable (t : FinishedTask) (total completion quota : ℤ) (billable : Bool)

lemma withMinimum_eq : t.withMinimum total completion quota billable = quota ∨
      ∃ m, 0 ≤ m ∧ m ≤ 2147483647 ∧ t.withMinimum total completion quota billable = max quota m := by
  unfold withMinimum applyMinimumTokenConsumeQuota
  split_ifs with hskip
  · exact .inl rfl
  · have hpos : 0 < t.quotaPerUnit := not_le.1 fun h => hskip (.inr (.inr h))
    have hm : 0 ≤ quotaFromDecimal (1 / 1000 * t.quotaPerUnit) := quotaFromDecimal_nonneg (by positivity)
    refine .inr ⟨quotaFromDecimal _, hm, ?_, ?_⟩
    · rw [quotaFromDecimal_eq]
      omega
    · dsimp only
      split_ifs <;> omega

lemma withMinimum_bounds : quota ≤ t.withMinimum total completion quota billable ∧
    (t.withMinimum total completion quota billable ≤ 2147483647 ↔ quota ≤ 2147483647) := by
  rcases withMinimum_eq t total completion quota billable with h | ⟨m, hm, hmax, h⟩
  all_goals
    omega

end

/-! ### Where both paths agree -/

lemma frozen_eq (hbc : t.billingContext = some bc) (hvideo : bc.videoTokenBilling = true) {ratio : TokenBillingContext → ℚ}
    (h : 0 < ratio bc) : t.frozen ratio = some (ratio bc) := by
  simp [frozen, hbc, hvideo, h]

lemma used_ratios (hbc : t.billingContext = some bc) (hvideo : bc.videoTokenBilling = true) (hmodel : 0 < bc.modelRatio)
    (hgroup : 0 < bc.groupRatio) : t.usedModelRatio = some bc.modelRatio ∧ t.usedGroupRatio = bc.groupRatio := by
  unfold usedModelRatio usedGroupRatio
  rw [frozen_eq hbc hvideo hmodel, frozen_eq hbc hvideo hgroup]
  exact ⟨rfl, rfl⟩

section

variable (hbc : t.billingContext = some bc) (hvideo : bc.videoTokenBilling = true) (htotal : 0 < total) (completion)

include hbc hvideo htotal

end

def twiceSized : FinishedTask where
  quota := 1000
  billingContext := some { modelRatio := 1, groupRatio := 1, otherRatios := [("size", 2)] }

def InRange (quota : ℤ) : Prop := 0 ≤ quota ∧ quota ≤ 2147483647

/-- The exact prices of the text part and of the video part do not exceed the range together, or one of them is nothing. -/
def PartsFit (t : FinishedTask) (total completion : ℤ) (bc : TokenBillingContext) (ratio : ℚ) : Prop :=
  let text := t.billingPrompt total completion * ratio
  let video := t.billingCompletion total completion * ratio * bc.videoMultiplier
  text < 1 ∨ video < 1 ∨ ⌊text⌋ + ⌊video⌋ ≤ 2147483647

/-- The parts fit if they are added, with the ratios and the report of the path. -/
def Fits (t : FinishedTask) (total completion : ℤ) : Prop :=
  ∀ bc modelRatio, t.billingContext = some bc → bc.videoTokenBilling = true → 0 < total →
    t.usedModelRatio = some modelRatio → 0 < modelRatio →
      (0 < bc.modelRatio ∧ 0 < bc.groupRatio) ∨ (t.usedGroup ≠ "" ∧ 0 < completion) →
        PartsFit t total completion bc (modelRatio * t.usedGroupRatio)

lemma lt_one_iff_floor (v : ℚ) : v < 1 ↔ ⌊v⌋ ≤ 0 := by
  rw [← lt_add_one_iff, floor_lt]
  norm_num

section

variable (t : FinishedTask) (completion : ℤ) (htotal : 0 < total) (bc : TokenBillingContext)

include htotal

lemma partsQuota_le_iff (ratio : ℚ) :
    t.partsQuota total completion bc ratio ≤ 2147483647 ↔ PartsFit t total completion bc ratio := by
  obtain ⟨hp, hc⟩ := billing_nonneg t completion htotal
  have hp' : (0 : ℚ) ≤ t.billingPrompt total completion := by exact_mod_cast hp
  have hc' : (0 : ℚ) ≤ t.billingCompletion total completion := by exact_mod_cast hc
  have hv := videoMultiplier_pos bc
  unfold partsQuota PartsFit
  by_cases hr : 0 ≤ ratio
  · have htext : 0 ≤ t.billingPrompt total completion * ratio := mul_nonneg hp' hr
    have hvideo : 0 ≤ t.billingCompletion total completion * ratio * bc.videoMultiplier :=
      mul_nonneg (mul_nonneg hc' hr) hv.le
    dsimp only
    rw [quotaFromFloat_of_nonneg htext, quotaFromFloat_of_nonneg hvideo, lt_one_iff_floor, lt_one_iff_floor]
    omega
  · have htext : t.billingPrompt total completion * ratio ≤ 0 := mul_nonpos_of_nonneg_of_nonpos hp' (not_le.1 hr).le
    have hvideo : t.billingCompletion total completion * ratio * bc.videoMultiplier ≤ 0 :=
      mul_nonpos_of_nonpos_of_nonneg (mul_nonpos_of_nonneg_of_nonpos hc' (not_le.1 hr).le) hv.le
    have hle := quotaFromFloat_nonpos htext
    have hle' := quotaFromFloat_nonpos hvideo
    exact iff_of_true (by omega) (.inl (by linarith))

lemma partsQuota_nonneg {ratio : ℚ} (hr : 0 ≤ ratio) : 0 ≤ t.partsQuota total completion bc ratio := by
  obtain ⟨hp, hc⟩ := billing_nonneg t completion htotal
  have hp' : (0 : ℚ) ≤ t.billingPrompt total completion * ratio := mul_nonneg (by exact_mod_cast hp) hr
  have hc' : (0 : ℚ) ≤ t.billingCompletion total completion * ratio * bc.videoMultiplier :=
    mul_nonneg (mul_nonneg (by exact_mod_cast hc) hr) (videoMultiplier_pos bc).le
  have hfloor := floor_nonneg.2 hp'
  have hfloor' := floor_nonneg.2 hc'
  unfold partsQuota
  rw [quotaFromFloat_of_nonneg hp', quotaFromFloat_of_nonneg hc']
  omega

end

lemma durable_inRange_iff (hquota : InRange t.quota) (htotal : 0 < total) :
    InRange (t.calculateDurableTaskFinalQuota total completion) ↔ ∀ bc, t.billingContext = some bc →
      bc.videoTokenBilling = true → 0 < bc.modelRatio → 0 < bc.groupRatio →
        PartsFit t total completion bc (bc.modelRatio * bc.groupRatio) := by
  unfold calculateDurableTaskFinalQuota
  rw [if_neg (not_le.2 htotal)]
  cases hbc : t.billingContext with
  | none => exact iff_of_true hquota nofun
  | some bc =>
    dsimp only
    split_ifs with hskip
    · refine iff_of_true hquota fun bc' h hvideo hmodel hgroup => ?_
      cases h
      rcases hskip with h | h | h
      · simp [hvideo] at h
      all_goals linarith
    · obtain ⟨hvideo, hmodel, hgroup⟩ : bc.videoTokenBilling = true ∧ 0 < bc.modelRatio ∧ 0 < bc.groupRatio := by
        simpa using hskip
      obtain ⟨hlow, hhigh⟩ := withMinimum_bounds t total completion
        (t.partsQuota total completion bc (bc.modelRatio * bc.groupRatio)) (0 < bc.modelRatio ∧ 0 < bc.groupRatio)
      have hnonneg := partsQuota_nonneg t completion htotal bc (mul_nonneg hmodel.le hgroup.le)
      rw [InRange, and_iff_right (hnonneg.trans hlow), hhigh, partsQuota_le_iff t completion htotal]
      constructor
      · rintro hfit bc' h - - -
        cases h
        exact hfit
      · exact fun hfit => hfit bc rfl hvideo hmodel hgroup

lemma actualQuota_le_iff (t : FinishedTask) (completion : ℤ) (htotal : 0 < total) (ratio : ℚ) :
    t.actualQuota total completion ratio ≤ 2147483647 ↔ ∀ bc, t.billingContext = some bc →
      bc.videoTokenBilling = true → 0 < completion → PartsFit t total completion bc ratio := by
  unfold actualQuota
  cases hbc : t.billingContext with
  | none => exact iff_of_true (quotaFromFloat_le _) nofun
  | some bc =>
    have htokens : 0 < videoTokens total completion ↔ 0 < completion := by
      unfold videoTokens
      omega
    dsimp only
    split_ifs with hvideo
    · rw [partsQuota_le_iff t completion htotal]
      constructor
      · rintro hfit bc' h - -
        cases h
        exact hfit
      · exact fun hfit => hfit bc rfl hvideo.1 (htokens.1 hvideo.2)
    · refine iff_of_true (quotaFromFloat_le _) fun bc' h hv hc => absurd ⟨?_, htokens.2 hc⟩ hvideo
      cases h
      exact hv

lemma legacy_inRange_iff (hquota : InRange t.quota) (htotal : 0 < total) :
    InRange (t.recalculateTaskQuotaByTokenDetails total completion) ↔ ∀ bc modelRatio, t.billingContext = some bc →
      bc.videoTokenBilling = true → t.usedModelRatio = some modelRatio → 0 < modelRatio → t.usedGroup ≠ "" →
        0 < completion → PartsFit t total completion bc (modelRatio * t.usedGroupRatio) := by
  unfold recalculateTaskQuotaByTokenDetails recalculated
  rw [if_neg (not_le.2 htotal)]
  cases hmodel : t.usedModelRatio with
  | none => exact iff_of_true hquota nofun
  | some modelRatio =>
    dsimp only
    by_cases hskip : modelRatio ≤ 0 ∨ t.usedGroup = ""
    · rw [if_pos hskip]
      refine iff_of_true hquota fun bc m _ _ h hpos hgroup => ?_
      cases h
      exact absurd hskip (by simp [hpos, hgroup])
    rw [if_neg hskip]
    obtain ⟨hpos, hgroup⟩ : 0 < modelRatio ∧ t.usedGroup ≠ "" := by simpa using hskip
    obtain ⟨hlow, hhigh⟩ := withMinimum_bounds t total completion
      (t.actualQuota total completion (modelRatio * t.usedGroupRatio)) (0 < t.usedGroupRatio ∧ 0 < modelRatio)
    -- a quota that is not positive is not taken over, and then the parts are within the range
    have hstored : ∀ quota : ℤ, InRange (if quota ≤ 0 then t.quota else quota) ↔ quota ≤ 2147483647 := by
      intro quota
      have hq := hquota
      unfold InRange at hq ⊢
      split_ifs <;> omega
    rw [hstored, hhigh, actualQuota_le_iff t completion htotal]
    constructor
    · rintro hfit bc m hbc hvideo h - - hc
      cases h
      exact hfit bc hbc hvideo hc
    · exact fun hfit bc hbc hvideo hc => hfit bc modelRatio hbc hvideo rfl hpos hgroup hc

/-- **The final quotas of both paths are within the range of a quota** exactly if the parts that are added fit. -/
theorem finalQuota_inRange_iff (t : FinishedTask) (hquota : InRange t.quota) (total completion : ℤ) :
    (InRange (t.calculateDurableTaskFinalQuota total completion) ∧
      InRange (t.recalculateTaskQuotaByTokenDetails total completion)) ↔ Fits t total completion := by
  by_cases htotal : 0 < total
  · rw [durable_inRange_iff hquota htotal, legacy_inRange_iff hquota htotal]
    constructor
    · rintro ⟨hdurable, hlegacy⟩ bc modelRatio hbc hvideo - hmodel hpos (⟨hm, hg⟩ | ⟨hgroup, hc⟩)
      · obtain ⟨hused, hratio⟩ := used_ratios hbc hvideo hm hg
        obtain rfl : bc.modelRatio = modelRatio := Option.some.inj (hused.symm.trans hmodel)
        rw [hratio]
        exact hdurable bc hbc hvideo hm hg
      · exact hlegacy bc modelRatio hbc hvideo hmodel hpos hgroup hc
    · refine fun hfits => ⟨fun bc hbc hvideo hm hg => ?_, fun bc modelRatio hbc hvideo hmodel hpos hgroup hc =>
        hfits bc modelRatio hbc hvideo htotal hmodel hpos (.inr ⟨hgroup, hc⟩)⟩
      obtain ⟨hused, hratio⟩ := used_ratios hbc hvideo hm hg
      rw [← hratio]
      exact hfits bc bc.modelRatio hbc hvideo htotal hused hm (.inl ⟨hm, hg⟩)
  · have hle := not_lt.1 htotal
    refine iff_of_true ?_ fun _ _ _ _ h => absurd h htotal
    unfold calculateDurableTaskFinalQuota recalculateTaskQuotaByTokenDetails recalculated
    rw [if_pos hle, if_pos hle]
    exact ⟨hquota, hquota⟩

theorem finalQuota_inRange_twiceSized : InRange 1000 ∧
    ((InRange (twiceSized.calculateDurableTaskFinalQuota 5000 4000) ∧
      InRange (twiceSized.recalculateTaskQuotaByTokenDetails 5000 4000)) ↔ Fits twiceSized 5000 4000) :=
  ⟨⟨by decide, by decide⟩, finalQuota_inRange_iff twiceSized ⟨by decide, by decide⟩ 5000 4000⟩

/-- Both parts are saturated, and their sum is not. -/
theorem finalQuota_out_of_range :
    twiceSized.calculateDurableTaskFinalQuota 4294967294 2147483647 = 4294967294 ∧
      twiceSized.recalculateTaskQuotaByTokenDetails 4294967294 2147483647 = 4294967294 := by
  decide +kernel

end FinishedTask

end StarNexus.Service
