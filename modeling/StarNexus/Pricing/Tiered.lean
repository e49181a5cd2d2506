import StarNexus.Lib.Double
import StarNexus.Pricing.Usage

/-!
# The variables of a tiered expression

`BuildTieredTokenParamsForContext` turns a usage record into the variables of a billing expression.  `p` stands for the
input tokens that the expression does not price by a variable of their own: under the semantics of OpenAI the referenced
categories are subtracted from the prompt total, under those of Anthropic the total does not contain them.
-/

namespace StarNexus.Pricing

open Lib

/-- `TokenParams`; every field is a `float64` that holds a whole number. -/
structure TokenParams where
  p : ℤ
  c : ℤ
  len : ℤ
  cr : ℤ
  cc : ℤ
  cc1h : ℤ
  img : ℤ
  imgO : ℤ
  ai : ℤ
  ao : ℤ
  billingInputTotal : ℤ

def subtractIf (used : Bool) (x y : ℤ) : ℤ := if used then double (x - y) else x

/-- The cache creation as `cc`, `cc1h` and their total; only a record tagged `anthropic` is read with its split. -/
def tieredCacheCreation (usage : Usage) (pricing : EffectiveTokenPricing) : ℤ × ℤ × ℤ :=
  let total := double (applyInputTokenPricing pricing usage.promptTokensDetails.cacheCreationTokensTotal)
  if usage.usageSemantic = "anthropic" then
    let cc1h := double (applyInputTokenPricing pricing usage.claudeCacheCreation1hTokens)
    let cc5m := double (applyInputTokenPricing pricing usage.claudeCacheCreation5mTokens)
    (cc5m, cc1h, if total < double (cc5m + cc1h) then double (cc5m + cc1h) else total)
  else (total, 0, total)

def buildTieredTokenParamsForContext (usage : Usage) (isClaudeUsageSemantic : Bool) (usedVars : String → Bool)
    (pricing : EffectiveTokenPricing) : TokenParams :=
  let p := double (applyInputTokenPricing pricing usage.promptTokens)
  let c := double (applyOutputTokenPricing pricing usage.completionTokens)
  let cr := double (applyInputTokenPricing pricing usage.promptTokensDetails.cachedTokens)
  let creation := tieredCacheCreation usage pricing
  let cc5m := creation.1
  let cc1h := creation.2.1
  let cacheCreationTotal := creation.2.2
  let img := double (applyInputTokenPricing pricing usage.promptTokensDetails.imageTokens)
  let ai := double (applyInputTokenPricing pricing usage.promptTokensDetails.audioTokens)
  let imgO := double (applyOutputTokenPricing pricing usage.completionTokenDetails.imageTokens)
  let ao := double (applyOutputTokenPricing pricing usage.completionTokenDetails.audioTokens)
  let inputLen := if isClaudeUsageSemantic then
      double (usage.promptTokens + usage.promptTokensDetails.cachedTokens + usage.claudeCacheCreation5mTokens +
        usage.claudeCacheCreation1hTokens)
    else double usage.promptTokens
  let billingInputTotal := if isClaudeUsageSemantic then double (p + double (cr + cacheCreationTotal))
    else
      let uncachedInput := double (double (p - cr) - cacheCreationTotal)
      let uncachedInput := if uncachedInput < 0 then 0 else uncachedInput
      double (double (uncachedInput + cr) + cacheCreationTotal)
  let p' := if isClaudeUsageSemantic then p
    else subtractIf (usedVars "ai") (subtractIf (usedVars "img") (subtractIf (usedVars "cc1h")
      (subtractIf (usedVars "cc") (subtractIf (usedVars "cr") p cr) cc5m) cc1h) img) ai
  let c' := if isClaudeUsageSemantic then c
    else subtractIf (usedVars "ao") (subtractIf (usedVars "img_o") c imgO) ao
  { p := if p' < 0 then 0 else p'
    c := if c' < 0 then 0 else c'
    len := inputLen, cr := cr, cc := cc5m, cc1h := cc1h, img := img, imgO := imgO, ai := ai, ao := ao
    billingInputTotal := billingInputTotal }

/-! ### Every input token once -/

def referenced (usedVars : String → Bool) (name : String) (value : ℤ) : ℤ := if usedVars name then value else 0

/-- **The prompt variable and the referenced input categories add up to the total input.** -/
def PricedOnce (usedVars : String → Bool) (t : TokenParams) : Prop :=
  t.p + t.cr + t.cc + t.cc1h + referenced usedVars "img" t.img + referenced usedVars "ai" t.ai = t.billingInputTotal

def Usage.creation (u : Usage) : ℤ :=
  if u.usageSemantic = "anthropic" then
    max u.promptTokensDetails.cacheCreationTokensTotal (u.claudeCacheCreation5mTokens + u.claudeCacheCreation1hTokens)
  else u.promptTokensDetails.cacheCreationTokensTotal

/-- The counts are not negative, and those that the prompt total contains are disjoint parts of it. -/
structure Usage.Disjoint (u : Usage) (isClaudeUsageSemantic : Bool) : Prop where
  prompt : 0 ≤ u.promptTokens
  cached : 0 ≤ u.promptTokensDetails.cachedTokens
  creation5m : 0 ≤ u.claudeCacheCreation5mTokens
  creation1h : 0 ≤ u.claudeCacheCreation1hTokens
  image : 0 ≤ u.promptTokensDetails.imageTokens
  audio : 0 ≤ u.promptTokensDetails.audioTokens
  within : (if isClaudeUsageSemantic then 0 else u.promptTokensDetails.cachedTokens + u.creation) +
    u.promptTokensDetails.imageTokens + u.promptTokensDetails.audioTokens ≤ u.promptTokens

/-- The tokens of the cache creation that the split of a record tagged `anthropic` leaves out. -/
def Usage.unsplit (u : Usage) : ℤ :=
  if u.usageSemantic = "anthropic" then
    u.creation - (u.claudeCacheCreation5mTokens + u.claudeCacheCreation1hTokens)
  else 0

variable {u : Usage} {isClaude : Bool} {usedVars : String → Bool} {pricing : EffectiveTokenPricing}

/-- All input tokens of the record, those of the prompt that stand under a category counted again. -/
def Usage.inputSize (u : Usage) : ℤ :=
  u.promptTokens + u.promptTokensDetails.cachedTokens + u.creation + u.promptTokensDetails.imageTokens +
    u.promptTokensDetails.audioTokens

lemma Usage.creation_nonneg (u : Usage) : 0 ≤ u.creation := by
  unfold creation
  have htotal := u.promptTokensDetails.cacheCreationTokensTotal_nonneg
  omega

lemma referenced_bounds (usedVars : String → Bool) (name : String) {y : ℤ} (hy : 0 ≤ y) :
    0 ≤ referenced usedVars name y ∧ referenced usedVars name y ≤ y := by
  unfold referenced
  split_ifs <;> omega

lemma subtractIf_eq (name : String) {x y : ℤ} (hy : 0 ≤ y) (hle : y ≤ x) (hx : x ≤ 2 ^ 53) :
    subtractIf (usedVars name) x y = x - referenced usedVars name y := by
  unfold subtractIf referenced
  split
  · exact double_eq_self (by omega)
  · exact (Int.sub_zero x).symm

lemma tieredCacheCreation_eq (hp : pricing.enabled = false) (h5m : 0 ≤ u.claudeCacheCreation5mTokens)
    (h1h : 0 ≤ u.claudeCacheCreation1hTokens) (hsmall : u.creation ≤ 2 ^ 53) :
    tieredCacheCreation u pricing =
      if u.usageSemantic = "anthropic" then (u.claudeCacheCreation5mTokens, u.claudeCacheCreation1hTokens, u.creation)
      else (u.creation, 0, u.creation) := by
  have htotal := u.promptTokensDetails.cacheCreationTokensTotal_nonneg
  simp only [tieredCacheCreation, applyInputTokenPricing_disabled hp]
  unfold Usage.creation at hsmall ⊢
  split
  · next htag =>
    rw [if_pos htag] at hsmall
    rw [double_eq_self (by omega),
      double_eq_self (by omega),
      double_eq_self (by omega),
      double_eq_self (by omega)]
    congr 2
    split_ifs <;> omega
  · next htag =>
    rw [double_eq_self (by omega)]

/-- The record, its semantics and the referenced variables are such that nothing is left out or counted twice. -/
def Balanced (u : Usage) (isClaude : Bool) (usedVars : String → Bool) : Prop :=
  isClaude = true → u.unsplit = referenced usedVars "img" u.promptTokensDetails.imageTokens +
    referenced usedVars "ai" u.promptTokensDetails.audioTokens

/-- `cc`, `cc1h` and the total of the cache creation of the record. -/
structure Split (u : Usage) (a b t : ℤ) : Prop where
  first : 0 ≤ a
  second : 0 ≤ b
  total : t = u.creation
  rest : t - (a + b) = u.unsplit
  covers : a + b ≤ t

lemma exists_split (hp : pricing.enabled = false) (h5m : 0 ≤ u.claudeCacheCreation5mTokens)
    (h1h : 0 ≤ u.claudeCacheCreation1hTokens) (hsmall : u.creation ≤ 2 ^ 53) :
    ∃ a b t, tieredCacheCreation u pricing = (a, b, t) ∧ Split u a b t := by
  have hcreation := u.creation_nonneg
  rw [tieredCacheCreation_eq hp h5m h1h hsmall]
  split
  · next htag =>
    refine ⟨_, _, _, rfl, h5m, h1h, rfl, (if_pos htag).symm, ?_⟩
    rw [Usage.creation, if_pos htag]
    exact le_max_right _ _
  · next htag =>
    refine ⟨_, _, _, rfl, hcreation, le_rfl, rfl, ?_, by omega⟩
    rw [Usage.unsplit, if_neg htag]
    omega

/-- **Every input token is priced once** exactly if the record is balanced. -/
theorem input_priced_once_iff (hp : pricing.enabled = false) (hu : u.Disjoint isClaude) (hsmall : u.inputSize ≤ 2 ^ 53)
    (hcr : usedVars "cr" = true) (hcc : usedVars "cc" = true) (hcc1h : usedVars "cc1h" = true) :
    PricedOnce usedVars (buildTieredTokenParamsForContext u isClaude usedVars pricing) ↔ Balanced u isClaude usedVars := by
  obtain ⟨hprompt, hcached, h5m, h1h, himage, haudio, hwithin⟩ := hu
  unfold Usage.inputSize at hsmall
  obtain ⟨a, b, t, hsplit, ha, hb, ht, hrest, hcovers⟩ := exists_split hp h5m h1h (by omega)
  have ep := double_eq_self (n := u.promptTokens) (by omega)
  have ecr := double_eq_self (n := u.promptTokensDetails.cachedTokens) (by omega)
  have eimg := double_eq_self (n := u.promptTokensDetails.imageTokens) (by omega)
  have eai := double_eq_self (n := u.promptTokensDetails.audioTokens) (by omega)
  simp only [PricedOnce, buildTieredTokenParamsForContext, applyInputTokenPricing_disabled hp, hsplit, ep, ecr, eimg, eai]
  cases isClaude with
  | true =>
    -- the prompt total stays as it is, and the total input adds the cached tokens
    simp only [if_true, Balanced, true_imp_iff]
    rw [double_eq_self (n := u.promptTokensDetails.cachedTokens + t) (by omega),
      double_eq_self (by omega)]
    omega
  | false =>
    -- what the referenced categories take from the prompt total, their variables give back
    simp only [Bool.false_eq_true, if_false] at hwithin ⊢
    have rcr : referenced usedVars "cr" u.promptTokensDetails.cachedTokens = u.promptTokensDetails.cachedTokens := if_pos hcr
    have rcc : referenced usedVars "cc" a = a := if_pos hcc
    have rcc1h : referenced usedVars "cc1h" b = b := if_pos hcc1h
    have rimg := referenced_bounds usedVars "img" himage
    have rai := referenced_bounds usedVars "ai" haudio
    rw [subtractIf_eq "cr" hcached (by omega) (by omega), subtractIf_eq "cc" ha (by omega) (by omega), rcc,
      subtractIf_eq "cc1h" hb (by omega) (by omega), rcc1h, subtractIf_eq "img" himage (by omega) (by omega),
      subtractIf_eq "ai" haudio (by omega) (by omega), if_neg (by omega),
      double_eq_self (n := u.promptTokens - u.promptTokensDetails.cachedTokens) (by omega),
      double_eq_self (n := _ - t) (by omega), if_neg (by omega),
      double_eq_self (n := _ + u.promptTokensDetails.cachedTokens) (by omega),
      double_eq_self (by omega)]
    refine ⟨fun _ h => ?_, fun _ => by omega⟩
    cases h

def openAIRecord : Usage where
  promptTokens := 1000
  completionTokens := 20
  promptTokensDetails := { cachedTokens := 300, cacheWriteTokens := 100, imageTokens := 50 }

theorem input_priced_once_iff_openAI :
    PricedOnce (fun _ => true) (buildTieredTokenParamsForContext openAIRecord false (fun _ => true) {}) ∧
      (buildTieredTokenParamsForContext openAIRecord false (fun _ => true) {}).p = 550 := by
  refine ⟨(input_priced_once_iff rfl ?_ (by decide) rfl rfl rfl).2 fun h => ?_, by decide⟩
  · constructor <;> decide
  · cases h

def unsplitRecord : Usage where
  promptTokens := 10
  completionTokens := 20
  usageSemantic := "anthropic"
  promptTokensDetails := { cachedTokens := 300, cachedCreationTokens := 100 }

/-- The tokens of the cache creation are in the total input and in none of the variables. -/
theorem unsplit_not_priced : unsplitRecord.Disjoint true ∧ unsplitRecord.inputSize ≤ 2 ^ 53 ∧
    ¬PricedOnce (fun _ => true) (buildTieredTokenParamsForContext unsplitRecord true (fun _ => true) {}) := by
  refine ⟨?_, by decide, ?_⟩
  · constructor <;> decide
  · unfold PricedOnce
    decide

end StarNexus.Pricing
