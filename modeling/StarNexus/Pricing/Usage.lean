import StarNexus.Lib.Rounding

/-!
# Usage records

The token counts that a provider reports (`dto.Usage`), and what the billing code reads from them first: the total of the
cache creation, whether the record follows the semantics of OpenAI, where the prompt total contains the cached tokens, or of
Anthropic, where it does not, and the repricing of token counts.
-/

namespace StarNexus.Pricing

open Lib

structure InputTokenDetails where
  cachedTokens : ℤ := 0
  cachedCreationTokens : ℤ := 0
  cacheWriteTokens : ℤ := 0
  textTokens : ℤ := 0
  audioTokens : ℤ := 0
  imageTokens : ℤ := 0

structure OutputTokenDetails where
  textTokens : ℤ := 0
  audioTokens : ℤ := 0
  imageTokens : ℤ := 0
  reasoningTokens : ℤ := 0

inductive Cost where
  | absent
  | int (n : ℤ)
  | float (q : ℚ)
  deriving DecidableEq

structure Usage where
  promptTokens : ℤ := 0
  completionTokens : ℤ := 0
  totalTokens : ℤ := 0
  promptCacheHitTokens : ℤ := 0
  usageSemantic : String := ""
  usageSource : String := ""
  promptTokensDetails : InputTokenDetails := {}
  completionTokenDetails : OutputTokenDetails := {}
  inputTokens : ℤ := 0
  outputTokens : ℤ := 0
  inputTokensDetails : Option InputTokenDetails := none
  claudeCacheCreation5mTokens : ℤ := 0
  claudeCacheCreation1hTokens : ℤ := 0
  cost : Cost := .absent

/-- `CacheCreationTokensTotal`: the larger of the two counts, not negative. -/
def InputTokenDetails.cacheCreationTokensTotal (d : InputTokenDetails) : ℤ :=
  let total := d.cachedCreationTokens
  let total := if total < d.cacheWriteTokens then d.cacheWriteTokens else total
  if total < 0 then 0 else total

variable (d : InputTokenDetails)

lemma InputTokenDetails.cacheCreationTokensTotal_eq :
    d.cacheCreationTokensTotal = max 0 (max d.cachedCreationTokens d.cacheWriteTokens) := by
  dsimp only [cacheCreationTokensTotal]
  split_ifs <;> omega

lemma InputTokenDetails.cacheCreationTokensTotal_nonneg : 0 ≤ d.cacheCreationTokensTotal := by
  rw [cacheCreationTokensTotal_eq]
  exact le_max_left _ _

inductive RelayFormat where
  | claude
  | other
  deriving DecidableEq

def usageSemanticFromUsage (format : RelayFormat) (usage : Option Usage) : String :=
  match usage with
  | some u => if u.usageSemantic ≠ "" then u.usageSemantic else if format = .claude then "anthropic" else "openai"
  | none => if format = .claude then "anthropic" else "openai"

def isLegacyClaudeDerivedOpenAIUsage (format : RelayFormat) (usage : Usage) : Bool :=
  if format = .claude then false
  else if usage.usageSource ≠ "" ∨ usage.usageSemantic ≠ "" then false
  else 0 < usage.claudeCacheCreation5mTokens ∨ 0 < usage.claudeCacheCreation1hTokens

/-! ### Repricing -/

structure EffectiveTokenPricing where
  enabled : Bool := false
  inputRatio : ℚ≥0 := 1
  outputRatio : ℚ≥0 := 1

def roundTokenCount (value : ℚ) : ℤ := if value ≤ 0 then 0 else roundAway value

def applyInputTokenPricing (pricing : EffectiveTokenPricing) (tokens : ℤ) : ℤ :=
  if pricing.enabled then roundTokenCount (tokens * pricing.inputRatio) else tokens

def applyOutputTokenPricing (pricing : EffectiveTokenPricing) (tokens : ℤ) : ℤ :=
  if pricing.enabled then roundTokenCount (tokens * pricing.outputRatio) else tokens

variable {pricing : EffectiveTokenPricing}

lemma applyInputTokenPricing_disabled (h : pricing.enabled = false) (tokens : ℤ) :
    applyInputTokenPricing pricing tokens = tokens := if_neg (by simp [h])

end StarNexus.Pricing
