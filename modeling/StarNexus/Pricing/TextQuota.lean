import StarNexus.Pricing.Usage

/-!
# The quota of a text request

`calculateTextQuotaSummary`: the counts of a usage record, repriced, are split into categories, a part of the cached tokens
is moved to full price (`applyCacheBillingOffset`), every category is multiplied by its ratio, surcharges are added, and the
result is rounded to a whole quota.  Ratios and prices are exact and not negative.
-/

namespace StarNexus.Pricing

open Lib

/-! ### What a request is charged by -/

/-- `PriceData`, with the group ratio of `GroupRatioInfo`. -/
structure PriceData where
  modelPrice : ℚ≥0 := 0
  modelRatio : ℚ≥0 := 1
  completionRatio : ℚ≥0 := 1
  cacheRatio : ℚ≥0 := 1
  cacheBillingOffsetBps : ℤ := 0
  cacheCreationRatio : ℚ≥0 := 1
  cacheCreation5mRatio : ℚ≥0 := 1
  cacheCreation1hRatio : ℚ≥0 := 1
  imageRatio : ℚ≥0 := 1
  otherRatios : List ℚ≥0 := []
  usePrice : Bool := false
  groupRatio : ℚ≥0 := 1

/-- `BillingSnapshot` as far as the cache offset reads it; `usedVars` is `UsedVars` of its expression. -/
structure BillingSnapshot where
  billingMode : String
  usedVars : String → Bool
  cacheBillingOffsetBps : ℤ

/-- What the code reads of `RelayInfo`, of the request context and of the settings. -/
structure RelayInfo where
  originModelName : String := ""
  priceData : PriceData := {}
  format : RelayFormat := .other
  /-- the channel is one of OpenRouter -/
  openRouter : Bool := false
  estimatePromptTokens : ℤ := 0
  /-- the call counts of `ResponsesUsageInfo.BuiltInTools` -/
  builtInTools : Option (String → Option ℤ) := none
  tieredBillingSnapshot : Option BillingSnapshot := none
  /-- `GetEffectiveTokenPricing` -/
  tokenPricing : EffectiveTokenPricing := {}
  claudeWebSearchRequests : ℤ := 0
  /-- quality and size, if the image generation tool was called -/
  imageGenerationCall : Option (String × String) := none
  /-- the upstream account bills long contexts -/
  longContextBilling : Bool := false
  quotaPerUnit : ℚ≥0 := 500000
  /-- `GetToolPriceForModel` -/
  toolPriceForModel : String → String → ℚ≥0 := fun _ _ => 0
  /-- `GetDefaultModelRatioMap` -/
  defaultModelRatio : String → Option ℚ≥0 := fun _ => none

def RelayInfo.toolPrice (r : RelayInfo) (toolName : String) : ℚ≥0 := r.toolPriceForModel toolName ""

def gptImage1PriceOnceCall : String → String → ℚ≥0
  | "low", "1024x1024" => 11 / 1000
  | "low", "1024x1536" => 16 / 1000
  | "low", "1536x1024" => 16 / 1000
  | "medium", "1024x1024" => 42 / 1000
  | "medium", "1024x1536" => 63 / 1000
  | "medium", "1536x1024" => 63 / 1000
  | "high", "1024x1024" => 167 / 1000
  | "high", "1024x1536" => 25 / 100
  | "high", "1536x1024" => 25 / 100
  | _, _ => 167 / 1000

def geminiInputAudioPricePerMillionTokens (modelName : String) : ℚ≥0 :=
  let hasPrefix (start : String) : Bool := start.toList.isPrefixOf modelName.toList
  if hasPrefix "gemini-2.5-flash-preview-native-audio" then 3
  else if hasPrefix "gemini-2.5-flash-preview-lite" then 1 / 2
  else if hasPrefix "gemini-2.5-flash-preview" then 1
  else if hasPrefix "gemini-2.5-flash" then 1
  else if hasPrefix "gemini-2.0-flash" then 7 / 10
  else if hasPrefix "gemini-robotics-er-1.5" then 1
  else 0

def RelayInfo.hasCustomModelRatio (r : RelayInfo) : Bool :=
  match r.defaultModelRatio r.originModelName with
  | none => true
  | some ratio => r.priceData.modelRatio ≠ ratio

/-! ### Tool calls -/

/-- The surcharge of a tool that was called some number of times, priced by the thousand. -/
def RelayInfo.callSurcharge (r : RelayInfo) (price : ℚ≥0) (callCount : ℤ) : ℚ :=
  price * callCount / 1000 * r.priceData.groupRatio * r.quotaPerUnit

def RelayInfo.webSearchCallCount (r : RelayInfo) : ℤ :=
  match r.builtInTools with
  | some tools => match tools "web_search_preview" with
    | some callCount => if 0 < callCount then callCount else 0
    | none => 0
  | none => if "search-preview".toList.isSuffixOf r.originModelName.toList then 1 else 0

def RelayInfo.fileSearchCallCount (r : RelayInfo) : ℤ :=
  match r.builtInTools with
  | some tools => match tools "file_search" with
    | some callCount => if 0 < callCount then callCount else 0
    | none => 0
  | none => 0

def calculateTextToolCallSurcharge (r : RelayInfo) : ℚ :=
  r.callSurcharge (r.toolPriceForModel "web_search_preview" r.originModelName) r.webSearchCallCount +
  (if 0 < r.claudeWebSearchRequests then r.callSurcharge (r.toolPrice "web_search") r.claudeWebSearchRequests else 0) +
  r.callSurcharge (r.toolPrice "file_search") r.fileSearchCallCount +
  (match r.imageGenerationCall with
    | some (quality, size) => gptImage1PriceOnceCall quality size * r.priceData.groupRatio * r.quotaPerUnit
    | none => 0)

/-! ### The counts -/

structure TextQuotaSummary where
  promptTokens : ℤ
  completionTokens : ℤ
  rawPromptTokens : ℤ
  rawTotalTokens : ℤ
  cacheTokens : ℤ
  billingCacheTokens : ℤ
  cacheReclassifiedTokens : ℤ := 0
  cacheBillingTotalInputTokens : ℤ := 0
  cacheCreationTokens : ℤ
  cacheCreationTokens5m : ℤ
  cacheCreationTokens1h : ℤ
  imageTokens : ℤ
  audioTokens : ℤ
  isClaudeUsageSemantic : Bool
  legacyClaudeDerived : Bool

def RelayInfo.estimatedUsage (r : RelayInfo) : Usage := { promptTokens := r.estimatePromptTokens }

def RelayInfo.isClaudeUsageSemantic (r : RelayInfo) (usage : Option Usage) : Bool :=
  usageSemanticFromUsage r.format usage = "anthropic"

def RelayInfo.summaryOf (r : RelayInfo) (usage : Option Usage) : TextQuotaSummary :=
  let u := usage.getD r.estimatedUsage
  let reprice := applyInputTokenPricing r.tokenPricing
  { promptTokens := reprice u.promptTokens
    completionTokens := applyOutputTokenPricing r.tokenPricing u.completionTokens
    rawPromptTokens := u.promptTokens
    rawTotalTokens := u.promptTokens + u.completionTokens
    cacheTokens := reprice u.promptTokensDetails.cachedTokens
    billingCacheTokens := reprice u.promptTokensDetails.cachedTokens
    cacheCreationTokens := reprice u.promptTokensDetails.cacheCreationTokensTotal
    cacheCreationTokens5m := reprice u.claudeCacheCreation5mTokens
    cacheCreationTokens1h := reprice u.claudeCacheCreation1hTokens
    imageTokens := reprice u.promptTokensDetails.imageTokens
    audioTokens := reprice u.promptTokensDetails.audioTokens
    isClaudeUsageSemantic := r.isClaudeUsageSemantic usage
    legacyClaudeDerived := isLegacyClaudeDerivedOpenAIUsage r.format u }

/-- `CalcOpenRouterCacheCreateTokens`: the tokens of the cache creation that explain the reported cost. -/
def calcOpenRouterCacheCreateTokens (r : RelayInfo) (usage : Usage) : ℤ :=
  let price := r.priceData
  if price.cacheCreationRatio = 1 then 0
  else
    let quotaPrice : ℚ := price.modelRatio / r.quotaPerUnit
    let cost : ℚ := match usage.cost with
      | .float q => q
      | _ => 0
    roundAway ((cost - usage.promptTokens * quotaPrice +
      usage.promptTokensDetails.cachedTokens * (quotaPrice - quotaPrice * price.cacheRatio) -
      usage.completionTokens * (quotaPrice * price.completionRatio)) / (quotaPrice * price.cacheCreationRatio - quotaPrice))

def RelayInfo.infersCacheCreation (r : RelayInfo) (usage : Usage) (s : TextQuotaSummary) : Bool :=
  s.cacheCreationTokens = 0 ∧ r.priceData.cacheCreationRatio ≠ 1 ∧ usage.cost ≠ .int 0 ∧
    ¬(r.priceData.usePrice ∨ r.hasCustomModelRatio)

/-- The prompt total of OpenRouter contains the cached tokens also under the semantics of Anthropic. -/
def RelayInfo.adjustOpenRouter (r : RelayInfo) (usage : Usage) (s : TextQuotaSummary) : TextQuotaSummary :=
  if r.openRouter ∧ s.isClaudeUsageSemantic then
    let prompt := s.promptTokens - s.cacheTokens
    let inferred := calcOpenRouterCacheCreateTokens r usage
    let billed := applyInputTokenPricing r.tokenPricing inferred
    let creation := if r.infersCacheCreation usage s ∧ 0 ≤ inferred ∧ billed ≤ prompt then billed else s.cacheCreationTokens
    { s with promptTokens := prompt - creation, cacheCreationTokens := creation }
  else s

def cacheWriteTokensTotal (s : TextQuotaSummary) : ℤ :=
  if 0 < s.cacheCreationTokens5m ∨ 0 < s.cacheCreationTokens1h then
    let splitCacheWriteTokens := s.cacheCreationTokens5m + s.cacheCreationTokens1h
    if splitCacheWriteTokens < s.cacheCreationTokens then s.cacheCreationTokens else splitCacheWriteTokens
  else s.cacheCreationTokens

/-- A share of the total input in basis points, computed in two parts against overflow. -/
def offsetShare (totalInputTokens offsetBps : ℤ) : ℤ :=
  totalInputTokens / 10000 * offsetBps + totalInputTokens % 10000 * offsetBps / 10000

def applyCacheBillingOffset (price : PriceData) (s : TextQuotaSummary) : TextQuotaSummary :=
  let offsetBps := price.cacheBillingOffsetBps
  if price.usePrice ∨ offsetBps ≤ 0 ∨ 10000 < offsetBps ∨ s.cacheTokens ≤ 0 then s
  else
    let cacheReadTokens := max s.cacheTokens 0
    let cacheCreationTokens := max (cacheWriteTokensTotal s) 0
    let uncachedInputTokens := max s.promptTokens 0
    let uncachedInputTokens := if !s.isClaudeUsageSemantic && !s.legacyClaudeDerived then
        max (uncachedInputTokens - cacheReadTokens - cacheCreationTokens) 0
      else uncachedInputTokens
    let totalInputTokens := uncachedInputTokens + cacheReadTokens + cacheCreationTokens
    if totalInputTokens ≤ 0 then s
    else
      let reclassifiedTokens := min (offsetShare totalInputTokens offsetBps) cacheReadTokens
      if reclassifiedTokens ≤ 0 then s
      else { s with
        cacheBillingTotalInputTokens := totalInputTokens
        cacheReclassifiedTokens := reclassifiedTokens
        billingCacheTokens := s.cacheTokens - reclassifiedTokens }

lemma applyCacheBillingOffset_cacheTokens (price : PriceData) (s : TextQuotaSummary) :
    (applyCacheBillingOffset price s).cacheTokens = s.cacheTokens := by
  dsimp only [applyCacheBillingOffset]
  split_ifs <;> rfl

def RelayInfo.settled (r : RelayInfo) (usage : Option Usage) : TextQuotaSummary :=
  applyCacheBillingOffset r.priceData (r.adjustOpenRouter (usage.getD r.estimatedUsage) (r.summaryOf usage))

/-! ### The quota -/

/-- `QuotaFromDecimal`: rounded, and kept within an `int32`. -/
def quotaFromDecimal (d : ℚ) : ℤ :=
  let value := roundAway d
  if 2147483647 ≤ value then 2147483647 else if value ≤ -2147483648 then -2147483648 else value

def PriceData.applyOtherRatios (price : PriceData) (value : ℚ) : ℚ :=
  price.otherRatios.foldl (fun value (ratio : ℚ≥0) => if 0 < ratio ∧ ratio ≠ 1 then value * ratio else value) value

namespace TextQuotaSummary

variable (s : TextQuotaSummary)

def separates : Bool := !s.isClaudeUsageSemantic && !s.legacyClaudeDerived

def hasSplit : Bool := 0 < s.cacheCreationTokens5m ∨ 0 < s.cacheCreationTokens1h

/-- The tokens of the prompt that belong to no other category; `audioPrice` is the price of audio tokens, if they have
one. -/
def baseTokens (audioPrice : ℚ≥0) : ℤ :=
  let base := s.promptTokens
  let base := if s.cacheTokens ≠ 0 ∧ s.separates then base - s.cacheTokens else base
  let base := if (s.cacheCreationTokens ≠ 0 ∨ s.hasSplit) ∧ s.separates then base - s.cacheCreationTokens else base
  let base := if s.imageTokens ≠ 0 then base - s.imageTokens else base
  let base := if s.audioTokens ≠ 0 ∧ 0 < audioPrice then base - s.audioTokens else base
  if base < 0 then 0 else base

def cachedTokensWithRatio (price : PriceData) : ℚ := if s.cacheTokens ≠ 0 then s.billingCacheTokens * price.cacheRatio else 0

def cachedCreationTokensWithRatio (price : PriceData) : ℚ :=
  if s.cacheCreationTokens ≠ 0 ∨ s.hasSplit then
    if s.separates then s.cacheCreationTokens * price.cacheCreationRatio
    else
      let remaining := s.cacheCreationTokens - s.cacheCreationTokens5m - s.cacheCreationTokens1h
      let remaining := if remaining < 0 then 0 else remaining
      remaining * price.cacheCreationRatio + s.cacheCreationTokens5m * price.cacheCreation5mRatio +
        s.cacheCreationTokens1h * price.cacheCreation1hRatio
  else 0

def imageTokensWithRatio (price : PriceData) : ℚ := if s.imageTokens ≠ 0 then s.imageTokens * price.imageRatio else 0

def promptQuota (price : PriceData) (audioPrice : ℚ≥0) : ℚ :=
  s.baseTokens audioPrice + s.cacheReclassifiedTokens + s.cachedTokensWithRatio price + s.imageTokensWithRatio price +
    s.cachedCreationTokensWithRatio price

def completionQuota (price : PriceData) : ℚ := s.completionTokens * price.completionRatio

end TextQuotaSummary

/-- The quota of audio tokens, which does not depend on the model ratio. -/
def RelayInfo.audioInputQuota (r : RelayInfo) (s : TextQuotaSummary) : ℚ :=
  let audioPrice := geminiInputAudioPricePerMillionTokens r.originModelName
  if s.audioTokens ≠ 0 ∧ 0 < audioPrice then
    audioPrice / 1000000 * s.audioTokens * r.priceData.groupRatio * r.quotaPerUnit
  else 0

/-- The prompt is longer than the threshold of accounts that bill long contexts. -/
def RelayInfo.isLongContext (r : RelayInfo) (s : TextQuotaSummary) : Bool :=
  r.longContextBilling ∧ 272000 < s.rawPromptTokens

def RelayInfo.ratio (r : RelayInfo) : ℚ := r.priceData.modelRatio * r.priceData.groupRatio

def RelayInfo.quotaDecimal (r : RelayInfo) (s : TextQuotaSummary) : ℚ :=
  let price := r.priceData
  if price.usePrice then
    price.applyOtherRatios (price.modelPrice * r.quotaPerUnit * price.groupRatio) + calculateTextToolCallSurcharge r
  else
    let promptQuota := s.promptQuota price (geminiInputAudioPricePerMillionTokens r.originModelName)
    let completionQuota := s.completionQuota price
    let weighted := if r.isLongContext s then promptQuota * 2 + completionQuota * (3 / 2) else promptQuota + completionQuota
    let quota := price.applyOtherRatios (weighted * r.ratio + r.audioInputQuota s) + calculateTextToolCallSurcharge r
    if r.ratio ≠ 0 ∧ quota ≤ 0 then 1 else quota

def RelayInfo.hasBillableUsage (r : RelayInfo) (s : TextQuotaSummary) : Bool :=
  0 < s.rawTotalTokens ∨ calculateTextToolCallSurcharge r ≠ 0

def RelayInfo.quotaOf (r : RelayInfo) (s : TextQuotaSummary) : ℤ :=
  let quota := quotaFromDecimal (r.quotaDecimal s)
  if !r.hasBillableUsage s then 0 else if r.ratio ≠ 0 ∧ quota = 0 then 1 else quota

def calculateTextQuotaSummary (r : RelayInfo) (usage : Option Usage) : TextQuotaSummary × ℤ :=
  (r.settled usage, r.quotaOf (r.settled usage))

end StarNexus.Pricing
