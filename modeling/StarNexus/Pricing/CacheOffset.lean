import StarNexus.Pricing.TextQuota
import StarNexus.Pricing.Tiered

/-!
# The cache offset in its three places

A part of the cached tokens is moved to full price, by a share of the total input.  Ratio billing computes it from the
settlement summary (`applyCacheBillingOffset`), tiered billing from the variables of the expression
(`applyTieredCacheBillingOffset`), and the usage that the user is shown from the projected counts
(`projectedCacheReclassifiedTokens`).
-/

namespace StarNexus.Pricing

open Lib

/-! ### Tiered billing -/

structure CacheBillingAdjustment where
  offsetBps : ℤ
  totalInputTokens : ℤ
  rawCacheReadTokens : ℤ
  billingCacheReadTokens : ℤ
  reclassifiedTokens : ℤ

def maxInt64 : ℤ := 2 ^ 63 - 1

def boundedTokenInt64 (value : ℤ) : ℤ := if value ≤ 0 then 0 else if 2 ^ 63 ≤ value then maxInt64 else value

def applyTieredCacheBillingOffset (snap : Option BillingSnapshot) (params : TokenParams) :
    TokenParams × Option CacheBillingAdjustment :=
  match snap with
  | none => (params, none)
  | some snap =>
    let offsetBps := snap.cacheBillingOffsetBps
    if offsetBps ≤ 0 ∨ 10000 < offsetBps ∨ params.cr ≤ 0 ∨ snap.usedVars "cr" = false then (params, none)
    else
      let totalInputTokens := boundedTokenInt64 params.billingInputTotal
      let rawCacheReadTokens := boundedTokenInt64 params.cr
      if totalInputTokens ≤ 0 ∨ rawCacheReadTokens ≤ 0 then (params, none)
      else
        let reclassifiedTokens := min (offsetShare totalInputTokens offsetBps) rawCacheReadTokens
        if reclassifiedTokens ≤ 0 then (params, none)
        else
          ({ params with p := double (params.p + double reclassifiedTokens), cr := double (params.cr - double reclassifiedTokens) },
            some ⟨offsetBps, totalInputTokens, rawCacheReadTokens, rawCacheReadTokens - reclassifiedTokens, reclassifiedTokens⟩)

/-! ### The usage that is shown -/

def saturatingAddInt64 (a b : ℤ) : ℤ := if 0 < b ∧ maxInt64 - b < a then maxInt64 else a + b

def mergeInputTokenDetails (primary alternate : InputTokenDetails) : InputTokenDetails where
  cachedTokens := max primary.cachedTokens alternate.cachedTokens
  cachedCreationTokens := max primary.cachedCreationTokens alternate.cachedCreationTokens
  cacheWriteTokens := max primary.cacheWriteTokens alternate.cacheWriteTokens
  textTokens := max primary.textTokens alternate.textTokens
  audioTokens := max primary.audioTokens alternate.audioTokens
  imageTokens := max primary.imageTokens alternate.imageTokens

def projectInputTokenDetails (pricing : EffectiveTokenPricing) (d : InputTokenDetails) : InputTokenDetails where
  cachedTokens := applyInputTokenPricing pricing d.cachedTokens
  cachedCreationTokens := applyInputTokenPricing pricing d.cachedCreationTokens
  cacheWriteTokens := applyInputTokenPricing pricing d.cacheWriteTokens
  textTokens := applyInputTokenPricing pricing d.textTokens
  audioTokens := applyInputTokenPricing pricing d.audioTokens
  imageTokens := applyInputTokenPricing pricing d.imageTokens

def projectOutputTokenDetails (pricing : EffectiveTokenPricing) (d : OutputTokenDetails) : OutputTokenDetails where
  textTokens := applyOutputTokenPricing pricing d.textTokens
  audioTokens := applyOutputTokenPricing pricing d.audioTokens
  imageTokens := applyOutputTokenPricing pricing d.imageTokens
  reasoningTokens := applyOutputTokenPricing pricing d.reasoningTokens

def clampInputTokenDetails (d : InputTokenDetails) : InputTokenDetails where
  cachedTokens := max d.cachedTokens 0
  cachedCreationTokens := max d.cachedCreationTokens 0
  cacheWriteTokens := max d.cacheWriteTokens 0
  textTokens := max d.textTokens 0
  audioTokens := max d.audioTokens 0
  imageTokens := max d.imageTokens 0

def clampOutputTokenDetails (d : OutputTokenDetails) : OutputTokenDetails where
  textTokens := max d.textTokens 0
  audioTokens := max d.audioTokens 0
  imageTokens := max d.imageTokens 0
  reasoningTokens := max d.reasoningTokens 0

/-- `clampUserVisibleUsage`, and the tags of the record are taken off. -/
def clampUserVisibleUsage (u : Usage) : Usage where
  promptTokens := max u.promptTokens 0
  completionTokens := max u.completionTokens 0
  totalTokens := max u.totalTokens 0
  promptCacheHitTokens := max u.promptCacheHitTokens 0
  promptTokensDetails := clampInputTokenDetails u.promptTokensDetails
  completionTokenDetails := clampOutputTokenDetails u.completionTokenDetails
  inputTokens := max u.inputTokens 0
  outputTokens := max u.outputTokens 0
  inputTokensDetails := u.inputTokensDetails.map clampInputTokenDetails
  claudeCacheCreation5mTokens := max u.claudeCacheCreation5mTokens 0
  claudeCacheCreation1hTokens := max u.claudeCacheCreation1hTokens 0

def projectedCacheReclassifiedTokens (r : RelayInfo) (promptTokens cacheTokens cacheCreationTokens : ℤ)
    (isClaudeUsageSemantic : Bool) : ℤ :=
  if cacheTokens ≤ 0 then 0
  else
    let offsetBps := match r.tieredBillingSnapshot with
      | some snap => if snap.billingMode = "tiered_expr" then
            if snap.usedVars "cr" then snap.cacheBillingOffsetBps else 0
          else if r.priceData.usePrice then 0 else r.priceData.cacheBillingOffsetBps
      | none => if r.priceData.usePrice then 0 else r.priceData.cacheBillingOffsetBps
    if offsetBps ≤ 0 ∨ 10000 < offsetBps then 0
    else
      let prompt := max promptTokens 0
      let cache := max cacheTokens 0
      let cacheCreation := max cacheCreationTokens 0
      let uncachedInput := if isClaudeUsageSemantic then prompt else max (prompt - cache - cacheCreation) 0
      let totalInput := saturatingAddInt64 (saturatingAddInt64 uncachedInput cache) cacheCreation
      if totalInput ≤ 0 then 0
      else
        let reclassified := min (offsetShare totalInput offsetBps) cache
        if reclassified ≤ 0 then 0 else reclassified

/-- The counts of a record as the projection reads them: the alternate fields fill what the others leave out. -/
def RelayInfo.projectedCounts (r : RelayInfo) (u : Usage) : Usage :=
  let pricing := r.tokenPricing
  let rawPromptTokens := if u.promptTokens = 0 ∧ 0 < u.inputTokens then u.inputTokens else u.promptTokens
  let rawCompletionTokens := if u.completionTokens = 0 ∧ 0 < u.outputTokens then u.outputTokens else u.completionTokens
  let inputDetails := match u.inputTokensDetails with
    | some d => mergeInputTokenDetails u.promptTokensDetails d
    | none => u.promptTokensDetails
  let creation5m := applyInputTokenPricing pricing u.claudeCacheCreation5mTokens
  let creation1h := applyInputTokenPricing pricing u.claudeCacheCreation1hTokens
  let details := projectInputTokenDetails pricing inputDetails
  { u with
    cost := .absent
    promptTokens := applyInputTokenPricing pricing rawPromptTokens
    completionTokens := applyOutputTokenPricing pricing rawCompletionTokens
    promptTokensDetails := { details with cachedCreationTokens := max details.cachedCreationTokens (creation5m + creation1h) }
    completionTokenDetails := projectOutputTokenDetails pricing u.completionTokenDetails
    claudeCacheCreation5mTokens := creation5m
    claudeCacheCreation1hTokens := creation1h }

def RelayInfo.shownReclassified (r : RelayInfo) (u : Usage) : ℤ :=
  let v := r.projectedCounts u
  projectedCacheReclassifiedTokens r v.promptTokens v.promptTokensDetails.cachedTokens
    v.promptTokensDetails.cacheCreationTokensTotal (r.isClaudeUsageSemantic (some u))

def projectUserBillingUsage (relayInfo : Option RelayInfo) (usage : Option Usage) : Option Usage :=
  usage.map fun u =>
    match relayInfo with
    | none => clampUserVisibleUsage u
    | some r =>
      let v := r.projectedCounts u
      let reclassified := r.shownReclassified u
      let cached := v.promptTokensDetails.cachedTokens - if 0 < reclassified then reclassified else 0
      let prompt := v.promptTokens + if 0 < reclassified ∧ r.isClaudeUsageSemantic (some u) then reclassified else 0
      let shown := clampUserVisibleUsage { v with
        promptTokens := prompt
        promptTokensDetails := { v.promptTokensDetails with cachedTokens := cached }
        promptCacheHitTokens := cached
        inputTokens := prompt
        outputTokens := v.completionTokens
        totalTokens := prompt + v.completionTokens }
      { shown with inputTokensDetails := some shown.promptTokensDetails }

/-! ### The tokens that are moved -/

/-- The tokens of the cache creation, whether reported as a total or split. -/
def Usage.fullCreation (u : Usage) : ℤ :=
  max u.promptTokensDetails.cacheCreationTokensTotal (u.claudeCacheCreation5mTokens + u.claudeCacheCreation1hTokens)

/-- The uncached, the cached and the cache creation tokens, with `creation` of the last. -/
def Usage.inputWith (u : Usage) (creation : ℤ) (isClaude : Bool) : ℤ :=
  (if isClaude then u.promptTokens else max (u.promptTokens - u.promptTokensDetails.cachedTokens - creation) 0) +
    u.promptTokensDetails.cachedTokens + creation

def Usage.totalInput (u : Usage) (isClaude : Bool) : ℤ := u.inputWith u.fullCreation isClaude

def movedTokens (total cached offsetBps : ℤ) : ℤ := min cached (total * offsetBps / 10000)

/-- The tokens that the alternate fields of the record count. -/
def Usage.alternateTokens (u : Usage) : ℤ :=
  max u.inputTokens 0 + u.inputTokensDetails.elim 0 fun d => max d.cachedTokens 0 + d.cacheCreationTokensTotal

structure Usage.Counted (u : Usage) : Prop where
  prompt : 0 ≤ u.promptTokens
  cached : 0 ≤ u.promptTokensDetails.cachedTokens
  creation5m : 0 ≤ u.claudeCacheCreation5mTokens
  creation1h : 0 ≤ u.claudeCacheCreation1hTokens
  image : 0 ≤ u.promptTokensDetails.imageTokens
  audio : 0 ≤ u.promptTokensDetails.audioTokens
  below : u.promptTokens + u.promptTokensDetails.cachedTokens + u.promptTokensDetails.cacheCreationTokensTotal +
    u.claudeCacheCreation5mTokens + u.claudeCacheCreation1hTokens + u.promptTokensDetails.imageTokens +
    u.promptTokensDetails.audioTokens + u.alternateTokens < 2 ^ 53

variable {total cached o : ℤ}

lemma offsetShare_eq (total o : ℤ) : offsetShare total o = total * o / 10000 := by
  have hparts : total * o = total % 10000 * o + total / 10000 * o * 10000 := by
    conv_lhs => rw [← Int.emod_add_mul_ediv total 10000]
    ring
  rw [offsetShare, hparts, Int.add_mul_ediv_right _ _ (by decide), Int.add_comm]

lemma movedTokens_nonneg (total : ℤ) {cached o : ℤ} (htotal : 0 ≤ total) (hcached : 0 ≤ cached) (ho : 1 ≤ o) :
    0 ≤ movedTokens total cached o :=
  le_min hcached (Int.ediv_nonneg (Int.mul_nonneg htotal (by omega)) (by decide))

lemma movedTokens_le (total cached o : ℤ) : movedTokens total cached o ≤ cached := min_le_left _ _

lemma min_offsetShare (total cached o : ℤ) : min (offsetShare total o) cached = movedTokens total cached o := by
  rw [offsetShare_eq, min_comm]
  rfl

/-! #### Ratio billing -/

def TextQuotaSummary.totalInput (s : TextQuotaSummary) : ℤ :=
  let uncached := max s.promptTokens 0
  (if !s.isClaudeUsageSemantic && !s.legacyClaudeDerived then
      max (uncached - max s.cacheTokens 0 - max (cacheWriteTokensTotal s) 0) 0
    else uncached) + max s.cacheTokens 0 + max (cacheWriteTokensTotal s) 0

lemma TextQuotaSummary.totalInput_nonneg (s : TextQuotaSummary) : max s.cacheTokens 0 ≤ s.totalInput := by
  dsimp only [totalInput]
  split_ifs <;> omega

variable (price : PriceData) (s : TextQuotaSummary)

lemma applyCacheBillingOffset_eq (ho : price.cacheBillingOffsetBps = o) : applyCacheBillingOffset price s =
      if price.usePrice ∨ o ≤ 0 ∨ 10000 < o ∨ s.cacheTokens ≤ 0 then s
      else if s.totalInput ≤ 0 then s
      else if min (offsetShare s.totalInput o) (max s.cacheTokens 0) ≤ 0 then s
      else { s with
        cacheBillingTotalInputTokens := s.totalInput
        cacheReclassifiedTokens := min (offsetShare s.totalInput o) (max s.cacheTokens 0)
        billingCacheTokens := s.cacheTokens - min (offsetShare s.totalInput o) (max s.cacheTokens 0) } := by
  rw [← ho]
  rfl

lemma applyCacheBillingOffset_moves (hprice : price.usePrice = false)
    (ho : price.cacheBillingOffsetBps = o) (hlow : 1 ≤ o) (hhigh : o ≤ 10000) (hcached : 0 ≤ s.cacheTokens)
    (hfresh : s.cacheReclassifiedTokens = 0) (hbilling : s.billingCacheTokens = s.cacheTokens) :
    (applyCacheBillingOffset price s).cacheReclassifiedTokens = movedTokens s.totalInput s.cacheTokens o ∧
      (applyCacheBillingOffset price s).billingCacheTokens + (applyCacheBillingOffset price s).cacheReclassifiedTokens =
        s.cacheTokens := by
  have htotal := s.totalInput_nonneg
  have hmoved := movedTokens_nonneg s.totalInput (by omega) hcached hlow
  have hle := movedTokens_le s.totalInput s.cacheTokens o
  have heq := applyCacheBillingOffset_eq price s ho
  rw [max_eq_left hcached, min_offsetShare] at heq
  rw [heq]
  split_ifs with h₁ h₂ h₃
  · simp only [hprice, Bool.false_eq_true, false_or] at h₁
    omega
  · omega
  · omega
  · dsimp only
    omega

/-! #### Tiered billing -/

lemma applyTieredCacheBillingOffset_moves (usedVars : String → Bool) (mode : String) (t : TokenParams)
    (hcr : usedVars "cr" = true) (hlow : 1 ≤ o) (hhigh : o ≤ 10000) (hp : 0 ≤ t.p) (hcached : 0 ≤ t.cr)
    (htotal : t.cr ≤ t.billingInputTotal) (hbelow : t.billingInputTotal < 2 ^ 53) (hsum : t.p + t.cr < 2 ^ 53) :
    ((applyTieredCacheBillingOffset (some ⟨mode, usedVars, o⟩) t).2.elim 0 (·.reclassifiedTokens)) =
        movedTokens t.billingInputTotal t.cr o ∧
      (applyTieredCacheBillingOffset (some ⟨mode, usedVars, o⟩) t).1.p +
        (applyTieredCacheBillingOffset (some ⟨mode, usedVars, o⟩) t).1.cr = t.p + t.cr := by
  have hmoved := movedTokens_nonneg t.billingInputTotal (by omega) hcached hlow
  have hle := movedTokens_le t.billingInputTotal t.cr o
  have hbt : boundedTokenInt64 t.billingInputTotal = t.billingInputTotal := by
    unfold boundedTokenInt64
    split_ifs <;> omega
  have hbc : boundedTokenInt64 t.cr = t.cr := by
    unfold boundedTokenInt64
    split_ifs <;> omega
  simp only [applyTieredCacheBillingOffset, hbt, hbc, min_offsetShare]
  split_ifs with h₁ h₂ h₃
  · have hzero : t.cr = 0 := by
      simp only [hcr, Bool.true_eq_false, or_false] at h₁
      omega
    exact ⟨show 0 = movedTokens _ _ _ by omega, rfl⟩
  · omega
  · exact ⟨show 0 = movedTokens _ _ _ by omega, rfl⟩
  · refine ⟨rfl, ?_⟩
    dsimp only
    rw [double_eq_self (n := movedTokens _ _ _) (by omega), double_eq_self (by omega),
      double_eq_self (by omega)]
    omega

/-! #### The usage that is shown -/

def RelayInfo.shownOffset (r : RelayInfo) : ℤ :=
  match r.tieredBillingSnapshot with
  | some snap => if snap.billingMode = "tiered_expr" then
        if snap.usedVars "cr" then snap.cacheBillingOffsetBps else 0
      else if r.priceData.usePrice then 0 else r.priceData.cacheBillingOffsetBps
  | none => if r.priceData.usePrice then 0 else r.priceData.cacheBillingOffsetBps

lemma saturatingAddInt64_eq {a b : ℤ} (h : a + b ≤ maxInt64) : saturatingAddInt64 a b = a + b := if_neg (by omega)

lemma projectedCacheReclassifiedTokens_eq {r : RelayInfo} {prompt cached creation : ℤ} (isClaude : Bool)
    (ho : r.shownOffset = o) (hlow : 1 ≤ o) (hhigh : o ≤ 10000) (hprompt : 0 ≤ prompt) (hcached : 0 ≤ cached)
    (hcreation : 0 ≤ creation) (hbelow : prompt + cached + creation < 2 ^ 53) :
    projectedCacheReclassifiedTokens r prompt cached creation isClaude =
      movedTokens ((if isClaude then prompt else max (prompt - cached - creation) 0) + cached + creation) cached o := by
  have hsum : (if isClaude then prompt else max (prompt - cached - creation) 0) ≤ prompt ∧
      0 ≤ (if isClaude then prompt else max (prompt - cached - creation) 0) := by
    split_ifs <;> omega
  have hmax : (2 : ℤ) ^ 53 ≤ maxInt64 := by decide
  have heq : projectedCacheReclassifiedTokens r prompt cached creation isClaude =
      if cached ≤ 0 then 0
      else if r.shownOffset ≤ 0 ∨ 10000 < r.shownOffset then 0
      else
        let total := saturatingAddInt64 (saturatingAddInt64 (if isClaude then max prompt 0
          else max (max prompt 0 - max cached 0 - max creation 0) 0) (max cached 0)) (max creation 0)
        let moved := min (offsetShare total r.shownOffset) (max cached 0)
        if total ≤ 0 then 0 else if moved ≤ 0 then 0 else moved := rfl
  rw [max_eq_left hprompt, max_eq_left hcached, max_eq_left hcreation] at heq
  generalize (if isClaude then prompt else max (prompt - cached - creation) 0) = uncached at *
  rw [saturatingAddInt64_eq (b := cached) (by omega), saturatingAddInt64_eq (by omega), ho] at heq
  dsimp only at heq
  rw [min_offsetShare] at heq
  have hmoved := movedTokens_nonneg (uncached + cached + creation) (by omega) hcached hlow
  have hle := movedTokens_le (uncached + cached + creation) cached o
  omega

/-! ### Agreement -/

def RelayInfo.atOffset (r : RelayInfo) (o : ℤ) : RelayInfo :=
  { r with priceData := { r.priceData with usePrice := false, cacheBillingOffsetBps := o }, tieredBillingSnapshot := none }

def RelayInfo.atSnapshot (r : RelayInfo) (usedVars : String → Bool) (o : ℤ) : RelayInfo :=
  { r with tieredBillingSnapshot := some ⟨"tiered_expr", usedVars, o⟩ }

/-- The input tokens of a record: the cached ones are in the prompt total, except under the semantics of Anthropic. -/
def Usage.shownInput (u : Usage) (isClaude : Bool) : ℤ :=
  u.promptTokens + if isClaude then u.promptTokensDetails.cachedTokens else 0

structure ShownMoves (r : RelayInfo) (u : Usage) (m : ℤ) : Prop where
  moved : r.shownReclassified u = m
  total : ∀ v ∈ projectUserBillingUsage (some r) (some u),
    v.shownInput (r.isClaudeUsageSemantic (some u)) = (r.projectedCounts u).shownInput (r.isClaudeUsageSemantic (some u))

def RelayInfo.tieredParams (r : RelayInfo) (u : Usage) (usedVars : String → Bool) : TokenParams :=
  buildTieredTokenParamsForContext u (r.isClaudeUsageSemantic (some u)) usedVars r.tokenPricing

def RelayInfo.tieredOffset (r : RelayInfo) (u : Usage) (usedVars : String → Bool) (o : ℤ) :
    TokenParams × Option CacheBillingAdjustment :=
  applyTieredCacheBillingOffset (r.atSnapshot usedVars o).tieredBillingSnapshot (r.tieredParams u usedVars)

/-- **The same number of cached tokens is moved in all three places**, and no input token is lost or added. -/
structure OffsetAgrees (r : RelayInfo) (u : Usage) (usedVars : String → Bool) (o m : ℤ) : Prop where
  ratio : ((r.atOffset o).settled (some u)).cacheReclassifiedTokens = m
  ratioTotal : ((r.atOffset o).settled (some u)).billingCacheTokens +
    ((r.atOffset o).settled (some u)).cacheReclassifiedTokens = ((r.atOffset o).settled (some u)).cacheTokens
  tiered : (r.tieredOffset u usedVars o).2.elim 0 (·.reclassifiedTokens) = m
  tieredTotal : (r.tieredOffset u usedVars o).1.p + (r.tieredOffset u usedVars o).1.cr =
    (r.tieredParams u usedVars).p + (r.tieredParams u usedVars).cr
  shown : ShownMoves (r.atOffset o) u m
  shownTiered : ShownMoves (r.atSnapshot usedVars o) u m

/-! ### What the three places read -/

/-- The total input that a place takes from a record, and the cached tokens. -/
@[ext]
structure Reading where
  total : ℤ
  cached : ℤ

def Reading.moved (x : Reading) (o : ℤ) : ℤ := movedTokens x.total x.cached o

namespace RelayInfo

variable (r : RelayInfo) (u : Usage)

/-- The input of the record as it is meant. -/
def reading : Reading := ⟨u.totalInput (r.isClaudeUsageSemantic (some u)), u.promptTokensDetails.cachedTokens⟩

/-- Ratio billing: the summary, from which OpenRouter's prompt total has been reduced. -/
def ratioReading : Reading :=
  ⟨((r.atOffset 0).adjustOpenRouter u ((r.atOffset 0).summaryOf (some u))).totalInput, u.promptTokensDetails.cachedTokens⟩

/-- Tiered billing: the 5m/1h split counts only where the record is tagged. -/
def tieredReading : Reading :=
  ⟨u.inputWith u.creation (r.isClaudeUsageSemantic (some u)), u.promptTokensDetails.cachedTokens⟩

/-- The usage that is shown: the alternate fields count as well. -/
def shownReading : Reading :=
  let v := r.projectedCounts u
  ⟨v.inputWith v.promptTokensDetails.cacheCreationTokensTotal (r.isClaudeUsageSemantic (some u)),
    v.promptTokensDetails.cachedTokens⟩

end RelayInfo

/-- The capped share is the same for what the three places read and for the record. -/
structure SharesAgree (r : RelayInfo) (u : Usage) (o : ℤ) : Prop where
  ratio : (r.ratioReading u).moved o = (r.reading u).moved o
  tiered : (r.tieredReading u).moved o = (r.reading u).moved o
  shown : (r.shownReading u).moved o = (r.reading u).moved o

/-- The alternate fields add nothing. -/
def Usage.Plain (u : Usage) : Prop :=
  (u.promptTokens ≠ 0 ∨ u.inputTokens ≤ 0) ∧ ∀ d ∈ u.inputTokensDetails,
    d.cachedTokens ≤ u.promptTokensDetails.cachedTokens ∧
    d.cachedCreationTokens ≤ u.promptTokensDetails.cachedCreationTokens ∧
    d.cacheWriteTokens ≤ u.promptTokensDetails.cacheWriteTokens

/-- A record that the three places read in the same way. -/
structure Usage.Consistent (u : Usage) (r : RelayInfo) : Prop where
  split : ¬(0 < u.claudeCacheCreation5mTokens ∨ 0 < u.claudeCacheCreation1hTokens) ∨ u.usageSemantic = "anthropic"
  router : ¬(r.openRouter = true ∧ r.isClaudeUsageSemantic (some u) = true)
  plain : u.Plain

variable {r : RelayInfo} {u : Usage} {usedVars : String → Bool}

lemma Usage.Consistent.creation_eq (hc : u.Consistent r) : u.creation = u.fullCreation := by
  have htotal := u.promptTokensDetails.cacheCreationTokensTotal_nonneg
  unfold Usage.creation Usage.fullCreation
  rcases hc.split with hnone | htag
  · split
    · rfl
    · omega
  · rw [if_pos htag]

lemma Usage.alternateTokens_bounds (u : Usage) : max u.inputTokens 0 ≤ u.alternateTokens ∧
    ∀ d ∈ u.inputTokensDetails, max u.inputTokens 0 + max d.cachedTokens 0 + d.cacheCreationTokensTotal ≤ u.alternateTokens := by
  unfold Usage.alternateTokens
  cases u.inputTokensDetails with
  | none => simp
  | some d =>
    have := d.cacheCreationTokensTotal_nonneg
    simp only [Option.elim_some, Option.mem_some_iff, forall_eq']
    omega

lemma Usage.Counted.fullCreation_bounds (hu : u.Counted) :
    0 ≤ u.fullCreation ∧ u.promptTokens + u.promptTokensDetails.cachedTokens + u.fullCreation +
      u.promptTokensDetails.imageTokens + u.promptTokensDetails.audioTokens < 2 ^ 53 := by
  have htotal := u.promptTokensDetails.cacheCreationTokensTotal_nonneg
  have halternate := u.alternateTokens_bounds.1
  obtain ⟨-, -, h5m, h1h, -, -, hbelow⟩ := hu
  unfold Usage.fullCreation
  omega

lemma Usage.Counted.creation_le (hu : u.Counted) : u.creation ≤ u.fullCreation := by
  obtain ⟨-, -, h5m, h1h, -, -, -⟩ := hu
  unfold Usage.creation Usage.fullCreation
  split_ifs <;> omega

/-! #### Ratio billing -/

section

variable (hu : u.Counted) (hr : r.tokenPricing.enabled = false)

include hr in
lemma adjusted_cacheTokens (r' : RelayInfo) (hsame : r'.tokenPricing = r.tokenPricing) :
    (r'.adjustOpenRouter u (r'.summaryOf (some u))).cacheTokens = u.promptTokensDetails.cachedTokens := by
  have hcache : (r'.summaryOf (some u)).cacheTokens = u.promptTokensDetails.cachedTokens :=
    applyInputTokenPricing_disabled (hsame ▸ hr) _
  unfold RelayInfo.adjustOpenRouter
  split
  all_goals exact hcache

include hu hr

lemma ratio_moves (hlow : 1 ≤ o) (hhigh : o ≤ 10000) :
    ((r.atOffset o).settled (some u)).cacheReclassifiedTokens = (r.ratioReading u).moved o ∧
      ((r.atOffset o).settled (some u)).billingCacheTokens + ((r.atOffset o).settled (some u)).cacheReclassifiedTokens =
        ((r.atOffset o).settled (some u)).cacheTokens := by
  have hcache := adjusted_cacheTokens (u := u) hr (r.atOffset o) rfl
  have hfresh : ((r.atOffset o).adjustOpenRouter u ((r.atOffset o).summaryOf (some u))).cacheReclassifiedTokens = 0 ∧
      ((r.atOffset o).adjustOpenRouter u ((r.atOffset o).summaryOf (some u))).billingCacheTokens =
        ((r.atOffset o).adjustOpenRouter u ((r.atOffset o).summaryOf (some u))).cacheTokens := by
    unfold RelayInfo.adjustOpenRouter
    split <;> exact ⟨rfl, rfl⟩
  have hmoves := applyCacheBillingOffset_moves (r.atOffset o).priceData
    ((r.atOffset o).adjustOpenRouter u ((r.atOffset o).summaryOf (some u))) rfl rfl hlow hhigh
    (by rw [hcache]; exact hu.cached) hfresh.1 hfresh.2
  rw [RelayInfo.settled, Option.getD_some, applyCacheBillingOffset_cacheTokens]
  refine ⟨hmoves.1.trans ?_, hmoves.2⟩
  rw [hcache]
  rfl

/-- The summary is not adjusted, and the record is not taken for one of Claude behind an OpenAI interface. -/
lemma Usage.Consistent.ratioReading (hc : u.Consistent r) : r.ratioReading u = r.reading u := by
  have hfull := hu.fullCreation_bounds
  obtain ⟨hprompt, hcached, h5m, h1h, himage, haudio, -⟩ := id hu
  have htotal := u.promptTokensDetails.cacheCreationTokensTotal_nonneg
  have hadjust : (r.atOffset 0).adjustOpenRouter u ((r.atOffset 0).summaryOf (some u)) = (r.atOffset 0).summaryOf (some u) :=
    if_neg hc.router
  have hlegacy : isLegacyClaudeDerivedOpenAIUsage r.format u = false := by
    unfold isLegacyClaudeDerivedOpenAIUsage
    split_ifs with hformat htags
    · rfl
    · rfl
    · rcases hc.split with hnone | htag
      · rwa [decide_eq_false_iff_not]
      · exact absurd (.inr (by rw [htag]; decide)) htags
  have hwrite : cacheWriteTokensTotal ((r.atOffset 0).summaryOf (some u)) = u.fullCreation := by
    simp only [cacheWriteTokensTotal, RelayInfo.summaryOf, RelayInfo.atOffset, Option.getD_some,
      applyInputTokenPricing_disabled hr, Usage.fullCreation]
    split_ifs <;> omega
  have hsemantic : ((r.atOffset 0).summaryOf (some u)).isClaudeUsageSemantic = r.isClaudeUsageSemantic (some u) := rfl
  have hlegacy' : ((r.atOffset 0).summaryOf (some u)).legacyClaudeDerived = false := hlegacy
  have hprompt' : ((r.atOffset 0).summaryOf (some u)).promptTokens = u.promptTokens := applyInputTokenPricing_disabled hr _
  have hcache : ((r.atOffset 0).summaryOf (some u)).cacheTokens = u.promptTokensDetails.cachedTokens :=
    applyInputTokenPricing_disabled hr _
  refine Reading.ext ?_ rfl
  simp only [RelayInfo.ratioReading, RelayInfo.reading, hadjust, TextQuotaSummary.totalInput, hsemantic, hlegacy', hprompt',
    hcache, Usage.totalInput, Usage.inputWith]
  cases r.isClaudeUsageSemantic (some u) with
  | true =>
    simp only [Bool.not_true, Bool.false_and, Bool.false_eq_true, if_false, if_true]
    omega
  | false =>
    simp only [Bool.not_false, Bool.true_and, Bool.false_eq_true, if_false, if_true]
    omega

end

/-! #### Tiered billing -/

lemma subtractIf_bounds (used : Bool) {x y : ℤ} (hy : 0 ≤ y) (hlow : -2 ^ 53 ≤ x - y) (hhigh : x ≤ 2 ^ 53) :
    x - y ≤ subtractIf used x y ∧ subtractIf used x y ≤ x := by
  unfold subtractIf
  split
  · rw [double_eq_self ⟨hlow, by omega⟩]
    omega
  · omega

lemma Usage.Counted.tieredParams (hu : u.Counted) (hr : r.tokenPricing.enabled = false) (usedVars : String → Bool) :
    (r.tieredParams u usedVars).cr = u.promptTokensDetails.cachedTokens ∧
      (r.tieredParams u usedVars).billingInputTotal = u.inputWith u.creation (r.isClaudeUsageSemantic (some u)) ∧
      0 ≤ (r.tieredParams u usedVars).p ∧ (r.tieredParams u usedVars).p ≤ u.promptTokens := by
  have hfull := hu.fullCreation_bounds
  have hle := hu.creation_le
  obtain ⟨hprompt, hcached, h5m, h1h, himage, haudio, -⟩ := id hu
  obtain ⟨a, b, t, hsplit, ha, hb, ht, -, hcovers⟩ := exists_split hr h5m h1h (by omega)
  have ep := double_eq_self (n := u.promptTokens) (by omega)
  have ecr := double_eq_self (n := u.promptTokensDetails.cachedTokens) (by omega)
  have eimg := double_eq_self (n := u.promptTokensDetails.imageTokens) (by omega)
  have eai := double_eq_self (n := u.promptTokensDetails.audioTokens) (by omega)
  simp only [RelayInfo.tieredParams, buildTieredTokenParamsForContext, applyInputTokenPricing_disabled hr, hsplit, ep, ecr,
    eimg, eai, Usage.inputWith]
  refine ⟨trivial, ?_, ?_⟩
  · cases r.isClaudeUsageSemantic (some u) with
    | true =>
      simp only [if_true]
      rw [double_eq_self (n := u.promptTokensDetails.cachedTokens + t) (by omega),
        double_eq_self (by omega)]
      omega
    | false =>
      simp only [Bool.false_eq_true, if_false]
      rw [double_eq_self (n := u.promptTokens - u.promptTokensDetails.cachedTokens) (by omega),
        double_eq_self (n := _ - t) (by omega), ht]
      generalize huncached : (if u.promptTokens - u.promptTokensDetails.cachedTokens - u.creation < 0 then 0
        else u.promptTokens - u.promptTokensDetails.cachedTokens - u.creation) = uncached
      have hmax : uncached = max (u.promptTokens - u.promptTokensDetails.cachedTokens - u.creation) 0 := by
        rw [← huncached]
        split_ifs <;> omega
      rw [double_eq_self (n := uncached + _) (by omega), double_eq_self (by omega), hmax]
  · cases r.isClaudeUsageSemantic (some u) with
    | true =>
      simp only [if_true]
      split_ifs <;> omega
    | false =>
      have h₁ := subtractIf_bounds (usedVars "cr") hcached (x := u.promptTokens) (by omega) (by omega)
      generalize subtractIf (usedVars "cr") u.promptTokens u.promptTokensDetails.cachedTokens = x₁ at *
      have h₂ := subtractIf_bounds (usedVars "cc") ha (x := x₁) (by omega) (by omega)
      generalize subtractIf (usedVars "cc") x₁ a = x₂ at *
      have h₃ := subtractIf_bounds (usedVars "cc1h") hb (x := x₂) (by omega) (by omega)
      generalize subtractIf (usedVars "cc1h") x₂ b = x₃ at *
      have h₄ := subtractIf_bounds (usedVars "img") himage (x := x₃) (by omega) (by omega)
      generalize subtractIf (usedVars "img") x₃ u.promptTokensDetails.imageTokens = x₄ at *
      have h₅ := subtractIf_bounds (usedVars "ai") haudio (x := x₄) (by omega) (by omega)
      split_ifs <;> omega

lemma Usage.Counted.tiered (hu : u.Counted) (hr : r.tokenPricing.enabled = false) (hcr : usedVars "cr" = true) (hlow : 1 ≤ o)
    (hhigh : o ≤ 10000) : (r.tieredOffset u usedVars o).2.elim 0 (·.reclassifiedTokens) =
        movedTokens (u.inputWith u.creation (r.isClaudeUsageSemantic (some u))) u.promptTokensDetails.cachedTokens o ∧
      (r.tieredOffset u usedVars o).1.p + (r.tieredOffset u usedVars o).1.cr =
        (r.tieredParams u usedVars).p + (r.tieredParams u usedVars).cr := by
  obtain ⟨ecr, etotal, hp, hple⟩ := hu.tieredParams hr usedVars
  have hnonneg := u.creation_nonneg
  have hle := hu.creation_le
  have hfull := hu.fullCreation_bounds
  obtain ⟨hprompt, hcached, -, -, himage, haudio, -⟩ := hu
  have hbounds : u.promptTokensDetails.cachedTokens ≤ u.inputWith u.creation (r.isClaudeUsageSemantic (some u)) ∧
      u.inputWith u.creation (r.isClaudeUsageSemantic (some u)) < 2 ^ 53 := by
    unfold Usage.inputWith
    split_ifs <;> omega
  rw [← etotal, ← ecr] at hbounds ⊢
  exact applyTieredCacheBillingOffset_moves usedVars _ _ hcr hlow hhigh hp (by omega) hbounds.1 hbounds.2 (by omega)

/-! #### The usage that is shown -/

section

variable (hu : u.Counted) (hr : r.tokenPricing.enabled = false)

include hu hr

lemma projectedCounts_bounds : 0 ≤ (r.projectedCounts u).promptTokens ∧
    u.promptTokensDetails.cachedTokens ≤ (r.projectedCounts u).promptTokensDetails.cachedTokens ∧
    (r.projectedCounts u).promptTokens + (r.projectedCounts u).promptTokensDetails.cachedTokens +
      (r.projectedCounts u).promptTokensDetails.cacheCreationTokensTotal < 2 ^ 53 := by
  have halternate := u.alternateTokens_bounds
  obtain ⟨hprompt, hcached, h5m, h1h, himage, haudio, hbelow⟩ := hu
  have hp : 0 ≤ (r.projectedCounts u).promptTokens ∧
      (r.projectedCounts u).promptTokens ≤ u.promptTokens + max u.inputTokens 0 := by
    simp only [RelayInfo.projectedCounts, applyInputTokenPricing_disabled hr]
    split_ifs <;> omega
  cases hd : u.inputTokensDetails with
  | none =>
    have ecached : (r.projectedCounts u).promptTokensDetails.cachedTokens = u.promptTokensDetails.cachedTokens := by
      simp only [RelayInfo.projectedCounts, projectInputTokenDetails, applyInputTokenPricing_disabled hr, hd]
    have ecreation : (r.projectedCounts u).promptTokensDetails.cacheCreationTokensTotal ≤
        u.promptTokensDetails.cacheCreationTokensTotal + u.claudeCacheCreation5mTokens + u.claudeCacheCreation1hTokens := by
      simp only [RelayInfo.projectedCounts, projectInputTokenDetails, applyInputTokenPricing_disabled hr, hd,
        InputTokenDetails.cacheCreationTokensTotal_eq]
      omega
    omega
  | some d =>
    have hd' := halternate.2 d hd
    have ecached : (r.projectedCounts u).promptTokensDetails.cachedTokens =
        max u.promptTokensDetails.cachedTokens d.cachedTokens := by
      simp only [RelayInfo.projectedCounts, projectInputTokenDetails, applyInputTokenPricing_disabled hr, hd,
        mergeInputTokenDetails]
    have ecreation : (r.projectedCounts u).promptTokensDetails.cacheCreationTokensTotal ≤
        u.promptTokensDetails.cacheCreationTokensTotal + u.claudeCacheCreation5mTokens + u.claudeCacheCreation1hTokens +
          d.cacheCreationTokensTotal := by
      simp only [RelayInfo.projectedCounts, projectInputTokenDetails, applyInputTokenPricing_disabled hr, hd,
        mergeInputTokenDetails, InputTokenDetails.cacheCreationTokensTotal_eq]
      omega
    omega

lemma shown_moves (ho : r.shownOffset = o) (hlow : 1 ≤ o) (hhigh : o ≤ 10000) :
    r.shownReclassified u = (r.shownReading u).moved o ∧ ∀ v ∈ projectUserBillingUsage (some r) (some u),
      v.shownInput (r.isClaudeUsageSemantic (some u)) = (r.projectedCounts u).shownInput (r.isClaudeUsageSemantic (some u)) := by
  obtain ⟨hprompt, hcached, hbelow⟩ := projectedCounts_bounds hu hr
  have hnonneg := hu.cached
  have hmoved : r.shownReclassified u = (r.shownReading u).moved o :=
    projectedCacheReclassifiedTokens_eq _ ho hlow hhigh hprompt (by omega)
      (InputTokenDetails.cacheCreationTokensTotal_nonneg _) hbelow
  refine ⟨hmoved, fun v hv => ?_⟩
  have hle : r.shownReclassified u ≤ (r.projectedCounts u).promptTokensDetails.cachedTokens :=
    hmoved.trans_le (movedTokens_le _ _ _)
  cases hv
  simp only [Usage.shownInput, clampUserVisibleUsage, clampInputTokenDetails]
  cases r.isClaudeUsageSemantic (some u) with
  | true =>
    simp only [and_true]
    split_ifs <;> omega
  | false =>
    simp only [Bool.false_eq_true, and_false, if_false]
    omega

lemma Usage.Consistent.shownReading (hc : u.Consistent r) : r.shownReading u = r.reading u := by
  have hfull := hu.fullCreation_bounds
  obtain ⟨hprompt, hcached, h5m, h1h, himage, haudio, hbelow⟩ := id hu
  obtain ⟨hinput, hdetails⟩ := hc.plain
  have ep : (r.projectedCounts u).promptTokens = u.promptTokens := by
    simp only [RelayInfo.projectedCounts, applyInputTokenPricing_disabled hr]
    split_ifs <;> omega
  have ecached : (r.projectedCounts u).promptTokensDetails.cachedTokens = u.promptTokensDetails.cachedTokens := by
    simp only [RelayInfo.projectedCounts, projectInputTokenDetails, applyInputTokenPricing_disabled hr]
    cases hd : u.inputTokensDetails with
    | none => rfl
    | some d => exact max_eq_left (hdetails d hd).1
  have ecreation : (r.projectedCounts u).promptTokensDetails.cacheCreationTokensTotal = u.fullCreation := by
    simp only [RelayInfo.projectedCounts, projectInputTokenDetails, applyInputTokenPricing_disabled hr, Usage.fullCreation,
      InputTokenDetails.cacheCreationTokensTotal_eq]
    cases hd : u.inputTokensDetails with
    | none =>
      dsimp only
      omega
    | some d =>
      obtain ⟨-, hcreation, hwrite⟩ := hdetails d hd
      dsimp only [mergeInputTokenDetails]
      omega
  simp only [RelayInfo.shownReading, RelayInfo.reading, Usage.totalInput, Usage.inputWith, ep, ecached, ecreation]

end

/-- Where no field reports cached tokens nothing is moved anywhere. -/
lemma sharesAgree_of_uncached (hu : u.Counted) (hr : r.tokenPricing.enabled = false) (h : (r.shownReading u).cached = 0)
    (hlow : 1 ≤ o) : SharesAgree r u o := by
  have hnone (x : Reading) (hx : x.cached = 0) (htotal : 0 ≤ x.total) : x.moved o = 0 := by
    have hle := movedTokens_le x.total x.cached o
    have hge := movedTokens_nonneg x.total htotal hx.ge hlow
    unfold Reading.moved
    omega
  have hinput (v : Usage) (creation : ℤ) (isClaude : Bool) (hp : 0 ≤ v.promptTokens) (hc : 0 ≤ creation)
      (hcached : 0 ≤ v.promptTokensDetails.cachedTokens) : 0 ≤ v.inputWith creation isClaude := by
    unfold Usage.inputWith
    split_ifs <;> omega
  obtain ⟨hp, hle, -⟩ := projectedCounts_bounds hu hr
  have hfull := hu.fullCreation_bounds
  have hcached : u.promptTokensDetails.cachedTokens = 0 := le_antisymm (hle.trans h.le) hu.cached
  have hrecord : (r.reading u).moved o = 0 := hnone _ hcached (hinput _ _ _ hu.prompt hfull.1 hu.cached)
  have hratio : 0 ≤ (r.ratioReading u).total := (le_max_right _ _).trans (TextQuotaSummary.totalInput_nonneg _)
  refine ⟨?_, ?_, ?_⟩
  · rw [hrecord, hnone (r.ratioReading u) hcached hratio]
  · rw [hrecord, hnone (r.tieredReading u) hcached (hinput _ _ _ hu.prompt u.creation_nonneg hu.cached)]
  · rw [hrecord, hnone (r.shownReading u) h
      (hinput _ _ _ hp (InputTokenDetails.cacheCreationTokensTotal_nonneg _) (hu.cached.trans hle))]

/-- **The offset is the same in the three places exactly if they read the same share of the input**; a record that they read
in the same way is such a record at every offset, and so is one without cached tokens. -/
theorem offset_agrees_iff (r : RelayInfo) (u : Usage) (usedVars : String → Bool) (o : ℤ) (hu : u.Counted)
    (hr : r.tokenPricing.enabled = false) (hcr : usedVars "cr" = true) (hlow : 1 ≤ o) (hhigh : o ≤ 10000) :
    (OffsetAgrees r u usedVars o ((r.reading u).moved o) ↔ SharesAgree r u o) ∧
      (u.Consistent r ∨ (r.shownReading u).cached = 0 → SharesAgree r u o) := by
  obtain ⟨hratio, hratioTotal⟩ := ratio_moves hu hr hlow hhigh
  obtain ⟨htiered, htieredTotal⟩ := hu.tiered hr hcr hlow hhigh
  obtain ⟨hshown, hshownTotal⟩ := shown_moves (r := r.atOffset o) hu hr rfl hlow hhigh
  obtain ⟨hshown', hshownTotal'⟩ := shown_moves (r := r.atSnapshot usedVars o) hu hr
    (by simp [RelayInfo.shownOffset, RelayInfo.atSnapshot, hcr]) hlow hhigh
  refine ⟨⟨fun h => ⟨?_, ?_, ?_⟩, fun h => ⟨?_, hratioTotal, ?_, htieredTotal, ⟨?_, hshownTotal⟩, ?_, hshownTotal'⟩⟩, ?_⟩
  · exact hratio.symm.trans h.ratio
  · exact htiered.symm.trans h.tiered
  · exact hshown.symm.trans h.shown.moved
  · exact hratio.trans h.ratio
  · exact htiered.trans h.tiered
  · exact hshown.trans h.shown
  · exact hshown'.trans h.shown
  · rintro (hc | hnone)
    · refine ⟨by rw [hc.ratioReading hu hr], ?_, by rw [hc.shownReading hu hr]⟩
      rw [RelayInfo.tieredReading, hc.creation_eq]
      rfl
    · exact sharesAgree_of_uncached hu hr hnone hlow

/-- Half of a prompt is cached, and the other half bears the share. -/
theorem offset_agrees_iff_cached :
    let u : Usage := { promptTokens := 100, promptTokensDetails := { cachedTokens := 50 } }
    OffsetAgrees {} u (fun _ => true) 5000 ((RelayInfo.reading {} u).moved 5000) := by
  intro u
  have hu : u.Counted := by constructor <;> decide
  have hc : u.Consistent {} := ⟨.inl (by decide), by decide, .inl (by decide), by simp [u]⟩
  have h := offset_agrees_iff {} u (fun _ => true) 5000 hu rfl rfl (by decide) (by decide)
  exact h.1.2 (h.2 (.inl hc))

/-- A Claude request, and an untagged record with 10000 uncached, 30000 cached and 10000 written tokens. -/
def splitRelay : RelayInfo := { format := .claude }

@[inherit_doc splitRelay]
def splitRecord : Usage :=
  { promptTokens := 10000, promptTokensDetails := { cachedTokens := 30000 }, claudeCacheCreation5mTokens := 10000 }

/-- At half of the input, ratio billing and the projection move 25000 cached tokens, tiered billing 20000. -/
theorem untagged_split_disagrees :
    splitRecord.totalInput (splitRelay.isClaudeUsageSemantic (some splitRecord)) = 50000 ∧
      ((splitRelay.atOffset 5000).settled (some splitRecord)).cacheReclassifiedTokens = 25000 ∧
      (splitRelay.atOffset 5000).shownReclassified splitRecord = 25000 ∧
      (splitRelay.tieredOffset splitRecord (fun _ => true) 5000).2.elim 0 (·.reclassifiedTokens) = 20000 ∧
      ¬OffsetAgrees splitRelay splitRecord (fun _ => true) 5000 (movedTokens 50000 30000 5000) := by
  have htiered : (splitRelay.tieredOffset splitRecord (fun _ => true) 5000).2.elim 0 (·.reclassifiedTokens) = 20000 := by
    decide
  refine ⟨by decide, by decide, by decide, htiered, fun hagrees => ?_⟩
  exact absurd (htiered.symm.trans hagrees.tiered) (by decide)

end StarNexus.Pricing
