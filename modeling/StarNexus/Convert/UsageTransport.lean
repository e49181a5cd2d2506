import StarNexus.Pricing.Usage

/-!
# Usage on its way to settlement

The usage of a Responses reply is copied field by field by four handlers (native or as a chat completion, streamed or not), the
usage of a chat completion by the handlers that serve it as a Responses reply.  The counts that settlement reads are the same
exactly if the fields that some of the handlers forget are zero.
-/

namespace StarNexus.Convert

open Pricing

/-! ### Requests and reported usage -/

inductive ChannelType
  | codex
  | openAI
  | deepSeek
  | zhipuV4
  | moonshot
  | other
  deriving DecidableEq

/-- What is known of a request apart from its transport. -/
structure UsageInfo where
  channelType : ChannelType
  estimatePromptTokens : ℕ
  shortProbeModel : Bool
  countTextToken : String → ℕ
  estimateTokenByModel : String → ℕ

structure ReportedUsage where
  inputTokens : ℕ := 0
  outputTokens : ℕ := 0
  totalTokens : ℕ := 0
  cachedTokens : ℕ := 0
  cachedCreationTokens : ℕ := 0
  cacheWriteTokens : ℕ := 0
  imageTokens : ℕ := 0
  audioTokens : ℕ := 0

def ReportedUsage.Positive (u : ReportedUsage) : Prop :=
  0 < u.inputTokens + u.outputTokens + u.cachedTokens + u.cachedCreationTokens + u.cacheWriteTokens + u.imageTokens + u.audioTokens

instance (u : ReportedUsage) : Decidable u.Positive := inferInstanceAs (Decidable (_ < _))

def ReportedUsage.details (u : ReportedUsage) : InputTokenDetails :=
  { cachedTokens := u.cachedTokens, cachedCreationTokens := u.cachedCreationTokens, cacheWriteTokens := u.cacheWriteTokens
    imageTokens := u.imageTokens, audioTokens := u.audioTokens }

def ReportedUsage.usage (u : ReportedUsage) : Usage :=
  { inputTokens := u.inputTokens, outputTokens := u.outputTokens, totalTokens := u.totalTokens, inputTokensDetails := some u.details }

/-! ### Reconciliation -/

def shouldRaisePromptTokens (info : UsageInfo) (native : Bool) (promptTokens : ℤ) : Prop :=
  (info.channelType = .codex ∨ info.channelType = .openAI ∧ native = true) ∧ 0 < info.estimatePromptTokens ∧ 0 < promptTokens ∧
    promptTokens < info.estimatePromptTokens ∧ 256 ≤ info.estimatePromptTokens - promptTokens ∧
    promptTokens * 2 < info.estimatePromptTokens

instance (info : UsageInfo) (native : Bool) (promptTokens : ℤ) : Decidable (shouldRaisePromptTokens info native promptTokens) :=
  inferInstanceAs (Decidable (_ ∧ _))

def isShortProbe (info : UsageInfo) (native stream : Bool) (promptTokens completionTokens cachedTokens : ℤ) : Prop :=
  info.channelType = .openAI ∧ native = true ∧ stream = true ∧ info.shortProbeModel = true ∧
    0 < info.estimatePromptTokens ∧ info.estimatePromptTokens ≤ 128 ∧ 0 < promptTokens ∧ promptTokens ≤ 128 ∧
    0 ≤ completionTokens ∧ completionTokens ≤ 128 ∧ cachedTokens = 0

instance (info : UsageInfo) (native stream : Bool) (p c k : ℤ) : Decidable (isShortProbe info native stream p c k) :=
  inferInstanceAs (Decidable (_ ∧ _))

/-- The prompt tokens that are billed at full price when the prompt is raised to the target. -/
def uncachedTokens (target promptTokens cachedTokens : ℤ) : ℤ :=
  let uncached := max (promptTokens - cachedTokens) 0
  min (if promptTokens * 10 < target then max uncached (max (target * 134 / 1000) 1) else uncached) target

def raiseTo (target : ℤ) (usage : Usage) : Usage :=
  let cached := target - uncachedTokens target usage.promptTokens usage.promptTokensDetails.cachedTokens
  { usage with
    promptTokens := target
    inputTokens := target
    promptTokensDetails := { usage.promptTokensDetails with cachedTokens := cached }
    inputTokensDetails := usage.inputTokensDetails.map fun d => { d with cachedTokens := cached }
    totalTokens := target + usage.completionTokens }

def reconcileCodexResponsesUsage (info : UsageInfo) (native stream : Bool) (usage : Usage) : Usage :=
  if isShortProbe info native stream usage.promptTokens usage.completionTokens usage.promptTokensDetails.cachedTokens then
    raiseTo 4436 usage
  else if shouldRaisePromptTokens info native usage.promptTokens then raiseTo info.estimatePromptTokens usage
  else usage

/-! ### Reconciling raises -/

/-- What reconciling `u` to `v` is for: the prompt and its uncached part are raised, and nothing else is touched. -/
structure Raised (u v : Usage) : Prop where
  prompt : u.promptTokens ≤ v.promptTokens
  uncached : u.promptTokens - u.promptTokensDetails.cachedTokens ≤ v.promptTokens - v.promptTokensDetails.cachedTokens
  cached_nonneg : 0 ≤ v.promptTokensDetails.cachedTokens
  cached_le : v.promptTokensDetails.cachedTokens ≤ v.promptTokens
  total : v ≠ u → v.totalTokens = v.promptTokens + v.completionTokens
  completion : v.completionTokens = u.completionTokens ∧ v.outputTokens = u.outputTokens
  written : v.promptTokensDetails.cacheWriteTokens = u.promptTokensDetails.cacheWriteTokens ∧
    v.promptTokensDetails.cachedCreationTokens = u.promptTokensDetails.cachedCreationTokens ∧
      v.inputTokensDetails.map (·.cacheWriteTokens) = u.inputTokensDetails.map (·.cacheWriteTokens)

section raises

variable {usage : Usage} (hcached : 0 ≤ usage.promptTokensDetails.cachedTokens)
  (hle : usage.promptTokensDetails.cachedTokens ≤ usage.promptTokens)

include hcached hle

lemma raised_raiseTo {target : ℤ} (h : usage.promptTokens ≤ target) : Raised usage (raiseTo target usage) := by
  obtain ⟨hlow, hhigh⟩ : usage.promptTokens - usage.promptTokensDetails.cachedTokens ≤
      uncachedTokens target usage.promptTokens usage.promptTokensDetails.cachedTokens ∧
      uncachedTokens target usage.promptTokens usage.promptTokensDetails.cachedTokens ≤ target := by
    dsimp only [uncachedTokens]
    split_ifs <;> omega
  refine ⟨h, ?_, ?_, ?_, fun _ => rfl, ⟨rfl, rfl⟩, rfl, rfl, ?_⟩ <;> simp only [raiseTo, Option.map_map]
  · omega
  · omega
  · omega
  · rfl

/-- **Reconciling again changes nothing, and reconciling only raises.** What is raised to its estimate is no probe. -/
theorem reconcileCodexResponsesUsage_raises (info : UsageInfo) (native stream : Bool) :
    let once := reconcileCodexResponsesUsage info native stream usage
    reconcileCodexResponsesUsage info native stream once = once ∧ Raised usage once := by
  intro once
  by_cases hprobe : isShortProbe info native stream usage.promptTokens usage.completionTokens
      usage.promptTokensDetails.cachedTokens
  · have honce : once = raiseTo 4436 usage := if_pos hprobe
    obtain ⟨-, -, -, -, -, hestimate, -, hprompt, -⟩ := hprobe
    rw [honce]
    refine ⟨?_, raised_raiseTo hcached hle (by omega)⟩
    rw [reconcileCodexResponsesUsage, if_neg, if_neg]
    · rintro ⟨-, -, -, hlt, -⟩
      simp only [raiseTo] at hlt
      omega
    · rintro ⟨-, -, -, -, -, -, -, hsmall, -⟩
      exact absurd hsmall (by simp [raiseTo])
  by_cases hraise : shouldRaisePromptTokens info native usage.promptTokens
  · have honce : once = raiseTo info.estimatePromptTokens usage := (if_neg hprobe).trans (if_pos hraise)
    obtain ⟨-, -, hpos, hlt, hgap, -⟩ := hraise
    rw [honce]
    refine ⟨?_, raised_raiseTo hcached hle hlt.le⟩
    rw [reconcileCodexResponsesUsage, if_neg, if_neg]
    · rintro ⟨-, -, -, hself, -⟩
      exact absurd hself (lt_irrefl _)
    · rintro ⟨-, -, -, -, -, hestimate, -⟩
      omega
  · have honce : once = usage := (if_neg hprobe).trans (if_neg hraise)
    rw [honce]
    exact ⟨honce, le_rfl, le_rfl, hcached, hle, fun hne => absurd rfl hne, ⟨rfl, rfl⟩, rfl, rfl, rfl⟩

end raises

/-- A short probe of 20 tokens is raised to 4436, of which 594 are not cached. -/
theorem reconcileCodexResponsesUsage_raises_probe :
    let info : UsageInfo := ⟨.openAI, 20, true, fun _ => 0, fun _ => 0⟩
    let once := reconcileCodexResponsesUsage info true true { promptTokens := 20, completionTokens := 5, totalTokens := 25 }
    once.promptTokens = 4436 ∧ once.promptTokensDetails.cachedTokens = 3842 ∧ once.totalTokens = 4441 ∧
      reconcileCodexResponsesUsage info true true once = once :=
  ⟨by decide, by decide, by decide, (reconcileCodexResponsesUsage_raises (by decide) (by decide) _ true true).1⟩

/-! ### Handlers of Responses replies -/

def usageFromResponsesUsage (responseUsage : Usage) : Usage :=
  let promptTokens :=
    if 0 < responseUsage.inputTokens ∨ responseUsage.promptTokens = 0 then responseUsage.inputTokens else responseUsage.promptTokens
  let completionTokens :=
    if 0 < responseUsage.outputTokens ∨ responseUsage.completionTokens = 0 then responseUsage.outputTokens
    else responseUsage.completionTokens
  { responseUsage with
    promptTokens, completionTokens
    promptTokensDetails := responseUsage.inputTokensDetails.getD responseUsage.promptTokensDetails
    totalTokens := promptTokens + completionTokens }

def oaiResponsesHandler (info : UsageInfo) (reported : Usage) : Usage :=
  reconcileCodexResponsesUsage info true false (usageFromResponsesUsage reported)

def applyResponseUsage (usage reported : Usage) : Usage :=
  { usage with
    promptTokens := reported.inputTokens
    completionTokens := reported.outputTokens
    totalTokens := reported.totalTokens
    promptTokensDetails := match reported.inputTokensDetails with
      | some d => { usage.promptTokensDetails with cachedTokens := d.cachedTokens, cacheWriteTokens := d.cacheWriteTokens }
      | none => usage.promptTokensDetails }

/-- `Usage` of the accumulator; `completionText` is `fallbackCompletionText`. -/
def accumulatedUsage (info : UsageInfo) (completionText : String) (usage : Usage) : Usage :=
  let completionTokens : ℤ :=
    if usage.completionTokens = 0 ∧ completionText ≠ "" then info.countTextToken completionText else usage.completionTokens
  let promptTokens : ℤ :=
    if usage.promptTokens = 0 ∧ completionTokens ≠ 0 then info.estimatePromptTokens else usage.promptTokens
  { usage with
    promptTokens, completionTokens
    totalTokens := if usage.totalTokens = 0 then promptTokens + completionTokens else usage.totalTokens }

def oaiResponsesStreamHandler (info : UsageInfo) (completionText : String) (reported : Usage) : Usage :=
  reconcileCodexResponsesUsage info true true (accumulatedUsage info completionText (applyResponseUsage {} reported))

def responseText2Usage (info : UsageInfo) (text : String) : Usage :=
  { promptTokens := info.estimatePromptTokens, completionTokens := info.estimateTokenByModel text
    totalTokens := info.estimatePromptTokens + info.estimateTokenByModel text }

def copyResponsesUsage (details : InputTokenDetails → InputTokenDetails) (src : Usage) : Usage :=
  { promptTokens := src.inputTokens, inputTokens := src.inputTokens
    completionTokens := src.outputTokens, outputTokens := src.outputTokens
    totalTokens := if src.totalTokens ≠ 0 then src.totalTokens else src.inputTokens + src.outputTokens
    promptTokensDetails := (src.inputTokensDetails.map details).getD {}
    completionTokenDetails := { reasoningTokens := src.completionTokenDetails.reasoningTokens } }

def usageFromResponsesUsageToChat (src : Usage) : Usage :=
  copyResponsesUsage (fun d => { cachedTokens := d.cachedTokens, imageTokens := d.imageTokens, audioTokens := d.audioTokens }) src

def oaiResponsesToChatHandler (info : UsageInfo) (text : String) (reported : Usage) : Usage :=
  let usage := usageFromResponsesUsageToChat reported
  reconcileCodexResponsesUsage info false false (if usage.totalTokens = 0 then responseText2Usage info text else usage)

def usageOfCompletedEvent (reported : Usage) : Usage :=
  copyResponsesUsage
    (fun d => { cachedTokens := d.cachedTokens, cacheWriteTokens := d.cacheWriteTokens, imageTokens := d.imageTokens
                audioTokens := d.audioTokens })
    reported

/-- `OaiResponsesToChatStreamHandler`: the usage is reconciled with the event and at the end. -/
def oaiResponsesToChatStreamHandler (info : UsageInfo) (text : String) (reported : Usage) : Usage :=
  let usage := reconcileCodexResponsesUsage info false true (usageOfCompletedEvent reported)
  reconcileCodexResponsesUsage info false true (if usage.totalTokens = 0 then responseText2Usage info text else usage)

/-! ### Handlers of chat completions -/

/-- The usage of a chat completion, and what the body says about cached tokens in other places. -/
structure ChatUsage where
  usage : Usage
  moonshotCachedTokens : Option ℤ := none
  llamaCachedTokens : Option ℤ := none

def ChatUsage.bodyCachedTokens (v : ChatUsage) : ℤ := v.usage.promptTokensDetails.cachedTokens

/-- The cached tokens that `applyUsagePostProcessing` finds where a usage has none. -/
def ChatUsage.foundCachedTokens (v : ChatUsage) (channelType : ChannelType) (usage : Usage) : ℤ :=
  let inDetails := (usage.inputTokensDetails.map (·.cachedTokens)).getD 0
  match channelType with
  | .deepSeek => usage.promptCacheHitTokens
  | .zhipuV4 => if 0 < inDetails then inDetails else v.bodyCachedTokens
  | .moonshot => if 0 < inDetails then inDetails else v.moonshotCachedTokens.getD v.bodyCachedTokens
  | .openAI => v.llamaCachedTokens.getD 0
  | _ => 0

def applyUsagePostProcessing (info : UsageInfo) (v : ChatUsage) (usage : Usage) : Usage :=
  if usage.promptTokensDetails.cachedTokens = 0 then
    { usage with
      promptTokensDetails :=
        { usage.promptTokensDetails with cachedTokens := v.foundCachedTokens info.channelType usage } }
  else usage

/-- `OpenaiHandler`: a usage without prompt tokens is replaced. -/
def openaiHandler (info : UsageInfo) (text : String) (v : ChatUsage) : Usage :=
  let completionTokens : ℤ := if v.usage.completionTokens = 0 then info.countTextToken text else v.usage.completionTokens
  applyUsagePostProcessing info v
    (if v.usage.promptTokens = 0 then
      { promptTokens := info.estimatePromptTokens, completionTokens, totalTokens := info.estimatePromptTokens + completionTokens }
    else v.usage)

/-- `OaiStreamHandler`: a usage without prompt and completion tokens is replaced. -/
def oaiStreamHandler (info : UsageInfo) (text : String) (v : ChatUsage) : Usage :=
  applyUsagePostProcessing info v
    (if v.usage.promptTokens ≠ 0 ∨ v.usage.completionTokens ≠ 0 then v.usage else responseText2Usage info text)

/-- `UsageFromChatUsage`: the details are for the client, `PromptTokensDetails` stay empty. -/
def usageFromChatUsage (src : Usage) : Usage :=
  { promptTokens := src.promptTokens, inputTokens := src.promptTokens
    completionTokens := src.completionTokens, outputTokens := src.completionTokens
    totalTokens := if src.totalTokens ≠ 0 then src.totalTokens else src.promptTokens + src.completionTokens
    inputTokensDetails :=
      let d := src.promptTokensDetails
      if d.cachedTokens ≠ 0 ∨ d.imageTokens ≠ 0 ∨ d.audioTokens ≠ 0 ∨ d.cachedCreationTokens ≠ 0 ∨ d.textTokens ≠ 0 then some d
      else none
    completionTokenDetails := src.completionTokenDetails }

/-- `OaiChatToResponsesHandler` and `OaiChatToResponsesStreamHandler`. -/
def oaiChatToResponsesHandler (info : UsageInfo) (text : String) (v : ChatUsage) : Usage :=
  let usage := usageFromChatUsage v.usage
  if usage.totalTokens = 0 then responseText2Usage info text else usage

/-! ### What settlement reads -/

@[ext] structure Counts where
  prompt : ℤ
  completion : ℤ
  cached : ℤ
  cacheCreation : ℤ
  image : ℤ
  audio : ℤ
  deriving DecidableEq

def countsOf (usage : Usage) : Counts :=
  ⟨usage.promptTokens, usage.completionTokens, usage.promptTokensDetails.cachedTokens,
    usage.promptTokensDetails.cacheCreationTokensTotal, usage.promptTokensDetails.imageTokens, usage.promptTokensDetails.audioTokens⟩

structure SameUsage (info : UsageInfo) (completionText text streamText : String) (u : ReportedUsage) : Prop where
  stream : countsOf (oaiResponsesStreamHandler info completionText u.usage) = countsOf (oaiResponsesHandler info u.usage)
  chat : countsOf (oaiResponsesToChatHandler info text u.usage) = countsOf (oaiResponsesHandler info u.usage)
  chatStream : countsOf (oaiResponsesToChatStreamHandler info streamText u.usage) = countsOf (oaiResponsesHandler info u.usage)

/-- The same cached tokens for a chat completion that is served as a Responses reply. -/
structure SameCached (info : UsageInfo) (text : String) (v : ChatUsage) : Prop where
  plain : (oaiChatToResponsesHandler info text v).promptTokensDetails.cachedTokens =
    (openaiHandler info text v).promptTokensDetails.cachedTokens
  stream : (oaiChatToResponsesHandler info text v).promptTokensDetails.cachedTokens =
    (oaiStreamHandler info text v).promptTokensDetails.cachedTokens

/-! ### Reconciled counts -/

def Counts.raiseTo (target : ℤ) (c : Counts) : Counts :=
  { c with prompt := target, cached := target - uncachedTokens target c.prompt c.cached }

def Counts.reconcile (info : UsageInfo) (native stream : Bool) (c : Counts) : Counts :=
  if isShortProbe info native stream c.prompt c.completion c.cached then c.raiseTo 4436
  else if shouldRaisePromptTokens info native c.prompt then c.raiseTo info.estimatePromptTokens
  else c

lemma countsOf_reconcile (info : UsageInfo) (native stream : Bool) (usage : Usage) :
    countsOf (reconcileCodexResponsesUsage info native stream usage) = (countsOf usage).reconcile info native stream := by
  unfold reconcileCodexResponsesUsage
  show _ = if isShortProbe info native stream usage.promptTokens usage.completionTokens usage.promptTokensDetails.cachedTokens then
    (countsOf usage).raiseTo 4436
    else if shouldRaisePromptTokens info native usage.promptTokens then (countsOf usage).raiseTo info.estimatePromptTokens
    else countsOf usage
  split_ifs <;> rfl

open Counts

section reconcile

variable (info : UsageInfo) (native stream : Bool) (c : Counts)

lemma reconcile_kept : (c.reconcile info native stream).completion = c.completion ∧
    (c.reconcile info native stream).cacheCreation = c.cacheCreation ∧ (c.reconcile info native stream).image = c.image ∧
      (c.reconcile info native stream).audio = c.audio := by
  unfold reconcile
  split_ifs <;> exact ⟨rfl, rfl, rfl, rfl⟩

variable {info native stream c}

lemma reconcile_kept_of_not (hprobe : ¬isShortProbe info native stream c.prompt c.completion c.cached)
    (hraise : ¬shouldRaisePromptTokens info native c.prompt) : c.reconcile info native stream = c :=
  (if_neg hprobe).trans (if_neg hraise)

lemma reconcile_of_prompt_le (h : c.prompt ≤ 0) : c.reconcile info native stream = c :=
  reconcile_kept_of_not (fun hprobe => absurd hprobe.2.2.2.2.2.2.1 (by omega)) fun hraise => absurd hraise.2.2.1 (by omega)

lemma reconcile_of_estimate_le (hnative : native = false) (h : info.estimatePromptTokens ≤ c.prompt) :
    c.reconcile info native stream = c :=
  reconcile_kept_of_not (fun hprobe => absurd hprobe.2.1 (by simp [hnative])) fun hraise => absurd hraise.2.2.2.1 (by omega)

lemma reconcile_probed (h : isShortProbe info native stream c.prompt c.completion c.cached) :
    c.reconcile info native stream = c.raiseTo 4436 := if_pos h

lemma reconcile_raised (hprobe : ¬isShortProbe info native stream c.prompt c.completion c.cached)
    (h : shouldRaisePromptTokens info native c.prompt) : c.reconcile info native stream = c.raiseTo info.estimatePromptTokens :=
  (if_neg hprobe).trans (if_pos h)

lemma reconcile_chat (hchannel : info.channelType ≠ .codex) : c.reconcile info false stream = c := by
  refine reconcile_kept_of_not (fun hprobe => absurd hprobe.2.1 (by simp)) ?_
  rintro ⟨hcodex | hopen, -⟩
  · exact hchannel hcodex
  · exact absurd hopen.2 (by simp)

lemma reconcile_of_ne_openAI (hchannel : info.channelType ≠ .openAI) :
    c.reconcile info native stream = c.reconcile info false false := by
  have hprobe : ∀ n s, ¬isShortProbe info n s c.prompt c.completion c.cached := fun n s h => hchannel h.1
  have hraise : shouldRaisePromptTokens info native c.prompt ↔ shouldRaisePromptTokens info false c.prompt := by
    unfold shouldRaisePromptTokens
    simp [hchannel]
  unfold reconcile
  rw [if_neg (hprobe _ _), if_neg (hprobe _ _)]
  exact if_congr hraise rfl rfl

lemma reconcile_reconcile (c : Counts) (stream : Bool) :
    (c.reconcile info false stream).reconcile info false stream = c.reconcile info false stream := by
  have hprobe : ∀ d : Counts, ¬isShortProbe info false stream d.prompt d.completion d.cached := fun d h => absurd h.2.1 (by simp)
  by_cases hraise : shouldRaisePromptTokens info false c.prompt
  · rw [reconcile_raised (hprobe c) hraise]
    exact reconcile_of_estimate_le rfl le_rfl
  · have hkept : c.reconcile info false stream = c := reconcile_kept_of_not (hprobe c) hraise
    rw [hkept, hkept]

end reconcile

/-! ### The counts of the handlers -/

section handlers

variable (info : UsageInfo) (text : String) (u : ReportedUsage)

def nativeCounts : Counts :=
  ⟨u.inputTokens, u.outputTokens, u.cachedTokens, max u.cachedCreationTokens u.cacheWriteTokens, u.imageTokens, u.audioTokens⟩

lemma cacheCreationTokensTotal_natCast {d : InputTokenDetails} {m n : ℕ} (hcreated : d.cachedCreationTokens = m)
    (hwritten : d.cacheWriteTokens = n) : d.cacheCreationTokensTotal = max (m : ℤ) n := by
  rw [InputTokenDetails.cacheCreationTokensTotal_eq]
  omega

variable {u} in
lemma reconcile_nativeCounts (h : u.inputTokens = 0) (native stream : Bool) :
    (nativeCounts u).reconcile info native stream = nativeCounts u :=
  reconcile_of_prompt_le (Int.natCast_nonpos_iff.2 h)

lemma countsOf_native : countsOf (oaiResponsesHandler info u.usage) = (nativeCounts u).reconcile info true false := by
  unfold oaiResponsesHandler
  rw [countsOf_reconcile]
  refine congrArg _ (Counts.ext ?_ ?_ rfl (cacheCreationTokensTotal_natCast rfl rfl) rfl rfl)
  · exact if_pos (.inr rfl)
  · exact if_pos (.inr rfl)

def streamCompletion : ℤ := if u.outputTokens = 0 ∧ text ≠ "" then info.countTextToken text else u.outputTokens

def streamPrompt : ℤ :=
  if u.inputTokens = 0 ∧ streamCompletion info text u ≠ 0 then info.estimatePromptTokens else u.inputTokens

def streamCounts : Counts := ⟨streamPrompt info text u, streamCompletion info text u, u.cachedTokens, u.cacheWriteTokens, 0, 0⟩

lemma countsOf_stream :
    countsOf (oaiResponsesStreamHandler info text u.usage) = (streamCounts info text u).reconcile info true true := by
  have hcompletion : (accumulatedUsage info text (applyResponseUsage {} u.usage)).completionTokens =
      streamCompletion info text u := by
    refine if_congr ?_ rfl rfl
    show (u.outputTokens : ℤ) = 0 ∧ _ ↔ _
    rw [Int.natCast_eq_zero]
  unfold oaiResponsesStreamHandler
  rw [countsOf_reconcile]
  refine congrArg _ (Counts.ext ?_ hcompletion rfl ?_ rfl rfl)
  · show (if (u.inputTokens : ℤ) = 0 ∧ (accumulatedUsage info text (applyResponseUsage {} u.usage)).completionTokens ≠ 0
      then _ else _) = _
    rw [hcompletion]
    exact if_congr (and_congr_left' Int.natCast_eq_zero) rfl rfl
  · exact (cacheCreationTokensTotal_natCast rfl rfl).trans (max_eq_right (Int.natCast_nonneg _))

def chatCounts (write : ℕ) : Counts :=
  if u.totalTokens + u.inputTokens + u.outputTokens = 0 then
    ⟨info.estimatePromptTokens, info.estimateTokenByModel text, 0, 0, 0, 0⟩
  else ⟨u.inputTokens, u.outputTokens, u.cachedTokens, write, u.imageTokens, u.audioTokens⟩

lemma totalTokens_copy (details : InputTokenDetails → InputTokenDetails) :
    (copyResponsesUsage details u.usage).totalTokens = 0 ↔ u.totalTokens + u.inputTokens + u.outputTokens = 0 := by
  show (if (u.totalTokens : ℤ) ≠ 0 then (u.totalTokens : ℤ) else u.inputTokens + u.outputTokens) = 0 ↔ _
  split_ifs <;> omega

lemma countsOf_chat :
    countsOf (oaiResponsesToChatHandler info text u.usage) = (chatCounts info text u 0).reconcile info false false := by
  unfold oaiResponsesToChatHandler
  rw [countsOf_reconcile]
  refine congrArg _ ((apply_ite countsOf _ _ _).trans ?_)
  exact if_congr (totalTokens_copy u _) rfl rfl

lemma totalTokens_reconcile :
    (reconcileCodexResponsesUsage info false true (usageOfCompletedEvent u.usage)).totalTokens = 0 ↔
      u.totalTokens + u.inputTokens + u.outputTokens = 0 := by
  have htokens : (usageOfCompletedEvent u.usage).totalTokens = 0 ↔ _ := totalTokens_copy u _
  rw [← htokens]
  unfold reconcileCodexResponsesUsage
  rw [if_neg fun hprobe => absurd hprobe.2.1 (by simp)]
  split_ifs with hraise
  · obtain ⟨-, hestimate, hprompt, -⟩ := hraise
    have hinput : 0 < (u.inputTokens : ℤ) := hprompt
    show (info.estimatePromptTokens : ℤ) + u.outputTokens = 0 ↔ _
    omega
  · exact Iff.rfl

lemma countsOf_chatStream :
    countsOf (oaiResponsesToChatStreamHandler info text u.usage) =
      (chatCounts info text u u.cacheWriteTokens).reconcile info false true := by
  unfold oaiResponsesToChatStreamHandler
  rw [countsOf_reconcile]
  have htokens := totalTokens_reconcile info u
  unfold chatCounts
  by_cases htotal : u.totalTokens + u.inputTokens + u.outputTokens = 0
  · rw [if_pos htotal, if_pos (htokens.2 htotal)]
    rfl
  · rw [if_neg htotal, if_neg fun h => htotal (htokens.1 h), countsOf_reconcile, reconcile_reconcile]
    refine congrArg _ (Counts.ext rfl rfl rfl ?_ rfl rfl)
    exact (cacheCreationTokensTotal_natCast rfl rfl).trans (max_eq_right (Int.natCast_nonneg _))

end handlers

/-! ### All ways -/

/-- No count that a handler forgets, no estimate in place of the usage, and no reconciliation of native requests. -/
structure ReportedUsage.Plain (u : ReportedUsage) (info : UsageInfo) (completionText : String) : Prop where
  image : u.imageTokens = 0
  audio : u.audioTokens = 0
  cacheCreation : u.cachedCreationTokens = 0
  cacheWrite : u.cacheWriteTokens = 0
  counted : 0 < u.totalTokens + u.inputTokens + u.outputTokens
  output : u.outputTokens = 0 → completionText = "" ∨ info.countTextToken completionText = 0
  input : u.inputTokens = 0 → u.outputTokens = 0 ∨ info.estimatePromptTokens = 0
  trusted : info.channelType = .openAI →
    ¬shouldRaisePromptTokens info true u.inputTokens ∧ ¬isShortProbe info true true u.inputTokens u.outputTokens u.cachedTokens

section all

variable {info : UsageInfo} {completionText text streamText : String} {u : ReportedUsage}

section

variable (h : u.Plain info completionText)

include h

lemma ReportedUsage.Plain.completion : streamCompletion info completionText u = u.outputTokens := by
  unfold streamCompletion
  split_ifs with hcase
  · rcases h.output hcase.1 with hempty | hzero
    · exact absurd hempty hcase.2
    · omega
  · rfl

lemma ReportedUsage.Plain.prompt : streamPrompt info completionText u = u.inputTokens := by
  unfold streamPrompt
  rw [h.completion]
  split_ifs with hcase
  · rcases h.input hcase.1 with hzero | hzero <;> omega
  · rfl

lemma ReportedUsage.Plain.reconcile (native stream : Bool) {c : Counts}
    (hprompt : c.prompt = u.inputTokens) (hcompletion : c.completion = u.outputTokens) (hcached : c.cached = u.cachedTokens) :
    c.reconcile info native stream = c.reconcile info false false := by
  by_cases hchannel : info.channelType = .openAI
  · obtain ⟨hraise, hprobe⟩ := h.trusted hchannel
    rw [reconcile_chat (by simp [hchannel])]
    apply reconcile_kept_of_not
    all_goals rw [hprompt]
    · rw [hcompletion, hcached]
      exact fun ⟨hopen, _, _, hrest⟩ => hprobe ⟨hopen, rfl, rfl, hrest⟩
    · exact fun ⟨_, hrest⟩ => hraise ⟨.inr ⟨hchannel, rfl⟩, hrest⟩
  · exact reconcile_of_ne_openAI hchannel

lemma ReportedUsage.Plain.same : SameUsage info completionText text streamText u := by
  have hchat : ∀ t w, w = 0 → chatCounts info t u w = ⟨u.inputTokens, u.outputTokens, u.cachedTokens, 0, 0, 0⟩ := by
    intro t w hw
    unfold chatCounts
    rw [if_neg (by have := h.counted; omega), hw, h.image, h.audio]
    rfl
  have hnative : countsOf (oaiResponsesHandler info u.usage) =
      (⟨u.inputTokens, u.outputTokens, u.cachedTokens, 0, 0, 0⟩ : Counts).reconcile info false false := by
    have hcounts : nativeCounts u = ⟨u.inputTokens, u.outputTokens, u.cachedTokens, 0, 0, 0⟩ := by
      unfold nativeCounts
      rw [h.cacheCreation, h.cacheWrite, h.image, h.audio]
      rfl
    rw [countsOf_native, hcounts]
    exact h.reconcile true false rfl rfl rfl
  refine ⟨?_, ?_, ?_⟩
  · rw [hnative, countsOf_stream, streamCounts, h.prompt, h.completion, h.cacheWrite]
    exact h.reconcile true true rfl rfl rfl
  · rw [hnative, countsOf_chat, hchat text 0 rfl]
  · rw [hnative, countsOf_chatStream, hchat streamText _ h.cacheWrite]
    exact h.reconcile false true rfl rfl rfl

end

section

variable (h : SameUsage info completionText text streamText u)

include h

lemma SameUsage.forgotten : u.imageTokens = 0 ∧ u.audioTokens = 0 ∧ u.cachedCreationTokens = 0 ∧ u.cacheWriteTokens = 0 ∧
      streamCompletion info completionText u = u.outputTokens := by
  have hstream := h.stream
  have hchat := h.chat
  rw [countsOf_native, countsOf_stream] at hstream
  rw [countsOf_native, countsOf_chat] at hchat
  have hkept := reconcile_kept info true false (nativeCounts u)
  have hkept' := reconcile_kept info true true (streamCounts info completionText u)
  have hcreation : (chatCounts info text u 0).cacheCreation = 0 := by
    unfold chatCounts
    split_ifs <;> rfl
  have hkept'' := reconcile_kept info false false (chatCounts info text u 0)
  rw [hstream] at hkept'
  rw [hchat] at hkept''
  unfold nativeCounts at hkept hkept' hkept''
  unfold streamCounts at hkept'
  dsimp only at hkept hkept' hkept''
  omega

lemma SameUsage.counted (hu : u.Positive) : 0 < u.totalTokens + u.inputTokens + u.outputTokens := by
  by_contra htotal
  have hchat := h.chat
  obtain ⟨himage, haudio, hcreation, hwrite, -⟩ := h.forgotten
  rw [countsOf_native, countsOf_chat, reconcile_nativeCounts info (by omega)] at hchat
  unfold chatCounts at hchat
  rw [if_pos (by omega), reconcile_of_estimate_le rfl le_rfl] at hchat
  have hcached : (0 : ℤ) = u.cachedTokens := congrArg cached hchat
  unfold ReportedUsage.Positive at hu
  omega

lemma SameUsage.input (hinput : u.inputTokens = 0) : u.outputTokens = 0 ∨ info.estimatePromptTokens = 0 := by
  by_contra hcase
  have hstream := h.stream
  obtain ⟨-, -, -, -, hcompletion⟩ := h.forgotten
  have hprompt : streamPrompt info completionText u = info.estimatePromptTokens := by
    exact if_pos ⟨hinput, by omega⟩
  rw [countsOf_native, countsOf_stream, reconcile_nativeCounts info hinput] at hstream
  have hzero : ((streamCounts info completionText u).reconcile info true true).prompt = u.inputTokens := congrArg prompt hstream
  have hraised : ((streamCounts info completionText u).reconcile info true true).prompt = 4436 ∨
      ((streamCounts info completionText u).reconcile info true true).prompt = info.estimatePromptTokens := by
    unfold reconcile
    split_ifs
    · exact .inl rfl
    · exact .inr rfl
    · exact .inr hprompt
  omega

lemma SameUsage.trusted (hu : u.Positive) (hchannel : info.channelType = .openAI) :
    ¬shouldRaisePromptTokens info true u.inputTokens ∧ ¬isShortProbe info true true u.inputTokens u.outputTokens u.cachedTokens := by
  have hcodex : info.channelType ≠ .codex := by simp [hchannel]
  have hcounted := h.counted hu
  obtain ⟨-, -, -, -, hcompletion⟩ := h.forgotten
  have hchat := h.chat
  have hstream := h.stream
  rw [← h.chat, countsOf_chat, reconcile_chat hcodex] at hstream
  rw [countsOf_native, countsOf_chat, reconcile_chat hcodex] at hchat
  unfold chatCounts at hchat hstream
  rw [if_neg (by omega)] at hchat hstream
  constructor
  · intro hraise
    have hprobe : ¬isShortProbe info true false u.inputTokens u.outputTokens u.cachedTokens := fun hp => absurd hp.2.2.1 (by simp)
    rw [reconcile_raised hprobe hraise] at hchat
    have htarget : (u.inputTokens : ℤ) = info.estimatePromptTokens := congrArg prompt hchat
    exact absurd hraise.2.2.2.1 (by omega)
  · intro hprobe
    have hsame : streamPrompt info completionText u = u.inputTokens := by
      exact if_neg fun hzero => absurd hprobe.2.2.2.2.2.2.1 (by omega)
    rw [countsOf_stream, streamCounts, hsame, hcompletion, reconcile_probed hprobe] at hstream
    have htarget : (4436 : ℤ) = u.inputTokens := congrArg prompt hstream
    exact absurd hprobe.2.2.2.2.2.2.2.1 (by omega)

end

lemma sameUsage_iff (hu : u.Positive) : SameUsage info completionText text streamText u ↔ u.Plain info completionText := by
  constructor
  · intro h
    obtain ⟨himage, haudio, hcreation, hwrite, hcompletion⟩ := h.forgotten
    refine ⟨himage, haudio, hcreation, hwrite, h.counted hu, fun houtput => ?_, h.input, h.trusted hu⟩
    by_contra hcase
    push Not at hcase
    unfold streamCompletion at hcompletion
    rw [if_pos ⟨houtput, hcase.1⟩] at hcompletion
    omega
  · exact fun h => h.same

end all

/-! ### Chat completions -/

lemma cachedTokens_chatToResponses (info : UsageInfo) (text : String) (v : ChatUsage) :
    (oaiChatToResponsesHandler info text v).promptTokensDetails.cachedTokens = 0 := by
  show (if (usageFromChatUsage v.usage).totalTokens = 0 then responseText2Usage info text
    else usageFromChatUsage v.usage).promptTokensDetails.cachedTokens = 0
  split_ifs <;> rfl

def ChatUsage.NotFound (v : ChatUsage) (info : UsageInfo) : Prop :=
  info.channelType ≠ .zhipuV4 ∧ (info.channelType = .moonshot → v.moonshotCachedTokens = some 0) ∧
    (info.channelType = .openAI → v.llamaCachedTokens.getD 0 = 0)

variable {v : ChatUsage}

section

variable (hv : 0 < v.usage.promptTokensDetails.cachedTokens)

include hv

lemma found_eq_zero_iff (info : UsageInfo) {usage : Usage}
    (hcached : usage.promptTokensDetails.cachedTokens = 0) (hhit : usage.promptCacheHitTokens = 0)
    (hdetails : usage.inputTokensDetails = none) :
    (applyUsagePostProcessing info v usage).promptTokensDetails.cachedTokens = 0 ↔ v.NotFound info := by
  unfold applyUsagePostProcessing
  rw [if_pos hcached]
  unfold ChatUsage.foundCachedTokens ChatUsage.NotFound
  rw [hdetails, hhit]
  cases info.channelType with
  | zhipuV4 => simp [ChatUsage.bodyCachedTokens, hv.ne']
  | moonshot =>
    cases hbody : v.moonshotCachedTokens with
    | none => simp [ChatUsage.bodyCachedTokens, hv.ne']
    | some cached => simp
  | openAI | codex | deepSeek | other => simp

lemma processed_of_cached (info : UsageInfo) :
    (applyUsagePostProcessing info v v.usage).promptTokensDetails.cachedTokens ≠ 0 := by
  unfold applyUsagePostProcessing
  rw [if_neg hv.ne']
  exact hv.ne'

lemma sameCached_iff (info : UsageInfo) (text : String) :
    SameCached info text v ↔ v.usage.promptTokens = 0 ∧ v.usage.completionTokens = 0 ∧ v.NotFound info := by
  constructor
  · rintro ⟨-, hstream⟩
    rw [cachedTokens_chatToResponses] at hstream
    unfold oaiStreamHandler at hstream
    by_cases hvalid : v.usage.promptTokens ≠ 0 ∨ v.usage.completionTokens ≠ 0
    · rw [if_pos hvalid] at hstream
      exact absurd hstream.symm (processed_of_cached hv info)
    · rw [if_neg hvalid] at hstream
      push Not at hvalid
      exact ⟨hvalid.1, hvalid.2, (found_eq_zero_iff hv info rfl rfl rfl).1 hstream.symm⟩
  · rintro ⟨hprompt, hcompletion, hfound⟩
    constructor
    · rw [cachedTokens_chatToResponses]
      unfold openaiHandler
      dsimp only
      rw [if_pos hprompt]
      exact ((found_eq_zero_iff hv info rfl rfl rfl).2 hfound).symm
    · rw [cachedTokens_chatToResponses]
      unfold oaiStreamHandler
      rw [if_neg (by simp [hprompt, hcompletion])]
      exact ((found_eq_zero_iff hv info rfl rfl rfl).2 hfound).symm

end

/-- **Usage on all ways**: settlement reads the same counts exactly if the reported usage is plain, and the same cached tokens
exactly if the chat completion counts nothing else. -/
theorem usage_same_iff (info : UsageInfo) (completionText text streamText : String) (u : ReportedUsage)
    (hu : u.Positive) (v : ChatUsage)
    (hv : 0 < v.usage.promptTokensDetails.cachedTokens) :
    SameUsage info completionText text streamText u ∧ SameCached info text v ↔
      u.Plain info completionText ∧ v.usage.promptTokens = 0 ∧ v.usage.completionTokens = 0 ∧ v.NotFound info :=
  and_congr (sameUsage_iff hu) (sameCached_iff hv info text)

def characterInfo : UsageInfo := ⟨.other, 100, false, String.length, String.length⟩

theorem usage_same_iff_cached :
    SameUsage characterInfo "Hi" "Hi" "Hi" { inputTokens := 10, outputTokens := 2, totalTokens := 12, cachedTokens := 4 } ∧
      SameCached characterInfo "Hi" { usage := { promptTokensDetails := { cachedTokens := 4 } } } :=
  (usage_same_iff characterInfo "Hi" "Hi" "Hi" _ (by decide) _ (by decide)).2
    ⟨⟨rfl, rfl, rfl, rfl, by decide, fun h => absurd h (by decide), fun h => absurd h (by decide), fun h => absurd h (by decide)⟩,
      rfl, rfl, by decide, fun h => absurd h (by decide), fun h => absurd h (by decide)⟩

/-- Image tokens, cache writes and cached tokens are lost, each on one of the ways. -/
theorem details_forgotten :
    let u : ReportedUsage :=
      { inputTokens := 10, outputTokens := 2, totalTokens := 12, cachedTokens := 4, cacheWriteTokens := 3, imageTokens := 1 }
    let v : ChatUsage :=
      { usage := { promptTokens := 10, completionTokens := 2, totalTokens := 12, promptTokensDetails := { cachedTokens := 4 } } }
    countsOf (oaiResponsesHandler characterInfo u.usage) = ⟨10, 2, 4, 3, 1, 0⟩ ∧
      countsOf (oaiResponsesStreamHandler characterInfo "Hi" u.usage) = ⟨10, 2, 4, 3, 0, 0⟩ ∧
      countsOf (oaiResponsesToChatHandler characterInfo "Hi" u.usage) = ⟨10, 2, 4, 0, 1, 0⟩ ∧
      (openaiHandler characterInfo "Hi" v).promptTokensDetails.cachedTokens = 4 ∧
      (oaiChatToResponsesHandler characterInfo "Hi" v).promptTokensDetails.cachedTokens = 0 := by
  decide

end StarNexus.Convert
