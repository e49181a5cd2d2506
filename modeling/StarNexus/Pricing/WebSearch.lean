import StarNexus.Pricing.TextQuota
import Mathlib.Data.List.Dedup

/-!
# Web searches of a Responses reply

The surcharge of web searches is computed from a count that the handlers keep: the handler of a stream counts events, the one of a
complete reply counts the tools that the reply declares.  The count is the number of searches exactly if there are none, and the
reply does not declare the tool either.
-/

namespace StarNexus.Pricing

open List

/-! ### The counters -/

structure ReplyItem where
  id : String
  type : String
  deriving DecidableEq

def ReplyItem.isWebSearchCall (item : ReplyItem) : Bool := item.type = "web_search_call"

/-- The events of a streamed reply: items are added and done, other events come in between. -/
inductive ReplyEvent
  | outputItemAdded (item : ReplyItem)
  | outputItemDone (item : ReplyItem)
  | other

/-- `BuiltInTools`: the call counts of the tools of the request. -/
abbrev BuiltInTools := String → Option ℤ

def genBuiltInTools (requestTools : List String) : BuiltInTools := fun toolType => if toolType ∈ requestTools then some 0 else none

def BuiltInTools.call (tools : BuiltInTools) (toolType : String) : BuiltInTools :=
  Function.update tools toolType ((tools toolType).map (· + 1))

def BuiltInTools.consume (tools : BuiltInTools) : ReplyEvent → BuiltInTools
  | .outputItemAdded item | .outputItemDone item => if item.isWebSearchCall then tools.call "web_search_preview" else tools
  | .other => tools

def streamedTools (requestTools : List String) (events : List ReplyEvent) : BuiltInTools :=
  events.foldl BuiltInTools.consume (genBuiltInTools requestTools)

def completeTools (requestTools replyTools : List String) : BuiltInTools :=
  replyTools.foldl BuiltInTools.call (genBuiltInTools requestTools)

def RelayInfo.withTools (r : RelayInfo) (tools : BuiltInTools) : RelayInfo := { r with builtInTools := some tools }

/-! ### Streams of a reply -/

def ReplyEvent.added? : ReplyEvent → Option ReplyItem
  | .outputItemAdded item => some item
  | _ => none

def ReplyEvent.done? : ReplyEvent → Option ReplyItem
  | .outputItemDone item => some item
  | _ => none

structure Announces (events : List ReplyEvent) (output : List ReplyItem) : Prop where
  added : (events.filterMap ReplyEvent.added?).Perm output
  done : (events.filterMap ReplyEvent.done?).Perm output

def searches (output : List ReplyItem) : ℕ := (output.filter ReplyItem.isWebSearchCall).dedup.length

/-! ### What is counted -/

def ReplyEvent.counts : ReplyEvent → Bool
  | .outputItemAdded item | .outputItemDone item => item.isWebSearchCall
  | .other => false

variable (tools : BuiltInTools)

lemma consume_eq (e : ReplyEvent) : tools.consume e = if e.counts then tools.call "web_search_preview" else tools := by
  cases e <;> rfl

lemma call_self (toolType : String) : tools.call toolType toolType = (tools toolType).map (· + 1) :=
  Function.update_self _ _ _

lemma call_of_ne {toolType other : String} (h : toolType ≠ other) : tools.call other toolType = tools toolType :=
  Function.update_of_ne h _ _

open ReplyEvent

lemma foldl_consume (events : List ReplyEvent) (tools : BuiltInTools) :
    (events.foldl BuiltInTools.consume tools) "web_search_preview" =
      (tools "web_search_preview").map (· + (events.countP counts : ℤ)) := by
  induction events generalizing tools with
  | nil => simp
  | cons e events ih =>
    rw [foldl_cons, ih, consume_eq, countP_cons]
    by_cases hcounts : e.counts = true
    · rw [if_pos hcounts, if_pos hcounts, call_self, Option.map_map]
      refine congrArg (fun f => Option.map f _) (funext fun count => ?_)
      show count + 1 + (events.countP counts : ℤ) = count + ((events.countP counts + 1 : ℕ) : ℤ)
      omega
    · rw [if_neg hcounts, if_neg hcounts]
      rfl

lemma foldl_call (replyTools : List String) (tools : BuiltInTools) (toolType : String) :
    (replyTools.foldl BuiltInTools.call tools) toolType = (tools toolType).map (· + (replyTools.count toolType : ℤ)) := by
  induction replyTools generalizing tools with
  | nil => simp
  | cons other replyTools ih =>
    rw [foldl_cons, ih, count_cons]
    by_cases hsame : toolType = other
    · subst hsame
      rw [call_self, Option.map_map, if_pos (beq_self_eq_true toolType)]
      refine congrArg (fun f => Option.map f _) (funext fun count => ?_)
      show count + 1 + (replyTools.count toolType : ℤ) = count + ((replyTools.count toolType + 1 : ℕ) : ℤ)
      omega
    · rw [call_of_ne tools hsame, if_neg (by simpa using Ne.symm hsame)]
      rfl

variable {events : List ReplyEvent} {output : List ReplyItem}

open ReplyItem

lemma Announces.countP (h : Announces events output) :
    events.countP counts = 2 * (output.filter isWebSearchCall).length := by
  have hsplit : ∀ events : List ReplyEvent, events.countP counts =
      (events.filterMap added?).countP isWebSearchCall +
        (events.filterMap done?).countP isWebSearchCall := by
    intro events
    induction events with
    | nil => rfl
    | cons e events ih =>
      rw [countP_cons, ih]
      cases e with
      | outputItemAdded item =>
        show _ = (item :: events.filterMap added?).countP _ + (events.filterMap done?).countP _
        rw [countP_cons]
        show _ + (if item.isWebSearchCall = true then 1 else 0) = _
        omega
      | outputItemDone item =>
        show _ = (events.filterMap added?).countP _ + (item :: events.filterMap done?).countP _
        rw [countP_cons]
        show _ + (if item.isWebSearchCall = true then 1 else 0) = _
        omega
      | other => rfl
  rw [hsplit, h.added.countP_eq, h.done.countP_eq, countP_eq_length_filter]
  omega

/-! ### What is charged -/

variable (r : RelayInfo) {tools : BuiltInTools}

open RelayInfo

lemma webSearchCallCount_of_some {n : ℕ} (h : tools "web_search_preview" = some (n : ℤ)) :
    (r.withTools tools).webSearchCallCount = (n : ℤ) := by
  unfold webSearchCallCount withTools
  dsimp only
  rw [h]
  dsimp only
  split_ifs <;> omega

lemma webSearchCallCount_of_none (h : tools "web_search_preview" = none) :
    (r.withTools tools).webSearchCallCount = 0 := by
  unfold webSearchCallCount withTools
  dsimp only
  rw [h]

lemma streamed_count (requestTools : List String)
    (h : Announces events output) :
    (r.withTools (streamedTools requestTools events)).webSearchCallCount =
      if "web_search_preview" ∈ requestTools then ((2 * (output.filter isWebSearchCall).length : ℕ) : ℤ) else 0 := by
  have htools := foldl_consume events (genBuiltInTools requestTools)
  unfold genBuiltInTools at htools
  split_ifs with hdeclared
  · rw [if_pos hdeclared, h.countP, Option.map_some, zero_add] at htools
    exact webSearchCallCount_of_some r htools
  · rw [if_neg hdeclared] at htools
    exact webSearchCallCount_of_none r htools

lemma complete_count (requestTools replyTools : List String) :
    (r.withTools (completeTools requestTools replyTools)).webSearchCallCount =
      if "web_search_preview" ∈ requestTools then ((replyTools.count "web_search_preview" : ℕ) : ℤ) else 0 := by
  have htools := foldl_call replyTools (genBuiltInTools requestTools) "web_search_preview"
  unfold genBuiltInTools at htools
  split_ifs with hdeclared
  · rw [if_pos hdeclared, Option.map_some, zero_add] at htools
    exact webSearchCallCount_of_some r htools
  · rw [if_neg hdeclared] at htools
    exact webSearchCallCount_of_none r htools

/-- **Web searches**: a stream counts them exactly if there are none, a complete reply if as many tools are declared, and so both
exactly if there are none. -/
theorem searches_billed_once_iff (r : RelayInfo) (requestTools replyTools : List String) {events : List ReplyEvent}
    {output : List ReplyItem} (h : Announces events output) :
    ((r.withTools (streamedTools requestTools events)).webSearchCallCount = (searches output : ℤ) ↔
      ∀ item ∈ output, item.type ≠ "web_search_call") ∧
    ((r.withTools (completeTools requestTools replyTools)).webSearchCallCount = (searches output : ℤ) ↔
      searches output = if "web_search_preview" ∈ requestTools then replyTools.count "web_search_preview" else 0) ∧
    ((r.withTools (streamedTools requestTools events)).webSearchCallCount = (searches output : ℤ) ∧
        (r.withTools (completeTools requestTools replyTools)).webSearchCallCount = (searches output : ℤ) ↔
      (∀ item ∈ output, item.type ≠ "web_search_call") ∧
        ("web_search_preview" ∈ requestTools → "web_search_preview" ∉ replyTools)) := by
  have hle : searches output ≤ (output.filter isWebSearchCall).length := (dedup_sublist _).length_le
  have hnone : (output.filter isWebSearchCall).length = 0 ↔ ∀ item ∈ output, item.type ≠ "web_search_call" := by
    simp [isWebSearchCall]
  have hzero : searches output = 0 ↔ (output.filter isWebSearchCall).length = 0 := by
    unfold searches
    simp
  have hstreamed : (r.withTools (streamedTools requestTools events)).webSearchCallCount = (searches output : ℤ) ↔
      (output.filter isWebSearchCall).length = 0 := by
    rw [streamed_count r requestTools h]
    split_ifs <;> omega
  have hcomplete : (r.withTools (completeTools requestTools replyTools)).webSearchCallCount = (searches output : ℤ) ↔
      searches output = if "web_search_preview" ∈ requestTools then replyTools.count "web_search_preview" else 0 := by
    rw [complete_count]
    split_ifs <;> omega
  refine ⟨hstreamed.trans hnone, hcomplete, ?_⟩
  rw [hstreamed, hcomplete, ← hnone]
  refine and_congr_right fun hempty => ?_
  rw [hzero.2 hempty]
  split_ifs with hdeclared
  · rw [eq_comm, count_eq_zero]
    simp [hdeclared]
  · simp [hdeclared]

theorem searches_billed_once_iff_message :
    (({} : RelayInfo).withTools (streamedTools ["web_search_preview"]
        [.outputItemAdded ⟨"msg", "message"⟩, .other, .outputItemDone ⟨"msg", "message"⟩])).webSearchCallCount = 0 ∧
      (({} : RelayInfo).withTools (completeTools ["web_search_preview"] [])).webSearchCallCount = 0 := by
  have hannounces : Announces [.outputItemAdded ⟨"msg", "message"⟩, .other, .outputItemDone ⟨"msg", "message"⟩]
      [⟨"msg", "message"⟩] :=
    ⟨.refl _, .refl _⟩
  exact (searches_billed_once_iff {} ["web_search_preview"] [] hannounces).2.2.2 ⟨by decide, by decide⟩

/-- Three searches: the stream counts six of them, the complete reply one. -/
theorem searches_miscounted :
    let output : List ReplyItem := [⟨"a", "web_search_call"⟩, ⟨"b", "web_search_call"⟩, ⟨"c", "web_search_call"⟩]
    let events := output.flatMap fun item => [outputItemAdded item, .other, .outputItemDone item]
    Announces events output ∧ searches output = 3 ∧
      (({} : RelayInfo).withTools (streamedTools ["web_search_preview"] events)).webSearchCallCount = 6 ∧
      (({} : RelayInfo).withTools (completeTools ["web_search_preview"] ["web_search_preview"])).webSearchCallCount = 1 :=
  ⟨⟨.refl _, .refl _⟩, by decide, by decide, by decide⟩

end StarNexus.Pricing
