import Mathlib.Data.List.Nodup
import StarNexus.Convert.ClaudeStream

/-!
# The grammar of the converted stream

The client and the converter agree on the blocks that are open.  Every chunk keeps the agreement, with one exception: the
converter numbers the tool calls of a chunk from the first tool block that is open, so a tool call that is not the next one
after the open ones, or does not continue one of them, gets a block that was never started.
-/

namespace StarNexus.Convert

open Lib Emit List Nat Option Prod

/-! ### Open blocks -/

def StreamInfo.openBlocks (info : StreamInfo) : List (ℕ × BlockKind) :=
  match info.lastMessagesType with
  | .none => []
  | .text => [(info.index, .text)]
  | .thinking => [(info.index, .thinking)]
  | .tools => (List.range (info.toolCallMaxIndexOffset + 1)).map fun offset => (info.toolCallBaseIndex + offset, .toolUse)

/-- The first index of the open blocks, or the next index if there are none. -/
def StreamInfo.firstOpen (info : StreamInfo) : ℕ :=
  match info.lastMessagesType with
  | .tools => info.toolCallBaseIndex
  | _ => info.index

def StreamInfo.afterOpen (info : StreamInfo) : ℕ :=
  match info.lastMessagesType with
  | .none => info.index
  | .tools => info.toolCallBaseIndex + info.toolCallMaxIndexOffset + 1
  | _ => info.index + 1

structure Matches (info : StreamInfo) (c : Client) : Prop where
  begun : 0 < info.sendResponseCount
  running : info.done = false
  phase : c.phase = .within
  opened : ∀ x, x ∈ c.opened ↔ x ∈ info.openBlocks
  closed : ∀ i ∈ c.closed, i < info.firstOpen

/-- The client has seen the end of every block that the converter takes to be open. -/
structure Stopped (info : StreamInfo) (c : Client) : Prop where
  begun : 0 < info.sendResponseCount
  running : info.done = false
  phase : c.phase = .within
  opened : c.opened = []
  closed : ∀ i ∈ c.closed, i < info.afterOpen

variable {info : StreamInfo} {c : Client}

lemma StreamInfo.openBlocks_nodup (info : StreamInfo) : (info.openBlocks.map fst).Nodup := by
  unfold openBlocks
  cases info.lastMessagesType with
  | none => exact nodup_nil
  | text | thinking => exact nodup_singleton _
  | tools =>
    rw [List.map_map]
    exact .map (fun a b hab => add_left_cancel hab) nodup_range

lemma StreamInfo.lt_afterOpen {i : ℕ} (h : i ∈ info.openBlocks.map fst) : i < info.afterOpen := by
  unfold openBlocks at h
  unfold afterOpen
  cases hlast : info.lastMessagesType <;> simp only [hlast] at h ⊢
  · simp at h
  · simp at h
    omega
  · simp only [List.map_map, List.mem_map, List.mem_range, Function.comp] at h
    omega
  · simp at h
    omega

lemma StreamInfo.firstOpen_le_afterOpen (info : StreamInfo) : info.firstOpen ≤ info.afterOpen := by
  unfold firstOpen afterOpen
  cases info.lastMessagesType <;> dsimp only <;> omega

variable {l : List (ℕ × BlockKind)}

lemma runs_stops (hl : (l.map fst).Nodup) (hphase : c.phase = .within)
    (hopened : ∀ x, x ∈ c.opened ↔ x ∈ l) :
    ∃ c', runs Client.step c (l.map fun x => .contentBlockStop x.1) = some c' ∧ c'.phase = .within ∧ c'.opened = [] ∧
      ∀ i ∈ c'.closed, i ∈ c.closed ∨ i ∈ l.map fst := by
  induction l generalizing c with
  | nil =>
    refine ⟨c, rfl, hphase, ?_, fun i hi => .inl hi⟩
    exact eq_nil_iff_forall_not_mem.2 fun x hx => nomatch (hopened x).1 hx
  | cons x l ih =>
    obtain ⟨hx, hnodup⟩ := nodup_cons.1 hl
    have hmem : x.1 ∈ c.opened.map fst := mem_map_of_mem ((hopened x).2 (.head _))
    have hstep : c.step (.contentBlockStop x.1) =
        some { c with opened := c.opened.filter (·.1 ≠ x.1), closed := x.1 :: c.closed } := if_pos ⟨hphase, hmem⟩
    have hrest : ∀ y, y ∈ c.opened.filter (·.1 ≠ x.1) ↔ y ∈ l := by
      intro y
      rw [mem_filter, hopened y, mem_cons]
      constructor
      · rintro ⟨rfl | hy, hne⟩
        · simp at hne
        · exact hy
      · intro hy
        refine ⟨.inr hy, ?_⟩
        have hne : y.1 ≠ x.1 := fun heq => hx (heq ▸ mem_map_of_mem hy)
        simpa using hne
    obtain ⟨c', hrun, hphase', hopened', hclosed⟩ :=
      ih hnodup (c := { c with opened := c.opened.filter (·.1 ≠ x.1), closed := x.1 :: c.closed }) hphase hrest
    refine ⟨c', ?_, hphase', hopened', fun i hi => ?_⟩
    · rw [map_cons, runs_cons_of_step _ hstep]
      exact hrun
    · rcases hclosed i hi with hold | hnew
      · rcases mem_cons.1 hold with rfl | hold
        · exact .inr (.head _)
        · exact .inl hold
      · exact .inr (.tail _ hnew)

lemma events_stopOpenBlocks (info : StreamInfo) :
    events stopOpenBlocks info = info.openBlocks.map fun x => .contentBlockStop x.1 := by
  unfold stopOpenBlocks StreamInfo.openBlocks
  cases hlast : info.lastMessagesType <;> simp [hlast]

lemma next_stopOpenBlocks (info : StreamInfo) : next stopOpenBlocks info = info := by
  unfold stopOpenBlocks
  cases hlast : info.lastMessagesType <;> simp [hlast]

open StreamInfo

lemma stopOpenBlocks_follows :
    Follows Client.step Matches stopOpenBlocks fun _ => Stopped := by
  intro info c h
  obtain ⟨c', hrun, hphase, hopened, hclosed⟩ := runs_stops info.openBlocks_nodup h.phase h.opened
  refine ⟨c', by rw [events_stopOpenBlocks]; exact hrun, ?_⟩
  rw [next_stopOpenBlocks]
  refine ⟨h.begun, h.running, hphase, hopened, fun i hi => ?_⟩
  rcases hclosed i hi with hold | hnew
  · exact (h.closed i hold).trans_le info.firstOpen_le_afterOpen
  · exact lt_afterOpen hnew

lemma stopOpenBlocksAndAdvance_follows :
    Follows Client.step Matches stopOpenBlocksAndAdvance fun _ info c => Matches info c ∧ info.lastMessagesType = .none := by
  refine .get fun info₀ => .ite (fun hnone => ?_) fun _ => ?_
  · refine .pure ?_
    rintro info c ⟨h, rfl⟩
    exact ⟨h, hnone⟩
  · refine .bind (stopOpenBlocks_follows.pre fun _ _ h => h.1) fun _ => .modify ?_
    intro info c h
    have hclosed := h.closed
    have hopened := h.opened
    cases hlast : info.lastMessagesType <;> simp only [afterOpen, hlast] at hclosed ⊢ <;>
      refine ⟨{ h with opened := by simp [hopened, StreamInfo.openBlocks], closed := fun i hi => ?_ }, trivial⟩
    · exact (hclosed i hi).trans (lt_succ_self _)
    all_goals exact hclosed i hi

/-! ### Text and reasoning -/

def LastMessageType.block : LastMessageType → Option BlockKind
  | .text => some .text
  | .thinking => some .thinking
  | _ => Option.none

variable {t : LastMessageType} {k : BlockKind}

lemma StreamInfo.openBlocks_block (ht : t.block = some k)
    (hlast : info.lastMessagesType = t) : info.openBlocks = [(info.index, k)] := by
  cases t <;> cases ht <;> simp [openBlocks, hlast]

lemma StreamInfo.firstOpen_block (ht : t.block = some k)
    (hlast : info.lastMessagesType = t) : info.firstOpen = info.index := by
  cases t <;> cases ht <;> simp [firstOpen, hlast]

structure OneOpen (k : BlockKind) (info : StreamInfo) (c : Client) : Prop where
  begun : 0 < info.sendResponseCount
  running : info.done = false
  phase : c.phase = .within
  opened : ∀ x, x ∈ c.opened ↔ x = (info.index, k)
  closed : ∀ i ∈ c.closed, i < info.index

lemma Matches.oneOpen (h : Matches info c)
    (ht : t.block = some k) (hlast : info.lastMessagesType = t) : OneOpen k info c := by
  refine ⟨h.begun, h.running, h.phase, fun x => ?_, fun i hi => ?_⟩
  · rw [h.opened, openBlocks_block ht hlast, mem_singleton]
  · rw [← firstOpen_block ht hlast]
    exact h.closed i hi

lemma Matches.opened_eq_nil (h : Matches info c) (hnone : info.lastMessagesType = .none) :
    c.opened = [] :=
  eq_nil_iff_forall_not_mem.2 fun x hx => by simpa [StreamInfo.openBlocks, hnone] using (h.opened x).1 hx

lemma Matches.closed_lt_index (h : Matches info c) (hnone : info.lastMessagesType = .none) :
    ∀ i ∈ c.closed, i < info.index := by
  simpa [StreamInfo.firstOpen, hnone] using h.closed

lemma startBlock_follows (block : ContentBlock) :
    Follows Client.step (fun info c => Matches info c ∧ info.lastMessagesType = .none) (startBlock block)
      fun _ => OneOpen block.kind := by
  refine .get fun info₀ => .emit ?_
  rintro info c ⟨⟨h, hnone⟩, rfl⟩
  have hopened := h.opened_eq_nil hnone
  have hclosed := h.closed_lt_index hnone
  have hfresh : ¬c.Used info.index := by
    rintro (hopen | hclose)
    · simp [hopened] at hopen
    · exact lt_irrefl _ (hclosed _ hclose)
  refine ⟨_, if_pos ⟨h.phase, hfresh⟩, h.begun, h.running, h.phase, fun x => ?_, hclosed⟩
  simp [hopened]

lemma setLastMessagesType_follows (ht : t.block = some k) :
    Follows Client.step (OneOpen k) (setLastMessagesType t) fun _ info c => Matches info c ∧ info.lastMessagesType = t := by
  refine .modify fun info c h => ⟨⟨h.begun, h.running, h.phase, fun x => ?_, fun i hi => ?_⟩, rfl⟩
  · rw [openBlocks_block ht rfl, mem_singleton]
    exact h.opened x
  · rw [firstOpen_block ht rfl]
    exact h.closed i hi

lemma sendDelta_follows {P : StreamInfo → Client → Prop} {delta : BlockDelta} (h : ∀ info c, P info c → OneOpen delta.kind info c) :
    Follows Client.step P (sendDelta delta) fun _ => P := by
  refine .get fun info₀ => .emit ?_
  rintro info c ⟨hP, rfl⟩
  have hone := h info c hP
  exact ⟨c, if_pos ⟨hone.phase, (hone.opened _).2 rfl⟩, hP⟩

variable {block : ContentBlock}

section

variable (ht : t.block = some block.kind)

include ht

lemma openBlock_follows :
    Follows Client.step Matches (openBlock t block) fun _ => OneOpen block.kind := by
  refine .get fun info₀ => .ite (fun _ => ?_) fun hsame => .pure ?_
  · refine .bind (stopOpenBlocksAndAdvance_follows.pre fun _ _ h => h.1) fun _ => ?_
    exact startBlock_follows block
  · rintro info c ⟨h, rfl⟩
    exact h.oneOpen ht (not_not.1 hsame)

lemma sendBlock_follows {delta : BlockDelta}
    (hdelta : delta.kind = block.kind) : Follows Client.step Matches (sendBlock t block delta) fun _ => Matches := by
  refine .bind (openBlock_follows ht) fun _ => .bind (setLastMessagesType_follows ht) fun _ => ?_
  refine (sendDelta_follows fun info c h => ?_).post fun _ _ _ h => h.1
  rw [hdelta]
  exact h.1.oneOpen ht h.2

lemma firstBlock_follows {delta : BlockDelta}
    (hdelta : delta.kind = block.kind) :
    Follows Client.step (fun info c => Matches info c ∧ info.lastMessagesType ≠ t) (firstBlock t block delta)
      fun _ => Matches := by
  refine .bind (Q := fun _ info c => Matches info c ∧ info.lastMessagesType = .none) ?_ fun _ => ?_
  · refine .get fun info₀ => .ite (fun _ => ?_) fun hsame => .pure ?_
    · exact stopOpenBlocksAndAdvance_follows.pre fun _ _ h => h.1.1
    · rintro info c ⟨⟨h, hother⟩, rfl⟩
      exact absurd hother hsame
  · refine .bind (startBlock_follows block) fun _ => ?_
    refine .bind (sendDelta_follows fun info c h => by rw [hdelta]; exact h) fun _ => ?_
    exact (setLastMessagesType_follows ht).post fun _ _ _ h => h.1

end

/-! ### Tool calls -/

/-- A tool call delta, read after `n` tool calls: it continues one of them, or it is the next one and has a name. -/
def ToolCallResponse.next (toolCall : ToolCallResponse) (i n : ℕ) : Option ℕ :=
  if toolCall.index.getD i < n ∧ toolCall.name = "" then some n
  else if toolCall.index.getD i = n ∧ toolCall.name ≠ "" then some (n + 1)
  else none

/-- The number of tool calls after the deltas of a chunk, from the `i`-th on, if each sends its name once and in order. -/
def announce : ℕ → ℕ → List ToolCallResponse → Option ℕ
  | _, n, [] => some n
  | i, n, toolCall :: rest => (toolCall.next i n).bind fun n' => announce (i + 1) n' rest

def StreamInfo.openTools (info : StreamInfo) : ℕ :=
  if info.lastMessagesType = .tools then info.toolCallMaxIndexOffset + 1 else 0

variable {toolCall : ToolCallResponse} {base n n' i : ℕ}

lemma ToolCallResponse.next_cases (h : toolCall.next i n = some n') :
    toolCall.index.getD i < n ∧ toolCall.name = "" ∧ n' = n ∨
      toolCall.index.getD i = n ∧ toolCall.name ≠ "" ∧ n' = n + 1 := by
  unfold next at h
  split_ifs at h with hold hnew
  · exact .inl ⟨hold.1, hold.2, (Option.some.inj h).symm⟩
  · exact .inr ⟨hnew.1, hnew.2, (Option.some.inj h).symm⟩

lemma ToolCallResponse.le_next (h : toolCall.next i n = some n') :
    n ≤ n' ∧ toolCall.index.getD i < n' := by
  rcases next_cases h with ⟨_, -, _⟩ | ⟨_, -, _⟩ <;> omega

variable {toolCalls : List ToolCallResponse}

open ToolCallResponse

lemma le_announce (h : announce i n toolCalls = some n') : n ≤ n' := by
  induction toolCalls generalizing i n with
  | nil =>
    cases h
    exact le_rfl
  | cons toolCall rest ih =>
    obtain ⟨m, hm, hrest⟩ := bind_eq_some_iff.1 h
    exact (le_next hm).1.trans (ih hrest)

lemma announce_pos (hne : toolCalls ≠ []) (h : announce i n toolCalls = some n') : 0 < n' := by
  cases toolCalls with
  | nil => exact absurd rfl hne
  | cons toolCall rest =>
    obtain ⟨m, hm, hrest⟩ := bind_eq_some_iff.1 h
    exact (zero_lt_of_lt (le_next hm).2).trans_le (le_announce hrest)

structure ToolsOpen (base n : ℕ) (info : StreamInfo) (c : Client) : Prop where
  begun : 0 < info.sendResponseCount
  running : info.done = false
  baseIndex : info.toolCallBaseIndex = base
  last : info.lastMessagesType = .tools
  phase : c.phase = .within
  opened : ∀ x, x ∈ c.opened ↔ ∃ offset < n, x = (base + offset, .toolUse)
  closed : ∀ i ∈ c.closed, i < base

lemma ToolsOpen.start (h : ToolsOpen base n info c) (id name : String) :
    ∃ c', c.step (.contentBlockStart (base + n) (.toolUse id name)) = some c' ∧ ToolsOpen base (n + 1) info c' := by
  have hfresh : ¬c.Used (base + n) := by
    rintro (hopen | hclose)
    · obtain ⟨x, hx, heq⟩ := List.mem_map.1 hopen
      obtain ⟨offset, hoffset, rfl⟩ := (h.opened x).1 hx
      omega
    · have hlt := h.closed _ hclose
      omega
  refine ⟨_, if_pos ⟨h.phase, hfresh⟩, h.begun, h.running, h.baseIndex, h.last, h.phase, fun x => ?_, h.closed⟩
  rw [mem_cons, h.opened]
  constructor
  · rintro (rfl | ⟨offset, hoffset, rfl⟩)
    · exact ⟨n, by omega, rfl⟩
    · exact ⟨offset, by omega, rfl⟩
  · rintro ⟨offset, hoffset, rfl⟩
    by_cases hlast : offset = n
    · exact .inl (by rw [hlast]; rfl)
    · exact .inr ⟨offset, by omega, rfl⟩

lemma ToolsOpen.delta (h : ToolsOpen base n info c) {offset : ℕ} (hoffset : offset < n) (arguments : String) :
    c.step (.contentBlockDelta (base + offset) (.inputJson arguments)) = some c :=
  if_pos ⟨h.phase, (h.opened _).2 ⟨offset, hoffset, rfl⟩⟩

lemma toolCallEvents_follows (h : toolCall.next i n = some n') :
    Follows Client.step (ToolsOpen base n) (toolCallEvents base (toolCall.index.getD i) toolCall)
      fun _ => ToolsOpen base n' := by
  have hlt := (le_next h).2
  have hname := next_cases h
  refine .bind (.emitWhen (fun hstart info c htools => ?_) fun hno info c htools => ?_)
    fun _ => .emitWhen (fun _ info c htools => ?_) fun _ info c htools => htools
  · obtain ⟨-, hempty, -⟩ | ⟨hoffset, -, rfl⟩ := hname
    · exact absurd hempty hstart
    · rw [hoffset]
      exact htools.start _ _
  · obtain ⟨-, -, rfl⟩ | ⟨-, hstart, -⟩ := hname
    · exact htools
    · exact absurd hstart hno
  · exact ⟨c, htools.delta hlt _, htools⟩

lemma toolCallLoop_follows {maxOffset : ℕ} (hmax : maxOffset = n - 1)
    (h : announce i n toolCalls = some n') :
    Follows Client.step (ToolsOpen base n) (toolCallLoop base i maxOffset toolCalls)
      fun m info c => ToolsOpen base n' info c ∧ m = n' - 1 := by
  induction toolCalls generalizing i n maxOffset with
  | nil =>
    cases h
    exact .pure fun info c htools => ⟨htools, hmax⟩
  | cons toolCall rest ih =>
    obtain ⟨m, hm, hrest⟩ := bind_eq_some_iff.1 h
    refine .bind (toolCallEvents_follows hm) fun _ => ih ?_ hrest
    rcases next_cases hm with ⟨_, -, _⟩ | ⟨_, -, _⟩ <;> omega

lemma ToolsOpen.toMatches (h : ToolsOpen base n info c) (hn : 0 < n) {m : ℕ} (hm : m = n - 1) (index : ℕ) :
    Matches { info with toolCallMaxIndexOffset := m, index := index } c := by
  refine ⟨h.begun, h.running, h.phase, fun x => ?_, ?_⟩
  · simp only [h.opened, StreamInfo.openBlocks, h.last, h.baseIndex, List.mem_map, List.mem_range]
    constructor
    all_goals
      rintro ⟨offset, hoffset, rfl⟩
      exact ⟨offset, by omega, rfl⟩
  · simpa only [StreamInfo.firstOpen, h.last, h.baseIndex] using h.closed

lemma openToolCalls_follows (n : ℕ) :
    Follows Client.step (fun info c => Matches info c ∧ info.openTools = n)
      openToolCalls fun _ info c => ToolsOpen info.toolCallBaseIndex n { info with lastMessagesType := .tools } c ∧
        info.toolCallMaxIndexOffset = n - 1 := by
  refine .get fun info₀ => .ite (fun hother => ?_) fun hsame => .pure ?_
  · refine .bind (Q := fun _ info c => (Matches info c ∧ info.lastMessagesType = .none) ∧ n = 0) ?_ fun _ => .modify ?_
    · intro info c hpre
      obtain ⟨⟨hmatches, hn⟩, rfl⟩ := hpre
      obtain ⟨c', hrun, hpost⟩ := stopOpenBlocksAndAdvance_follows info c hmatches
      refine ⟨c', hrun, hpost, ?_⟩
      rw [← hn, StreamInfo.openTools, if_neg hother]
    · rintro info c ⟨⟨h, hnone⟩, rfl⟩
      refine ⟨⟨h.begun, h.running, rfl, rfl, h.phase, fun x => ?_, h.closed_lt_index hnone⟩, rfl⟩
      simp [h.opened_eq_nil hnone]
  · rintro info c ⟨⟨h, hn⟩, rfl⟩
    have hlast : info.lastMessagesType = .tools := not_not.1 hsame
    rw [StreamInfo.openTools, if_pos hlast] at hn
    subst hn
    refine ⟨⟨h.begun, h.running, rfl, rfl, h.phase, fun x => ?_, ?_⟩, rfl⟩
    · simp only [h.opened, StreamInfo.openBlocks, hlast, List.mem_map, List.mem_range]
      constructor
      all_goals
        rintro ⟨offset, hoffset, rfl⟩
        exact ⟨offset, hoffset, rfl⟩
    · simpa only [StreamInfo.firstOpen, hlast] using h.closed

lemma sendToolCalls_follows (hne : toolCalls ≠ []) :
    Follows Client.step (fun info c => Matches info c ∧ (announce 0 info.openTools toolCalls).isSome)
      (sendToolCalls toolCalls) fun _ => Matches := by
  intro info c h
  obtain ⟨n', hn'⟩ := isSome_iff_exists.1 h.2
  have hpos := announce_pos hne hn'
  have hwhole : Follows Client.step (fun info' c => Matches info' c ∧ info'.openTools = info.openTools)
      (sendToolCalls toolCalls) fun _ => Matches := by
    refine .bind (openToolCalls_follows info.openTools) fun _ => ?_
    refine .bind (Q := fun _ info' c => ToolsOpen info'.toolCallBaseIndex info.openTools info' c ∧
      info'.toolCallMaxIndexOffset = info.openTools - 1) (.modify fun _ _ h => h) fun _ => .get fun info₀ => ?_
    refine .bind (Q := fun m info c => ToolsOpen info₀.toolCallBaseIndex n' info c ∧ m = n' - 1) ?_ fun m => .modify ?_
    · intro info₁ c₁ hpre
      obtain ⟨⟨htools, hmax⟩, rfl⟩ := hpre
      exact toolCallLoop_follows hmax hn' _ _ htools
    · rintro info₁ c₁ ⟨htools, hm⟩
      exact htools.toMatches hpos hm _
  exact hwhole info c ⟨h.1, rfl⟩

/-! ### The end of the message -/

structure Ended (info : StreamInfo) (c : Client) : Prop where
  begun : 0 < info.sendResponseCount
  done : info.done = true
  phase : c.phase = .after

variable (stopReason : String) (oaiUsage : Option Pricing.Usage)

lemma finish_follows :
    Follows Client.step Stopped (finish stopReason oaiUsage) fun _ => Ended := by
  refine .bind (Q := fun _ => Stopped) ?_ fun _ => ?_
  · cases oaiUsage with
    | none => exact .pure fun _ _ h => h
    | some usage =>
      refine .get fun info₀ => .emit ?_
      rintro info c ⟨h, -⟩
      exact ⟨c, if_pos h.phase, h⟩
  · refine .bind (Q := fun _ info c => 0 < info.sendResponseCount ∧ c.phase = .after) (.emit fun info c h => ?_)
      fun _ => .modify fun info c h => ⟨h.1, rfl, h.2⟩
    exact ⟨_, if_pos ⟨h.phase, h.opened⟩, h.begun, rfl⟩

variable (chunk : Chunk)

lemma stopAndFinish_follows : Follows Client.step Matches (stopAndFinish chunk) fun _ => Ended := by
  refine .bind stopOpenBlocks_follows fun _ => .get fun info₀ => ?_
  exact (finish_follows _ _).pre fun _ _ h => h.1

/-! ### Chunks -/

def Tracks (info : StreamInfo) (c : Client) : Prop := Matches info c ∨ Ended info c

/-- Every tool call of the chunk continues an open tool block or is the next one after the open ones. -/
def Chunk.Continues (chunk : Chunk) (info : StreamInfo) : Prop := (announce 0 info.openTools chunk.delta.toolCalls).isSome

lemma sendContent_follows :
    Follows Client.step (fun info c => Matches info c ∧ chunk.Continues info) (sendContent chunk.delta) fun _ => Matches := by
  refine .ite sendToolCalls_follows fun _ => ?_
  refine .pre ?_ fun _ _ h => h.1
  refine .ite (fun _ => sendBlock_follows rfl rfl) fun _ => ?_
  refine .ite (fun _ => sendBlock_follows rfl rfl) fun _ => ?_
  exact .pure fun _ _ h => h

lemma usageChunk_follows : Follows Client.step Matches (usageChunk chunk) fun _ => Tracks := by
  refine .get fun info₀ => ?_
  refine .pre ?_ fun _ _ h => h.1
  cases chunk.usage.or info₀.usage with
  | none => exact .pure fun _ _ h => .inl h
  | some usage => exact .bind stopOpenBlocks_follows fun _ => (finish_follows _ _).post fun _ _ _ h => .inr h

def Chunk.deferred (chunk : Chunk) : Bool := chunk.choices.head?.any (·.finished.isSome) && chunk.usage.isNone

open Chunk

lemma laterChunk_follows :
    Follows Client.step (fun info c => Matches info c ∧ (chunk.deferred = true ∨ chunk.Continues info)) (laterChunk chunk)
      fun _ => Tracks := by
  unfold laterChunk
  cases hchoices : chunk.choices with
  | nil => exact (usageChunk_follows chunk).pre fun _ _ h => h.1
  | cons choice rest =>
    have hdelta : choice.delta = chunk.delta := by simp [delta, hchoices]
    dsimp only
    rw [hdelta]
    cases hfinished : choice.finished with
    | none =>
      have hnow : ¬chunk.deferred = true := by simp [deferred, hchoices, hfinished]
      exact (sendContent_follows chunk).mono (fun _ _ h => ⟨h.1, h.2.resolve_left hnow⟩) fun _ _ _ h => .inl h
    | some finishReason =>
      cases husage : chunk.usage with
      | none => exact .modify fun info c h => .inl { h.1 with }
      | some usage =>
        have hnow : ¬chunk.deferred = true := by simp [deferred, husage]
        refine .bind (Q := fun _ info c => Matches info c ∧ chunk.Continues info) (.modify fun info c h => ?_) fun _ => ?_
        · exact ⟨{ h.1 with }, h.2.resolve_left hnow⟩
        · refine .bind (sendContent_follows chunk) fun _ => ?_
          exact (stopAndFinish_follows chunk).post fun _ _ _ h => .inr h

structure Fresh (info : StreamInfo) (c : Client) : Prop where
  begun : 0 < info.sendResponseCount
  running : info.done = false
  client : c = {}
  last : info.lastMessagesType = .none
  index : info.index = 0

lemma firstToolCall_follows (toolCalls : List ToolCallResponse) :
    Follows Client.step (fun info c => Matches info c ∧ info.lastMessagesType = .none ∧ info.index = 0 ∧ c.closed = [])
      (firstToolCall toolCalls) fun _ info c => Matches info c ∧ info.lastMessagesType.block = none := by
  cases toolCalls with
  | nil => exact .pure fun info c h => ⟨h.1, by rw [h.2.1]; rfl⟩
  | cons toolCall rest =>
    refine .bind (Q := fun _ info c => ToolsOpen 0 0 info c ∧ info.toolCallMaxIndexOffset = 0) (.modify ?_) fun _ => ?_
    · rintro info c ⟨h, hnone, -, hclosed⟩
      refine ⟨⟨h.begun, h.running, rfl, rfl, h.phase, fun x => ?_, ?_⟩, rfl⟩
      · simp [h.opened_eq_nil hnone]
      · simp [hclosed]
    · refine .bind (Q := fun _ info c => ToolsOpen 0 1 info c ∧ info.toolCallMaxIndexOffset = 0) (.emit ?_) fun _ => ?_
      · rintro info c ⟨h, hmax⟩
        obtain ⟨c', hstep, hopen⟩ := h.start toolCall.id toolCall.name
        exact ⟨c', hstep, hopen, hmax⟩
      · have hmatches : ∀ info c, ToolsOpen 0 1 info c ∧ info.toolCallMaxIndexOffset = 0 →
            Matches info c ∧ info.lastMessagesType.block = none := by
          rintro info c ⟨h, hmax⟩
          have hm := h.toMatches one_pos (m := 0) rfl info.index
          rw [← hmax] at hm
          exact ⟨hm, by rw [h.last]; rfl⟩
        refine .emitWhen (fun _ info c h => ?_) fun _ => hmatches
        have hstep := h.1.delta one_pos toolCall.arguments
        exact ⟨c, hstep, hmatches info c h⟩

lemma firstContent_follows (reasoning content : String) :
    Follows Client.step (fun info c => Matches info c ∧ info.lastMessagesType.block = none) (firstContent reasoning content)
      fun _ => Matches := by
  have hother {t : LastMessageType} {k : BlockKind} (ht : t.block = some k) (info : StreamInfo)
      (h : info.lastMessagesType.block = none) : info.lastMessagesType ≠ t := by
    rintro rfl
    rw [h] at ht
    cases ht
  refine .ite (fun _ => ?_) fun _ => .ite (fun _ => ?_) fun _ => .pure fun _ _ h => h.1
  all_goals exact (firstBlock_follows rfl rfl).pre fun info _ h => ⟨h.1, hother rfl info h.2⟩

lemma firstFinish_follows (choice : StreamChoice) :
    Follows Client.step Matches (firstFinish chunk choice) fun _ => Tracks := by
  unfold firstFinish
  cases choice.finished with
  | none => exact .pure fun _ _ h => .inl h
  | some finishReason =>
    refine .bind (Q := fun _ => Matches) (.modify fun info c h => ?_) fun _ => ?_
    · exact { h with }
    · exact (stopAndFinish_follows chunk).post fun _ _ _ h => .inr h

lemma firstChunk_follows : Follows Client.step Fresh (firstChunk chunk) fun _ => Tracks := by
  refine .get fun info₀ => .bind (Q := fun _ info c => Matches info c ∧ info.lastMessagesType = .none ∧
    info.index = 0 ∧ c.closed = []) (.emit ?_) fun _ => ?_
  · rintro info c ⟨⟨hbegun, hrunning, rfl, hlast, hindex⟩, -⟩
    refine ⟨_, rfl, ⟨hbegun, hrunning, rfl, fun x => ?_, ?_⟩, hlast, hindex, rfl⟩
    · simp [StreamInfo.openBlocks, hlast]
    · simp
  · cases chunk.choices with
    | nil => exact .pure fun _ _ h => .inl h.1
    | cons choice rest =>
      exact .bind (firstToolCall_follows _) fun _ => .bind (firstContent_follows _ _) fun _ =>
        firstFinish_follows chunk choice

/-! ### Streams -/

def StreamInput.counted (x : StreamInput) (info : StreamInfo) : StreamInfo :=
  { info with sendResponseCount := info.sendResponseCount + 1, usage := x.usage }

lemma handleClaudeFormat_eq (x : StreamInput) (info : StreamInfo) :
    handleClaudeFormat x info = (if info.done then pure () else if info.sendResponseCount = 0 then firstChunk x.chunk
      else laterChunk x.chunk : Emit StreamInfo ClaudeEvent Unit) (x.counted info) := by
  have hrun : handleClaudeFormat x info = (if info.done then pure () else if info.sendResponseCount + 1 = 1 then firstChunk x.chunk
      else laterChunk x.chunk : Emit StreamInfo ClaudeEvent Unit) (x.counted info) := rfl
  rw [hrun]
  simp

lemma Matches.counted (h : Matches info c) (x : StreamInput) : Matches (x.counted info) c :=
  ⟨succ_pos _, h.running, h.phase, h.opened, h.closed⟩

def Agrees (info : StreamInfo) (c : Client) : Prop :=
  (info.sendResponseCount = 0 ∧ info.done = false ∧ c = {} ∧ info.lastMessagesType = .none ∧ info.index = 0) ∨ Tracks info c

/-- The tool calls of a chunk that is looked at continue the open blocks or are the next ones. -/
def Meets (info : StreamInfo) (x : StreamInput) : Prop :=
  info.sendResponseCount = 0 ∨ info.done = true ∨ x.chunk.deferred = true ∨ x.chunk.Continues info

instance (info : StreamInfo) (x : StreamInput) : Decidable (Meets info x) :=
  inferInstanceAs (Decidable (_ ∨ _ ∨ _ ∨ (Option.isSome _ = true)))

lemma handleClaudeFormat_follows (x : StreamInput) :
    Follows Client.step (fun info c => Agrees info c ∧ Meets info x) (handleClaudeFormat x) fun _ => Agrees := by
  rintro info c ⟨hagrees, hmeets⟩
  show ∃ c', runs Client.step c (handleClaudeFormat x info).2.2 = some c' ∧ Agrees (handleClaudeFormat x info).2.1 c'
  rw [handleClaudeFormat_eq]
  obtain ⟨hcount, hrunning, rfl, hlast, hindex⟩ | hmatches | hended := hagrees
  · rw [if_neg (by simp [hrunning]), if_pos hcount]
    have hfresh : Fresh (x.counted info) {} := ⟨succ_pos _, hrunning, rfl, hlast, hindex⟩
    obtain ⟨c', hrun, htracks⟩ := firstChunk_follows x.chunk _ _ hfresh
    exact ⟨c', hrun, .inr htracks⟩
  · have hgoing : ¬info.done = true := by simp [hmatches.running]
    have hcontinues := (hmeets.resolve_left hmatches.begun.ne').resolve_left hgoing
    rw [if_neg hgoing, if_neg hmatches.begun.ne']
    obtain ⟨c', hrun, htracks⟩ := laterChunk_follows x.chunk _ _ ⟨hmatches.counted x, hcontinues⟩
    exact ⟨c', hrun, .inr htracks⟩
  · rw [if_pos hended.done]
    exact ⟨c, rfl, .inr (.inr ⟨succ_pos _, hended.done, hended.phase⟩)⟩

/-! ### Tool calls that do not continue the open ones -/

structure Missing (base n : ℕ) (info : StreamInfo) (c : Client) : Prop where
  begun : 0 < info.sendResponseCount
  running : info.done = false
  baseIndex : info.toolCallBaseIndex = base
  last : info.lastMessagesType = .tools
  missing : base + n ∉ c.opened.map Prod.fst

lemma ToolsOpen.toMissing (h : ToolsOpen base n info c) : Missing base n info c := by
  refine { h with missing := fun hmem => ?_ }
  obtain ⟨x, hx, heq⟩ := List.mem_map.1 hmem
  obtain ⟨offset, hoffset, rfl⟩ := (h.opened x).1 hx
  omega

lemma Client.opened_of_start {c c' : Client} {i : ℕ} (h : c.step (.contentBlockStart i block) = some c') :
    c'.opened = (i, block.kind) :: c.opened := by
  obtain ⟨-, ⟨⟩⟩ := ite_none_right_eq_some.1 h
  rfl

lemma Client.opened_of_delta {c c' : Client} {i : ℕ} {delta : BlockDelta} (h : c.step (.contentBlockDelta i delta) = some c') :
    c' = c := by
  obtain ⟨-, ⟨⟩⟩ := ite_none_right_eq_some.1 h
  rfl

lemma toolCallEvents_missing {offset : ℕ} (h : toolCall.name ≠ "" → offset ≠ n) :
    Whenever Client.step (Missing base n) (toolCallEvents base offset toolCall) fun _ => Missing base n := by
  refine .bind (.emitWhen (fun hname info c c' hmissing hstep => ?_) fun _ _ _ hm => hm)
    fun _ => .emitWhen (fun _ info c c' hmissing hstep => ?_) fun _ _ _ hm => hm
  · refine { hmissing with missing := ?_ }
    rw [Client.opened_of_start hstep, map_cons, mem_cons, not_or]
    have hne := h hname
    exact ⟨by dsimp only; omega, hmissing.missing⟩
  · rw [Client.opened_of_delta hstep]
    exact hmissing

variable {maxOffset N N' : ℕ}

lemma toolCallLoop_missing (hN : n < N) (hmax : n ≤ maxOffset)
    (h : announce i N toolCalls = some N') :
    Whenever Client.step (Missing base n) (toolCallLoop base i maxOffset toolCalls)
      fun m info c => Missing base n info c ∧ n ≤ m := by
  induction toolCalls generalizing i maxOffset N with
  | nil => exact .pure fun _ _ hm => ⟨hm, hmax⟩
  | cons toolCall rest ih =>
    obtain ⟨N₁, hN₁, hrest⟩ := bind_eq_some_iff.1 h
    have hle := (le_next hN₁).1
    refine .bind (toolCallEvents_missing fun hname => ?_) fun _ => ih (by omega) (by omega) hrest
    obtain ⟨-, hempty, -⟩ | ⟨hnew, -, -⟩ := next_cases hN₁
    · exact absurd hempty hname
    · omega

lemma toolCallLoop_gap (hn : n ≤ N)
    (hann : announce i N toolCalls = some N') (h : announce i n toolCalls = none) :
    Whenever Client.step (ToolsOpen base n) (toolCallLoop base i maxOffset toolCalls)
      fun m info c => ∃ offset ≤ m, Missing base offset info c := by
  induction toolCalls generalizing i n maxOffset N with
  | nil => cases h
  | cons toolCall rest ih =>
    obtain ⟨N₁, hN₁, hrest⟩ := bind_eq_some_iff.1 hann
    cases hnext : toolCall.next i n with
    | some n₁ =>
      have hle : n₁ ≤ N₁ := by
        rcases next_cases hnext with ⟨_, -, _⟩ | ⟨_, -, _⟩ <;>
          rcases next_cases hN₁ with ⟨_, -, _⟩ | ⟨_, -, _⟩ <;> omega
      refine .bind (toolCallEvents_follows hnext).whenever fun _ => ih hle hrest ?_
      simpa [announce, hnext] using h
    | none =>
      have hcases : n < N₁ ∧ n ≤ toolCall.index.getD i ∧ (toolCall.name ≠ "" → toolCall.index.getD i ≠ n) := by
        unfold ToolCallResponse.next at hnext hN₁
        split_ifs at hnext hN₁ with hold hnew hold' hnew' <;> cases hN₁
        · have hge : n ≤ toolCall.index.getD i := not_lt.1 fun hlt => hold ⟨hlt, hold'.2⟩
          exact ⟨by omega, hge, fun hname => absurd hold'.2 hname⟩
        · have hne : toolCall.index.getD i ≠ n := fun heq => hnew ⟨heq, hnew'.2⟩
          omega
      refine .bind ((toolCallEvents_missing hcases.2.2).mono (fun _ _ hm => hm.toMissing) fun _ _ _ hm => hm) fun _ => ?_
      refine (toolCallLoop_missing hcases.1 ?_ hrest).mono (fun _ _ hm => hm) fun m _ _ hm => ⟨n, hm.2, hm.1⟩
      omega

def Gap (info : StreamInfo) (c : Client) : Prop :=
  ∃ offset ≤ info.toolCallMaxIndexOffset, Missing info.toolCallBaseIndex offset info c

lemma sendToolCalls_gap {N N' : ℕ} (hn : n ≤ N) (hann : announce 0 N toolCalls = some N')
    (h : announce 0 n toolCalls = none) :
    Whenever Client.step (fun info c => Matches info c ∧ info.openTools = n) (sendToolCalls toolCalls) fun _ => Gap := by
  refine .bind (openToolCalls_follows n).whenever fun _ => ?_
  refine .bind (Q := fun _ info c => ToolsOpen info.toolCallBaseIndex n info c ∧ info.toolCallMaxIndexOffset = n - 1)
    (.modify fun _ _ h => h) fun _ => .get fun info₀ => ?_
  refine .bind (Q := fun m info c => ∃ offset ≤ m, Missing info₀.toolCallBaseIndex offset info c) ?_
    fun m => .modify ?_
  · refine (toolCallLoop_gap hn hann h).mono ?_ fun _ _ _ hm => hm
    rintro info c ⟨⟨htools, -⟩, rfl⟩
    exact htools
  · rintro info c ⟨offset, hoffset, hmissing⟩
    refine ⟨offset, hoffset, ?_⟩
    have hbase := hmissing.baseIndex
    exact ⟨hmissing.begun, hmissing.running, rfl, hmissing.last, by rw [hbase]; exact hmissing.missing⟩

lemma runs_stops_of_not_mem {x : ℕ × BlockKind} (hx : x ∈ l)
    (hc : x.1 ∉ c.opened.map fst) : runs Client.step c (l.map fun x => .contentBlockStop x.1) = none := by
  induction l generalizing c with
  | nil => cases hx
  | cons y l ih =>
    by_cases hy : c.phase = .within ∧ y.1 ∈ c.opened.map fst
    · have hne : x ≠ y := by
        rintro rfl
        exact hc hy.2
      have hstep : c.step (.contentBlockStop y.1) =
          some { c with opened := c.opened.filter (·.1 ≠ y.1), closed := y.1 :: c.closed } := if_pos hy
      rw [map_cons, runs_cons_of_step _ hstep]
      refine ih ((mem_cons.1 hx).resolve_left hne) fun hmem => hc ?_
      obtain ⟨z, hz, heq⟩ := List.mem_map.1 hmem
      exact heq ▸ mem_map_of_mem (mem_filter.1 hz).1
    · have hstep : c.step (.contentBlockStop y.1) = none := if_neg hy
      simp [runs, hstep]

lemma stopOpenBlocks_gap : Whenever Client.step Gap stopOpenBlocks fun _ _ _ => False := by
  rintro info c c' ⟨offset, hoffset, hmissing⟩ hrun
  have hopen : (info.toolCallBaseIndex + offset, .toolUse) ∈ info.openBlocks := by
    simp only [StreamInfo.openBlocks, hmissing.last, List.mem_map, List.mem_range]
    exact ⟨offset, by omega, rfl⟩
  rw [events_stopOpenBlocks, runs_stops_of_not_mem hopen hmissing.missing] at hrun
  cases hrun

def closing : StreamInput := ⟨{ usage := some {} }, none⟩

lemma closing_gap : Whenever Client.step Gap (handleClaudeFormat closing) fun _ _ _ => False := by
  rintro info c c' ⟨offset, hoffset, hmissing⟩ hrun
  change runs Client.step c (handleClaudeFormat closing info).2.2 = some c' at hrun
  rw [handleClaudeFormat_eq, if_neg (by simp [hmissing.running]), if_neg hmissing.begun.ne'] at hrun
  have husage : Whenever Client.step Gap (usageChunk closing.chunk) fun _ _ _ => False :=
    .get fun info₁ => .bind (stopOpenBlocks_gap.mono (fun _ _ h => h.1) fun _ _ _ h => h) fun _ =>
      fun _ _ _ h _ => h
  exact husage (closing.counted info) c c'
    ⟨offset, hoffset, succ_pos _, hmissing.running, rfl, hmissing.last, hmissing.missing⟩ hrun

lemma stopAndFinish_gap : Whenever Client.step Gap (stopAndFinish chunk) fun _ _ _ => False :=
  .bind stopOpenBlocks_gap fun _ _ _ _ h _ => h

lemma handleClaudeFormat_gap {x : StreamInput} {N N' : ℕ} (hann : announce 0 N x.chunk.delta.toolCalls = some N') :
    Whenever Client.step (fun info c => Agrees info c ∧ ¬Meets info x ∧ info.openTools ≤ N) (handleClaudeFormat x)
      fun _ => Gap := by
  intro info c c' h hrun
  obtain ⟨hagrees, hnot, hN⟩ := h
  simp only [Meets, not_or] at hnot
  obtain ⟨hbegun, hrunning, hnow, hjumps⟩ := hnot
  have hmatches : Matches info c := by
    obtain ⟨hzero, -⟩ | hmatches | hended := hagrees
    · exact absurd hzero hbegun
    · exact hmatches
    · exact absurd hended.done hrunning
  have hgap : announce 0 info.openTools x.chunk.delta.toolCalls = none := by
    simpa [Chunk.Continues] using hjumps
  have hne : x.chunk.delta.toolCalls ≠ [] := by
    intro hnil
    rw [hnil] at hgap
    cases hgap
  have hsend : Whenever Client.step (fun info' c => Matches info' c ∧ info'.openTools = info.openTools)
      (sendContent x.chunk.delta) fun _ => Gap := by
    unfold sendContent
    rw [if_pos hne]
    exact sendToolCalls_gap hN hann hgap
  have hlater : Whenever Client.step (fun info' c => Matches info' c ∧ info'.openTools = info.openTools)
      (laterChunk x.chunk) fun _ => Gap := by
    unfold laterChunk
    cases hchoices : x.chunk.choices with
    | nil =>
      refine absurd ?_ hne
      simp [delta, hchoices]
    | cons choice rest =>
      have hdelta : choice.delta = x.chunk.delta := by simp [delta, hchoices]
      dsimp only
      rw [hdelta]
      cases hfinished : choice.finished with
      | none => exact hsend
      | some finishReason =>
        cases husage : x.chunk.usage with
        | none =>
          refine absurd ?_ hnow
          simp [deferred, hchoices, hfinished, husage]
        | some usage =>
          refine .bind
            (.modify fun info' c h => ?_) fun _ => .bind hsend fun _ => ?_
          · exact ⟨{ h.1 with }, h.2⟩
          · exact (stopAndFinish_gap x.chunk).mono (fun _ _ h => h) fun _ _ _ h => h.elim
  change runs Client.step c (handleClaudeFormat x info).2.2 = some c' at hrun
  show Gap (handleClaudeFormat x info).2.1 c'
  rw [handleClaudeFormat_eq, if_neg hrunning, if_neg hbegun] at hrun ⊢
  exact hlater _ _ _ ⟨hmatches.counted x, rfl⟩ hrun

/-! ### The number of tool calls -/

lemma toolCallLoop_lt {maxOffset : ℕ} (hmax : maxOffset < n')
    (h : announce i n toolCalls = some n') (info : StreamInfo) : (toolCallLoop base i maxOffset toolCalls info).1 < n' := by
  induction toolCalls generalizing i n maxOffset info with
  | nil => exact hmax
  | cons toolCall rest ih =>
    obtain ⟨m, hm, hrest⟩ := bind_eq_some_iff.1 h
    refine ih (max_lt hmax ?_) hrest _
    exact (le_next hm).2.trans_le (le_announce hrest)

lemma next_toolCallLoop (toolCalls : List ToolCallResponse) (base i maxOffset : ℕ) (info : StreamInfo) :
    next (toolCallLoop base i maxOffset toolCalls) info = info := by
  induction toolCalls generalizing i maxOffset with
  | nil => rfl
  | cons toolCall rest ih =>
    have hcall : next (toolCallEvents base (toolCall.index.getD i) toolCall) info = info := by
      unfold toolCallEvents
      simp
    show next (toolCallLoop _ _ _ rest) (next (toolCallEvents base (toolCall.index.getD i) toolCall) info) = info
    rw [hcall]
    exact ih _ _

lemma openTools_sendContent {d : ChoiceDelta} (h : announce 0 n d.toolCalls = some n') (hinfo : info.openTools ≤ n) :
    (next (sendContent d) info).openTools ≤ n' := by
  have hle := le_announce h
  unfold sendContent
  split_ifs with htools hreasoning hcontent
  · have hpos := announce_pos htools h
    set opened := next (setLastMessagesType .tools) (next openToolCalls info) with hopened
    have hmax : opened.toolCallMaxIndexOffset < n' := by
      show (next openToolCalls info).toolCallMaxIndexOffset < n'
      unfold openToolCalls
      rw [next_bind, get_fst, next_ite]
      split_ifs with hother
      · exact hpos
      · rw [StreamInfo.openTools, if_pos (not_not.1 hother)] at hinfo
        show info.toolCallMaxIndexOffset < n'
        omega
    have hlt : (toolCallLoop opened.toolCallBaseIndex 0 opened.toolCallMaxIndexOffset d.toolCalls opened).1 < n' :=
      toolCallLoop_lt hmax h opened
    have hlast : (next (sendToolCalls d.toolCalls) info).lastMessagesType = .tools := by
      show (next (toolCallLoop _ _ _ _) opened).lastMessagesType = .tools
      rw [next_toolCallLoop]
      rfl
    rw [StreamInfo.openTools, if_pos hlast]
    exact hlt
  · exact zero_le _
  · exact zero_le _
  · exact hinfo.trans hle

lemma next_finish (info : StreamInfo) :
    next (finish stopReason oaiUsage) info = { info with done := true } := by
  cases oaiUsage <;> rfl

lemma next_stopAndFinish (info : StreamInfo) : next (stopAndFinish chunk) info = { info with done := true } := by
  unfold stopAndFinish
  rw [next_bind, next_stopOpenBlocks, next_bind, next_finish]
  rfl

lemma openTools_laterChunk {chunk : Chunk} (h : announce 0 n chunk.delta.toolCalls = some n') (hinfo : info.openTools ≤ n) :
    (next (laterChunk chunk) info).openTools ≤ n' := by
  have hle := le_announce h
  unfold laterChunk
  cases hchoices : chunk.choices with
  | nil =>
    dsimp only [usageChunk]
    rw [next_bind]
    simp only [get_fst]
    cases chunk.usage.or info.usage with
    | none => exact hinfo.trans hle
    | some usage =>
      rw [next_bind, next_stopOpenBlocks]
      exact hinfo.trans hle
  | cons choice rest =>
    have hdelta : choice.delta = chunk.delta := by simp [delta, hchoices]
    dsimp only
    rw [hdelta]
    cases choice.finished with
    | none => exact openTools_sendContent h hinfo
    | some finishReason =>
      cases chunk.usage with
      | none => exact hinfo.trans hle
      | some usage =>
        rw [next_bind, next_bind, next_stopAndFinish]
        exact openTools_sendContent h hinfo

lemma openTools_firstChunk {chunk : Chunk} (h : announce 0 n chunk.delta.toolCalls = some n')
    (hinfo : info.lastMessagesType = .none) : (next (firstChunk chunk) info).openTools ≤ n' := by
  have hnone : info.openTools = 0 := by simp [StreamInfo.openTools, hinfo]
  unfold firstChunk
  cases hchoices : chunk.choices with
  | nil => exact hnone.le.trans (zero_le _)
  | cons choice rest =>
    have hdelta : chunk.delta = choice.delta := by simp [delta, hchoices]
    rw [hdelta] at h
    have htool : (next (firstToolCall choice.delta.toolCalls) info).openTools ≤ n' := by
      cases hcalls : choice.delta.toolCalls with
      | nil => exact hnone.le.trans (zero_le _)
      | cons toolCall rest =>
        have hpos := announce_pos (by rw [hcalls]; exact cons_ne_nil _ _) h
        unfold firstToolCall
        rw [next_bind, next_bind, next_emitWhen]
        exact hpos
    have hcontent : (next (firstContent choice.delta.getReasoningContent choice.delta.getContentString)
        (next (firstToolCall choice.delta.toolCalls) info)).openTools ≤ n' := by
      unfold firstContent
      split_ifs
      · exact zero_le _
      · exact zero_le _
      · exact htool
    show (next (firstFinish chunk choice) (next (firstContent _ _) (next (firstToolCall _) info))).openTools ≤ n'
    unfold firstFinish
    cases choice.finished with
    | none => exact hcontent
    | some finishReason =>
      rw [next_bind, next_stopAndFinish]
      exact hcontent

lemma openTools_handleClaudeFormat {x : StreamInput} (h : announce 0 n x.chunk.delta.toolCalls = some n')
    (hinfo : info.openTools ≤ n) (hstart : info.sendResponseCount = 0 → info.lastMessagesType = .none) :
    (next (handleClaudeFormat x) info).openTools ≤ n' := by
  show (handleClaudeFormat x info).2.1.openTools ≤ n'
  rw [handleClaudeFormat_eq]
  split_ifs with hdone hcount
  · exact hinfo.trans (le_announce h)
  · exact openTools_firstChunk h (hstart hcount)
  · exact openTools_laterChunk h hinfo

/-! ### Valid streams -/

structure StreamInfo.Start (info : StreamInfo) : Prop where
  count : info.sendResponseCount = 0
  running : info.done = false
  last : info.lastMessagesType = .none
  index : info.index = 0

def converted (info : StreamInfo) (xs : List StreamInput) : List ClaudeEvent := events (feed handleClaudeFormat xs) info

def afterChunk (info : StreamInfo) (x : StreamInput) : Option StreamInfo := some (next (handleClaudeFormat x) info)

/-- The stream is valid, and it can be ended at any time by a report of the usage. -/
structure StaysValid (info : StreamInfo) (xs : List StreamInput) : Prop where
  valid : ValidStream (converted info xs)
  ended : ∀ p q, p ++ q = xs → ValidStream (converted info (p ++ [closing]))

lemma meets_closing (info : StreamInfo) : Meets info closing := .inr (.inr (.inr rfl))

lemma along_append {xs ys : List StreamInput} (h : Along afterChunk Meets info (xs ++ ys)) : Along afterChunk Meets info xs := by
  induction xs generalizing info with
  | nil => trivial
  | cons x xs ih => exact ⟨h.1, fun info' hinfo' => ih (h.2 info' hinfo')⟩

variable {xs : List StreamInput}

lemma along_closing (h : Along afterChunk Meets info xs) :
    Along afterChunk Meets info (xs ++ [closing]) := by
  induction xs generalizing info with
  | nil => exact ⟨meets_closing info, fun _ _ => trivial⟩
  | cons x xs ih => exact ⟨h.1, fun info' hinfo' => ih (h.2 info' hinfo')⟩

lemma accepts_of_along (hagrees : Agrees info c) (h : Along afterChunk Meets info xs) :
    (runs Client.step c (converted info xs)).isSome := by
  obtain ⟨c', hrun, -⟩ := Follows.feed handleClaudeFormat_follows hagrees h
  rw [converted, hrun]
  rfl

lemma Agrees.last_of_count (h : Agrees info c) (hcount : info.sendResponseCount = 0) : info.lastMessagesType = .none := by
  obtain ⟨-, -, -, hlast, -⟩ | hmatches | hended := h
  · exact hlast
  · exact absurd hmatches.begun (by omega)
  · exact absurd hended.begun (by omega)

lemma along_of_accepts (hagrees : Agrees info c) (hopen : info.openTools ≤ n)
    (hann : (runs (fun n x => announce 0 n x.chunk.delta.toolCalls) n xs).isSome)
    (h : ∀ p q, p ++ q = xs → (runs Client.step c (converted info (p ++ [closing]))).isSome) :
    Along afterChunk Meets info xs := by
  induction xs generalizing info c n with
  | nil => trivial
  | cons x xs ih =>
    obtain ⟨m, hm⟩ := isSome_iff_exists.1 hann
    obtain ⟨n', hn', hrest⟩ := runs_cons_eq_some.1 hm
    have hmeets : Meets info x := by
      by_contra hnot
      obtain ⟨c₂, hc₂⟩ := isSome_iff_exists.1 (h [x] xs rfl)
      have hevents : converted info ([x] ++ [closing]) = events (handleClaudeFormat x) info ++
          (events (handleClaudeFormat closing) (next (handleClaudeFormat x) info) ++ []) := rfl
      rw [hevents, append_nil, runs_append] at hc₂
      obtain ⟨c₁, hc₁, hend⟩ := bind_eq_some_iff.1 hc₂
      exact closing_gap _ _ _ (handleClaudeFormat_gap hn' info c c₁ ⟨hagrees, hnot, hopen⟩ hc₁) hend
    refine ⟨hmeets, fun info' hinfo' => ?_⟩
    cases hinfo'
    obtain ⟨c₁, hc₁, hagrees₁⟩ := handleClaudeFormat_follows x info c ⟨hagrees, hmeets⟩
    refine ih hagrees₁ (openTools_handleClaudeFormat hn' hopen hagrees.last_of_count) (by rw [hrest]; rfl) fun p q hpq => ?_
    have hwhole := h (x :: p) q (by rw [cons_append, hpq])
    have hevents : converted info (x :: p ++ [closing]) = events (handleClaudeFormat x) info ++
        converted (next (handleClaudeFormat x) info) (p ++ [closing]) := rfl
    rwa [hevents, runs_append, hc₁] at hwhole

/-- **The stream is valid, wherever it ends, exactly if every tool call continues an open tool block or is the next one after
the open ones.** -/
theorem stays_valid_iff {info : StreamInfo} (hstart : info.Start) {xs : List StreamInput}
    (hann : (runs (fun n x => announce 0 n x.chunk.delta.toolCalls) 0 xs).isSome) :
    StaysValid info xs ↔ Along afterChunk Meets info xs := by
  have hagrees : Agrees info {} := .inl ⟨hstart.count, hstart.running, rfl, hstart.last, hstart.index⟩
  constructor
  · intro h
    exact along_of_accepts hagrees (by simp [StreamInfo.openTools, hstart.last]) hann h.ended
  · intro h
    refine ⟨accepts_of_along hagrees h, fun p q hpq => ?_⟩
    subst hpq
    exact accepts_of_along hagrees (along_closing (along_append h))

def deltaChunk (delta : ChoiceDelta) : StreamInput := ⟨{ choices := [{ delta }] }, none⟩

def finishChunk (finishReason : String) : StreamInput :=
  ⟨{ choices := [{ finishReason := some finishReason }], usage := some {} }, none⟩

def parallelCalls : List StreamInput :=
  [deltaChunk { content := some "Let me see." },
    deltaChunk { toolCalls := [{ index := some 0, id := "a", name := "read" }, { index := some 1, id := "b", name := "list" }] },
    deltaChunk { toolCalls := [{ index := some 0, arguments := "1" }, { index := some 1, arguments := "2" }] },
    finishChunk "tool_calls"]

theorem stays_valid_iff_parallel :
    (converted {} parallelCalls).getLast? = some .messageStop ∧ StaysValid {} parallelCalls :=
  ⟨by decide, (stays_valid_iff ⟨rfl, rfl, rfl, rfl⟩ (by decide)).2 (by decide)⟩

def interruptedCalls : List StreamInput :=
  [deltaChunk { toolCalls := [{ index := some 0, id := "a", name := "read", arguments := "1" }] },
    deltaChunk { content := some "And" },
    deltaChunk { toolCalls := [{ index := some 1, id := "b", name := "list", arguments := "2" }] },
    finishChunk "tool_calls"]

def pairedCalls : List StreamInput :=
  [deltaChunk { toolCalls := [{ index := some 0, id := "a", name := "read" }, { index := some 1, id := "b", name := "list" }] },
    deltaChunk { toolCalls := [{ index := some 1, arguments := "2" }] },
    finishChunk "tool_calls"]

def ClaudeEvent.starts : ClaudeEvent → Option ℕ
  | .contentBlockStart i _ => some i
  | _ => none

/-- Block 2 is stopped without ever being started; the second tool call of the first chunk is not started. -/
theorem interrupted_not_valid :
    (runs (fun n x => announce 0 n x.chunk.delta.toolCalls) 0 interruptedCalls = some 2 ∧
      (converted {} interruptedCalls).filterMap ClaudeEvent.starts = [0, 1, 3] ∧
      .contentBlockStop 2 ∈ converted {} interruptedCalls ∧ ¬ValidStream (converted {} interruptedCalls)) ∧
    runs (fun n x => announce 0 n x.chunk.delta.toolCalls) 0 pairedCalls = some 2 ∧
      (converted {} pairedCalls).filterMap ClaudeEvent.starts = [0] ∧
      .contentBlockDelta 1 (.inputJson "2") ∈ converted {} pairedCalls ∧ ¬ValidStream (converted {} pairedCalls) := by
  decide

end StarNexus.Convert
