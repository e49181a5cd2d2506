import StarNexus.Convert.ClaudeGrammar

/-!
# The content of the converted stream

What a client of the chat interface reads from the chunks, and what a client of the Messages interface reads from the events:
the text, the reasoning and the tool calls.  A chunk hands on one kind of content only, and nothing if it is put off; and the
arguments of a tool call are read only while its block is one of those that the converter has open.
-/

namespace StarNexus.Convert

open Lib Emit List Option Prod

structure ToolCall where
  id : String
  name : String
  arguments : String
  deriving DecidableEq

structure Reply where
  text : String := ""
  thinking : String := ""
  calls : List (ℕ × ToolCall) := []
  deriving DecidableEq

def addArguments (number : ℕ) (arguments : String) (calls : List (ℕ × ToolCall)) : List (ℕ × ToolCall) :=
  calls.map fun x => if x.1 = number then (x.1, { x.2 with arguments := x.2.arguments ++ arguments }) else x

/-! ### The two clients -/

def Reply.read (r : Reply) : ClaudeEvent → Reply
  | .contentBlockStart _ (.text text) => { r with text := r.text ++ text }
  | .contentBlockStart _ (.thinking thinking) => { r with thinking := r.thinking ++ thinking }
  | .contentBlockStart i (.toolUse id name) => { r with calls := r.calls ++ [(i, ⟨id, name, ""⟩)] }
  | .contentBlockDelta _ (.text text) => { r with text := r.text ++ text }
  | .contentBlockDelta _ (.thinking thinking) => { r with thinking := r.thinking ++ thinking }
  | .contentBlockDelta i (.inputJson arguments) => { r with calls := addArguments i arguments r.calls }
  | _ => r

def addToolCalls : ℕ → List ToolCallResponse → List (ℕ × ToolCall) → List (ℕ × ToolCall)
  | _, [], calls => calls
  | i, toolCall :: rest, calls =>
    let number := toolCall.index.getD i
    addToolCalls (i + 1) rest (if number ∈ calls.map Prod.fst then addArguments number toolCall.arguments calls
      else calls ++ [(number, ⟨toolCall.id, toolCall.name, toolCall.arguments⟩)])

def Reply.readDelta (r : Reply) (d : ChoiceDelta) : Reply :=
  { text := r.text ++ d.getContentString, thinking := r.thinking ++ d.getReasoningContent
    calls := addToolCalls 0 d.toolCalls r.calls }

structure SameContent (r o : Reply) : Prop where
  text : r.text = o.text
  thinking : r.thinking = o.thinking
  calls : r.calls.map Prod.snd = o.calls.map Prod.snd

/-! ### Numbers of tool calls -/

@[simp] lemma addArguments_fst (number : ℕ) (arguments : String) (calls : List (ℕ × ToolCall)) :
    (addArguments number arguments calls).map Prod.fst = calls.map Prod.fst := by
  rw [addArguments, List.map_map]
  refine map_congr_left fun x _ => ?_
  dsimp only [Function.comp]
  split <;> rfl

lemma addArguments_empty (number : ℕ) (calls : List (ℕ × ToolCall)) : addArguments number "" calls = calls := by
  refine (map_congr_left fun x _ => ?_).trans (map_id _)
  split
  · simp
  · rfl

variable {calls : List (ℕ × ToolCall)}

lemma addArguments_of_not_mem {number : ℕ} (h : number ∉ calls.map Prod.fst) (arguments : String) :
    addArguments number arguments calls = calls := by
  refine (map_congr_left fun x hx => if_neg ?_).trans (map_id _)
  rintro rfl
  exact h (mem_map_of_mem hx)

lemma addArguments_snd {calls calls' : List (ℕ × ToolCall)} {number number' : ℕ} (arguments : String)
    (hcalls : calls.map snd = calls'.map snd)
    (hnumber : ∀ j : ℕ, (calls.map Prod.fst)[j]? = some number ↔ (calls'.map Prod.fst)[j]? = some number') :
    (addArguments number arguments calls).map snd = (addArguments number' arguments calls').map snd := by
  induction calls generalizing calls' with
  | nil =>
    obtain rfl : calls' = [] := by simpa using hcalls
    rfl
  | cons x calls ih =>
    cases calls' with
    | nil => cases hcalls
    | cons y calls' =>
      simp only [map_cons, cons.injEq] at hcalls
      have hhead : x.1 = number ↔ y.1 = number' := by simpa using hnumber 0
      have htail := ih hcalls.2 fun j => by exact hnumber (j + 1)
      have hboth : (if x.1 = number then (x.1, { x.2 with arguments := x.2.arguments ++ arguments }) else x).2 =
          (if y.1 = number' then (y.1, { y.2 with arguments := y.2.arguments ++ arguments }) else y).2 := by
        by_cases hx : x.1 = number
        · rw [if_pos hx, if_pos (hhead.1 hx), hcalls.1]
        · rw [if_neg hx, if_neg (fun hy => hx (hhead.2 hy)), hcalls.1]
      unfold addArguments at htail ⊢
      rw [map_cons, map_cons, map_cons, map_cons, htail, hboth]

/-! ### What has been read -/

def reader (r : Reply) (e : ClaudeEvent) : Option Reply := some (r.read e)

/-- The blocks of the tool calls: those before `first` are below `base`, and the others follow from there by their number. -/
def Numbered (base first : ℕ) (calls : List (ℕ × ToolCall)) : Prop :=
  ∀ (j b : ℕ), (calls.map Prod.fst)[j]? = some b → (j < first → b < base) ∧ (first ≤ j → b = base + j)

/-- The events so far carry what the chunks so far have sent; the tool calls from `first` on have their blocks open. -/
structure Carried (first : ℕ) (o : Reply) (info : StreamInfo) (r : Reply) : Prop where
  begun : 0 < info.sendResponseCount
  first_le : first ≤ o.calls.length
  same : SameContent r o
  numbers : o.calls.map Prod.fst = List.range o.calls.length
  tools : info.lastMessagesType = .tools → Numbered info.toolCallBaseIndex first r.calls ∧
    (first < o.calls.length → o.calls.length ≤ info.toolCallMaxIndexOffset + 1)
  others : info.lastMessagesType ≠ .tools → ∀ b ∈ r.calls.map Prod.fst, b < info.index

variable {first : ℕ} {o r : Reply} {info : StreamInfo}

lemma SameContent.length (h : SameContent r o) : r.calls.length = o.calls.length := by
  simpa using congrArg List.length h.calls

lemma SameContent.lt_length (h : SameContent r o) {j b : ℕ} (hj : (r.calls.map Prod.fst)[j]? = some b) : j < o.calls.length := by
  have hlt := (List.getElem?_eq_some_iff.1 hj).1
  rwa [length_map, h.length] at hlt

lemma SameContent.lt_of_mem (h : SameContent r o) {base first b : ℕ} (hnumbered : Numbered base first r.calls)
    (hb : b ∈ r.calls.map Prod.fst) : b < base ∨ first < o.calls.length ∧ b < base + o.calls.length := by
  obtain ⟨j, hj⟩ := mem_iff_getElem?.1 hb
  have hlt := h.lt_length hj
  obtain ⟨hbelow, habove⟩ := hnumbered j b hj
  omega

lemma runs_reader_stops (l : List (ℕ × BlockKind)) (r : Reply) :
    runs reader r (l.map fun x => .contentBlockStop x.1) = some r := by
  induction l with
  | nil => rfl
  | cons x l ih => exact ih

variable {P : StreamInfo → Reply → Prop}

lemma stopOpenBlocks_carries : Follows reader P stopOpenBlocks fun _ => P := by
  intro info r h
  refine ⟨r, ?_, ?_⟩
  · rw [events_stopOpenBlocks]
    exact runs_reader_stops _ r
  · rw [next_stopOpenBlocks]
    exact h

lemma stopOpenBlocksAndAdvance_carries :
    Follows reader (Carried first o) stopOpenBlocksAndAdvance
      fun _ info r => Carried first o info r ∧ info.lastMessagesType = .none := by
  refine .get fun info₀ => .ite (fun hnone => .pure ?_) fun _ => ?_
  · rintro info r ⟨h, rfl⟩
    exact ⟨h, hnone⟩
  · refine .bind (stopOpenBlocks_carries.pre fun _ _ h => h.1) fun _ => .modify ?_
    intro info r h
    have hothers := h.others
    have htools := h.tools
    cases hlast : info.lastMessagesType <;> dsimp only <;>
      refine ⟨{ h with tools := nofun, others := fun _ b hb => ?_ }, rfl⟩
    · exact (hothers (by simp [hlast]) b hb).trans (Nat.lt_succ_self _)
    · exact (hothers (by simp [hlast]) b hb).trans (Nat.lt_succ_self _)
    · obtain ⟨hnumbered, hmax⟩ := htools hlast
      show b < info.toolCallBaseIndex + info.toolCallMaxIndexOffset + 1
      have hbound := h.same.lt_of_mem hnumbered hb
      omega
    · exact (hothers (by simp [hlast]) b hb).trans (Nat.lt_succ_self _)

/-! ### Text and reasoning -/

variable {block : ContentBlock}

lemma startBlock_carries (hblock : block = .text "" ∨ block = .thinking "") :
    Follows reader P (startBlock block) fun _ => P := by
  refine .get fun info₀ => .emit ?_
  rintro info r ⟨h, rfl⟩
  refine ⟨r, ?_, h⟩
  rcases hblock with rfl | rfl <;> simp [reader, Reply.read]

def Reply.add (o : Reply) : BlockDelta → Reply
  | .text text => { o with text := o.text ++ text }
  | .thinking thinking => { o with thinking := o.thinking ++ thinking }
  | _ => o

variable {delta : BlockDelta}

lemma SameContent.add (h : SameContent r o) (hdelta : delta.kind ≠ .toolUse) (i : ℕ) :
    SameContent (r.read (.contentBlockDelta i delta)) (o.add delta) := by
  cases delta with
  | text text => exact ⟨by simp [Reply.read, Reply.add, h.text], h.thinking, h.calls⟩
  | thinking thinking => exact ⟨h.text, by simp [Reply.read, Reply.add, h.thinking], h.calls⟩
  | signature => exact h
  | inputJson arguments => exact absurd rfl hdelta

lemma Reply.add_calls (o : Reply) (delta : BlockDelta) : (o.add delta).calls = o.calls := by
  cases delta <;> rfl

lemma Reply.read_calls (hdelta : delta.kind ≠ .toolUse) (r : Reply) (i : ℕ) :
    (r.read (.contentBlockDelta i delta)).calls = r.calls := by
  cases delta with
  | inputJson arguments => exact absurd rfl hdelta
  | _ => rfl

open Reply

lemma sendDelta_carries (hdelta : delta.kind ≠ .toolUse) :
    Follows reader (Carried first o) (sendDelta delta) fun _ => Carried first (o.add delta) := by
  refine .get fun info₀ => .emit ?_
  rintro info r ⟨h, rfl⟩
  refine ⟨_, rfl, h.begun, ?_, h.same.add hdelta _, ?_, ?_, ?_⟩
  · rw [o.add_calls]
    exact h.first_le
  · rw [o.add_calls]
    exact h.numbers
  · rw [o.add_calls, read_calls hdelta]
    exact h.tools
  · rw [read_calls hdelta]
    exact h.others

variable {t : LastMessageType}

lemma setLastMessagesType_carries (ht : t ≠ .tools) :
    Follows reader (fun info r => Carried first o info r ∧ info.lastMessagesType ≠ .tools) (setLastMessagesType t)
      fun _ info r => Carried first o info r ∧ info.lastMessagesType ≠ .tools := by
  refine .modify fun info r h => ⟨{ h.1 with tools := fun hnot => absurd hnot ht, others := fun _ => h.1.others h.2 }, ht⟩

section

variable (ht : t ≠ .tools) (hblock : block = .text "" ∨ block = .thinking "") (hdelta : delta.kind ≠ .toolUse)

include ht hblock hdelta

lemma sendBlock_carries :
    Follows reader (Carried first o) (sendBlock t block delta) fun _ => Carried first (o.add delta) := by
  refine .bind (Q := fun _ info r => Carried first o info r ∧ info.lastMessagesType ≠ .tools) ?_ fun _ => ?_
  · refine .get fun info₀ => .ite (fun _ => ?_) fun hsame => .pure ?_
    · refine .bind (stopOpenBlocksAndAdvance_carries.pre fun _ _ h => h.1) fun _ => ?_
      exact (startBlock_carries hblock).pre fun info r h => ⟨h.1, by rw [h.2]; decide⟩
    · rintro info r ⟨h, rfl⟩
      rw [not_not] at hsame
      exact ⟨h, hsame ▸ ht⟩
  · refine .bind (setLastMessagesType_carries ht) fun _ => ?_
    exact (sendDelta_carries hdelta).pre fun _ _ h => h.1

lemma firstBlock_carries :
    Follows reader (fun info r => Carried first o info r ∧ info.lastMessagesType ≠ t) (firstBlock t block delta)
      fun _ => Carried first (o.add delta) := by
  refine .bind (Q := fun _ info r => Carried first o info r ∧ info.lastMessagesType ≠ .tools) ?_ fun _ => ?_
  · refine .get fun info₀ => .ite (fun _ => ?_) fun hsame => .pure ?_
    · exact stopOpenBlocksAndAdvance_carries.mono (fun _ _ h => h.1.1) fun _ info _ h => ⟨h.1, by rw [h.2]; decide⟩
    · rintro info r ⟨⟨-, hother⟩, rfl⟩
      exact absurd hother hsame
  · refine .bind (startBlock_carries hblock) fun _ => ?_
    refine .bind (Q := fun _ info r => Carried first (o.add delta) info r ∧ info.lastMessagesType ≠ .tools) ?_ fun _ => ?_
    · intro info r h
      obtain ⟨r', hrun, hpost⟩ := sendDelta_carries hdelta info r h.1
      exact ⟨r', hrun, hpost, h.2⟩
    · exact (setLastMessagesType_carries ht).post fun _ _ _ h => h.1

end

/-! ### Tool calls -/

structure Sending (base first m : ℕ) (o : Reply) (info : StreamInfo) (r : Reply) : Prop where
  baseIndex : info.toolCallBaseIndex = base
  last : info.lastMessagesType = .tools
  begun : 0 < info.sendResponseCount
  first_le : first ≤ o.calls.length
  same : SameContent r o
  numbers : o.calls.map Prod.fst = List.range o.calls.length
  numbered : Numbered base first r.calls
  covered : first < o.calls.length → o.calls.length ≤ m + 1

variable {base m i n n' : ℕ}

lemma Sending.lt_of_mem (h : Sending base first m o info r) {b : ℕ} (hb : b ∈ r.calls.map Prod.fst) :
    b < base + o.calls.length := by
  have hbound := h.same.lt_of_mem h.numbered hb
  omega

lemma addToolCalls_single (i : ℕ) (toolCall : ToolCallResponse) (rest : List ToolCallResponse) (calls : List (ℕ × ToolCall)) :
    addToolCalls i (toolCall :: rest) calls = addToolCalls (i + 1) rest (addToolCalls i [toolCall] calls) := rfl

variable {toolCall : ToolCallResponse}

lemma addToolCalls_next (hnumbers : calls.map Prod.fst = range calls.length)
    (h : toolCall.next i calls.length = some n') :
    (toolCall.name = "" ∧ toolCall.index.getD i < calls.length ∧ n' = calls.length ∧
      addToolCalls i [toolCall] calls = addArguments (toolCall.index.getD i) toolCall.arguments calls) ∨
    (toolCall.name ≠ "" ∧ toolCall.index.getD i = calls.length ∧ n' = calls.length + 1 ∧
      addToolCalls i [toolCall] calls = calls ++ [(toolCall.index.getD i, ⟨toolCall.id, toolCall.name, toolCall.arguments⟩)]) := by
  have hmem : toolCall.index.getD i ∈ calls.map Prod.fst ↔ toolCall.index.getD i < calls.length := by
    rw [hnumbers, mem_range]
  obtain ⟨hold, hname, rfl⟩ | ⟨hnew, hname, rfl⟩ := ToolCallResponse.next_cases h
  · exact .inl ⟨hname, hold, rfl, if_pos (hmem.2 hold)⟩
  · exact .inr ⟨hname, hnew, rfl, if_neg fun hlt => hnew.not_lt (hmem.1 hlt)⟩

section

variable (h : Sending base first m o info r)

include h

lemma Sending.position {k : ℕ} (hfirst : first ≤ k) (hk : k < o.calls.length) (j : ℕ) :
    (r.calls.map Prod.fst)[j]? = some (base + k) ↔ (o.calls.map Prod.fst)[j]? = some k := by
  rw [h.numbers]
  have hlength : (r.calls.map Prod.fst).length = o.calls.length := by rw [length_map, h.same.length]
  constructor
  · intro hj
    obtain ⟨hbelow, habove⟩ := h.numbered j _ hj
    obtain rfl : k = j := by omega
    exact List.getElem?_range hk
  · intro hj
    have hlt : j < o.calls.length := by
      have hsome := (List.getElem?_eq_some_iff.1 hj).1
      rwa [length_range] at hsome
    obtain rfl : j = k := by
      rw [List.getElem?_range hlt] at hj
      exact Option.some.inj hj
    obtain ⟨b, hb⟩ : ∃ b, (r.calls.map Prod.fst)[j]? = some b :=
      ⟨_, List.getElem?_eq_getElem (by omega)⟩
    rw [hb, (h.numbered j b hb).2 hfirst]

lemma Sending.start {k : ℕ} (hk : k = o.calls.length) (call : ToolCall) :
    Sending base first (max m k) { o with calls := o.calls ++ [(k, call)] } info
      { r with calls := r.calls ++ [(base + k, call)] } := by
  have hfirst := h.first_le
  refine ⟨h.baseIndex, h.last, h.begun, ?_, ⟨h.same.text, h.same.thinking, ?_⟩, ?_, fun j b hj => ?_, ?_⟩
  · simp only [length_append]
    omega
  · simp [h.same.calls]
  · simp [h.numbers, hk, range_succ]
  · rw [List.map_append, List.getElem?_append] at hj
    have hlength : (r.calls.map Prod.fst).length = o.calls.length := by rw [length_map, h.same.length]
    split_ifs at hj with hlt
    · exact h.numbered j b hj
    · have hlast : j = o.calls.length := by
        by_contra hne
        rw [List.getElem?_eq_none (by simp only [map_cons, map_nil, length_singleton]; omega)] at hj
        cases hj
      have hzero : j - (r.calls.map Prod.fst).length = 0 := by omega
      rw [hzero] at hj
      cases hj
      omega
  · simp only [length_append, length_singleton]
    omega

lemma Sending.arguments {k : ℕ} (hfirst : first ≤ k) (hk : k < o.calls.length) (arguments : String) :
    Sending base first m { o with calls := addArguments k arguments o.calls } info
      { r with calls := addArguments (base + k) arguments r.calls } := by
  have hlength : (addArguments k arguments o.calls).length = o.calls.length := by simp [addArguments]
  refine ⟨h.baseIndex, h.last, h.begun, ?_, ⟨h.same.text, h.same.thinking, ?_⟩, ?_, ?_, ?_⟩
  · rw [hlength]
    exact h.first_le
  · exact addArguments_snd arguments h.same.calls (h.position hfirst hk)
  · rw [addArguments_fst, hlength]
    exact h.numbers
  · intro j b hj
    rw [addArguments_fst] at hj
    exact h.numbered j b hj
  · rw [hlength]
    exact h.covered

lemma Sending.mono {m' : ℕ} (hm : m ≤ m') : Sending base first m' o info r :=
  { h with covered := fun hlt => (h.covered hlt).trans (by omega) }

end

lemma toolCallEvents_carries (h : toolCall.next i o.calls.length = some n')
    (hargs : toolCall.name = "" → toolCall.arguments = "" ∨ first ≤ toolCall.index.getD i) :
    Follows reader (Sending base first m o) (toolCallEvents base (toolCall.index.getD i) toolCall)
      fun _ => Sending base first (max m (toolCall.index.getD i)) { o with calls := addToolCalls i [toolCall] o.calls } := by
  intro info r hsending
  have hread : runs reader r (events (toolCallEvents base (toolCall.index.getD i) toolCall) info) = some
      { r with calls := addArguments (base + toolCall.index.getD i) toolCall.arguments (if toolCall.name ≠ "" then
        r.calls ++ [(base + toolCall.index.getD i, ⟨toolCall.id, toolCall.name, ""⟩)] else r.calls) } := by
    unfold toolCallEvents
    by_cases hname : toolCall.name = "" <;> by_cases harguments : toolCall.arguments = "" <;>
      simp [Emit.emitWhen, hname, harguments, runs, reader, Reply.read, addArguments_empty]
  have hnext : next (toolCallEvents base (toolCall.index.getD i) toolCall) info = info := by
    unfold toolCallEvents
    simp
  refine ⟨_, hread, ?_⟩
  rw [hnext]
  obtain ⟨hname, hold, -, hsent⟩ | ⟨hname, hnew, -, hsent⟩ := addToolCalls_next hsending.numbers h <;> rw [hsent]
  · -- the call is known
    rw [if_neg (not_not.2 hname)]
    rcases hargs hname with hnone | hfirst
    · rw [hnone, addArguments_empty, addArguments_empty]
      exact hsending.mono (le_max_left _ _)
    · exact (hsending.arguments hfirst hold _).mono (le_max_left _ _)
  · have hfresh : base + toolCall.index.getD i ∉ r.calls.map Prod.fst := fun hused => by
      have hlt := hsending.lt_of_mem hused
      omega
    have hstart : addArguments (base + toolCall.index.getD i) toolCall.arguments
        (r.calls ++ [(base + toolCall.index.getD i, ⟨toolCall.id, toolCall.name, ""⟩)]) =
        r.calls ++ [(base + toolCall.index.getD i, ⟨toolCall.id, toolCall.name, toolCall.arguments⟩)] := by
      rw [addArguments, List.map_append, ← addArguments, addArguments_of_not_mem hfresh]
      simp
    rw [if_pos hname, hstart]
    exact hsending.start hnew _

def Attributed (first : ℕ) : ℕ → List ToolCallResponse → Prop
  | _, [] => True
  | i, toolCall :: rest =>
    (toolCall.name = "" → toolCall.arguments = "" ∨ first ≤ toolCall.index.getD i) ∧ Attributed first (i + 1) rest

instance Attributed.decidable (first : ℕ) : ∀ i toolCalls, Decidable (Attributed first i toolCalls)
  | _, [] => isTrue trivial
  | i, _ :: rest =>
    have := Attributed.decidable first (i + 1) rest
    inferInstanceAs (Decidable (_ ∧ _))

variable {toolCalls : List ToolCallResponse}

lemma addToolCalls_length
    (hnumbers : calls.map Prod.fst = range calls.length) (h : announce i calls.length toolCalls = some n') :
    (addToolCalls i toolCalls calls).map Prod.fst = range n' := by
  induction toolCalls generalizing i calls with
  | nil =>
    cases h
    exact hnumbers
  | cons toolCall rest ih =>
    obtain ⟨k, hk, hrest⟩ := Option.bind_eq_some_iff.1 h
    rw [addToolCalls_single]
    have hone : (addToolCalls i [toolCall] calls).map Prod.fst = .range k := by
      obtain ⟨-, -, rfl, hsent⟩ | ⟨-, hnew, rfl, hsent⟩ := addToolCalls_next hnumbers hk <;> rw [hsent]
      · rw [addArguments_fst]
        exact hnumbers
      · rw [List.map_append, hnumbers, range_succ, ← hnew]
        rfl
    have hlength : (addToolCalls i [toolCall] calls).length = k := by
      simpa using congrArg List.length hone
    exact ih (by rw [hlength]; exact hone) (by rw [hlength]; exact hrest)

lemma toolCallLoop_carries (h : announce i o.calls.length toolCalls = some n')
    (hargs : Attributed first i toolCalls) :
    Follows reader (Sending base first m o) (toolCallLoop base i m toolCalls)
      fun m' => Sending base first m' { o with calls := addToolCalls i toolCalls o.calls } := by
  induction toolCalls generalizing i m o with
  | nil => exact .pure fun _ _ hs => hs
  | cons toolCall rest ih =>
    obtain ⟨k, hk, hrest⟩ := Option.bind_eq_some_iff.1 h
    intro info r hsending
    refine Follows.bind (toolCallEvents_carries hk hargs.1) (fun _ => ih ?_ hargs.2) info r hsending
    have hone : announce i o.calls.length [toolCall] = some k := by simp [announce, hk]
    have hlength : (addToolCalls i [toolCall] o.calls).length = k := by
      simpa using congrArg List.length (addToolCalls_length hsending.numbers hone)
    rw [hlength]
    exact hrest

/-- The tool calls before the open ones: if none are open, all that have been sent. -/
def StreamInfo.firstOpenCall (info : StreamInfo) (first sent : ℕ) : ℕ := if info.lastMessagesType = .tools then first else sent

variable {first' : ℕ}

lemma sendToolCalls_carries (first : ℕ) (h : announce 0 o.calls.length toolCalls = some n')
    (hargs : Attributed first' 0 toolCalls) :
    Follows reader (fun info r => Carried first o info r ∧ info.firstOpenCall first o.calls.length = first')
      (sendToolCalls toolCalls) fun _ => Carried first' { o with calls := addToolCalls 0 toolCalls o.calls } := by
  refine .bind (Q := fun _ info r => Sending info.toolCallBaseIndex first' info.toolCallMaxIndexOffset o
    { info with lastMessagesType := .tools } r) ?_ fun _ => ?_
  · refine .get fun info₀ => .ite (fun hother => ?_) fun hsame => .pure ?_
    · refine .bind (Q := fun _ info r => (Carried first o info r ∧ info.lastMessagesType = .none) ∧ first' = o.calls.length)
        ?_ fun _ => .modify ?_
      · rintro info r ⟨⟨hcarried, hfirst⟩, rfl⟩
        obtain ⟨r', hrun, hpost⟩ := stopOpenBlocksAndAdvance_carries info r hcarried
        refine ⟨r', hrun, hpost, ?_⟩
        rw [← hfirst, StreamInfo.firstOpenCall, if_neg hother]
      · rintro info r ⟨⟨hcarried, hnone⟩, rfl⟩
        refine ⟨rfl, rfl, hcarried.begun, le_rfl, hcarried.same, hcarried.numbers, fun j b hj => ⟨fun _ => ?_, fun hge => ?_⟩,
          fun hlt => absurd hlt (lt_irrefl _)⟩
        · exact hcarried.others (by rw [hnone]; decide) b (mem_iff_getElem?.2 ⟨j, hj⟩)
        · have hlt := hcarried.same.lt_length hj
          omega
    · rintro info r ⟨⟨hcarried, hfirst⟩, rfl⟩
      have hlast : info.lastMessagesType = .tools := not_not.1 hsame
      rw [StreamInfo.firstOpenCall, if_pos hlast] at hfirst
      subst hfirst
      obtain ⟨hnumbered, hcovered⟩ := hcarried.tools hlast
      exact ⟨rfl, rfl, hcarried.begun, hcarried.first_le, hcarried.same, hcarried.numbers, hnumbered, hcovered⟩
  · refine .bind (Q := fun _ info r => Sending info.toolCallBaseIndex first' info.toolCallMaxIndexOffset o info r)
      (.modify fun _ _ h => h) fun _ => .get fun info₀ => ?_
    refine .bind (Q := fun m info r => Sending info₀.toolCallBaseIndex first' m
      { o with calls := addToolCalls 0 toolCalls o.calls } info r) ?_ fun m => .modify fun info r hs => ?_
    · refine (toolCallLoop_carries h hargs).pre ?_
      rintro info r ⟨hs, rfl⟩
      exact hs
    · refine { hs with tools := fun _ => ⟨?_, hs.covered⟩, others := fun hnot => absurd hs.last hnot }
      rw [hs.baseIndex]
      exact hs.numbered

/-! ### Chunks -/

/-- A chunk with one kind of content: its tool calls, its reasoning or its text. -/
def ChoiceDelta.Single (d : ChoiceDelta) : Prop :=
  (d.toolCalls ≠ [] → d.getReasoningContent = "") ∧ (d.toolCalls ≠ [] ∨ d.getReasoningContent ≠ "" → d.getContentString = "")

instance (d : ChoiceDelta) : Decidable d.Single := inferInstanceAs (Decidable (_ ∧ _))

def ChoiceDelta.Blank (d : ChoiceDelta) : Prop :=
  d.getReasoningContent = "" ∧ d.getContentString = "" ∧ ∀ toolCall ∈ d.toolCalls, toolCall.name = "" ∧ toolCall.arguments = ""

instance (d : ChoiceDelta) : Decidable d.Blank := inferInstanceAs (Decidable (_ ∧ _ ∧ _))

variable {d : ChoiceDelta}

lemma Reply.readDelta_text (htools : d.toolCalls = []) (hreasoning : d.getReasoningContent = "") (o : Reply) :
    o.readDelta d = o.add (.text d.getContentString) := by
  simp [Reply.readDelta, Reply.add, htools, hreasoning, addToolCalls]

lemma Reply.readDelta_thinking (htools : d.toolCalls = []) (hcontent : d.getContentString = "") (o : Reply) :
    o.readDelta d = o.add (.thinking d.getReasoningContent) := by
  simp [Reply.readDelta, Reply.add, htools, hcontent, addToolCalls]

lemma Reply.readDelta_toolCalls (hreasoning : d.getReasoningContent = "") (hcontent : d.getContentString = "")
    (o : Reply) : o.readDelta d = { o with calls := addToolCalls 0 d.toolCalls o.calls } := by
  simp [Reply.readDelta, hreasoning, hcontent]

lemma addToolCalls_blank
    (hblank : ∀ toolCall ∈ toolCalls, toolCall.name = "" ∧ toolCall.arguments = "")
    (hnumbers : calls.map Prod.fst = range calls.length) (h : announce i calls.length toolCalls = some n') :
    addToolCalls i toolCalls calls = calls := by
  induction toolCalls generalizing i with
  | nil => rfl
  | cons toolCall rest ih =>
    obtain ⟨hname, harguments⟩ := hblank toolCall (.head _)
    obtain ⟨k, hk, hrest⟩ := Option.bind_eq_some_iff.1 h
    obtain ⟨-, -, rfl, hsent⟩ | ⟨hnew, -⟩ := addToolCalls_next hnumbers hk
    · rw [addToolCalls_single, hsent, harguments, addArguments_empty]
      exact ih (fun t ht => hblank t (.tail _ ht)) hrest
    · exact absurd hname hnew

lemma sendContent_carries (hsingle : d.Single) (h : announce 0 o.calls.length d.toolCalls = some n')
    (hargs : Attributed first' 0 d.toolCalls) :
    Follows reader (fun info r => Carried first o info r ∧
        (if d.toolCalls ≠ [] then info.firstOpenCall first o.calls.length else first) = first') (sendContent d)
      fun _ => Carried first' (o.readDelta d) := by
  refine .ite (fun hcalls => ?_) fun hcalls => ?_
  · rw [readDelta_toolCalls (hsingle.1 hcalls) (hsingle.2 (.inl hcalls))]
    refine (sendToolCalls_carries first h hargs).pre fun info r hpre => ?_
    rw [if_pos hcalls] at hpre
    exact hpre
  · have hnone : d.toolCalls = [] := not_not.1 hcalls
    refine .pre (P := fun info r => Carried first' o info r) ?_ (fun info r hpre => ?_)
    · refine .ite (fun hreasoning => ?_) fun hreasoning => .ite (fun _ => ?_) fun hcontent => .pure ?_
      · rw [readDelta_thinking hnone (hsingle.2 (.inr hreasoning))]
        exact sendBlock_carries (by decide) (.inr rfl) (by simp [BlockDelta.kind])
      · rw [readDelta_text hnone (not_not.1 hreasoning)]
        exact sendBlock_carries (by decide) (.inl rfl) (by simp [BlockDelta.kind])
      · rw [readDelta_text hnone (not_not.1 hreasoning), not_not.1 hcontent]
        simp [Reply.add]
    · rw [if_neg hcalls] at hpre
      rw [← hpre.2]
      exact hpre.1

lemma finish_carries (stopReason : String) (oaiUsage : Option Pricing.Usage) :
    Follows reader (Carried first o) (finish stopReason oaiUsage) fun _ => Carried first o := by
  refine .bind (Q := fun _ => Carried first o) ?_ fun _ => ?_
  · cases oaiUsage with
    | none => exact .pure fun _ _ h => h
    | some usage => exact .get fun info₀ => .emit fun info r h => ⟨r, rfl, h.1⟩
  · refine .bind (Q := fun _ => Carried first o) (.emit fun info r h => ⟨r, rfl, h⟩) fun _ => .modify ?_
    exact fun info r h => { h with }

lemma stopAndFinish_carries (chunk : Chunk) : Follows reader (Carried first o) (stopAndFinish chunk) fun _ => Carried first o := by
  refine .bind stopOpenBlocks_carries fun _ => .get fun info₀ => ?_
  exact (finish_carries _ _).pre fun _ _ h => h.1

/-! ### Streams -/

/-- The converter, the reply that has been sent to it, and the tool calls before those that are open. -/
structure ContentState where
  info : StreamInfo
  sent : Reply := {}
  first : ℕ := 0

def ContentState.reads (s : ContentState) (chunk : Chunk) : Bool :=
  s.info.sendResponseCount = 0 ∨ ¬chunk.deferred

def ContentState.nextFirst (s : ContentState) (chunk : Chunk) : ℕ :=
  if s.info.sendResponseCount ≠ 0 ∧ chunk.delta.toolCalls ≠ [] then s.info.firstOpenCall s.first s.sent.calls.length else s.first

def ContentState.step (s : ContentState) (x : StreamInput) : Option ContentState :=
  some (if s.info.done then { s with info := next (handleClaudeFormat x) s.info }
    else
      { info := next (handleClaudeFormat x) s.info
        sent := s.sent.readDelta x.chunk.delta
        first := if s.reads x.chunk then s.nextFirst x.chunk else s.first })

/-- What a chunk has to meet for its content to be handed on; those that are put off have nothing to read. -/
def Keeps (s : ContentState) (x : StreamInput) : Prop :=
  s.info.done = true ∨
  if s.info.sendResponseCount = 0 then
    x.chunk.delta.toolCalls.length ≤ 1 ∧ (x.chunk.delta.getReasoningContent = "" ∨ x.chunk.delta.getContentString = "")
  else if x.chunk.deferred then x.chunk.delta.Blank
  else x.chunk.delta.Single ∧ Attributed (s.nextFirst x.chunk) 0 x.chunk.delta.toolCalls

instance (s : ContentState) (x : StreamInput) : Decidable (Keeps s x) := by
  unfold Keeps
  infer_instance

variable {chunk : Chunk}

lemma laterChunk_carries (h : announce 0 o.calls.length chunk.delta.toolCalls = some n')
    (hnow : ¬chunk.deferred = true) (hsingle : chunk.delta.Single) (hargs : Attributed first' 0 chunk.delta.toolCalls) :
    Follows reader (fun info r => Carried first o info r ∧
        (if chunk.delta.toolCalls ≠ [] then info.firstOpenCall first o.calls.length else first) = first') (laterChunk chunk)
      fun _ => Carried first' (o.readDelta chunk.delta) := by
  unfold laterChunk
  cases hchoices : chunk.choices with
  | nil =>
    have hdelta : chunk.delta = {} := by simp [Chunk.delta, hchoices]
    have hread : o.readDelta {} = o := by
      simp [Reply.readDelta, ChoiceDelta.getContentString, ChoiceDelta.getReasoningContent, addToolCalls]
    rw [hdelta, hread]
    refine .pre (P := Carried first' o) ?_ (fun info r hpre => ?_)
    · refine .get fun info₀ => ?_
      refine .pre ?_ fun _ _ h => h.1
      cases chunk.usage.or info₀.usage with
      | none => exact .pure fun _ _ h => h
      | some usage => exact .bind stopOpenBlocks_carries fun _ => finish_carries _ _
    · rw [← hpre.2]
      exact hpre.1
  | cons choice rest =>
    have hdelta : choice.delta = chunk.delta := by simp [Chunk.delta, hchoices]
    dsimp only
    rw [hdelta]
    cases hfinished : choice.finished with
    | none => exact sendContent_carries hsingle h hargs
    | some finishReason =>
      cases husage : chunk.usage with
      | none =>
        refine absurd ?_ hnow
        simp [Chunk.deferred, hchoices, hfinished, husage]
      | some usage =>
        refine .bind (Q := fun _ info r => Carried first o info r ∧
          (if chunk.delta.toolCalls ≠ [] then info.firstOpenCall first o.calls.length else first) = first')
          (.modify fun info r h => ?_) fun _ => ?_
        · exact ⟨{ h.1 with }, h.2⟩
        · exact .bind (sendContent_carries hsingle h hargs) fun _ => stopAndFinish_carries chunk

lemma firstToolCall_carries (hlength : toolCalls.length ≤ 1) (h : announce 0 0 toolCalls = some n') :
    Follows reader (fun info r => 0 < info.sendResponseCount ∧ info.lastMessagesType = .none ∧ r = {}) (firstToolCall toolCalls)
      fun _ info r => Carried 0 { calls := addToolCalls 0 toolCalls [] } info r ∧ info.lastMessagesType.block = none := by
  match toolCalls, hlength with
  | [], _ =>
    refine .pure ?_
    rintro info r ⟨hbegun, hnone, rfl⟩
    refine ⟨⟨hbegun, le_rfl, ⟨rfl, rfl, rfl⟩, rfl, fun hnot => ?_, nofun⟩, by rw [hnone]; rfl⟩
    rw [hnone] at hnot
    cases hnot
  | [toolCall], _ =>
    have hsent : addToolCalls 0 [toolCall] [] = [(0, ⟨toolCall.id, toolCall.name, toolCall.arguments⟩)] := by
      obtain ⟨k, hk, -⟩ := Option.bind_eq_some_iff.1 h
      obtain ⟨-, hold, -⟩ | ⟨-, hnew, -, hsent⟩ :=
        addToolCalls_next (show ([] : List (ℕ × ToolCall)).map Prod.fst = .range 0 from rfl) hk
      · cases hold
      · rw [hsent, hnew]
        rfl
    have hcarried : ∀ info : StreamInfo, 0 < info.sendResponseCount ∧ info.lastMessagesType = .tools ∧
        info.toolCallBaseIndex = 0 ∧ info.toolCallMaxIndexOffset = 0 →
        Carried 0 { calls := addToolCalls 0 [toolCall] [] } info
            { calls := [(0, ⟨toolCall.id, toolCall.name, toolCall.arguments⟩)] } ∧
          info.lastMessagesType.block = none := by
      rintro info ⟨hbegun, hlast, hbase, hmax⟩
      rw [hsent]
      refine ⟨⟨hbegun, Nat.zero_le _, ⟨rfl, rfl, rfl⟩, rfl, fun _ => ⟨fun j b hj => ⟨nofun, fun _ => ?_⟩, fun _ => ?_⟩,
        fun hnot => absurd hlast hnot⟩, by rw [hlast]; rfl⟩
      · obtain ⟨hj', rfl⟩ := List.getElem?_eq_some_iff.1 hj
        obtain rfl : j = 0 := by simpa using hj'
        simp [hbase]
      · simp
    refine .bind (Q := fun _ info r => (0 < info.sendResponseCount ∧ info.lastMessagesType = .tools ∧
      info.toolCallBaseIndex = 0 ∧ info.toolCallMaxIndexOffset = 0) ∧ r = {})
      (.modify fun info r hpre => ⟨⟨hpre.1, rfl, rfl, rfl⟩, hpre.2.2⟩) fun _ => ?_
    refine .bind (Q := fun _ info r => (0 < info.sendResponseCount ∧ info.lastMessagesType = .tools ∧ info.toolCallBaseIndex = 0 ∧
      info.toolCallMaxIndexOffset = 0) ∧ r = { calls := [(0, ⟨toolCall.id, toolCall.name, ""⟩)] }) (.emit ?_) fun _ => ?_
    · rintro info r ⟨hinfo, rfl⟩
      exact ⟨_, rfl, hinfo, rfl⟩
    · refine .emitWhen (fun _ => ?_) fun hnone => ?_
      · rintro info r ⟨hinfo, rfl⟩
        refine ⟨_, rfl, ?_⟩
        simpa [Reply.read, addArguments] using hcarried info hinfo
      · rintro info r ⟨hinfo, rfl⟩
        simpa [not_not.1 hnone] using hcarried info hinfo

lemma firstChunk_carries (hlength : chunk.delta.toolCalls.length ≤ 1)
    (hone : chunk.delta.getReasoningContent = "" ∨ chunk.delta.getContentString = "")
    (h : announce 0 0 chunk.delta.toolCalls = some n') :
    Follows reader (fun info r => 0 < info.sendResponseCount ∧ info.lastMessagesType = .none ∧ r = {}) (firstChunk chunk)
      fun _ => Carried 0 (Reply.readDelta {} chunk.delta) := by
  refine .get fun info₀ => .bind
    (Q := fun _ info r => 0 < info.sendResponseCount ∧ info.lastMessagesType = .none ∧ r = {})
    (.emit fun info r hpre => ⟨r, rfl, hpre.1⟩) fun _ => ?_
  cases hchoices : chunk.choices with
  | nil =>
    have hdelta : chunk.delta = {} := by simp [Chunk.delta, hchoices]
    refine .pure ?_
    rintro info r ⟨hbegun, hnone, rfl⟩
    rw [hdelta]
    refine ⟨hbegun, le_rfl, ⟨rfl, rfl, rfl⟩, rfl, fun hnot => ?_, fun _ b hb => by cases hb⟩
    rw [hnone] at hnot
    cases hnot
  | cons choice rest =>
    have hdelta : choice.delta = chunk.delta := by simp [Chunk.delta, hchoices]
    dsimp only
    rw [hdelta]
    refine .bind (firstToolCall_carries hlength h) fun _ => ?_
    refine .bind (Q := fun _ => Carried 0 (.readDelta {} chunk.delta)) ?_ fun _ => ?_
    · refine .ite (fun hreasoning => ?_) fun hreasoning => .ite (fun _ => ?_) fun hcontent => .pure ?_
      · have hsent : .readDelta {} chunk.delta =
            Reply.add { calls := addToolCalls 0 chunk.delta.toolCalls [] } (.thinking chunk.delta.getReasoningContent) := by
          simp [Reply.readDelta, Reply.add, hone.resolve_left hreasoning]
        rw [hsent]
        refine (firstBlock_carries (by decide) (.inr rfl) (by simp [BlockDelta.kind])).pre fun info r hpre => ⟨hpre.1, ?_⟩
        intro hlast
        rw [hlast] at hpre
        cases hpre.2
      · have hsent : .readDelta {} chunk.delta =
            Reply.add { calls := addToolCalls 0 chunk.delta.toolCalls [] } (.text chunk.delta.getContentString) := by
          simp [Reply.readDelta, Reply.add, not_not.1 hreasoning]
        rw [hsent]
        refine (firstBlock_carries (by decide) (.inl rfl) (by simp [BlockDelta.kind])).pre fun info r hpre => ⟨hpre.1, ?_⟩
        intro hlast
        rw [hlast] at hpre
        cases hpre.2
      · intro info r hpre
        have hsent : Reply.readDelta {} chunk.delta = { calls := addToolCalls 0 chunk.delta.toolCalls [] } := by
          simp [Reply.readDelta, not_not.1 hreasoning, not_not.1 hcontent]
        rw [hsent]
        exact hpre.1
    · unfold firstFinish
      cases choice.finished with
      | none => exact .pure fun _ _ hpost => hpost
      | some finishReason =>
        refine .bind (.modify fun info r hc => ?_)
          fun _ => stopAndFinish_carries chunk
        exact { hc with }

structure InStep (s : ContentState) (r : Reply) : Prop where
  same : SameContent r s.sent
  running : s.info.done = false →
    (s.info.sendResponseCount = 0 ∧ s.info.lastMessagesType = .none ∧ s.sent = {} ∧ s.first = 0 ∧ r = {}) ∨
    Carried s.first s.sent s.info r

lemma Carried.inStep {s : ContentState} (h : Carried s.first s.sent s.info r) : InStep s r := ⟨h.same, fun _ => .inr h⟩

lemma Carried.deferred (hdeferred : chunk.deferred = true) (h : Carried first o info r) :
    events (laterChunk chunk) info = [] ∧ Carried first o (next (laterChunk chunk) info) r := by
  unfold laterChunk
  cases hchoices : chunk.choices with
  | nil => simp [Chunk.deferred, hchoices] at hdeferred
  | cons choice rest =>
    have hboth : choice.finished.isSome ∧ chunk.usage.isNone := by simpa [Chunk.deferred, hchoices] using hdeferred
    obtain ⟨finishReason, hfinished⟩ := isSome_iff_exists.1 hboth.1
    have husage : chunk.usage = none := isNone_iff_eq_none.1 hboth.2
    dsimp only
    rw [hfinished, husage]
    exact ⟨rfl, h.begun, h.first_le, h.same, h.numbers, h.tools, h.others⟩

variable {s s' : ContentState}

open ContentState

lemma InStep.step {x : StreamInput} (hin : InStep s r) (hkeeps : Keeps s x) (hstep : s.step x = some s')
    (hann : s.info.done = false → (announce 0 s.sent.calls.length x.chunk.delta.toolCalls).isSome) :
    ∃ r', runs reader r (events (handleClaudeFormat x) s.info) = some r' ∧ InStep s' r' := by
  cases hstep
  have hevents : events (handleClaudeFormat x) s.info = (handleClaudeFormat x s.info).2.2 := rfl
  have hnext : next (handleClaudeFormat x) s.info = (handleClaudeFormat x s.info).2.1 := rfl
  rw [handleClaudeFormat_eq] at hevents hnext
  cases hdone : s.info.done with
  | true =>
    rw [if_pos hdone] at hevents hnext
    refine ⟨r, by rw [hevents]; rfl, ?_⟩
    refine ⟨hin.same, fun hrunning => absurd hrunning ?_⟩
    rw [hnext]
    exact Bool.not_eq_false _ |>.mpr hdone
  | false =>
    rw [if_neg (by rw [hdone]; decide)] at hevents hnext
    have hkept := hkeeps.resolve_left (by rw [hdone]; decide)
    obtain ⟨n', hann⟩ := isSome_iff_exists.1 (hann hdone)
    obtain ⟨hcount, hlast, hsent, hfirst, rfl⟩ | hcarried := hin.running hdone
    · rw [if_pos hcount] at hevents hnext hkept
      rw [hsent] at hann
      obtain ⟨r', hr', hcarried⟩ := firstChunk_carries hkept.1 hkept.2 hann (x.counted s.info) {} ⟨Nat.succ_pos _, hlast, rfl⟩
      refine ⟨r', hevents ▸ hr', Carried.inStep ?_⟩
      have hzero : s.nextFirst x.chunk = 0 := by rw [nextFirst, if_neg (fun h => h.1 hcount), hfirst]
      have hsame : (if s.reads x.chunk then s.nextFirst x.chunk else s.first) = 0 := by rw [hzero, hfirst, ite_self]
      rw [hsame, hsent, hnext]
      exact hcarried
    · have hcount : s.info.sendResponseCount ≠ 0 := hcarried.begun.ne'
      have hcounted : Carried s.first s.sent (x.counted s.info) r :=
        ⟨Nat.succ_pos _, hcarried.first_le, hcarried.same, hcarried.numbers, hcarried.tools, hcarried.others⟩
      rw [if_neg hcount] at hevents hnext hkept
      by_cases hdeferred : x.chunk.deferred = true
      · rw [if_pos hdeferred] at hkept
        obtain ⟨hnone, hkeep⟩ := hcounted.deferred hdeferred
        refine ⟨r, by rw [hevents.trans hnone]; rfl, Carried.inStep ?_⟩
        have hskip : s.reads x.chunk = false := by simp [reads, hcount, hdeferred]
        have hread : s.sent.readDelta x.chunk.delta = s.sent := by
          rw [readDelta_toolCalls hkept.1 hkept.2.1, addToolCalls_blank hkept.2.2 hcarried.numbers hann]
        rw [hskip, hread, hnext]
        exact hkeep
      · rw [if_neg hdeferred] at hkept
        have hreads : s.reads x.chunk = true := by simp [reads, hdeferred]
        have hfirst : (if x.chunk.delta.toolCalls ≠ [] then
            (x.counted s.info).firstOpenCall s.first s.sent.calls.length else s.first) =
            s.nextFirst x.chunk := by
          unfold nextFirst
          simp only [hcount, ne_eq, not_false_eq_true, true_and]
          rfl
        obtain ⟨r', hr', hlater⟩ := laterChunk_carries hann hdeferred hkept.1 hkept.2 (x.counted s.info) r ⟨hcounted, hfirst⟩
        refine ⟨r', hevents ▸ hr', Carried.inStep ?_⟩
        rw [hreads, hnext]
        exact hlater

lemma ContentState.step_running {x : StreamInput} (hstep : s.step x = some s') (hrunning : s'.info.done = false) :
    s.info.done = false ∧ s'.sent = s.sent.readDelta x.chunk.delta := by
  cases hstep
  cases hdone : s.info.done with
  | true =>
    rw [hdone] at hrunning
    have hnext : next (handleClaudeFormat x) s.info = (handleClaudeFormat x s.info).2.1 := rfl
    rw [handleClaudeFormat_eq, if_pos hdone] at hnext
    exact absurd (hdone.symm.trans ((congrArg StreamInfo.done hnext).symm.trans hrunning)) (by decide)
  | false => exact ⟨rfl, rfl⟩

lemma runs_reader (es : List ClaudeEvent) (r : Reply) : runs reader r es = some (es.foldl Reply.read r) := by
  induction es generalizing r with
  | nil => rfl
  | cons e es ih => exact ih _

lemma InStep.numbers {s : ContentState} (hin : InStep s r) (hrunning : s.info.done = false) :
    s.sent.calls.map Prod.fst = range s.sent.calls.length := by
  obtain ⟨-, -, hsent, -⟩ | hcarried := hin.running hrunning
  · rw [hsent]
    rfl
  · exact hcarried.numbers

lemma InStep.run {xs : List StreamInput} (hin : InStep s r) (hrun : runs ContentState.step s xs = some s')
    (hkeeps : Along ContentState.step Keeps s xs)
    (hann : s.info.done = false → (runs (fun n x => announce 0 n x.chunk.delta.toolCalls) s.sent.calls.length xs).isSome) :
    ∃ r', runs reader r (converted s.info xs) = some r' ∧ InStep s' r' := by
  induction xs generalizing s r with
  | nil =>
    cases hrun
    exact ⟨r, rfl, hin⟩
  | cons x xs ih =>
    obtain ⟨s₁, hstep, hrest⟩ := runs_cons_eq_some.1 hrun
    have hann₁ : s.info.done = false → ∃ n', announce 0 s.sent.calls.length x.chunk.delta.toolCalls = some n' ∧
        (runs (fun n x => announce 0 n x.chunk.delta.toolCalls) n' xs).isSome := by
      intro hrunning
      obtain ⟨m, hm⟩ := isSome_iff_exists.1 (hann hrunning)
      obtain ⟨n', hn', hm⟩ := runs_cons_eq_some.1 hm
      exact ⟨n', hn', by rw [hm]; rfl⟩
    obtain ⟨r₁, hr₁, hin₁⟩ := hin.step hkeeps.1 hstep fun hrunning => by
      obtain ⟨n', hn', -⟩ := hann₁ hrunning
      rw [hn']
      rfl
    obtain ⟨r', hr', hin'⟩ := ih hin₁ hrest (hkeeps.2 s₁ hstep) fun hrunning₁ => by
      obtain ⟨hrunning, hsent⟩ := step_running hstep hrunning₁
      obtain ⟨n', hn', hrest⟩ := hann₁ hrunning
      have hlength := congrArg List.length (addToolCalls_length (hin.numbers hrunning) hn')
      rw [length_map, length_range] at hlength
      rw [hsent]
      show (runs _ (addToolCalls 0 x.chunk.delta.toolCalls s.sent.calls).length xs).isSome
      rw [hlength]
      exact hrest
    have hinfo : s₁.info = next (handleClaudeFormat x) s.info := by
      cases hstep
      split <;> rfl
    have hevents : converted s.info (x :: xs) = events (handleClaudeFormat x) s.info ++ converted s₁.info xs := by
      rw [hinfo]
      rfl
    refine ⟨r', ?_, hin'⟩
    rw [hevents, runs_append, hr₁]
    exact hr'

/-- **Such chunks are handed on whole**: the two clients have read the same text, reasoning and tool calls after each. -/
theorem content_kept {info : StreamInfo} (hstart : info.Start) {xs : List StreamInput} {s : ContentState}
    (hann : (runs (fun n x => announce 0 n x.chunk.delta.toolCalls) 0 xs).isSome)
    (hrun : runs ContentState.step ⟨info, {}, 0⟩ xs = some s) (hkeeps : Along ContentState.step Keeps ⟨info, {}, 0⟩ xs) :
    SameContent ((converted info xs).foldl Reply.read {}) s.sent := by
  have hin : InStep ⟨info, {}, 0⟩ {} := ⟨⟨rfl, rfl, rfl⟩, fun _ => .inl ⟨hstart.count, hstart.last, rfl, rfl, rfl⟩⟩
  obtain ⟨r', hr', hin'⟩ := hin.run hrun hkeeps fun _ => hann
  rw [runs_reader] at hr'
  cases hr'
  exact hin'.same

def reasonedCalls : List StreamInput := deltaChunk { reasoningContent := some "Hm." } :: parallelCalls

theorem content_kept_reasoned :
    ∃ s, runs ContentState.step ⟨{}, {}, 0⟩ reasonedCalls = some s ∧
      s.sent = { text := "Let me see.", thinking := "Hm.", calls := [(0, ⟨"a", "read", "1"⟩), (1, ⟨"b", "list", "2"⟩)] } ∧
      SameContent ((converted {} reasonedCalls).foldl Reply.read {}) s.sent :=
  ⟨_, rfl, by decide, content_kept ⟨rfl, rfl, rfl, rfl⟩ (by decide) rfl (by decide)⟩

def lateUsage : List StreamInput :=
  [deltaChunk { content := some "one" },
    ⟨{ choices := [{ delta := { content := some " two" }, finishReason := some "stop" }] }, none⟩,
    ⟨{ usage := some {} }, none⟩]

def reasonedText : List StreamInput :=
  [deltaChunk { reasoningContent := some "Hm." },
    deltaChunk { reasoningContent := some " So:", content := some "one" }, finishChunk "stop"]

/-- The text that comes with a finish reason is not handed on, nor is the text that comes with reasoning.  Both streams end. -/
theorem late_text_lost :
    ((lateUsage.foldl (fun r x => r.readDelta x.chunk.delta) {} : Reply).text = "one two" ∧
      (converted {} lateUsage).getLast? = some .messageStop ∧ ((converted {} lateUsage).foldl Reply.read {}).text = "one") ∧
    (reasonedText.foldl (fun r x => r.readDelta x.chunk.delta) {} : Reply).text = "one" ∧
      (converted {} reasonedText).getLast? = some .messageStop ∧ ((converted {} reasonedText).foldl Reply.read {}).text = "" := by
  decide

end StarNexus.Convert
