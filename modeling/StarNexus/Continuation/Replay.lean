import Mathlib.Algebra.Order.Ring.Int
import StarNexus.Lib.Run

/-!
# Continuation replay

The Codex endpoint keeps no state, so `responses_http_continuation.go` rebuilds a conversation: the input of a turn and
the output items that were delivered are stored under the id of the response, and a turn that names this id is sent
with everything that came before it.
-/

namespace StarNexus.Continuation

open StarNexus.Lib List Option

structure RawItem where
  raw : String
  /-- `responsesHTTPCanonicalJSON`. -/
  canonical : String
  /-- The type, the id and the presence of `encrypted_content`, if the item is an object. -/
  fields : Option (String × String × Bool) := none
  /-- The type and the call id, if the item decodes as an envelope. -/
  envelope : Option (String × String) := none
deriving DecidableEq

def isToolCallContextType (itemType : String) : Bool :=
  itemType ∈ ["tool_call", "function_call", "local_shell_call", "tool_search_call", "custom_tool_call", "mcp_tool_call",
    "computer_call"]

def isToolCallOutputType (itemType : String) : Bool :=
  itemType ∈ ["function_call_output", "local_shell_call_output", "tool_search_output", "custom_tool_call_output",
    "mcp_tool_call_output", "computer_call_output"]

def RawItem.call (item : RawItem) : Option String :=
  (item.envelope.filter (isToolCallContextType ·.1)).map Prod.snd

def RawItem.output (item : RawItem) : Option String :=
  (item.envelope.filter (isToolCallOutputType ·.1)).map Prod.snd

/-! ## The code -/

def providerOwned (item : RawItem) : Bool :=
  match item.fields with
  | none => false
  | some (itemType, itemID, hasEncryptedContent) =>
    let own := "rs_".toList.isPrefixOf itemID.toList
    if itemType = "reasoning" then own || (itemID ≠ "" && hasEncryptedContent)
    else if itemType = "item_reference" then own
    else false

/-- `canonicalizeResponsesHTTPReplayItems`. -/
def canonicalize (items : List RawItem) : List RawItem := items.filter (!providerOwned ·)

/-- `pruneUnansweredResponsesHTTPToolCalls`. -/
def prune (items : List RawItem) : List RawItem :=
  let outputCallIDs := items.filterMap RawItem.output
  items.filter fun item => item.call.all fun callID => callID ≠ "" ∧ callID ∈ outputCallIDs

/-- `responsesHTTPRawItemsHaveToolCallContextForOutputs`. -/
def haveToolCallContextForOutputs (items : List RawItem) : Bool :=
  (items.filterMap RawItem.output).all fun callID => callID ≠ "" ∧ callID ∈ items.filterMap RawItem.call

/-- The type of an item, which is known even where the item does not decode as an envelope. -/
def RawItem.itemType (item : RawItem) : Option String := (item.envelope.map Prod.fst).or (item.fields.map Prod.fst)

def RawItem.isOutput (item : RawItem) : Bool := item.itemType.any isToolCallOutputType

def RawItem.isCall (item : RawItem) : Bool := item.itemType.any isToolCallContextType

/-- `responsesHTTPRawItemsHaveToolOutput`: the call id is not looked at. -/
def haveToolOutput (items : List RawItem) : Bool := items.any RawItem.isOutput

/-- `responsesHTTPRawMessagesHavePrefix`. -/
def havePrefix (items start : List RawItem) : Bool :=
  (start.map (·.canonical)).isPrefixOf (items.map (·.canonical))

def merge (previous : List RawItem) (previousExists : Bool) (current : List RawItem) (currentExists : Bool) :
    List RawItem × Bool :=
  if ¬previousExists then (current, currentExists)
  else if ¬currentExists ∨ current = [] then (previous, true)
  else if havePrefix current previous then (current, true)
  else (previous ++ current, true)

/-- `appendResponsesHTTPRawMessageOnce`. -/
def appendOnce (items : List RawItem) (item : RawItem) : List RawItem :=
  if item.canonical ∈ items.map (·.canonical) then items else items ++ [item]

/-- `responsesHTTPRawMessagesSize`. -/
def size (items : List RawItem) : ℕ := (items.map (·.raw.utf8ByteSize)).sum

/-- `responsesHTTPContinuationState`. -/
structure State where
  model : String
  replayInput : List RawItem
  complete : Bool

/-- `responsesHTTPContinuationPreparation`. -/
structure Preparation where
  model : String
  hasPreviousResponseID : Bool
  currentInput : List RawItem
  currentInputExists : Bool
  stateReplayInput : List RawItem := []
  fullInput : List RawItem
  fullInputExists : Bool
  stateFound : Bool := false
  replayComplete : Bool
  continuationConflict : Bool := false
  contextTooLarge : Bool := false

inductive StreamEvent where
  | created (responseID : String)
  | itemDone (item : RawItem)
  /-- `response.completed`, `response.done` or `response.incomplete`; the list is absent or present. -/
  | terminal (responseID : String) (output : Option (List RawItem))

inductive Delivery where
  | stream (createdID : String) (done : List RawItem) (terminal : Option (String × Option (List RawItem)))
  | body (responseID : String) (output : List RawItem)

/-- One turn: the request, whether its attempt may persist state, and the delivery of its answer. -/
structure Turn where
  model : String := ""
  input : Option (List RawItem)
  persists : Bool := true
  delivery : Delivery

/-- `responsesHTTPDeliveredContext`, with the output of the last commit. -/
structure Delivered where
  responseID : String := ""
  output : List RawItem := []
  deliveredToolCall : Bool := false
  committed : Option (List RawItem) := none

/-- `RecordDeliveredResponsesHTTPEvent`; a tool call is one by its type. -/
def Delivered.record (d : Delivered) : StreamEvent → Delivered
  | .created responseID => if responseID ≠ "" then { d with responseID } else d
  | .itemDone item =>
    { d with
      output := appendOnce d.output item
      deliveredToolCall := d.deliveredToolCall || item.isCall }
  | .terminal responseID output =>
    let responseID := if responseID ≠ "" then responseID else d.responseID
    let output := output.getD d.output
    { d with responseID, output, committed := if responseID ≠ "" then some output else d.committed }

/-- `FinalizeResponsesHTTPContinuationStream`. -/
def Delivered.finalize (d : Delivered) : Delivered :=
  if d.committed.isSome ∨ ¬d.deliveredToolCall ∨ d.responseID = "" then d else { d with committed := some d.output }

def streamEvents (createdID : String) (done : List RawItem) (terminal : Option (String × Option (List RawItem))) :
    List StreamEvent :=
  .created createdID :: done.map .itemDone ++ terminal.toList.map fun t => .terminal t.1 t.2

def Delivery.committed : Delivery → Option (List RawItem)
  | .stream createdID done terminal => ((streamEvents createdID done terminal).foldl Delivered.record {}).finalize.committed
  | .body responseID output => if responseID ≠ "" then some output else none

section code

variable (replayLimitBytes : ℕ)

/-- `PrepareResponsesHTTPContinuation`; `none` is a request without a previous response. -/
def prepare (state : Option State) (t : Turn) : Preparation :=
  let current := t.input.getD []
  let preparation : Preparation :=
    { model := t.model, hasPreviousResponseID := state.isSome
      currentInput := current, currentInputExists := t.input.isSome
      fullInput := current, fullInputExists := t.input.isSome
      replayComplete := state.isNone }
  let preparation :=
    match state with
    | none => preparation
    | some state =>
      let preparation :=
        { preparation with
          stateFound := true, replayComplete := state.complete, stateReplayInput := state.replayInput }
      if t.model ≠ "" ∧ state.model ≠ "" ∧ t.model ≠ state.model then
        { preparation with continuationConflict := true }
      else
        let full := merge state.replayInput true current t.input.isSome
        { preparation with fullInput := prune full.1, fullInputExists := full.2 }
  { preparation with contextTooLarge := replayLimitBytes < size preparation.fullInput }

inductive ApplyError where
  | conflict
  | tooLarge
  | orphanToolOutput

/-- `canonicalizeResponsesHTTPCurrentInput`, with the input that is set. -/
def canonicalizeCurrentInput (p : Preparation) : Preparation × Option (List RawItem) :=
  let canonical := canonicalize p.currentInput
  if ¬p.currentInputExists ∨ canonical = p.currentInput ∨ canonical = [] then (p, none)
  else
    ({ p with currentInput := canonical, currentInputExists := true, fullInput := canonical, fullInputExists := true },
      some canonical)

def replayed (p : Preparation) : List RawItem × Bool :=
  let canonicalState := canonicalize p.stateReplayInput
  let canonicalCurrent := canonicalize p.currentInput
  if p.stateFound ∧ p.replayComplete ∧ p.fullInputExists then
    let merged := merge canonicalState (p.stateReplayInput ≠ []) canonicalCurrent p.currentInputExists
    if merged.2 ∧ merged.1 = [] ∧ ¬p.currentInputExists then (p.stateReplayInput, merged.2) else merged
  else (canonicalCurrent, p.currentInputExists)

/-- `ApplyResponsesHTTPContinuationForCodex`: the preparation it leaves, and the input it sets, if it sets one. -/
def apply (p : Preparation) : Except ApplyError (Preparation × Option (List RawItem)) :=
  if ¬p.hasPreviousResponseID then .ok (canonicalizeCurrentInput p)
  else if p.continuationConflict then .error .conflict
  else
    let full := prune (replayed p).1
    if replayLimitBytes < size full then .error .tooLarge
    else if haveToolOutput full ∧ ¬haveToolCallContextForOutputs full then .error .orphanToolOutput
    else
      let p' := { p with fullInput := full, fullInputExists := (replayed p).2 }
      .ok (p', if (replayed p).2 then some full else none)

/-- `CommitResponsesHTTPContinuation`. -/
def commit (p : Preparation) (t : Turn) (output : List RawItem) : Option State :=
  if ¬p.fullInputExists ∨ ¬p.replayComplete ∨ p.continuationConflict ∨ p.contextTooLarge then none
  else if ¬t.persists then none
  else
    let replayInput := canonicalize (p.fullInput ++ output)
    if replayLimitBytes < size replayInput then none else some { model := p.model, replayInput, complete := true }

/-- What a turn is sent upstream with; `none` if it is refused. -/
def sends (state : Option State) (t : Turn) : Option (List RawItem) :=
  match apply replayLimitBytes (prepare replayLimitBytes state t) with
  | .error _ => none
  | .ok (_, input) => some (input.getD (t.input.getD []))

def step (state : Option State) (t : Turn) : Option (Option State) :=
  match apply replayLimitBytes (prepare replayLimitBytes state t) with
  | .error _ => none
  | .ok (p, _) => (t.delivery.committed.bind (commit replayLimitBytes p t)).map some

end code

/-! ## What is to be sent -/

def firsts : List RawItem → List RawItem
  | [] => []
  | item :: rest => item :: (firsts rest).filter (·.canonical ≠ item.canonical)

/-- The item up to its text, of which the canonical JSON remains. -/
def RawItem.content (item : RawItem) : RawItem := { item with raw := item.canonical }

/-- The items of the stream, each counted once if there is no list at its end, and those only the list has. -/
def Delivery.delivered : Delivery → List RawItem
  | .stream _ done (some (_, some output)) => done ++ output.drop done.length
  | .stream _ done _ => firsts done
  | .body _ output => output

/-- The list at the end of a stream begins with the items that were streamed. -/
def Delivery.Listed : Delivery → Prop
  | .stream _ done (some (_, some output)) => done.map RawItem.content <+: output.map RawItem.content
  | _ => True

/-- The input begins with the whole history, so that the client is taken to have sent it again. -/
def Resends (history input : List RawItem) : Prop :=
  input ≠ [] ∧ history.map (·.canonical) <+: input.map (·.canonical)

instance (history input : List RawItem) : Decidable (Resends history input) := inferInstanceAs (Decidable (_ ∧ _))

def Turn.portable (t : Turn) : List RawItem := canonicalize (t.input.getD [])

/-- The items that are not the provider's own, without the tool calls that nothing in the context answers. -/
def replayable (context items : List RawItem) : List RawItem :=
  (canonicalize items).filter fun item => item.call.all fun callID =>
    callID ≠ "" ∧ callID ∈ (canonicalize context).filterMap RawItem.output

/-- What has been said up to the last input, what of it is sent, and what has been delivered since. -/
structure Conversation where
  said : List RawItem := []
  sent : List RawItem := []
  delivered : List RawItem

namespace Conversation

variable (c : Conversation)

def history : List RawItem := c.sent ++ canonicalize c.delivered

/-- The next input.  What is new is sent after all that was sent before, except for tool calls that nobody has answered by now;
an input that begins with the whole history takes its place. -/
def hear (input : List RawItem) : Conversation :=
  if Resends c.history (canonicalize input) then { said := input, sent := replayable input input, delivered := [] }
  else
    let new := c.delivered ++ input
    { said := c.said ++ new, sent := c.sent ++ replayable (c.said ++ new) new, delivered := [] }

def turn (t : Turn) : Conversation := { c.hear (t.input.getD []) with delivered := t.delivery.delivered }

end Conversation

/-- The conversation after a first turn, which is sent as it is, and further turns. -/
def conversation (first : Turn) (turns : List Turn) : Conversation :=
  turns.foldl Conversation.turn { delivered := first.input.getD [] ++ first.delivery.delivered }

def Delivery.handed : Delivery → List RawItem
  | .stream _ done (some (_, some output)) => done ++ output.diff done
  | .stream _ done _ => done
  | .body _ output => output

/-- The earlier inputs, all that was handed to the client, and the current input, whatever they are. -/
def verbatim (turns : List Turn) (t : Turn) : List RawItem :=
  prune (canonicalize ((turns.flatMap fun u => u.input.getD [] ++ u.delivery.handed) ++ t.input.getD []))

/-! ### Items -/

lemma canonicalize_append (a b : List RawItem) : canonicalize (a ++ b) = canonicalize a ++ canonicalize b :=
  filter_append ..

variable (items : List RawItem)

lemma canonicalize_canonicalize : canonicalize (canonicalize items) = canonicalize items := by
  unfold canonicalize
  simp

lemma call_of_output {item : RawItem} {callID : String} (h : item.output = some callID) : item.call = none := by
  obtain ⟨x, hx, -⟩ := map_eq_some_iff.1 h
  obtain ⟨henvelope, htype⟩ := filter_eq_some_iff.1 hx
  have hother : isToolCallContextType x.1 = false := by
    simp only [isToolCallOutputType, mem_cons, not_mem_nil, or_false, decide_eq_true_eq] at htype
    rcases htype with h | h | h | h | h | h <;> rw [h] <;> rfl
  simp [RawItem.call, henvelope, hother]

/-- No output is lost where only tool calls are left out. -/
lemma output_filter (q : String → Bool) : (items.filter fun item => item.call.all q).filterMap RawItem.output =
    items.filterMap RawItem.output := by
  rw [filterMap_filter]
  refine filterMap_congr fun item _ => ?_
  cases houtput : item.output with
  | none => exact ite_self _
  | some callID => simp [call_of_output houtput]

lemma output_prune : (prune items).filterMap RawItem.output = items.filterMap RawItem.output := output_filter items _

lemma map_content_canonicalize : (canonicalize items).map RawItem.content = canonicalize (items.map RawItem.content) := by
  unfold canonicalize
  rw [List.filter_map]
  rfl

lemma map_content_prune : (prune items).map RawItem.content = prune (items.map RawItem.content) := by
  unfold prune
  rw [List.filter_map, filterMap_map]
  rfl

lemma map_content_canonical : (items.map RawItem.content).map (·.canonical) = items.map (·.canonical) := map_map

lemma havePrefix_iff (items start : List RawItem) :
    havePrefix items start ↔ start.map (·.canonical) <+: items.map (·.canonical) := isPrefixOf_iff_prefix

lemma foldl_appendOnce (done acc : List RawItem) :
    done.foldl appendOnce acc = acc ++ (firsts done).filter (·.canonical ∉ acc.map (·.canonical)) := by
  induction done generalizing acc with
  | nil => simp [firsts]
  | cons item rest ih =>
    rw [foldl_cons, ih, firsts]
    by_cases hmem : item.canonical ∈ acc.map (·.canonical)
    · rw [appendOnce, if_pos hmem, List.filter_cons_of_neg (by simpa using hmem), List.filter_filter]
      congr 1
      apply List.filter_congr
      intro x _
      by_cases hx : x.canonical ∈ acc.map (·.canonical)
      · simp [hx]
      · have hne : x.canonical ≠ item.canonical := fun heq => hx (heq ▸ hmem)
        simp [hne]
    · rw [appendOnce, if_neg hmem, List.filter_cons_of_pos (by simpa using hmem), List.filter_filter,
        append_assoc, singleton_append]
      simp

/-! ### What is committed -/

open Delivered

lemma foldl_itemDone (done : List RawItem) (d : Delivered) :
    ((done.map StreamEvent.itemDone).foldl record d).output = done.foldl appendOnce d.output ∧
      ((done.map StreamEvent.itemDone).foldl record d).committed = d.committed := by
  induction done generalizing d with
  | nil => exact ⟨rfl, rfl⟩
  | cons item done ih => exact ih _

lemma record_terminal (d : Delivered) (responseID : String) (list : Option (List RawItem)) :
    (d.record (.terminal responseID list)).output = list.getD d.output ∧
      ((d.record (.terminal responseID list)).committed = some (list.getD d.output) ∨
        (d.record (.terminal responseID list)).committed = d.committed) := by
  refine ⟨rfl, ?_⟩
  simp only [record]
  split_ifs <;> simp

variable {output : List RawItem}

lemma finalize_committed {d : Delivered} (h : d.finalize.committed = some output) :
    d.committed = some output ∨ output = d.output := by
  unfold finalize at h
  split at h
  · exact .inl h
  · exact .inr (Option.some.inj h).symm

lemma map_content_listed {done list : List RawItem} (h : done.map RawItem.content <+: list.map RawItem.content) :
    list.map RawItem.content = (done ++ list.drop done.length).map RawItem.content := by
  obtain ⟨rest, hrest⟩ := h
  rw [map_append, map_drop, ← hrest, ← length_map, drop_left]

/-- **The recorded output is the delivered one**, where the list at the end of a stream begins with what was streamed. -/
lemma committed_eq_delivered {delivery : Delivery} (hlisted : delivery.Listed)
    (h : delivery.committed = some output) : output.map RawItem.content = delivery.delivered.map RawItem.content := by
  cases delivery with
  | body responseID items =>
    simp only [Delivery.committed] at h
    split at h
    · rw [← Option.some.inj h]
      rfl
    · cases h
  | stream createdID done terminal =>
    simp only [Delivery.committed, streamEvents, foldl_cons, foldl_append] at h
    have hcreated : (record {} (.created createdID)).output = [] ∧
        (record {} (.created createdID)).committed = none := by
      unfold record
      dsimp only
      split <;> exact ⟨rfl, rfl⟩
    obtain ⟨houtput, hcommitted⟩ := foldl_itemDone done (.record {} (.created createdID))
    rw [hcreated.1, foldl_appendOnce] at houtput
    rw [hcreated.2] at hcommitted
    generalize (done.map .itemDone).foldl record _ = d at h houtput hcommitted
    have hfirsts : d.output = firsts done := by simpa using houtput
    cases terminal with
    | none =>
      rcases finalize_committed h with h | h
      · change d.committed = some output at h
        rw [hcommitted] at h
        cases h
      · rw [h.trans hfirsts]
        rfl
    | some terminal =>
      obtain ⟨responseID, list⟩ := terminal
      obtain ⟨hout, hcom⟩ := record_terminal d responseID list
      have hlist : output = list.getD d.output := by
        rcases finalize_committed h with h | h
        · change (d.record (.terminal responseID list)).committed = some output at h
          rcases hcom with hcom | hcom
          · exact Option.some.inj (h.symm.trans hcom)
          · rw [hcom, hcommitted] at h
            cases h
        · exact h.trans hout
      rw [hlist]
      cases list with
      | none => exact congrArg (map RawItem.content) hfirsts
      | some list => exact map_content_listed hlisted

/-! ### One turn -/

structure State.Stored (σ : State) : Prop where
  complete : σ.complete
  portable : canonicalize σ.replayInput = σ.replayInput

variable {replayLimitBytes : ℕ}

lemma merge_eq {previous current : List RawItem} {previousExists currentExists : Bool} (hprevious : ¬previousExists → previous = [])
    (hexists : ¬currentExists → current = []) : (merge previous previousExists current currentExists).1 =
      if Resends previous current then current else previous ++ current := by
  unfold merge
  by_cases hnone : ¬previousExists
  · simp [hnone, hprevious hnone]
  rw [if_neg hnone]
  by_cases hcurrent : ¬currentExists ∨ current = []
  · have hnil : current = [] := hcurrent.elim hexists id
    rw [if_pos hcurrent, hnil, if_neg fun h => h.1 rfl, append_nil]
  · rw [if_neg hcurrent]
    rw [not_or] at hcurrent
    by_cases hstart : havePrefix current previous
    · rw [if_pos hstart, if_pos ⟨hcurrent.2, (havePrefix_iff ..).1 hstart⟩]
    · rw [if_neg hstart, if_neg fun h => hstart ((havePrefix_iff ..).2 h.2)]

lemma merge_snd (previous current : List RawItem) (currentExists : Bool) :
    (merge previous (previous ≠ []) current currentExists).2 = (decide (previous ≠ []) || currentExists) := by
  unfold merge
  by_cases hprevious : previous = []
  · simp [hprevious]
  · simp only [ne_eq, hprevious, not_false_eq_true, decide_true, not_true_eq_false, if_false]
    split_ifs <;> rfl

variable {t : Turn} {σ : State}

lemma prepare_some
    (hconflict : (prepare replayLimitBytes (some σ) t).continuationConflict = false) :
    (prepare replayLimitBytes (some σ) t).stateReplayInput = σ.replayInput ∧
      (prepare replayLimitBytes (some σ) t).replayComplete = σ.complete ∧
      (prepare replayLimitBytes (some σ) t).fullInputExists = true := by
  revert hconflict
  unfold prepare
  dsimp only
  split_ifs with hmodel
  · exact fun h => (nomatch h)
  · refine fun _ => ⟨rfl, rfl, ?_⟩
    unfold merge
    simp only [not_true_eq_false, if_false]
    split_ifs <;> rfl

lemma prepare_current (state : Option State) (t : Turn) :
    (prepare replayLimitBytes state t).currentInput = t.input.getD [] ∧
      (prepare replayLimitBytes state t).currentInputExists = t.input.isSome ∧
      (prepare replayLimitBytes state t).hasPreviousResponseID = state.isSome := by
  unfold prepare
  cases state with
  | none => exact ⟨rfl, rfl, rfl⟩
  | some σ =>
    dsimp only
    split_ifs <;> exact ⟨rfl, rfl, rfl⟩

lemma replayed_some (hconflict : (prepare replayLimitBytes (some σ) t).continuationConflict = false) :
    replayed (prepare replayLimitBytes (some σ) t) =
      if σ.complete then
        let merged := merge (canonicalize σ.replayInput) (σ.replayInput ≠ []) t.portable t.input.isSome
        if merged.2 ∧ merged.1 = [] ∧ ¬t.input.isSome then (σ.replayInput, merged.2) else merged
      else (t.portable, t.input.isSome) := by
  obtain ⟨hstate, hcomplete, hfull⟩ := prepare_some hconflict
  obtain ⟨hcurrent, hexists, -⟩ := @prepare_current replayLimitBytes (some σ) t
  have hfound : (prepare replayLimitBytes (some σ) t).stateFound = true := by
    unfold prepare
    dsimp only
    split_ifs <;> rfl
  unfold replayed
  rw [hstate, hcurrent, hexists, hcomplete, hfull, hfound]
  simp only [true_and, and_true]
  rfl

lemma portable_of_none (h : ¬t.input.isSome) : t.portable = [] := by
  rw [Turn.portable, not_isSome_iff_eq_none.1 h]
  rfl

lemma merged_eq (σ : State) (t : Turn) :
    (merge (canonicalize σ.replayInput) (σ.replayInput ≠ []) t.portable t.input.isSome).1 =
      if Resends (canonicalize σ.replayInput) t.portable then t.portable else canonicalize σ.replayInput ++ t.portable := by
  refine merge_eq (fun h => ?_) portable_of_none
  have hnil : σ.replayInput = [] := by simpa using h
  rw [hnil]
  rfl

lemma replayed_eq (hσ : σ.Stored)
    (hconflict : (prepare replayLimitBytes (some σ) t).continuationConflict = false) :
    (replayed (prepare replayLimitBytes (some σ) t)).1 =
        (if Resends σ.replayInput t.portable then t.portable else σ.replayInput ++ t.portable) ∧
      ((replayed (prepare replayLimitBytes (some σ) t)).2 = false → σ.replayInput = [] ∧ t.input = none) := by
  have hfst := merged_eq σ t
  have hsnd := merge_snd σ.replayInput t.portable t.input.isSome
  rw [hσ.portable] at hfst
  rw [replayed_some hconflict, hσ.portable, if_pos hσ.complete]
  -- the merged input is empty only if the state is, and then it counts as absent
  rw [if_neg]
  · refine ⟨hfst, fun hfalse => ?_⟩
    rw [hsnd, Bool.or_eq_false_iff] at hfalse
    exact ⟨by simpa using hfalse.1, by simpa using hfalse.2⟩
  · rintro ⟨htrue, hnil, habsent⟩
    rw [hfst, portable_of_none habsent, if_neg fun h => h.1 rfl, append_nil] at hnil
    rw [hsnd, hnil] at htrue
    exact habsent (by exact htrue)

variable {input : Option (List RawItem)} {p : Preparation}

lemma first_turn (t : Turn)
    (h : apply replayLimitBytes (prepare replayLimitBytes none t) = .ok (p, input)) : canonicalize p.fullInput = t.portable := by
  have hp : canonicalizeCurrentInput (prepare replayLimitBytes none t) = (p, input) := Except.ok.inj h
  change (if ¬t.input.isSome ∨ t.portable = t.input.getD [] ∨ t.portable = [] then _ else _) = _ at hp
  split_ifs at hp
  · obtain ⟨rfl, rfl⟩ := Prod.mk.inj hp
    rfl
  · obtain ⟨rfl, rfl⟩ := Prod.mk.inj hp
    exact canonicalize_canonicalize _

/-- What is sent if the history is `history` and the input `current`. -/
def joined (history current : List RawItem) : List RawItem :=
  prune (if Resends history current then current else history ++ current)

lemma next_turn (hσ : σ.Stored) (t : Turn)
    (h : apply replayLimitBytes (prepare replayLimitBytes (some σ) t) = .ok (p, input)) :
    input.getD (t.input.getD []) = joined σ.replayInput t.portable ∧ p.fullInput = joined σ.replayInput t.portable := by
  have hprevious : ¬¬(prepare replayLimitBytes (some σ) t).hasPreviousResponseID := by
    rw [(prepare_current (some σ) t).2.2]
    exact not_not.2 rfl
  rw [apply, if_neg hprevious] at h
  by_cases hconflict : (prepare replayLimitBytes (some σ) t).continuationConflict
  · rw [if_pos hconflict] at h
    cases h
  obtain ⟨hfst, hsnd⟩ := replayed_eq hσ (Bool.eq_false_iff.2 hconflict)
  have hprune : prune (replayed (prepare replayLimitBytes (some σ) t)).1 = joined σ.replayInput t.portable := by
    rw [hfst]
    rfl
  dsimp only at h
  rw [hprune] at h
  split_ifs at h with hlarge horphan hset
  · cases h
    exact ⟨rfl, rfl⟩
  · cases h
    obtain ⟨hnil, hnone⟩ := hsnd (Bool.eq_false_iff.2 hset)
    refine ⟨?_, rfl⟩
    rw [hnil, hnone, portable_of_none (by simp [hnone])]
    rfl

/-! ### Conversations -/

/-- Everything that is sent is portable, its tool calls are answered, and no output is missing. -/
structure Conversation.Sound (c : Conversation) : Prop where
  portable : canonicalize c.sent = c.sent
  output : c.sent.filterMap RawItem.output = (canonicalize c.said).filterMap RawItem.output
  answered : ∀ item ∈ c.sent, item.call.all fun callID =>
    callID ≠ "" ∧ callID ∈ (canonicalize c.said).filterMap RawItem.output

lemma canonicalize_replayable (context items : List RawItem) :
    canonicalize (replayable context items) = replayable context items := by
  refine filter_eq_self.2 fun item hitem => ?_
  exact (List.mem_filter.1 (List.mem_filter.1 hitem).1).2

lemma sound_replayable (said items : List RawItem) :
    ∀ item ∈ replayable said items, item.call.all fun callID =>
      callID ≠ "" ∧ callID ∈ (canonicalize said).filterMap RawItem.output :=
  fun _ hitem => (List.mem_filter.1 hitem).2

variable {c : Conversation}

section

variable (hc : c.Sound) (input : List RawItem)

include hc

/-- **What is sent stays sent**: later outputs only answer more calls. -/
lemma Conversation.Sound.answered_append (new : List RawItem) : ∀ item ∈ c.sent, item.call.all fun callID =>
    callID ≠ "" ∧ callID ∈ (canonicalize (c.said ++ new)).filterMap RawItem.output := by
  intro item hitem
  have hanswered := hc.answered item hitem
  rw [canonicalize_append, filterMap_append]
  cases hcall : item.call with
  | none => rfl
  | some callID =>
    simp only [hcall, all_some, decide_eq_true_eq] at hanswered ⊢
    exact ⟨hanswered.1, mem_append_left _ hanswered.2⟩

lemma Conversation.Sound.joined_eq : joined c.history (canonicalize input) = (c.hear input).sent := by
  unfold joined Conversation.hear
  split_ifs with hresends
  · rfl
  · have houtput : (c.history ++ canonicalize input).filterMap RawItem.output =
        (canonicalize (c.said ++ (c.delivered ++ input))).filterMap RawItem.output := by
      simp only [Conversation.history, canonicalize_append, filterMap_append, hc.output, append_assoc]
    unfold prune
    rw [houtput, Conversation.history, append_assoc, ← canonicalize_append, filter_append,
      filter_eq_self.2 (hc.answered_append _)]
    rfl

lemma Conversation.Sound.hear : (c.hear input).Sound := by
  unfold Conversation.hear
  split_ifs
  · exact ⟨canonicalize_replayable _ _, output_filter _ _, sound_replayable _ _⟩
  · refine ⟨?_, ?_, fun item hitem => ?_⟩
    · rw [canonicalize_append, hc.portable, canonicalize_replayable]
    · rw [filterMap_append, hc.output, canonicalize_append, filterMap_append, replayable, output_filter]
    · rcases mem_append.1 hitem with hitem | hitem
      · exact hc.answered_append _ item hitem
      · exact sound_replayable _ _ item hitem

end

/-- The state holds the history of the conversation. -/
structure Keeps (σ : State) (c : Conversation) : Prop where
  stored : σ.Stored
  sound : c.Sound
  history : σ.replayInput.map RawItem.content = c.history.map RawItem.content

lemma resends_congr {history history' current : List RawItem}
    (h : history.map RawItem.content = history'.map RawItem.content) : Resends history current ↔ Resends history' current := by
  rw [Resends, Resends, ← map_content_canonical history, h, map_content_canonical]

/-- **What a turn is sent with.** -/
lemma Keeps.joined (hk : Keeps σ c) (t : Turn) :
    (joined σ.replayInput t.portable).map RawItem.content = (c.hear (t.input.getD [])).sent.map RawItem.content := by
  rw [← hk.sound.joined_eq, ← Turn.portable]
  unfold Continuation.joined
  rw [map_content_prune, map_content_prune, if_congr (resends_congr hk.history) rfl rfl]
  congr 1
  split_ifs
  · rfl
  · rw [map_append, map_append, hk.history]

lemma sends_eq (hk : Keeps σ c) {sent : List RawItem} (hsend : sends replayLimitBytes (some σ) t = some sent) :
    sent.map RawItem.content = (c.hear (t.input.getD [])).sent.map RawItem.content := by
  unfold sends at hsend
  split at hsend
  · cases hsend
  · next p input happly =>
    rw [← Option.some.inj hsend, (next_turn hk.stored t happly).1]
    exact hk.joined t

variable {state' : Option State}

/-- A turn stores what it was sent with and what it delivered. -/
lemma step_stores {state : Option State} (hlisted : t.delivery.Listed) (hstep : step replayLimitBytes state t = some state') :
    ∃ p input σ', apply replayLimitBytes (prepare replayLimitBytes state t) = .ok (p, input) ∧ state' = some σ' ∧ σ'.Stored ∧
      σ'.replayInput.map RawItem.content =
        (canonicalize p.fullInput ++ canonicalize t.delivery.delivered).map RawItem.content := by
  unfold step at hstep
  split at hstep
  · cases hstep
  · next p input happly =>
    obtain ⟨σ', hcommit, rfl⟩ := map_eq_some_iff.1 hstep
    obtain ⟨output, houtput, hcommit⟩ := bind_eq_some_iff.1 hcommit
    have hsame := committed_eq_delivered hlisted houtput
    unfold commit at hcommit
    dsimp only at hcommit
    split_ifs at hcommit
    cases hcommit
    refine ⟨p, input, _, happly, rfl, ⟨rfl, canonicalize_canonicalize _⟩, ?_⟩
    rw [canonicalize_append, map_append, map_append, map_content_canonicalize output, hsame, ← map_content_canonicalize]

lemma first_keeps (hlisted : t.delivery.Listed) (hstep : step replayLimitBytes none t = some state') :
    ∃ σ', state' = some σ' ∧ Keeps σ' (conversation t []) := by
  obtain ⟨p, input, σ', happly, rfl, hstored, hσ'⟩ := step_stores hlisted hstep
  refine ⟨σ', rfl, hstored, ⟨rfl, rfl, nofun⟩, hσ'.trans ?_⟩
  rw [first_turn t happly, Turn.portable, ← canonicalize_append]
  rfl

lemma step_keeps (hk : Keeps σ c) (hlisted : t.delivery.Listed) (hstep : step replayLimitBytes (some σ) t = some state') :
    ∃ σ', state' = some σ' ∧ Keeps σ' (c.turn t) := by
  obtain ⟨p, input, σ', happly, rfl, hstored, hσ'⟩ := step_stores hlisted hstep
  have hsound := hk.sound.hear (t.input.getD [])
  refine ⟨σ', rfl, hstored, { hsound with }, hσ'.trans ?_⟩
  rw [map_append, map_content_canonicalize, (next_turn hk.stored t happly).2, hk.joined, ← map_content_canonicalize,
    hsound.portable, ← map_append]
  rfl

/-- **A conversation keeps its history.** -/
lemma runs_keeps (hk : Keeps σ c) {turns : List Turn} (hlisted : ∀ t ∈ turns, t.delivery.Listed)
    (hrun : runs (step replayLimitBytes) (some σ) turns = some state') :
    ∃ σ', state' = some σ' ∧ Keeps σ' (turns.foldl Conversation.turn c) := by
  induction turns generalizing σ c with
  | nil =>
    obtain rfl : some σ = state' := by simpa using hrun
    exact ⟨σ, rfl, hk⟩
  | cons t turns ih =>
    obtain ⟨mid, hstep, hrest⟩ := runs_cons_eq_some.1 hrun
    obtain ⟨σ', rfl, hk'⟩ := step_keeps hk (hlisted t (.head _)) hstep
    exact ih hk' (fun x hx => hlisted x (.tail _ hx)) hrest

/-- **A turn is sent with the whole conversation before it**: the inputs and all that was delivered, in order. -/
theorem replay_faithful {first : Turn} {turns : List Turn} (hlisted : ∀ t ∈ first :: turns, t.delivery.Listed)
    {state : Option State} (hrun : runs (step replayLimitBytes) none (first :: turns) = some state) {t : Turn}
    {sent : List RawItem} (hsend : sends replayLimitBytes state t = some sent) :
    sent.map RawItem.content = ((conversation first turns).hear (t.input.getD [])).sent.map RawItem.content := by
  obtain ⟨mid, hfirst, hrest⟩ := runs_cons_eq_some.1 hrun
  obtain ⟨σ, rfl, hk⟩ := first_keeps (hlisted first (.head _)) hfirst
  obtain ⟨σ', rfl, hk'⟩ := runs_keeps hk (fun x hx => hlisted x (.tail _ hx)) hrest
  exact sends_eq hk' hsend

def message (text : String) : RawItem where
  raw := text
  canonical := text
  fields := some ("message", "", false)
  envelope := some ("message", "")

def exchange (input output : List RawItem) : Turn where
  input := some input
  delivery := .stream "resp" output (some ("resp", some output))

def tool (itemType : String) : RawItem where
  raw := itemType
  canonical := itemType
  fields := some (itemType, "", false)
  envelope := some (itemType, "call_1")

theorem replay_faithful_three :
    ∃ state, runs (step 100) none
        [exchange [message "hi"] [tool "function_call"], exchange [tool "function_call_output"] [message "hm"]] = some state ∧
      sends 100 state (exchange [message "bye"] []) =
        some [message "hi", tool "function_call", tool "function_call_output", message "hm", message "bye"] ∧
      [message "hi", tool "function_call", tool "function_call_output", message "hm", message "bye"].map RawItem.content =
        ((conversation (exchange [message "hi"] [tool "function_call"])
          [exchange [tool "function_call_output"] [message "hm"]]).hear [message "bye"]).sent.map RawItem.content := by
  have hrun : runs (step 100) none
      [exchange [message "hi"] [tool "function_call"], exchange [tool "function_call_output"] [message "hm"]] = some _ := rfl
  refine ⟨_, hrun, rfl, replay_faithful (t := exchange [message "bye"] []) (fun t ht => ?_) hrun ?_⟩
  · rcases mem_pair.1 ht with rfl | rfl
    all_goals exact prefix_refl _
  · rfl

/-- What is sent is not always the verbatim transcript: a turn in the words of the first one, an empty list at the end of a
stream, an item that was streamed twice. -/
theorem replay_not_verbatim :
    ((runs (step 100) none [exchange [message "go"] []]).bind (sends 100 · (exchange [message "go"] [])) =
        some [message "go"] ∧
      verbatim [exchange [message "go"] []] (exchange [message "go"] []) = [message "go", message "go"]) ∧
    ((runs (step 100) none
          [{ input := some [message "hi"], delivery := .stream "resp" [message "hello"] (some ("resp", some [])) }]).bind
          (sends 100 · (exchange [message "bye"] [])) =
        some [message "hi", message "bye"] ∧
      verbatim [{ input := some [message "hi"], delivery := .stream "resp" [message "hello"] (some ("resp", some [])) }]
          (exchange [message "bye"] []) =
        [message "hi", message "hello", message "bye"]) ∧
    (runs (step 100) none
          [{ input := some [message "hi"],
             delivery := .stream "resp" [message "ok", message "ok"] (some ("resp", none)) }]).bind
          (sends 100 · (exchange [message "bye"] [])) =
        some [message "hi", message "ok", message "bye"] ∧
      verbatim [{ input := some [message "hi"],
                  delivery := .stream "resp" [message "ok", message "ok"] (some ("resp", none)) }]
          (exchange [message "bye"] []) =
        [message "hi", message "ok", message "ok", message "bye"] :=
  ⟨⟨rfl, rfl⟩, ⟨rfl, rfl⟩, rfl, rfl⟩

/-! ### Tool calls and their outputs -/

/-- A tool call or a tool output decodes, with a call id that is a string if it has one. -/
def RawItem.Readable (item : RawItem) : Prop := item.isOutput ∨ item.isCall → item.envelope.isSome

/-- Every tool output has a tool call with its id, and every tool call a tool output. -/
structure Paired (items : List RawItem) : Prop where
  output : ∀ item ∈ items, item.isOutput → ∃ callID ∈ items.filterMap RawItem.call, item.output = some callID
  call : ∀ item ∈ items, item.isCall → ∃ callID ∈ items.filterMap RawItem.output, item.call = some callID

def unanswered (items : List RawItem) (item : RawItem) : Bool := item.call.any (· ∉ items.filterMap RawItem.output)

variable {item : RawItem} {items}

lemma RawItem.isSome_callID (q : String → Bool) (item : RawItem) :
    ((item.envelope.filter (q ·.1)).map Prod.snd).isSome ↔ item.itemType.any q ∧ item.envelope.isSome := by
  unfold RawItem.itemType
  cases item.envelope with
  | none => simp
  | some x => simp

lemma RawItem.unreadable_iff : ¬item.Readable ↔ (item.isOutput ∨ item.isCall) ∧ item.envelope = none := by
  rw [RawItem.Readable, Classical.not_imp, not_isSome_iff_eq_none]

lemma mem_prune_of_unreadable (h : ¬item.Readable) : item ∈ prune items ↔ item ∈ items := by
  simp [prune, RawItem.call, (RawItem.unreadable_iff.1 h).2]

lemma mem_canonicalize_of_unreadable (h : ¬item.Readable) : item ∈ canonicalize items ↔ item ∈ items := by
  obtain ⟨htool, henvelope⟩ := RawItem.unreadable_iff.1 h
  have hown : providerOwned item = false := by
    unfold providerOwned
    split
    · rfl
    next itemType _ _ hfields =>
      simp only [RawItem.isOutput, RawItem.isCall, RawItem.itemType, henvelope, hfields] at htool
      rw [if_neg, if_neg]
      all_goals
        rintro rfl
        exact absurd htool (by rintro (h | h) <;> cases h)
  simp [canonicalize, hown]

lemma mem_replayed_of_unreadable (hconflict : (prepare replayLimitBytes (some σ) t).continuationConflict = false)
    (hitem : ¬item.Readable) : item ∈ (replayed (prepare replayLimitBytes (some σ) t)).1 ↔ item ∈ t.input.getD [] ∨
      σ.complete ∧ ¬Resends (canonicalize σ.replayInput) t.portable ∧ item ∈ σ.replayInput := by
  have hcurrent : item ∈ t.portable ↔ item ∈ t.input.getD [] := mem_canonicalize_of_unreadable hitem
  rw [replayed_some hconflict]
  by_cases hcomplete : σ.complete
  · have hmerged : item ∈ (merge (canonicalize σ.replayInput) (σ.replayInput ≠ []) t.portable t.input.isSome).1 ↔
        item ∈ t.input.getD [] ∨ ¬Resends (canonicalize σ.replayInput) t.portable ∧ item ∈ σ.replayInput := by
      rw [merged_eq]
      split_ifs with hresends
      · simp [hcurrent, hresends]
      · simp [hcurrent, hresends, mem_canonicalize_of_unreadable hitem, or_comm]
    simp only [hcomplete, if_true, true_and]
    split_ifs with hempty
    · -- nothing of the history is portable, so that all of it is the provider's own
      rw [hempty.2.1] at hmerged
      refine iff_of_false (fun hmem => ?_) fun hmem => nomatch hmerged.2 hmem
      exact nomatch hmerged.2 (.inr ⟨fun hresends => hresends.1 (portable_of_none hempty.2.2), hmem⟩)
    · exact hmerged
  · simp [hcomplete, hcurrent]

/-- **Tool calls and tool outputs that are sent belong together** exactly if those of the current input decode, and those of the
history unless the client has sent it again. -/
theorem replay_paired_iff (σ : State) (t : Turn) {p : Preparation} {sent : List RawItem}
    (h : apply replayLimitBytes (prepare replayLimitBytes (some σ) t) = .ok (p, some sent)) :
    Paired sent ∧ sent = (replayed (prepare replayLimitBytes (some σ) t)).1.filter
        (fun item => !unanswered (replayed (prepare replayLimitBytes (some σ) t)).1 item) ↔
      (∀ item ∈ t.input.getD [], item.Readable) ∧
        (σ.complete → ¬Resends (canonicalize σ.replayInput) t.portable → ∀ item ∈ σ.replayInput, item.Readable) := by
  rw [apply, if_neg (by simp [(prepare_current (some σ) t).2.2])] at h
  dsimp only at h
  split_ifs at h with hconflict hlarge horphan hset
  case neg => cases h
  obtain rfl := Option.some.inj (Prod.mk.inj (Except.ok.inj h)).2
  have hmem : ∀ x : RawItem, ¬x.Readable → (x ∈ (replayed (prepare replayLimitBytes (some σ) t)).1 ↔ _) :=
    fun x => mem_replayed_of_unreadable (Bool.eq_false_iff.2 hconflict)
  generalize (replayed (prepare replayLimitBytes (some σ) t)).1 = full at *
  have hcontext : ∀ callID ∈ full.filterMap RawItem.output, callID ≠ "" ∧ callID ∈ (prune full).filterMap RawItem.call := by
    intro callID hid
    rw [← output_prune] at hid
    obtain ⟨item, hitem, houtput⟩ := List.mem_filterMap.1 hid
    have hout := ((item.isSome_callID isToolCallOutputType).1 (Option.isSome_of_eq_some houtput)).1
    have hall := by_contra fun hno => horphan ⟨List.any_eq_true.2 ⟨item, hitem, hout⟩, hno⟩
    simpa using List.all_eq_true.1 hall callID hid
  constructor
  · rintro ⟨hpaired, -⟩
    have hread : ∀ item ∈ prune full, item.Readable := by
      rintro item hitem (hout | hcall)
      · obtain ⟨callID, -, hid⟩ := hpaired.output item hitem hout
        exact ((item.isSome_callID _).1 (Option.isSome_of_eq_some hid)).2
      · obtain ⟨callID, -, hid⟩ := hpaired.call item hitem hcall
        exact ((item.isSome_callID _).1 (Option.isSome_of_eq_some hid)).2
    refine ⟨fun item hitem => by_contra fun hnot => ?_, fun hcomplete hfresh item hitem => by_contra fun hnot => ?_⟩
    · exact hnot (hread item ((mem_prune_of_unreadable hnot).2 ((hmem item hnot).2 (.inl hitem))))
    · exact hnot (hread item ((mem_prune_of_unreadable hnot).2 ((hmem item hnot).2 (.inr ⟨hcomplete, hfresh, hitem⟩))))
  · rintro ⟨hcurrent, hstate⟩
    have hread : ∀ item ∈ prune full, item.Readable := fun item hitem => by_contra fun hnot => by
      obtain hitem | ⟨hcomplete, hfresh, hitem⟩ := (hmem item hnot).1 ((mem_prune_of_unreadable hnot).1 hitem)
      · exact hnot (hcurrent item hitem)
      · exact hnot (hstate hcomplete hfresh item hitem)
    refine ⟨⟨fun item hitem hout => ?_, fun item hitem hcall => ?_⟩, List.filter_congr fun item hitem => ?_⟩
    · obtain ⟨callID, hid⟩ := Option.isSome_iff_exists.1 ((item.isSome_callID _).2 ⟨hout, hread item hitem (.inl hout)⟩)
      refine ⟨callID, (hcontext callID ?_).2, hid⟩
      rw [← output_prune]
      exact List.mem_filterMap.2 ⟨item, hitem, hid⟩
    · obtain ⟨callID, hid⟩ := Option.isSome_iff_exists.1 ((item.isSome_callID _).2 ⟨hcall, hread item hitem (.inr hcall)⟩)
      have hkept := (List.mem_filter.1 hitem).2
      rw [RawItem.call, hid, Option.all_some, decide_eq_true_eq] at hkept
      exact ⟨callID, by rw [output_prune]; exact hkept.2, hid⟩
    · unfold unanswered
      cases item.call with
      | none => rfl
      | some callID =>
        rw [Option.all_some, Option.any_some, ← decide_not]
        exact decide_eq_decide.2 ⟨fun hid => not_not.2 hid.2, fun hid => ⟨(hcontext callID (not_not.1 hid)).1, not_not.1 hid⟩⟩

theorem replay_paired_call : Paired [tool "function_call", tool "function_call_output"] := by
  obtain ⟨p, hsent⟩ : ∃ p, apply 100 (prepare 100 (some ⟨"", [tool "function_call"], true⟩)
      (exchange [tool "function_call_output"] [])) = .ok (p, some [tool "function_call", tool "function_call_output"]) :=
    ⟨_, rfl⟩
  refine ((replay_paired_iff _ _ hsent).2 ⟨?_, fun _ _ => ?_⟩).1
  all_goals exact forall_mem_singleton.2 fun _ => rfl

/-- A tool output whose call id is no string is sent, though no tool call has its id. -/
theorem orphan_output_replayed :
    sends 100 (some ⟨"", [message "hi"], true⟩) (exchange [{ tool "function_call_output" with envelope := none }] []) =
        some [message "hi", { tool "function_call_output" with envelope := none }] ∧
      ¬Paired [message "hi", { tool "function_call_output" with envelope := none }] := by
  refine ⟨rfl, fun hpaired => ?_⟩
  obtain ⟨callID, hcall, -⟩ := hpaired.output _ (mem_cons_of_mem _ mem_cons_self) rfl
  exact nomatch hcall

end StarNexus.Continuation
