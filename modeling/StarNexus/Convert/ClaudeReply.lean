import StarNexus.Convert.ClaudeContent

/-!
# A Claude reply as a chat completion

`ResponseClaude2OpenAI` converts a complete reply, `StreamResponseClaude2OpenAI` the events of a streamed one.  A client reads
the same from both if the reply has one text, its first two blocks are not both tool calls, and the input of every tool call is
streamed.
-/

namespace StarNexus.Convert

open List String

/-- The JSON library for inputs of tools; nothing is not the text of an input. -/
structure Codec (J : Type*) where
  marshal : J → String
  unmarshal : String → Option J
  /-- the input without entries -/
  empty : J
  unmarshal_marshal : ∀ input, unmarshal (marshal input) = some input
  unmarshal_nothing : unmarshal "" = none

inductive ReplyBlock (J : Type*)
  | text (text : String)
  | thinking (thinking : String)
  | toolUse (id name : String) (input : J)

variable {J : Type*}

/-! ### The conversions -/

def stopReasonClaude2OpenAI (stopReason : String) : String :=
  match Lib.toLower stopReason with
  | "stop_sequence" => "stop"
  | "end_turn" => "stop"
  | "max_tokens" => "length"
  | "tool_use" => "tool_calls"
  | "refusal" => "content_filter"
  | _ => stopReason

/-- The index of a tool call: one less than the index of its block, and not negative. -/
def fcIdx (index : ℕ) : ℕ := index - 1

def chunkOf (delta : ChoiceDelta) : Chunk := { choices := [{ delta }] }

def streamResponseClaude2OpenAI : ClaudeEvent → Option Chunk
  | .messageStart id model _ => some { chunkOf { content := some "" } with id, model }
  | .contentBlockStart _ (.text text) => some (chunkOf { content := some text })
  | .contentBlockStart _ (.thinking _) => some (chunkOf {})
  | .contentBlockStart index (.toolUse id name) => some (chunkOf { toolCalls := [{ index := some (fcIdx index), id, name }] })
  | .contentBlockDelta _ (.text text) => some (chunkOf { content := some text })
  | .contentBlockDelta index (.inputJson partialJson) =>
    some (chunkOf { toolCalls := [{ index := some (fcIdx index), arguments := partialJson }] })
  | .contentBlockDelta _ .signature => some (chunkOf { reasoningContent := some "\n" })
  | .contentBlockDelta _ (.thinking thinking) => some (chunkOf { reasoningContent := some thinking })
  | .messageDelta stopReason _ =>
    let finishReason := stopReasonClaude2OpenAI stopReason
    some { choices := [{ finishReason := if finishReason ≠ "null" then some finishReason else none }] }
  | .contentBlockStop _ => none
  | .messageStop => none

structure TextResponse where
  text : String
  reasoning : Option String
  toolCalls : List ToolCall
  finishReason : String

def ReplyBlock.getText : ReplyBlock J → String
  | .text content => content
  | _ => ""

def ReplyBlock.getThinking : ReplyBlock J → String
  | .thinking content => content
  | _ => ""

structure ReplyState where
  responseText : String
  thinkingContent : String := ""
  tools : List ToolCall := []

def replyStep (marshal : J → String) (s : ReplyState) : ReplyBlock J → ReplyState
  | .toolUse id name input => { s with tools := s.tools ++ [⟨id, name, marshal input⟩] }
  | .thinking thinking => { s with thinkingContent := thinking }
  | .text text => { s with responseText := text }

def responseClaude2OpenAI (marshal : J → String) (content : List (ReplyBlock J)) (stopReason : String) : TextResponse :=
  let responseThinking := content.head?.elim "" ReplyBlock.getThinking
  let s := content.foldl (replyStep marshal) { responseText := content.head?.elim "" ReplyBlock.getText }
  { text := s.responseText
    reasoning := if s.thinkingContent ≠ "" then some s.thinkingContent
      else if responseThinking ≠ "" then some responseThinking else none
    toolCalls := s.tools
    finishReason := stopReasonClaude2OpenAI stopReason }

/-! ### Streams of a reply -/

/-- A block as it is streamed: the text, the thinking or the input comes in pieces. -/
inductive Cut (J : Type*)
  | text (first : String) (pieces : List String)
  /-- a piece that is absent is a signature -/
  | thinking (first : String) (pieces : List (Option String))
  | toolUse (id name : String) (input : J) (pieces : List String)

def concat (texts : List String) : String := texts.foldr (· ++ ·) ""

def Cut.block : Cut J → ReplyBlock J
  | .text first pieces => .text (first ++ concat pieces)
  | .thinking first pieces => .thinking (first ++ concat (pieces.filterMap id))
  | .toolUse id name input _ => .toolUse id name input

/-- The pieces of an input are its text; an input without entries may have none. -/
def Cut.Legal (codec : Codec J) : Cut J → Prop
  | .toolUse _ _ input pieces => codec.unmarshal (concat pieces) = some input ∨ concat pieces = "" ∧ input = codec.empty
  | _ => True

def Cut.events (index : ℕ) : Cut J → List ClaudeEvent
  | .text first pieces => .contentBlockStart index (.text first) ::
      pieces.map (fun piece => .contentBlockDelta index (.text piece)) ++
      [.contentBlockStop index]
  | .thinking first pieces =>
    .contentBlockStart index (.thinking first) ::
      pieces.map (fun piece => .contentBlockDelta index (piece.elim .signature .thinking)) ++ [.contentBlockStop index]
  | .toolUse id name _ pieces => .contentBlockStart index (.toolUse id name) ::
      pieces.map (fun piece => .contentBlockDelta index (.inputJson piece)) ++ [.contentBlockStop index]

def blockEvents : ℕ → List (Cut J) → List ClaudeEvent
  | _, [] => []
  | index, cut :: cuts => cut.events index ++ blockEvents (index + 1) cuts

def replyEvents (id model : String) (usage usage' : ClaudeUsage) (cuts : List (Cut J)) (stopReason : String) : List ClaudeEvent :=
  .messageStart id model usage :: blockEvents 0 cuts ++ [.messageDelta stopReason usage', .messageStop]

/-- **A stream of a reply**: its events, and others in between. A reply ends for a reason. -/
structure StreamOf (cuts : List (Cut J)) (stopReason : String) (events : List (Option ClaudeEvent)) : Prop where
  events : ∃ id model usage usage', events.filterMap (fun e => e) = replyEvents id model usage usage' cuts stopReason
  stopReason : stopReason ≠ "null"

/-! ### Clients -/

structure ChatClient where
  reply : Reply := {}
  finishReason : Option String := none

def ChatClient.read (r : ChatClient) (chunk : Chunk) : ChatClient :=
  match chunk.choices with
  | [] => r
  | choice :: _ => ⟨r.reply.readDelta choice.delta, choice.finishReason.or r.finishReason⟩

def readStream (events : List (Option ClaudeEvent)) : ChatClient :=
  (events.filterMap fun e => e.bind streamResponseClaude2OpenAI).foldl ChatClient.read {}

structure Said (J : Type*) where
  text : String
  calls : List (String × String × Option J)
  finishReason : Option String

def ToolCall.said (unmarshal : String → Option J) (c : ToolCall) : String × String × Option J := (c.id, c.name, unmarshal c.arguments)

def ChatClient.said (unmarshal : String → Option J) (r : ChatClient) : Said J :=
  ⟨r.reply.text, r.reply.calls.map fun x => x.2.said unmarshal, r.finishReason⟩

def TextResponse.said (unmarshal : String → Option J) (r : TextResponse) : Said J :=
  ⟨r.text, r.toolCalls.map fun c => c.said unmarshal, some r.finishReason⟩

def ReplyBlock.text? : ReplyBlock J → Option String
  | .text content => some content
  | _ => none

def ReplyBlock.call? : ReplyBlock J → Option (String × String × Option J)
  | .toolUse id name input => some (id, name, some input)
  | _ => none

def saidBy (blocks : List (ReplyBlock J)) (stopReason : String) : Said J :=
  ⟨concat (blocks.filterMap ReplyBlock.text?), blocks.filterMap ReplyBlock.call?, some (stopReasonClaude2OpenAI stopReason)⟩

/-! ### The complete reply -/

lemma concat_append (l l' : List String) : concat (l ++ l') = concat l ++ concat l' := by
  induction l with
  | nil => simp [concat]
  | cons x l ih =>
    show x ++ concat (l ++ l') = x ++ concat l ++ concat l'
    rw [ih, String.append_assoc]

lemma concat_eq_empty {l : List String} : concat l = "" ↔ ∀ x ∈ l, x = "" := by
  induction l with
  | nil => simp [concat]
  | cons x l ih =>
    have hcons : concat (x :: l) = x ++ concat l := rfl
    rw [hcons, append_eq_empty_iff, ih, List.forall_mem_cons]

lemma concat_eq_getLast {l : List String} {x : String} (h : l.getLast? = some x) : concat l = x ↔ ∀ y ∈ l.dropLast, y = "" := by
  have hl : l = l.dropLast ++ [x] := (dropLast_append_getLast? x h).symm
  rw [← concat_eq_empty]
  conv_lhs => rw [hl, concat_append]
  constructor
  · intro heq
    have hlength := congrArg String.length heq
    have hlast : concat [x] = x := by simp [concat]
    rw [hlast, String.length_append] at hlength
    exact length_eq_zero_iff.1 (by omega)
  · intro hempty
    rw [hempty]
    simp [concat]

open ReplyBlock

lemma foldl_replyStep (marshal : J → String) (blocks : List (ReplyBlock J)) (s : ReplyState) :
    (blocks.foldl (replyStep marshal) s).responseText = (blocks.filterMap text?).getLast?.getD s.responseText ∧
      (blocks.foldl (replyStep marshal) s).tools = s.tools ++ blocks.filterMap fun
        | .toolUse id name input => some ⟨id, name, marshal input⟩
        | _ => none := by
  induction blocks generalizing s with
  | nil => simp
  | cons b blocks ih =>
    rw [foldl_cons]
    rcases ih (replyStep marshal s b) with ⟨htext, htools⟩
    rw [htext, htools]
    cases b with
    | text content =>
      constructor
      · simp [text?, replyStep, getLast?_cons]
      · simp [replyStep]
    | thinking content | toolUse id name input => simp [text?, replyStep]

variable (codec : Codec J)

lemma marshalled_calls (blocks : List (ReplyBlock J)) :
    (blocks.filterMap fun
        | .toolUse id name input => some (⟨id, name, codec.marshal input⟩ : ToolCall)
        | _ => none).map (fun c => c.said codec.unmarshal) = blocks.filterMap ReplyBlock.call? := by
  induction blocks with
  | nil => rfl
  | cons b blocks ih =>
    cases b with
    | toolUse id name input =>
      have hhead : ToolCall.said codec.unmarshal ⟨id, name, codec.marshal input⟩ = (id, name, some input) := by
        rw [ToolCall.said, codec.unmarshal_marshal]
      exact congrArg₂ List.cons hhead ih
    | _ => exact ih

lemma response_said_iff (blocks : List (ReplyBlock J)) (stopReason : String) :
    (responseClaude2OpenAI codec.marshal blocks stopReason).said codec.unmarshal = saidBy blocks stopReason ↔
      ∀ x ∈ (blocks.filterMap text?).dropLast, x = "" := by
  rcases foldl_replyStep codec.marshal blocks { responseText := blocks.head?.elim "" getText } with ⟨htext, htools⟩
  have htext' : (responseClaude2OpenAI codec.marshal blocks stopReason).text =
      (blocks.filterMap text?).getLast?.getD (blocks.head?.elim "" getText) := htext
  have hcalls : (responseClaude2OpenAI codec.marshal blocks stopReason).toolCalls.map (fun c => c.said codec.unmarshal) =
      blocks.filterMap ReplyBlock.call? := by
    rw [← marshalled_calls codec blocks]
    exact congrArg _ (htools.trans (nil_append _))
  have hsaid : (responseClaude2OpenAI codec.marshal blocks stopReason).said codec.unmarshal = saidBy blocks stopReason ↔
      (responseClaude2OpenAI codec.marshal blocks stopReason).text = concat (blocks.filterMap text?) := by
    unfold TextResponse.said
    rw [hcalls, Said.mk.injEq]
    constructor
    · intro h
      exact h.1
    · intro h
      exact ⟨h, rfl, rfl⟩
  rw [hsaid, htext']
  cases hlast : (blocks.filterMap text?).getLast? with
  | some x =>
    rw [eq_comm]
    exact concat_eq_getLast hlast
  | none =>
    have hnone : blocks.filterMap text? = [] := getLast?_eq_none_iff.1 hlast
    have hhead : blocks.head?.elim "" getText = "" := by
      cases blocks with
      | nil => rfl
      | cons b blocks => cases b with
        | text content => simp [text?] at hnone
        | _ => rfl
    rw [hnone, hhead]
    simp [concat]

/-! ### The streamed reply -/

def ChatClient.readEvent (r : ChatClient) (e : ClaudeEvent) : ChatClient := (streamResponseClaude2OpenAI e).elim r r.read

open ChatClient

lemma readStream_eq (events : List (Option ClaudeEvent)) :
    readStream events = (events.filterMap fun e => e).foldl readEvent {} := by
  have hread : ∀ (events : List (Option ClaudeEvent)) (r : ChatClient),
      (events.filterMap fun e => e.bind streamResponseClaude2OpenAI).foldl .read r =
        (events.filterMap fun e => e).foldl .readEvent r := by
    intro events
    induction events with
    | nil => exact fun _ => rfl
    | cons e events ih =>
      intro r
      cases e with
      | none => exact ih r
      | some e =>
        have hhead : (some e :: events).filterMap (fun e => e) = e :: events.filterMap fun e => e := rfl
        rw [hhead, foldl_cons, ← ih, filterMap_cons, Option.bind_some]
        unfold readEvent
        cases streamResponseClaude2OpenAI e <;> rfl
  exact hread events {}

variable (number : ℕ)

lemma addArguments_append (a b : String) (calls : List (ℕ × ToolCall)) :
    addArguments number b (addArguments number a calls) = addArguments number (a ++ b) calls := by
  unfold addArguments
  rw [List.map_map]
  refine List.map_congr_left fun x _ => ?_
  by_cases hx : x.1 = number
  · simp [hx, String.append_assoc]
  · simp [hx]

lemma addToolCalls_addArguments (id name a b : String) (calls : List (ℕ × ToolCall)) :
    addArguments number b (addToolCalls 0 [⟨some number, id, name, a⟩] calls) =
      addToolCalls 0 [⟨some number, id, name, a ++ b⟩] calls := by
  by_cases hmem : number ∈ calls.map Prod.fst
  · simp only [addToolCalls, Option.getD_some, if_pos hmem]
    exact addArguments_append number a b calls
  · simp only [addToolCalls, Option.getD_some, if_neg hmem]
    rw [addArguments, List.map_append]
    refine congrArg₂ _ (addArguments_of_not_mem hmem b) ?_
    simp

def Cut.calls (index : ℕ) : Cut J → List (ℕ × ToolCall) → List (ℕ × ToolCall)
  | .toolUse id name _ pieces, calls => addToolCalls 0 [⟨some (fcIdx index), id, name, concat pieces⟩] calls
  | _, calls => calls

lemma mem_addToolCalls (id name arguments : String) (calls : List (ℕ × ToolCall)) :
    number ∈ (addToolCalls 0 [⟨some number, id, name, arguments⟩] calls).map Prod.fst := by
  by_cases hmem : number ∈ calls.map Prod.fst
  · simpa [addToolCalls, if_pos hmem] using hmem
  · simp [addToolCalls, if_neg hmem]

structure HasRead (text : String) (calls : List (ℕ × ToolCall)) (r : ChatClient) : Prop where
  text : r.reply.text = text
  calls : r.reply.calls = calls
  running : r.finishReason = none

variable {text : String} {calls : List (ℕ × ToolCall)} {r : ChatClient}

section

variable (h : HasRead text calls r)

include h

lemma HasRead.content (t : String) : HasRead (text ++ t) calls (r.read (chunkOf { content := some t })) :=
  ⟨congrArg (· ++ t) h.text, h.calls, h.running⟩

lemma HasRead.reasoning (t : Option String) :
    HasRead text calls (r.read (chunkOf { reasoningContent := t })) := by
  refine ⟨?_, h.calls, h.running⟩
  show r.reply.text ++ "" = text
  rw [append_empty, h.text]

lemma HasRead.toolCall (toolCall : ToolCallResponse) :
    HasRead text (addToolCalls 0 [toolCall] calls) (r.read (chunkOf { toolCalls := [toolCall] })) := by
  refine ⟨?_, ?_, h.running⟩
  · show r.reply.text ++ "" = text
    rw [append_empty, h.text]
  · show addToolCalls 0 [toolCall] r.reply.calls = addToolCalls 0 [toolCall] calls
    rw [h.calls]

end

section

variable (h : HasRead text calls r) (index : ℕ)

include h

variable (pieces : List String)

lemma HasRead.textPieces : HasRead (text ++ concat pieces) calls
      ((pieces.map fun piece => .contentBlockDelta index (.text piece)).foldl readEvent r) := by
  induction pieces generalizing text r with
  | nil =>
    show HasRead (text ++ "") calls r
    rwa [append_empty]
  | cons piece pieces ih =>
    show HasRead (text ++ (piece ++ concat pieces)) calls _
    rw [← String.append_assoc]
    exact ih (h.content piece)

lemma HasRead.thinkingPieces (pieces : List (Option String)) : HasRead text calls
      ((pieces.map fun piece => .contentBlockDelta index (piece.elim .signature .thinking)).foldl readEvent r) := by
  induction pieces generalizing r with
  | nil => exact h
  | cons piece pieces ih =>
    cases piece with
    | none | some thinking => exact ih (h.reasoning _)

lemma HasRead.inputPieces (hmem : fcIdx index ∈ calls.map Prod.fst) :
    HasRead text (addArguments (fcIdx index) (concat pieces) calls)
      ((pieces.map fun piece => .contentBlockDelta index (.inputJson piece)).foldl readEvent r) := by
  induction pieces generalizing calls r with
  | nil =>
    show HasRead text (addArguments (fcIdx index) "" calls) r
    rwa [addArguments_empty]
  | cons piece pieces ih =>
    have hpiece : addToolCalls 0 [{ index := some (fcIdx index), arguments := piece }] calls =
        addArguments (fcIdx index) piece calls := by
      simp [addToolCalls, if_pos hmem]
    show HasRead text (addArguments (fcIdx index) (piece ++ concat pieces) calls) _
    rw [← addArguments_append, ← hpiece]
    refine ih (h.toolCall _) ?_
    rwa [hpiece, addArguments_fst]

end

lemma HasRead.cut (h : HasRead text calls r) (index : ℕ) (cut : Cut J) :
    HasRead (text ++ cut.block.getText) (cut.calls index calls) ((cut.events index).foldl readEvent r) := by
  -- the event that stops the block is not sent
  cases cut with
  | text first pieces =>
    rw [Cut.events, foldl_append]
    show HasRead (text ++ (first ++ concat pieces)) calls _
    rw [← String.append_assoc]
    exact (h.content first).textPieces index pieces
  | thinking first pieces =>
    rw [Cut.events, foldl_append]
    show HasRead (text ++ "") calls _
    rw [append_empty]
    exact (h.reasoning none).thinkingPieces index pieces
  | toolUse id name input pieces =>
    rw [Cut.events, foldl_append]
    show HasRead (text ++ "") (addToolCalls 0 [⟨some (fcIdx index), id, name, concat pieces⟩] calls) _
    have hcalls := addToolCalls_addArguments (fcIdx index) id name "" (concat pieces) calls
    rw [empty_append] at hcalls
    rw [append_empty, ← hcalls]
    exact (h.toolCall _).inputPieces index pieces (mem_addToolCalls _ _ _ _ _)

def callsFrom : ℕ → List (Cut J) → List (ℕ × ToolCall) → List (ℕ × ToolCall)
  | _, [], calls => calls
  | index, cut :: cuts, calls => callsFrom (index + 1) cuts (cut.calls index calls)

lemma HasRead.blocks (h : HasRead text calls r) (index : ℕ) (cuts : List (Cut J)) :
    HasRead (text ++ concat (cuts.map fun cut => cut.block.getText)) (callsFrom index cuts calls)
      ((blockEvents index cuts).foldl readEvent r) := by
  induction cuts generalizing text calls r index with
  | nil =>
    show HasRead (text ++ "") calls r
    rwa [append_empty]
  | cons cut cuts ih =>
    rw [blockEvents, foldl_append]
    show HasRead (text ++ (cut.block.getText ++ concat (cuts.map fun cut => cut.block.getText))) _ _
    rw [← String.append_assoc]
    exact ih (h.cut index cut) _

/-! ### The tool calls of a stream -/

def Cut.call? : Cut J → Option ToolCall
  | .toolUse id name _ pieces => some ⟨id, name, concat pieces⟩
  | _ => none

variable (cuts : List (Cut J))

lemma callsFrom_snd {index : ℕ} (hpos : 0 < index) (hnumbers : ∀ n ∈ calls.map Prod.fst, n + 1 < index) :
    (callsFrom index cuts calls).map Prod.snd = calls.map Prod.snd ++ cuts.filterMap Cut.call? := by
  induction cuts generalizing index calls with
  | nil => simp [callsFrom]
  | cons cut cuts ih =>
    have hlater : ∀ n ∈ calls.map Prod.fst, n + 1 < index + 1 := by
      intro n hn
      have hlt := hnumbers n hn
      omega
    cases cut with
    | toolUse id name input pieces =>
      have hnew : fcIdx index ∉ calls.map Prod.fst := by
        intro hmem
        have hlt := hnumbers _ hmem
        unfold fcIdx at hlt
        omega
      have hcalls : Cut.calls index (.toolUse id name input pieces) calls = calls ++ [(fcIdx index, ⟨id, name, concat pieces⟩)] :=
        if_neg hnew
      have hhead : .filterMap Cut.call? (.toolUse id name input pieces :: cuts) =
          ⟨id, name, concat pieces⟩ :: cuts.filterMap Cut.call? := rfl
      rw [callsFrom, hcalls, ih (Nat.succ_pos _), hhead]
      · simp
      · intro n hn
        rw [List.map_append, List.mem_append] at hn
        rcases hn with hn | hn
        · exact hlater n hn
        · rw [List.mem_singleton.1 hn]
          show index - 1 + 1 < index + 1
          omega
    | text first pieces | thinking first pieces => exact ih (Nat.succ_pos _) hlater

def startsWithTwoCalls : List (ReplyBlock J) → Bool
  | .toolUse .. :: .toolUse .. :: _ => true
  | _ => false

lemma callsFrom_two {id name id' name' : String} {input input' : J} {pieces pieces' : List String} :
    (callsFrom 0 (.toolUse id name input pieces :: .toolUse id' name' input' pieces' :: cuts) []).length =
      (cuts.filterMap Cut.call?).length + 1 := by
  have hcalls : callsFrom 0 (.toolUse id name input pieces :: .toolUse id' name' input' pieces' :: cuts) [] =
      callsFrom 2 cuts [(0, ⟨id, name, concat pieces ++ concat pieces'⟩)] := by
    simp [callsFrom, Cut.calls, addToolCalls, fcIdx, addArguments]
  have hsnd : (callsFrom 2 cuts [(0, ⟨id, name, concat pieces ++ concat pieces'⟩)]).map Prod.snd = _ :=
    callsFrom_snd cuts Nat.two_pos (by simp)
  rw [hcalls, ← List.length_map Prod.snd, hsnd]
  simp

variable {cuts : List (Cut J)}

lemma callsFrom_zero (h : startsWithTwoCalls (cuts.map Cut.block) = false) :
    (callsFrom 0 cuts []).map Prod.snd = cuts.filterMap Cut.call? := by
  have hone : ∀ cuts : List (Cut J), (callsFrom 1 cuts []).map Prod.snd = cuts.filterMap Cut.call? := fun cuts =>
    callsFrom_snd cuts Nat.one_pos (by simp)
  cases cuts with
  | nil => rfl
  | cons cut cuts =>
    cases cut with
    | text first pieces | thinking first pieces => exact hone cuts
    | toolUse id name input pieces =>
      -- the block after the tool call is not one, so that the index 0 is not used again
      have htwo : ∀ cuts : List (Cut J), (callsFrom 2 cuts [(0, ⟨id, name, concat pieces⟩)]).map Prod.snd =
          [⟨id, name, concat pieces⟩] ++ cuts.filterMap Cut.call? := fun cuts => callsFrom_snd cuts Nat.two_pos (by simp)
      cases cuts with
      | nil => rfl
      | cons cut' cuts =>
        cases cut' with
        | text first' pieces' | thinking first' pieces' => exact htwo cuts
        | toolUse => cases h

lemma concat_getText :
    concat (cuts.map fun cut => cut.block.getText) = concat ((cuts.map Cut.block).filterMap text?) := by
  induction cuts with
  | nil => rfl
  | cons cut cuts ih =>
    cases cut with
    | text first pieces => exact congrArg (first ++ concat pieces ++ ·) ih
    | thinking first pieces | toolUse id name input pieces => exact (empty_append).trans ih

lemma length_calls :
    ((cuts.map Cut.block).filterMap ReplyBlock.call?).length = (cuts.filterMap Cut.call?).length := by
  induction cuts with
  | nil => rfl
  | cons cut cuts ih =>
    cases cut with
    | text first pieces | thinking first pieces => exact ih
    | toolUse id name input pieces => exact congrArg Nat.succ ih

def Cut.Streamed : Cut J → Prop
  | .toolUse _ _ _ pieces => concat pieces ≠ ""
  | _ => True

lemma streamed_calls_iff (hlegal : ∀ cut ∈ cuts, cut.Legal codec) :
    (cuts.filterMap Cut.call?).map (fun c => c.said codec.unmarshal) = (cuts.map Cut.block).filterMap ReplyBlock.call? ↔
      ∀ cut ∈ cuts, cut.Streamed := by
  induction cuts with
  | nil => simp
  | cons cut cuts ih =>
    have htail := ih fun c hc => hlegal c (.tail _ hc)
    have hcut := hlegal cut (.head _)
    rw [List.forall_mem_cons, ← htail]
    cases cut with
    | text first pieces | thinking first pieces => exact ⟨fun h => ⟨trivial, h⟩, fun h => h.2⟩
    | toolUse id name input pieces =>
      show (id, name, codec.unmarshal (concat pieces)) :: _ = (id, name, some input) :: _ ↔ concat pieces ≠ "" ∧ _
      rw [List.cons.injEq]
      refine and_congr ?_ Iff.rfl
      constructor
      · intro h hempty
        rw [hempty, codec.unmarshal_nothing] at h
        cases h
      · intro hne
        rcases hcut with hinput | hempty
        · rw [hinput]
        · exact absurd hempty.1 hne

variable {stopReason : String}

lemma stopReason_ne_null (h : stopReason ≠ "null") : stopReasonClaude2OpenAI stopReason ≠ "null" := by
  unfold stopReasonClaude2OpenAI
  split
  all_goals first | exact h | decide

lemma readStream_spec {events : List (Option ClaudeEvent)}
    (h : StreamOf cuts stopReason events) :
    (readStream events).reply.text = concat ((cuts.map Cut.block).filterMap text?) ∧
      (readStream events).reply.calls = callsFrom 0 cuts [] ∧
      (readStream events).finishReason = some (stopReasonClaude2OpenAI stopReason) := by
  rcases h.events with ⟨id, model, usage, usage', hevents⟩
  have hstart : HasRead "" [] (.readEvent {} (.messageStart id model usage)) := ⟨rfl, rfl, rfl⟩
  have hblocks := hstart.blocks 0 cuts
  rw [empty_append, concat_getText] at hblocks
  rw [readStream_eq, hevents, replyEvents, cons_append, foldl_cons, foldl_append]
  set r := (blockEvents 0 cuts).foldl .readEvent (readEvent {} (.messageStart id model usage))
  refine ⟨?_, hblocks.calls, ?_⟩
  · show r.reply.text ++ "" = _
    rw [append_empty, hblocks.text]
  · show (if stopReasonClaude2OpenAI stopReason ≠ "null" then some (stopReasonClaude2OpenAI stopReason)
      else none).or r.finishReason = _
    rw [if_pos (stopReason_ne_null h.stopReason)]
    rfl

/-- **A client reads the whole reply from its stream and from the complete reply exactly if the reply meets these conditions.** -/
theorem reply_said_iff (codec : Codec J) {cuts : List (Cut J)} (hlegal : ∀ cut ∈ cuts, cut.Legal codec) {stopReason : String}
    {events : List (Option ClaudeEvent)} (hevents : StreamOf cuts stopReason events) :
    ((readStream events).said codec.unmarshal = saidBy (cuts.map Cut.block) stopReason ∧
        (responseClaude2OpenAI codec.marshal (cuts.map Cut.block) stopReason).said codec.unmarshal =
          saidBy (cuts.map Cut.block) stopReason) ↔
      (∀ x ∈ ((cuts.map Cut.block).filterMap ReplyBlock.text?).dropLast, x = "") ∧
        startsWithTwoCalls (cuts.map Cut.block) = false ∧ ∀ cut ∈ cuts, cut.Streamed := by
  rw [response_said_iff, and_comm]
  refine and_congr .rfl ?_
  rcases readStream_spec hevents with ⟨htext, hcalls, hfinish⟩
  have hsaid : (readStream events).said codec.unmarshal = saidBy (cuts.map Cut.block) stopReason ↔
      (callsFrom 0 cuts []).map (fun x => x.2.said codec.unmarshal) = (cuts.map Cut.block).filterMap ReplyBlock.call? := by
    unfold said
    rw [htext, hcalls, hfinish, Said.mk.injEq]
    constructor
    · intro h
      exact h.2.1
    · intro h
      exact ⟨rfl, h, rfl⟩
  have hmap : (callsFrom 0 cuts []).map (fun x => x.2.said codec.unmarshal) =
      ((callsFrom 0 cuts []).map Prod.snd).map fun c => c.said codec.unmarshal := by
    rw [List.map_map]
    rfl
  rw [hsaid]
  cases hstart : startsWithTwoCalls (cuts.map Cut.block) with
  | false =>
    rw [hmap, callsFrom_zero hstart, streamed_calls_iff codec hlegal]
    simp
  | true =>
    refine ⟨fun h => absurd (congrArg List.length h) ?_, fun h => nomatch h.1⟩
    rw [List.length_map, length_calls]
    match cuts, hstart with
    | .toolUse id name input pieces :: .toolUse id' name' input' pieces' :: cuts, _ =>
      rw [callsFrom_two]
      show (cuts.filterMap Cut.call?).length + 1 ≠ (cuts.filterMap Cut.call?).length + 1 + 1
      omega

def flagCodec : Codec Bool where
  marshal b := if b then "\x7b\"a\":1\x7d" else "\x7b\x7d"
  unmarshal s := if s = "\x7b\"a\":1\x7d" then some true else if s = "\x7b\x7d" then some false else none
  empty := false
  unmarshal_marshal := by decide
  unmarshal_nothing := by decide

def plannedCalls : List (Cut Bool) :=
  [.thinking "" [some "Hm.", none], .text "" ["Let me", " see."], .toolUse "a" "read" true ["\x7b\"a\"", ":1\x7d"],
    .toolUse "b" "list" false ["\x7b\x7d"]]

theorem reply_said_iff_planned :
    (readStream ((replyEvents "m" "claude" {} {} plannedCalls "tool_use").map some)).said flagCodec.unmarshal =
        saidBy (plannedCalls.map Cut.block) "tool_use" ∧
      (responseClaude2OpenAI flagCodec.marshal (plannedCalls.map Cut.block) "tool_use").said flagCodec.unmarshal =
        saidBy (plannedCalls.map Cut.block) "tool_use" := by
  have hlegal : ∀ cut ∈ plannedCalls, cut.Legal flagCodec := by
    simp [plannedCalls, Cut.Legal]
    decide
  have hevents : StreamOf plannedCalls "tool_use" ((replyEvents "m" "claude" {} {} plannedCalls "tool_use").map some) :=
    ⟨⟨"m", "claude", {}, {}, by simp⟩, by decide⟩
  refine (reply_said_iff flagCodec hlegal hevents).2 ⟨by decide, rfl, ?_⟩
  simp [plannedCalls, Cut.Streamed]
  decide

def surroundedCalls : List (Cut Bool) :=
  [.text "" ["One"], .toolUse "a" "read" true ["\x7b\"a\":1\x7d"], .text "" [" two."]]

def bareCalls : List (Cut Bool) := [.toolUse "a" "read" false [""], .toolUse "b" "list" true ["\x7b\"a\":1\x7d"]]

/-- The first text is not in the complete reply; of two tool calls at the start the second is read as part of the first. -/
theorem bare_calls_merged :
    ((readStream ((replyEvents "m" "claude" {} {} surroundedCalls "end_turn").map some)).reply.text = "One two." ∧
      (responseClaude2OpenAI flagCodec.marshal (surroundedCalls.map Cut.block) "end_turn").text = " two.") ∧
    (readStream ((replyEvents "m" "claude" {} {} bareCalls "tool_use").map some)).reply.calls =
        [(0, ⟨"a", "read", "\x7b\"a\":1\x7d"⟩)] ∧
      (responseClaude2OpenAI flagCodec.marshal (bareCalls.map Cut.block) "tool_use").toolCalls =
        [⟨"a", "read", "\x7b\x7d"⟩, ⟨"b", "list", "\x7b\"a\":1\x7d"⟩] := by
  decide

end StarNexus.Convert
