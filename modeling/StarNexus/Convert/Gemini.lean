import StarNexus.Convert.Chat
import StarNexus.Lib.Checked
import Mathlib.Data.Rat.Floor

/-!
# Gemini requests as chat requests

`GeminiToOpenAIRequest` makes chat messages of the contents of a Gemini request.  A content becomes one tool message for
each of its function responses, followed by a message with its function calls or its texts and media.  Gemini links a
response to its call by the name of the function; the chat format links them by an id, which the conversion makes up
from the number of calls it has seen in the same content.
-/

namespace StarNexus.Convert

open Lib List

/-- `GeminiPart`; `J` are the arguments of calls and the values of responses. -/
structure GeminiPart (J : Type) where
  text : String := ""
  /-- The media type and the data of `InlineData`. -/
  inlineData : Option (String × String) := none
  /-- The media type and the address of `FileData`. -/
  fileData : Option (String × String) := none
  functionCall : Option (String × J) := none
  functionResponse : Option (String × J) := none

/-- `GeminiChatContent`. -/
structure GeminiContent (J : Type) where
  role : String := ""
  parts : List (GeminiPart J) := []

structure FunctionRequest (J : Type) where
  name : String
  description : String
  parameters : J

/-- `GeminiChatGenerationConfig`, as far as the conversion reads it. -/
structure GeminiGenerationConfig where
  temperature : Option ℚ := none
  topP : Option ℚ := none
  topK : Option ℚ := none
  maxOutputTokens : Option ℕ := none
  stopSequences : Slice String := ⟨[], []⟩
  candidateCount : Option ℤ := none

/-- `GeminiChatRequest`.  A tool has no function declarations, some that do not parse (`some none`) or a list. -/
structure GeminiRequest (J : Type) where
  contents : List (GeminiContent J) := []
  generationConfig : GeminiGenerationConfig := {}
  tools : List (Option (Option (List (FunctionRequest J)))) := []
  systemInstructions : Option (GeminiContent J) := none

structure GeminiChat (J : Type) where
  messages : List Message
  temperature : Option ℚ
  topP : Option ℚ
  topK : Option ℤ
  maxTokens : Option ℕ
  stop : Option (List String)
  n : Option ℤ
  tools : List (FunctionRequest J)

variable {J : Type}

/-! ## The conversion -/

def convertGeminiRoleToOpenAI (geminiRole : String) : String :=
  if geminiRole = "user" then "user"
  else if geminiRole = "model" then "assistant"
  else if geminiRole = "function" then "function"
  else "user"

def extractTextFromGeminiParts (parts : List (GeminiPart J)) : String :=
  "\n".intercalate ((parts.map (·.text)).filter (· ≠ ""))

inductive PartKind (J : Type) where
  | media (content : MediaContent)
  | call (name : String) (arguments : J)
  | response (name : String) (response : J)
  | nothing

def GeminiPart.kind (part : GeminiPart J) : PartKind J :=
  if part.text ≠ "" then .media (.text part.text none)
  else
    match part.inlineData, part.fileData, part.functionCall, part.functionResponse with
    | some (mimeType, data), _, _, _ => .media (.imageUrl ("data:" ++ mimeType ++ ";base64," ++ data))
    | none, some (_, fileUri), _, _ => .media (.imageUrl fileUri)
    | none, none, some (name, arguments), _ => .call name arguments
    | none, none, none, some (name, response) => .response name response
    | none, none, none, none => .nothing

structure PartState where
  messages : List Message := []
  mediaContents : List MediaContent := []
  toolCalls : List ToolCallRequest := []

def callId (n : ℕ) : String := "call_" ++ n.repr

section convert

variable (toJSONString : J → String)

def convertPart (acc : PartState) (part : GeminiPart J) : PartState :=
  match part.kind with
  | .media content => { acc with mediaContents := acc.mediaContents ++ [content] }
  | .call name arguments =>
    { acc with toolCalls := acc.toolCalls ++ [⟨callId (acc.toolCalls.length + 1), name, toJSONString arguments⟩] }
  | .response _ response =>
    { acc with
      messages := acc.messages ++ [{ role := "tool", toolCallId := callId acc.toolCalls.length,
                                     content := .string (toJSONString response) }] }
  | .nothing => acc

def mediaContent : List MediaContent → MessageContent
  | [] => .null
  | [.text text _] => .string text
  | contents => .media contents

def convertContent (messages : List Message) (content : GeminiContent J) : List Message :=
  let acc := content.parts.foldl (convertPart toJSONString) { messages }
  let message : Message :=
    { role := convertGeminiRoleToOpenAI content.role
      toolCalls := if acc.toolCalls = [] then none else some acc.toolCalls
      content := if acc.toolCalls = [] then mediaContent acc.mediaContents else .null }
  if message.content.parseContent ≠ [] ∨ message.toolCalls.isSome then acc.messages ++ [message] else acc.messages

def systemMessages (systemInstructions : Option (GeminiContent J)) : List Message :=
  systemInstructions.toList.map fun content =>
    { role := "system", content := .string (extractTextFromGeminiParts content.parts) }

/-- The stop sequences: Gemini allows five of them, the chat format four. -/
def convertStop (stopSequences : Slice String) : Checked (Option (List String)) :=
  if 0 < stopSequences.elems.length then do
    let stop ← stopSequences.upTo 4
    pure (some stop)
  else pure none

def geminiToOpenAIRequest (req : GeminiRequest J) : Checked (GeminiChat J) := do
  let config := req.generationConfig
  let stop ← convertStop config.stopSequences
  pure
    { messages := systemMessages req.systemInstructions ++ req.contents.foldl (convertContent toJSONString) []
      temperature := config.temperature
      topP := config.topP.filter (0 < ·)
      topK := (config.topK.filter (0 < ·)).map Int.floor
      maxTokens := config.maxOutputTokens.filter (0 < ·)
      stop
      n := config.candidateCount.filter (0 < ·)
      tools := req.tools.flatMap fun declarations => (declarations.getD (some [])).getD [] }

end convert

/-! ## Links -/

def Message.callIds (m : Message) : List String := (m.toolCalls.getD []).map (·.id)

/-- Every tool message answers, for the function that is next in `names`, a call that is `waiting` under its id. -/
def Answered : (waiting : List (String × String)) → (names : List String) → List Message → Prop
  | _, _, [] => True
  | waiting, names, m :: rest =>
    if m.role = "tool" then
      match names with
      | [] => False
      | name :: names =>
        (m.toolCallId, name) ∈ waiting ∧ Answered (waiting.erase (m.toolCallId, name)) names rest
    else Answered (waiting ++ (m.toolCalls.getD []).map fun c => (c.id, c.name)) names rest

/-- The ids of calls are distinct, and the tool messages, for the functions `names`, answer different earlier calls. -/
structure Linked (names : List String) (messages : List Message) : Prop where
  distinct : (messages.flatMap Message.callIds).Nodup
  answered : Answered [] names messages

def GeminiPart.called (part : GeminiPart J) : Option String :=
  match part.kind with
  | .call name _ => some name
  | _ => none

def GeminiPart.answered (part : GeminiPart J) : Option String :=
  match part.kind with
  | .response name _ => some name
  | _ => none

def GeminiContent.calls (content : GeminiContent J) : List String := content.parts.filterMap GeminiPart.called

def GeminiContent.answers (content : GeminiContent J) : List String := content.parts.filterMap GeminiPart.answered

def GeminiRequest.answers (req : GeminiRequest J) : List String := req.contents.flatMap GeminiContent.answers

/-- Every response follows a call of its function that no other response answers. -/
def FollowsCalls : (waiting : List String) → List (GeminiPart J) → Prop
  | _, [] => True
  | waiting, part :: rest =>
    match part.kind with
    | .call name _ => FollowsCalls (name :: waiting) rest
    | .response name _ => name ∈ waiting ∧ FollowsCalls (waiting.erase name) rest
    | _ => FollowsCalls waiting rest

/-! ### What a tool message may answer -/

variable {m : Message} {names : List String} {waiting : List (String × String)} {rest : List Message}

lemma answered_tool_cons
    (hm : m.role = "tool") :
    Answered waiting names (m :: rest) ↔ ∃ name names', names = name :: names' ∧ (m.toolCallId, name) ∈ waiting ∧
      Answered (waiting.erase (m.toolCallId, name)) names' rest := by
  cases names <;> simp [Answered, hm]

lemma answered_cons
    (hm : m.role ≠ "tool") :
    Answered waiting names (m :: rest) ↔
      Answered (waiting ++ (m.toolCalls.getD []).map fun c => (c.id, c.name)) names rest := by
  cases names <;> simp [Answered, hm]

open Message

lemma Answered.toolCallId_mem {pre post : List Message} (hm : m.role = "tool") :
    ∀ {waiting : List (String × String)} {names : List String}, Answered waiting names (pre ++ m :: post) →
      m.toolCallId ∈ waiting.map Prod.fst ++ pre.flatMap callIds := by
  induction pre with
  | nil =>
    intro waiting names h
    obtain ⟨name, names', -, hmem, -⟩ := (answered_tool_cons hm).1 h
    exact mem_append_left _ (mem_map_of_mem hmem)
  | cons x pre ih =>
    intro waiting names h
    by_cases hx : x.role = "tool"
    · obtain ⟨name, names', -, -, h⟩ := (answered_tool_cons hx).1 h
      rcases mem_append.1 (ih h) with hmem | hmem
      · exact mem_append_left _ (map_subset _ erase_subset hmem)
      · exact mem_append_right _ (mem_append_right _ hmem)
    · rcases mem_append.1 (ih ((answered_cons hx).1 h)) with hmem | hmem
      · rw [map_append] at hmem
        rcases mem_append.1 hmem with hmem | hmem
        · exact mem_append_left _ hmem
        · refine mem_append_right _ (mem_append_left _ ?_)
          rw [map_map] at hmem
          exact hmem
      · exact mem_append_right _ (mem_append_right _ hmem)

lemma answered_of_no_tool {messages : List Message} (h : ∀ m ∈ messages, m.role ≠ "tool")
    (waiting : List (String × String)) (names : List String) : Answered waiting names messages := by
  induction messages generalizing waiting with
  | nil => cases names <;> trivial
  | cons m messages ih =>
    rw [answered_cons (h m (.head _))]
    exact ih (fun x hx => h x (.tail _ hx)) _

/-! ### What a content is turned into -/

open GeminiContent

open GeminiPart

section converted

variable (toJSONString : J → String)

def partCalls : ℕ → List (GeminiPart J) → List ToolCallRequest
  | _, [] => []
  | n, part :: rest =>
    match part.kind with
    | .call name arguments => ⟨callId (n + 1), name, toJSONString arguments⟩ :: partCalls (n + 1) rest
    | _ => partCalls n rest

def partAnswers : ℕ → List (GeminiPart J) → List Message
  | _, [] => []
  | n, part :: rest =>
    match part.kind with
    | .call .. => partAnswers (n + 1) rest
    | .response _ response =>
      { role := "tool", toolCallId := callId n, content := .string (toJSONString response) } :: partAnswers n rest
    | _ => partAnswers n rest

variable (parts : List (GeminiPart J))

lemma foldl_convertPart (acc : PartState) : (parts.foldl (convertPart toJSONString) acc).messages =
        acc.messages ++ partAnswers toJSONString acc.toolCalls.length parts ∧
      (parts.foldl (convertPart toJSONString) acc).toolCalls =
        acc.toolCalls ++ partCalls toJSONString acc.toolCalls.length parts := by
  induction parts generalizing acc with
  | nil => simp [partAnswers, partCalls]
  | cons part rest ih =>
    obtain ⟨hmessages, hcalls⟩ := ih (convertPart toJSONString acc part)
    rw [foldl_cons, hmessages, hcalls]
    cases hk : part.kind <;> simp [convertPart, partAnswers, partCalls, hk]

lemma partCalls_ids (n : ℕ) : (partCalls toJSONString n parts).map (·.id) =
      (range' (n + 1) (parts.filterMap called).length).map callId := by
  induction parts generalizing n with
  | nil => rfl
  | cons part rest ih =>
    cases hk : part.kind <;> simp [partCalls, called, hk, ih, range'_succ]

lemma partAnswers_spec (n : ℕ) : ∀ m ∈ partAnswers toJSONString n parts, m.role = "tool" ∧ m.toolCalls = none ∧
      ∃ k, n ≤ k ∧ k ≤ n + (parts.filterMap called).length ∧ m.toolCallId = callId k := by
  induction parts generalizing n with
  | nil => exact fun m hm => (nomatch hm)
  | cons part rest ih =>
    intro m hm
    cases hk : part.kind with
    | media content | nothing =>
      simp only [partAnswers, hk] at hm
      simpa [called, hk] using ih n m hm
    | call name arguments =>
      simp only [partAnswers, hk] at hm
      obtain ⟨hrole, hcalls, k, hn, hle, hid⟩ := ih (n + 1) m hm
      refine ⟨hrole, hcalls, k, by omega, ?_, hid⟩
      have hcalled : ((part :: rest).filterMap called).length =
          (rest.filterMap called).length + 1 := by simp [called, hk]
      omega
    | response name response =>
      simp only [partAnswers, hk] at hm
      rcases mem_cons.1 hm with rfl | hm
      · exact ⟨rfl, rfl, n, le_refl n, Nat.le_add_right _ _, rfl⟩
      · simpa [called, hk] using ih n m hm

lemma partAnswers_eq_nil_iff (n : ℕ) :
    partAnswers toJSONString n parts = [] ↔ parts.filterMap answered = [] := by
  induction parts generalizing n with
  | nil => simp [partAnswers]
  | cons part rest ih => cases hk : part.kind <;> simp [partAnswers, answered, hk, ih]

def ownMessage (role : String) (toolCalls : List ToolCallRequest) (mediaContents : List MediaContent) : List Message :=
  if toolCalls ≠ [] then [{ role := convertGeminiRoleToOpenAI role, toolCalls := some toolCalls }]
  else if mediaContents ≠ [] then [{ role := convertGeminiRoleToOpenAI role, content := mediaContent mediaContents }]
  else []

def GeminiContent.converted (content : GeminiContent J) : List Message :=
  partAnswers toJSONString 0 content.parts ++
    ownMessage content.role (partCalls toJSONString 0 content.parts)
      (content.parts.foldl (convertPart toJSONString) {}).mediaContents

lemma parseContent_mediaContent (contents : List MediaContent) :
    (mediaContent contents).parseContent = [] ↔ contents = [] := by
  unfold mediaContent
  split <;> simp_all [MessageContent.parseContent]

lemma foldl_convertPart_media (parts : List (GeminiPart J)) (acc acc' : PartState)
    (h : acc.mediaContents = acc'.mediaContents) :
    (parts.foldl (convertPart toJSONString) acc).mediaContents =
      (parts.foldl (convertPart toJSONString) acc').mediaContents := by
  induction parts generalizing acc acc' with
  | nil => exact h
  | cons part rest ih =>
    apply ih
    cases hk : part.kind <;> simp [convertPart, hk, h]

lemma convertContent_eq (messages : List Message) (content : GeminiContent J) :
    convertContent toJSONString messages content = messages ++ content.converted toJSONString := by
  obtain ⟨hmessages, hcalls⟩ := foldl_convertPart toJSONString content.parts { messages }
  have hmedia := foldl_convertPart_media toJSONString content.parts { messages } {} rfl
  unfold convertContent converted ownMessage
  simp only [hmessages, hcalls, hmedia]
  by_cases hc : partCalls toJSONString 0 content.parts = []
  · by_cases hm : (content.parts.foldl (convertPart toJSONString) {}).mediaContents = []
    · simp [hc, hm, mediaContent, MessageContent.parseContent]
    · have hp := mt (parseContent_mediaContent _).1 hm
      simp [hc, hm, hp]
  · simp [hc]

lemma foldl_convertContent (contents : List (GeminiContent J)) (messages : List Message) :
    contents.foldl (convertContent toJSONString) messages = messages ++ contents.flatMap (·.converted toJSONString) := by
  induction contents generalizing messages with
  | nil => simp
  | cons content contents ih =>
    rw [foldl_cons, ih, convertContent_eq, flatMap_cons, append_assoc]

lemma ownMessage_role {role : String} {toolCalls : List ToolCallRequest} {mediaContents : List MediaContent}
    (hm : m ∈ ownMessage role toolCalls mediaContents) : m.role ≠ "tool" := by
  have hrole : convertGeminiRoleToOpenAI role ≠ "tool" := by
    unfold convertGeminiRoleToOpenAI
    split_ifs <;> decide
  unfold ownMessage at hm
  split_ifs at hm
  · obtain rfl := mem_singleton.1 hm
    exact hrole
  · obtain rfl := mem_singleton.1 hm
    exact hrole
  · cases hm

lemma ownMessage_callIds (role : String) (toolCalls : List ToolCallRequest) (mediaContents : List MediaContent) :
    (ownMessage role toolCalls mediaContents).flatMap callIds = toolCalls.map (·.id) := by
  unfold ownMessage
  split_ifs with hcalls hmedia
  · simp [callIds]
  all_goals
    rw [not_not.1 hcalls]
    rfl

lemma converted_callIds (content : GeminiContent J) :
    (content.converted toJSONString).flatMap callIds = (range' 1 content.calls.length).map callId := by
  have hanswers : (partAnswers toJSONString 0 content.parts).flatMap callIds = [] := by
    rw [flatMap_eq_nil_iff]
    intro m hm
    rw [callIds, (partAnswers_spec toJSONString content.parts 0 m hm).2.1]
    rfl
  rw [converted, flatMap_append, hanswers, ownMessage_callIds, partCalls_ids]
  rfl

end converted

/-! ### The ids of a conversation -/

lemma callId_injective : Function.Injective callId := by
  intro a b h
  have hrepr : .ofList (Nat.toDigits 10 a) = String.ofList (Nat.toDigits 10 b) := by simpa [callId, Nat.repr] using h
  have hdigits : Nat.toDigits 10 a = Nat.toDigits 10 b := by simpa using congrArg String.toList hrepr
  calc a = .ofDigitChars 10 (Nat.toDigits 10 a) 0 := (Nat.ofDigitChars_toDigits (by decide) (by decide)).symm
    _ = .ofDigitChars 10 (Nat.toDigits 10 b) 0 := by rw [hdigits]
    _ = b := Nat.ofDigitChars_toDigits (by decide) (by decide)

lemma callIds_nodup_iff (contents : List (GeminiContent J)) :
    (contents.flatMap fun content => (range' 1 content.calls.length).map callId).Nodup ↔
      contents.Pairwise fun a b => a.calls = [] ∨ b.calls = [] := by
  have hone (content : GeminiContent J) (h : content.calls ≠ []) :
      callId 1 ∈ (range' 1 content.calls.length).map callId := by
    apply mem_map_of_mem
    have := length_pos_iff.2 h
    rw [mem_range'_1]
    omega
  rw [nodup_flatMap]
  constructor
  · rintro ⟨-, hdisjoint⟩
    refine hdisjoint.imp fun {a b} hab => ?_
    by_contra hboth
    rw [not_or] at hboth
    exact hab (hone a hboth.1) (hone b hboth.2)
  · intro h
    refine ⟨fun content _ => (nodup_range').map callId_injective, h.imp fun {a b} hab => ?_⟩
    show List.Disjoint ((range' 1 a.calls.length).map callId) ((range' 1 b.calls.length).map callId)
    rcases hab with hab | hab
    · rw [hab]
      exact disjoint_nil_left _
    · rw [hab]
      exact disjoint_nil_right _

/-! ### Conversations -/

section conversation

variable (toJSONString : J → String)

def GeminiRequest.converted (req : GeminiRequest J) : List Message :=
  systemMessages req.systemInstructions ++ req.contents.flatMap (·.converted toJSONString)

variable {req : GeminiRequest J}

lemma geminiToOpenAIRequest_messages {out : GeminiChat J}
    (h : geminiToOpenAIRequest toJSONString req = .ok out) : out.messages = req.converted toJSONString := by
  have hfold := foldl_convertContent toJSONString req.contents []
  unfold geminiToOpenAIRequest at h
  rw [hfold] at h
  dsimp only at h
  generalize convertStop req.generationConfig.stopSequences = stop at h
  cases stop with
  | ok stop =>
    obtain rfl := Checked.ok.inj h
    rfl
  | error message | panicked => cases h

lemma systemMessages_spec {systemInstructions : Option (GeminiContent J)}
    (hm : m ∈ systemMessages systemInstructions) : m.role = "system" ∧ m.toolCalls = none := by
  obtain ⟨content, -, rfl⟩ := mem_map.1 hm
  exact ⟨rfl, rfl⟩

lemma systemMessages_callIds (systemInstructions : Option (GeminiContent J)) :
    (systemMessages systemInstructions).flatMap callIds = [] := by
  rw [flatMap_eq_nil_iff]
  intro m hm
  rw [callIds, (systemMessages_spec hm).2]
  rfl

lemma contents_callIds (contents : List (GeminiContent J)) :
    (contents.flatMap (·.converted toJSONString)).flatMap callIds =
      contents.flatMap fun content => (range' 1 content.calls.length).map callId := by
  rw [flatMap_assoc]
  exact flatMap_congr fun content _ => converted_callIds toJSONString content

lemma answers_eq_nil_of_answered
    (h : Answered [] names (req.converted toJSONString))
    (hcalls : req.contents.Pairwise fun a b => a.calls = [] ∨ b.calls = []) {content : GeminiContent J}
    (hmem : content ∈ req.contents) : content.answers = [] := by
  by_contra hne
  obtain ⟨m, rest, hm⟩ : ∃ m rest, partAnswers toJSONString 0 content.parts = m :: rest :=
    exists_cons_of_ne_nil (mt (partAnswers_eq_nil_iff toJSONString content.parts 0).1 hne)
  obtain ⟨hrole, -, k, -, hk, hid⟩ := partAnswers_spec toJSONString content.parts 0 m (by rw [hm]; exact (.head _))
  obtain ⟨before, after, hcontents⟩ := append_of_mem hmem
  -- everything in front of the tool message comes from the contents before its own
  have hsplit : ∃ post, req.converted toJSONString =
      (systemMessages req.systemInstructions ++ before.flatMap (·.converted toJSONString)) ++ m :: post := by
    unfold GeminiRequest.converted
    rw [hcontents, flatMap_append, flatMap_cons]
    simp [converted, hm]
  obtain ⟨post, hsplit⟩ := hsplit
  rw [hsplit] at h
  have hwait := Answered.toolCallId_mem hrole h
  rw [map_nil, flatMap_append, systemMessages_callIds, nil_append, contents_callIds,
    hid] at hwait
  obtain ⟨earlier, hearlier, hk'⟩ := mem_flatMap.1 hwait
  obtain ⟨j, hj, hjk⟩ := mem_map.1 hk'
  obtain rfl := callId_injective hjk
  rw [mem_range'_1] at hj
  rw [hcontents] at hcalls
  have hpair := (pairwise_append.1 hcalls).2.2 earlier hearlier content (.head _)
  have hlen : 0 < earlier.calls.length ∧ 0 < content.calls.length := by
    have : j ≤ 0 + content.calls.length := hk
    omega
  rcases hpair with hpair | hpair
  all_goals simp [hpair] at hlen

/-- **Links**, in terms of the contents that have calls or responses. -/
lemma linked_iff (req : GeminiRequest J) :
    Linked req.answers (req.converted toJSONString) ↔
      (req.contents.Pairwise fun a b => a.calls = [] ∨ b.calls = []) ∧ ∀ content ∈ req.contents, content.answers = [] := by
  have hids : (req.converted toJSONString).flatMap callIds =
      req.contents.flatMap fun content => (range' 1 content.calls.length).map callId := by
    rw [GeminiRequest.converted, flatMap_append, systemMessages_callIds, nil_append, contents_callIds]
  constructor
  · rintro ⟨hdistinct, hanswered⟩
    rw [hids, callIds_nodup_iff] at hdistinct
    exact ⟨hdistinct, fun content hmem => answers_eq_nil_of_answered toJSONString hanswered hdistinct hmem⟩
  · rintro ⟨hcalls, hnone⟩
    refine ⟨by rw [hids, callIds_nodup_iff]; exact hcalls, answered_of_no_tool ?_ _ _⟩
    intro m hm
    rcases mem_append.1 hm with hm | hm
    · rw [(systemMessages_spec hm).1]
      decide
    · obtain ⟨content, hmem, hm⟩ := mem_flatMap.1 hm
      have hempty := (partAnswers_eq_nil_iff toJSONString content.parts 0).2 (hnone content hmem)
      rw [converted, hempty] at hm
      exact ownMessage_role hm

/-- **Tool calls stay linked** in a Gemini conversation exactly when at most one of its contents has calls and none has
a response. -/
theorem gemini_calls_linked_iff {req : GeminiRequest J} {out : GeminiChat J}
    (h : geminiToOpenAIRequest toJSONString req = .ok out) :
    Linked req.answers out.messages ↔
      (req.contents.Pairwise fun a b => a.calls = [] ∨ b.calls = []) ∧
        ∀ content ∈ req.contents, content.answers = [] := by
  rw [geminiToOpenAIRequest_messages toJSONString h]
  exact linked_iff toJSONString req

end conversation

def twoCalls : GeminiRequest String :=
  { contents := [⟨"user", [{ text := "Compare the two cities." }]⟩,
      ⟨"model", [{ functionCall := some ("weather", "Oslo") }, { functionCall := some ("weather", "Rome") }]⟩] }

theorem gemini_calls_linked_iff_two :
    ∃ out, geminiToOpenAIRequest id twoCalls = .ok out ∧ Linked twoCalls.answers out.messages := by
  refine ⟨_, rfl, (gemini_calls_linked_iff id rfl).2 ⟨?_, ?_⟩⟩ <;> decide

def calledTwice : GeminiRequest String :=
  { contents := [⟨"user", [{ text := "The weather in Oslo, then in Rome?" }]⟩,
      ⟨"model", [{ functionCall := some ("weather", "Oslo") }]⟩, ⟨"user", [{ functionResponse := some ("weather", "rain") }]⟩,
      ⟨"model", [{ functionCall := some ("weather", "Rome") }]⟩, ⟨"user", [{ functionResponse := some ("weather", "sun") }]⟩] }

/-- Both calls get the id `call_1`, and both tool messages the id `call_0`, which no call has. -/
theorem called_twice_not_linked :
    FollowsCalls [] (calledTwice.contents.flatMap (·.parts)) ∧
      ∃ out, geminiToOpenAIRequest id calledTwice = .ok out ∧
        out.messages.flatMap Message.callIds = ["call_1", "call_1"] ∧
        (out.messages.filter (·.role = "tool")).map (·.toolCallId) = ["call_0", "call_0"] ∧
        ¬Linked calledTwice.answers out.messages := by
  refine ⟨by simp [calledTwice, FollowsCalls, kind], _, rfl, by decide, by decide, fun h => ?_⟩
  exact absurd h.distinct (by decide)

end StarNexus.Convert
