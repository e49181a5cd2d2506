import StarNexus.Convert.Chat

/-!
# Messages requests as chat requests

`ClaudeToOpenAIRequest` turns the system prompt and the messages of a Messages request into chat messages.  A message becomes
one tool message for each of its tool results, followed by a message with either its tool calls or its texts and images.
-/

namespace StarNexus.Convert

open Lib List

inductive ImageSource
  | base64 (mediaType data : String)
  | url (mediaType url : String)
  deriving DecidableEq

inductive ResultBlock
  | text (text : String)
  | image (source : ImageSource)
  deriving DecidableEq

inductive ResultContent
  | null
  | string (content : String)
  | blocks (content : List ResultBlock)
  deriving DecidableEq

/-- `ClaudeMediaMessage` in a request; `J` are the inputs of tools.  The conversion skips blocks of other types, which may
have an id and a name. -/
inductive ClaudeMediaMessage (J : Type*)
  | text (text : String) (cacheControl : Option String)
  | image (source : ImageSource)
  | toolUse (id name : String) (input : J)
  | toolResult (toolUseId name : String) (content : ResultContent)
  | other (id name : String)
  deriving DecidableEq

/-- The content of a message; `malformed` is content that does not parse as a list of blocks. -/
inductive ClaudeContent (J : Type*)
  | string (content : String)
  | blocks (content : List (ClaudeMediaMessage J))
  | malformed
  deriving DecidableEq

inductive ClaudeRole
  | user
  | assistant

def ClaudeRole.string : ClaudeRole → String
  | .user => "user"
  | .assistant => "assistant"

structure ClaudeMessage (J : Type*) where
  role : ClaudeRole
  content : ClaudeContent J

inductive ClaudeSystem
  | absent
  | string (system : String)
  | blocks (systems : List (Option String × Option String))

structure ClaudeRequest (J : Type*) where
  system : ClaudeSystem := .absent
  messages : List (ClaudeMessage J)

variable {J : Type*}

/-! ### The conversion -/

def ClaudeMediaMessage.id : ClaudeMediaMessage J → String
  | .toolUse id .. => id
  | .other id _ => id
  | _ => ""

def ClaudeMediaMessage.name : ClaudeMediaMessage J → String
  | .toolUse _ name _ => name
  | .toolResult _ name _ => name
  | .other _ name => name
  | _ => ""

def ClaudeContent.parsed : ClaudeContent J → List (ClaudeMediaMessage J)
  | .blocks content => content
  | _ => []

def ClaudeRequest.searchToolNameByToolCallId (req : ClaudeRequest J) (toolCallId : String) : String :=
  ((req.messages.flatMap (·.content.parsed)).find? (·.id = toolCallId)).elim "" ClaudeMediaMessage.name

def ClaudeSystem.messages (isOpenRouterClaude : Bool) : ClaudeSystem → List Message
  | .absent => []
  | .string system => if system = "" then [] else [{ role := "system", content := .string system }]
  | .blocks systems =>
    if systems = [] then []
    else if isOpenRouterClaude then
      [{ role := "system", content := .media (systems.map fun system => .text (system.1.getD "") system.2) }]
    else [{ role := "system", content := .string (systems.foldl (fun systemStr system => systemStr ++ system.1.getD "") "") }]

def absentData : String := "%!s(<nil>)"

/-- The address that is written for an image.  Only the data of the source is looked at. -/
def ImageSource.imageData : ImageSource → String
  | .base64 mediaType data => "data:" ++ mediaType ++ ";base64," ++ data
  | .url mediaType _ => "data:" ++ mediaType ++ ";base64," ++ absentData

structure Collected where
  openAIMessages : List Message := []
  toolCalls : List ToolCallRequest := []
  mediaMessages : List MediaContent := []

section convert

variable (toJSONString : J → String) (marshal : List ResultBlock → String) (req : ClaudeRequest J)

def ResultContent.encoded : ResultContent → String
  | .null => "null"
  | .string content => content
  | .blocks content => marshal content

def toolMessage (toolUseId name : String) (content : ResultContent) : Message :=
  { role := "tool", name := some (if name = "" then req.searchToolNameByToolCallId toolUseId else name), toolCallId := toolUseId
    content := .string (content.encoded marshal) }

def convertBlock (acc : Collected) : ClaudeMediaMessage J → Collected
  | .text text cacheControl => { acc with mediaMessages := acc.mediaMessages ++ [.text text cacheControl] }
  | .image source => { acc with mediaMessages := acc.mediaMessages ++ [.imageUrl source.imageData] }
  | .toolUse id name input => { acc with toolCalls := acc.toolCalls ++ [⟨id, name, toJSONString input⟩] }
  | .toolResult toolUseId name content =>
    { acc with openAIMessages := acc.openAIMessages ++ [toolMessage marshal req toolUseId name content] }
  | .other .. => acc

def convertMessage (openAIMessages : List Message) (m : ClaudeMessage J) : Option (List Message) :=
  match m.content with
  | .string content => some (openAIMessages ++ [{ role := m.role.string, content := .string content }])
  | .malformed => none
  | .blocks contents =>
    let acc := contents.foldl (convertBlock toJSONString marshal req) { openAIMessages }
    let openAIMessage : Message :=
      { role := m.role.string
        toolCalls := if acc.toolCalls = [] then none else some acc.toolCalls
        content := if acc.mediaMessages ≠ [] ∧ acc.toolCalls = [] then .media acc.mediaMessages else .null }
    some (if openAIMessage.content.parseContent ≠ [] ∨ openAIMessage.toolCalls.isSome then acc.openAIMessages ++ [openAIMessage]
      else acc.openAIMessages)

def claudeToOpenAIRequest (isOpenRouterClaude : Bool) : Option (List Message) :=
  req.messages.foldlM (convertMessage toJSONString marshal req) (req.system.messages isOpenRouterClaude)

/-! ### What a message is turned into -/

def ClaudeMediaMessage.resultMessage : ClaudeMediaMessage J → Option Message
  | .toolResult toolUseId name content => some (toolMessage marshal req toolUseId name content)
  | _ => none

def ClaudeMediaMessage.toolCall : ClaudeMediaMessage J → Option ToolCallRequest
  | .toolUse id name input => some ⟨id, name, toJSONString input⟩
  | _ => none

def ClaudeMediaMessage.media : ClaudeMediaMessage J → Option MediaContent
  | .text content cacheControl => some (.text content cacheControl)
  | .image source => some (.imageUrl source.imageData)
  | _ => none

lemma foldl_convertBlock (contents : List (ClaudeMediaMessage J)) (acc : Collected) :
    contents.foldl (convertBlock toJSONString marshal req) acc =
      { openAIMessages := acc.openAIMessages ++ contents.filterMap (·.resultMessage marshal req)
        toolCalls := acc.toolCalls ++ contents.filterMap (·.toolCall toJSONString)
        mediaMessages := acc.mediaMessages ++ contents.filterMap (·.media) } := by
  induction contents generalizing acc with
  | nil => simp
  | cons b contents ih =>
    rw [List.foldl_cons, ih]
    cases b <;> simp [convertBlock, ClaudeMediaMessage.resultMessage, ClaudeMediaMessage.toolCall, ClaudeMediaMessage.media]

def ClaudeMessage.converted (m : ClaudeMessage J) : List Message :=
  let contents := m.content.parsed
  let toolCalls := contents.filterMap (·.toolCall toJSONString)
  let mediaMessages := contents.filterMap (·.media)
  match m.content with
  | .string content => [{ role := m.role.string, content := .string content }]
  | _ => contents.filterMap (·.resultMessage marshal req) ++
      (if toolCalls ≠ [] then [{ role := m.role.string, toolCalls := some toolCalls }]
        else if mediaMessages ≠ [] then [{ role := m.role.string, content := .media mediaMessages }]
        else [])

variable {m : ClaudeMessage J}

lemma convertMessage_eq (openAIMessages : List Message) (hlist : m.content ≠ .malformed) :
    convertMessage toJSONString marshal req openAIMessages m = some (openAIMessages ++ m.converted toJSONString marshal req) := by
  unfold convertMessage ClaudeMessage.converted
  cases hcontent : m.content with
  | string content => rfl
  | malformed => exact absurd hcontent hlist
  | blocks contents =>
    dsimp only
    rw [foldl_convertBlock]
    dsimp only [ClaudeContent.parsed, List.nil_append]
    by_cases hcalls : contents.filterMap (·.toolCall toJSONString) = []
    · by_cases hmedia : contents.filterMap (·.media) = []
      all_goals simp [hcalls, hmedia, MessageContent.parseContent]
    · simp [hcalls]

lemma claudeToOpenAIRequest_eq (isOpenRouterClaude : Bool) (hlists : ∀ m ∈ req.messages, m.content ≠ .malformed) :
    claudeToOpenAIRequest toJSONString marshal req isOpenRouterClaude =
      some (req.system.messages isOpenRouterClaude ++ req.messages.flatMap (·.converted toJSONString marshal req)) := by
  have hfold : ∀ (ms : List (ClaudeMessage J)) (acc : List Message), (∀ m ∈ ms, m.content ≠ .malformed) →
      ms.foldlM (convertMessage toJSONString marshal req) acc = some (acc ++ ms.flatMap (·.converted toJSONString marshal req)) := by
    intro ms
    induction ms with
    | nil => simp
    | cons m ms ih =>
      intro acc h
      rw [List.foldlM_cons, convertMessage_eq _ _ _ _ (h m (.head _)), Option.bind_eq_bind, Option.bind_some,
        ih _ fun x hx => h x (.tail _ hx), List.flatMap_cons, List.append_assoc]
  exact hfold _ _ hlists

/-! ### What is kept -/

def ImageSource.meant : ImageSource → Image
  | .base64 mediaType data => .inline ("data:" ++ mediaType ++ ";base64," ++ data)
  | .url _ address => .remote address

def ClaudeMediaMessage.item : ClaudeMediaMessage J → Option Item
  | .text content _ => some (.text content)
  | .image source => some (.image source.meant)
  | .toolUse id name input => some (.call id name (toJSONString input))
  | .toolResult toolUseId _ content => some (.result toolUseId (content.encoded marshal))
  | .other .. => none

def ClaudeMessage.items (m : ClaudeMessage J) : List Item :=
  match m.content with
  | .string content => [.text content]
  | .blocks contents => contents.filterMap (·.item toJSONString marshal)
  | .malformed => []

def Item.isRemote : Item → Bool
  | .image (.remote _) => true
  | _ => false

/-- No tool calls, or nothing but tool calls and results; images have data; no result comes after its call. -/
@[mk_iff]
structure Convertible (l : List Item) : Prop where
  apart : (∀ x ∈ l, x.kind ≠ .call) ∨ ∀ x ∈ l, x.kind = .call ∨ x.kind = .result
  inline : ∀ x ∈ l, x.isRemote = false
  before : l.Pairwise fun x y => ¬y.Answers x

instance (l : List Item) : Decidable (Convertible l) := decidable_of_iff _ (convertible_iff l).symm

variable (source : ImageSource)

lemma isRemoteImage_imageData : isRemoteImage source.imageData = false := by
  cases source <;> simp [ImageSource.imageData, isRemoteImage, isPrefixOf]

lemma read_imageData : readImageUrl source.imageData = .inline source.imageData := by
  rw [readImageUrl, isRemoteImage_imageData]
  rfl

def ClaudeMediaMessage.inlined : ClaudeMediaMessage J → Option Item
  | .text content _ => some (.text content)
  | .image source => some (.image (.inline source.imageData))
  | _ => none

lemma media_item (b : ClaudeMediaMessage J) : b.media.bind MediaContent.item = b.inlined := by
  cases b with
  | image source => simp [ClaudeMediaMessage.media, MediaContent.item, ClaudeMediaMessage.inlined, read_imageData]
  | _ => rfl

lemma filter_result (contents : List (ClaudeMediaMessage J)) :
    (contents.filterMap (·.resultMessage marshal req)).flatMap Message.items =
      (contents.filterMap (·.item toJSONString marshal)).filter (·.kind = .result) := by
  induction contents with
  | nil => rfl
  | cons b contents ih =>
    cases b <;> simpa [ClaudeMediaMessage.resultMessage, ClaudeMediaMessage.item, Item.kind, Message.items, toolMessage,
      MessageContent.stringContent] using ih

lemma filter_call (contents : List (ClaudeMediaMessage J)) :
    (contents.filterMap (·.toolCall toJSONString)).map (fun c => Item.call c.id c.name c.arguments) =
      (contents.filterMap (·.item toJSONString marshal)).filter (·.kind = .call) := by
  induction contents with
  | nil => rfl
  | cons b contents ih => cases b <;> simpa [ClaudeMediaMessage.toolCall, ClaudeMediaMessage.item, Item.kind] using ih

lemma ClaudeRole.string_ne_tool (role : ClaudeRole) : role.string ≠ "tool" := by
  cases role <;> decide

variable {contents : List (ClaudeMediaMessage J)}

lemma converted_items (hcontent : m.content = .blocks contents) :
    (m.converted toJSONString marshal req).flatMap Message.items =
      ((m.items toJSONString marshal).filter (·.kind = .result)) ++
        (if (m.items toJSONString marshal).filter (·.kind = .call) ≠ [] then (m.items toJSONString marshal).filter (·.kind = .call)
          else contents.filterMap (·.inlined)) := by
  have hmedia : (contents.filterMap (·.media)).filterMap MediaContent.item = contents.filterMap (·.inlined) := by
    rw [List.filterMap_filterMap]
    exact List.filterMap_congr fun b _ => media_item b
  have hcalls := filter_call toJSONString marshal contents
  have hitems : m.items toJSONString marshal = contents.filterMap (·.item toJSONString marshal) := by
    rw [ClaudeMessage.items, hcontent]
  unfold ClaudeMessage.converted
  rw [hitems, ← filter_result toJSONString marshal req contents, ← hcalls, hcontent]
  dsimp only [ClaudeContent.parsed]
  rw [List.flatMap_append]
  by_cases hnone : contents.filterMap (·.toolCall toJSONString) = []
  · rw [hnone, ← hmedia]
    by_cases hempty : contents.filterMap (·.media) = []
    · rw [hempty]
      rfl
    · simp [hempty, Message.items, m.role.string_ne_tool, MessageContent.parseContent]
  · simp [hnone, Message.items, m.role.string_ne_tool, MessageContent.parseContent]

def Item.isMedia (x : Item) : Bool := x.kind = .text ∨ x.kind = .image

lemma inlined_length (contents : List (ClaudeMediaMessage J)) :
    (contents.filterMap (·.inlined)).length = ((contents.filterMap (·.item toJSONString marshal)).filter Item.isMedia).length := by
  induction contents with
  | nil => rfl
  | cons b contents ih => cases b <;> simpa [ClaudeMediaMessage.inlined, ClaudeMediaMessage.item, Item.isMedia, Item.kind] using ih

lemma mem_inlined {x : Item} (hx : x ∈ contents.filterMap (·.inlined)) :
    x.isMedia ∧ x.isRemote = false := by
  obtain ⟨b, -, hb⟩ := List.mem_filterMap.1 hx
  cases b <;> cases hb <;> simp [Item.isMedia, Item.kind, Item.isRemote]

lemma inlined_eq
    (hinline : ∀ x ∈ contents.filterMap (·.item toJSONString marshal), x.isRemote = false) :
    contents.filterMap (·.inlined) = (contents.filterMap (·.item toJSONString marshal)).filter Item.isMedia := by
  induction contents with
  | nil => rfl
  | cons b contents ih =>
    have htail := ih fun x hx => hinline x (((List.sublist_cons_self b contents).filterMap _).subset hx)
    cases b with
    | image source =>
      cases source with
      | base64 mediaType data =>
        simpa [ClaudeMediaMessage.inlined, ClaudeMediaMessage.item, Item.isMedia, Item.kind, ImageSource.meant, ImageSource.imageData]
      | url mediaType address =>
        cases hinline (.image (.remote address)) (.head _)
    | _ => simpa [ClaudeMediaMessage.inlined, ClaudeMediaMessage.item, Item.isMedia, Item.kind] using htail

def ClaudeMessage.sent (m : ClaudeMessage J) : List Item := (m.converted toJSONString marshal req).flatMap Message.items

/-- The tool results come first, then the tool calls or, if there are none, the texts and images. -/
structure Sent (l media sent : List Item) : Prop where
  eq : sent = l.filter (·.kind = .result) ++ if l.filter (·.kind = .call) ≠ [] then l.filter (·.kind = .call) else media
  length : media.length = (l.filter Item.isMedia).length
  mem : ∀ x ∈ media, x.isMedia ∧ x.isRemote = false
  inline : (∀ x ∈ l, x.isRemote = false) → media = l.filter Item.isMedia

lemma ClaudeMessage.sent_spec (hlist : m.content ≠ .malformed) :
    ∃ media, Sent (m.items toJSONString marshal) media (m.sent toJSONString marshal req) := by
  cases hcontent : m.content with
  | malformed => exact absurd hcontent hlist
  | string content =>
    have hitems : m.items toJSONString marshal = [.text content] := by rw [ClaudeMessage.items, hcontent]
    have hsent : m.sent toJSONString marshal req = [.text content] := by
      simp [ClaudeMessage.sent, ClaudeMessage.converted, hcontent, Message.items, m.role.string_ne_tool, MessageContent.parseContent,
        MediaContent.item]
    rw [hitems, hsent]
    exact ⟨[.text content], by simp [Item.kind], by rfl, by simp [Item.isMedia, Item.isRemote, Item.kind],
      fun _ => by rfl⟩
  | blocks contents =>
    have hitems : m.items toJSONString marshal = contents.filterMap (·.item toJSONString marshal) := by
      rw [ClaudeMessage.items, hcontent]
    have heq := converted_items toJSONString marshal req hcontent
    refine ⟨_, heq, ?_, fun x hx => mem_inlined hx, ?_⟩
    · rw [hitems]
      exact inlined_length toJSONString marshal contents
    · rw [hitems]
      exact inlined_eq toJSONString marshal

end convert

variable {l media sent : List Item}

lemma Sent.arranged (hsent : Sent l media sent) (h : Convertible l) : Arranged Item.Held l sent := by
  have hrest : (if l.filter (·.kind = .call) ≠ [] then l.filter (·.kind = .call) else media) =
      l.filter fun x => !decide (x.kind = .result) := by
    rw [hsent.inline h.inline]
    split_ifs with hcalls
    · obtain ⟨c, hc⟩ := exists_mem_of_ne_nil _ hcalls
      simp only [mem_filter, decide_eq_true_eq] at hc
      obtain hnone | honly := h.apart
      · exact absurd hc.2 (hnone c hc.1)
      · refine filter_congr fun x hx => ?_
        obtain hx | hx := honly x hx <;> simp [hx]
    · have hnone : ∀ x ∈ l, x.kind ≠ .call := by simpa using not_not.1 hcalls
      refine filter_congr fun x hx => ?_
      have hx := hnone x hx
      cases x <;> simp_all [Item.isMedia, Item.kind]
  rw [hsent.eq, hrest]
  refine .filter _ (h.before.imp fun {x y} hxy hx hy hheld => ?_)
  simp only [decide_eq_true_eq] at hx hy
  obtain hkind | hresult | hanswers := hheld
  · exact hx (hkind.trans hy)
  · exact hx hresult
  · exact hxy hanswers

lemma length_kinds (l : List Item) :
    l.length = (l.filter (·.kind = .result)).length + (l.filter (·.kind = .call)).length + (l.filter Item.isMedia).length := by
  induction l with
  | nil => rfl
  | cons x l ih => cases x <;> simp [Item.kind, Item.isMedia] at ih ⊢ <;> omega

lemma Sent.length_le (hsent : Sent l media sent) : sent.length ≤ l.length := by
  have hl := length_kinds l
  have hmedia := hsent.length
  rw [hsent.eq, length_append]
  split_ifs <;> omega

lemma Sent.apart (hsent : Sent l media sent) (hlength : sent.length = l.length) :
    (∀ x ∈ l, x.kind ≠ .call) ∨ ∀ x ∈ l, x.kind = .call ∨ x.kind = .result := by
  have hl := length_kinds l
  rw [hsent.eq, length_append] at hlength
  split_ifs at hlength with hcalls
  · right
    have hnone : l.filter Item.isMedia = [] := eq_nil_of_length_eq_zero (by omega)
    intro x hx
    have hx := filter_eq_nil_iff.1 hnone x hx
    cases x <;> simp_all [Item.isMedia, Item.kind]
  · left
    simpa using not_not.1 hcalls

def Item.about (id : String) : Item → Bool
  | .call id' .. => id' = id
  | .result id' _ => id' = id
  | _ => false

lemma Sent.about (hsent : Sent l media sent) (id : String) :
    sent.filter (Item.about id) = (l.filter (Item.about id)).filter (·.kind = .result) ++
      (l.filter (Item.about id)).filter (·.kind = .call) := by
  have hcalls : (if l.filter (·.kind = .call) ≠ [] then l.filter (·.kind = .call) else media).filter (Item.about id) =
      (l.filter (·.kind = .call)).filter (Item.about id) := by
    split_ifs with hcalls
    · rfl
    · rw [not_not.1 hcalls]
      refine filter_eq_nil_iff.2 fun x hx => ?_
      have hmedia := (hsent.mem x hx).1
      cases x <;> simp_all [Item.isMedia, Item.kind, Item.about]
  rw [hsent.eq, filter_append, hcalls, filter_comm, filter_comm (p := Item.about id)]

lemma about_length (l : List Item) (id : String) :
    (l.filter (Item.about id)).length = ((l.filter (Item.about id)).filter (·.kind = .result)).length +
      ((l.filter (Item.about id)).filter (·.kind = .call)).length := by
  have hmedia : (l.filter (Item.about id)).filter Item.isMedia = [] := by
    refine filter_eq_nil_iff.2 fun x hx => ?_
    cases x <;> simp_all [Item.isMedia, Item.kind, Item.about]
  have hlength := length_kinds (l.filter (Item.about id))
  rwa [hmedia] at hlength

lemma held_about {id : String} {x y : Item} (hx : x.about id = true) (hy : y.about id = true) : x.Held y := by
  cases x <;> cases y <;> simp_all [Item.about, Item.Held, Item.kind, Item.Answers]

lemma not_answers_of_about {x y : Item} (hanswers : y.Answers x) (hsub : [x, y].Sublist l)
    (h : ∀ id, l.filter (Item.about id) = (l.filter (Item.about id)).filter (·.kind = .result) ++
      (l.filter (Item.about id)).filter (·.kind = .call)) : False := by
  obtain ⟨id, content, rfl⟩ : ∃ id content, y = .result id content := by
    cases y with
    | result id content => exact ⟨id, content, rfl⟩
    | _ => exact hanswers.elim
  obtain ⟨name, arguments, rfl⟩ : ∃ name arguments, x = .call id name arguments := by
    cases x with
    | call id' name arguments =>
      obtain rfl : id = id' := hanswers
      simp
    | _ => exact hanswers.elim
  have hsub' : [Item.call id name arguments, .result id content].Sublist (l.filter (Item.about id)) := by
    simpa [Item.about] using hsub.filter (Item.about id)
  have hpairs : (l.filter (Item.about id)).Pairwise fun a b => a.kind = .result ∨ b.kind = .call := by
    rw [h id]
    refine pairwise_append.2 ⟨?_, ?_, fun a ha b _ => .inl ?_⟩
    · exact pairwise_of_forall_mem_list fun a ha b _ => .inl (by simpa using (mem_filter.1 ha).2)
    · exact pairwise_of_forall_mem_list fun a _ b hb => .inr (by simpa using (mem_filter.1 hb).2)
    · simpa using (mem_filter.1 ha).2
  have hpair := hpairs.sublist hsub'
  simp [Item.kind] at hpair

lemma Sent.isRemote (hsent : Sent l media sent) {x : Item} (hx : x ∈ sent) : x.isRemote = false := by
  rw [hsent.eq, mem_append] at hx
  have hkind : (x.kind = .result ∨ x.kind = .call) ∨ x ∈ media := by
    split_ifs at hx <;> simp only [mem_filter, decide_eq_true_eq] at hx <;> tauto
  obtain hcall | hmedia := hkind
  · cases x <;> simp_all [Item.kind, Item.isRemote]
  · exact (hsent.mem x hmedia).2

lemma convertible_of_arranged {β : Type*} {xs : List β} {f media g : β → List Item} (hsent : ∀ x ∈ xs, Sent (f x) (media x) (g x))
    (h : Arranged Item.Held (xs.flatMap f) (xs.flatMap g)) : ∀ x ∈ xs, Convertible (f x) := by
  have hlength := length_eq_of_flatMap (fun x hx => (hsent x hx).length_le) h.perm.length_eq
  intro x hx
  refine ⟨(hsent x hx).apart (hlength x hx), fun y hy => ?_, ?_⟩
  · obtain ⟨x', hx', hy'⟩ := mem_flatMap.1 (h.perm.symm.subset (mem_flatMap.2 ⟨x, hx, hy⟩))
    exact (hsent x' hx').isRemote hy'
  · refine pairwise_iff_forall_sublist.2 fun {a b} hsub hanswers => not_answers_of_about hanswers hsub fun id => ?_
    have hfilter := h.filter_eq (q := Item.about id) fun a b => held_about
    rw [filter_flatMap, filter_flatMap] at hfilter
    have hpart := eq_of_flatMap (fun x hx => ?_) hfilter x hx
    · exact hpart.symm.trans ((hsent x hx).about id)
    · rw [(hsent x hx).about, length_append, ← about_length]

/-- **Nothing is lost or moved past what holds it exactly if every message is convertible.** -/
theorem conversation_kept_iff (toJSONString : J → String) (marshal : List ResultBlock → String) (req : ClaudeRequest J)
    (isOpenRouterClaude : Bool) (hlists : ∀ m ∈ req.messages, m.content ≠ .malformed) :
    ∃ conversation, claudeToOpenAIRequest toJSONString marshal req isOpenRouterClaude =
        some (req.system.messages isOpenRouterClaude ++ conversation) ∧
      (Arranged Item.Held (req.messages.flatMap (·.items toJSONString marshal)) (conversation.flatMap Message.items) ↔
        ∀ m ∈ req.messages, Convertible (m.items toJSONString marshal)) := by
  refine ⟨_, claudeToOpenAIRequest_eq toJSONString marshal req isOpenRouterClaude hlists, ?_⟩
  choose! media hsent using fun m hm => ClaudeMessage.sent_spec toJSONString marshal req (hlists m hm)
  rw [flatMap_assoc]
  constructor
  · exact convertible_of_arranged hsent
  · intro h
    exact .flatMap fun m hm => (hsent m hm).arranged (h m hm)

def toolConversation : ClaudeRequest String where
  messages :=
    [⟨.user, .string "List them."⟩, ⟨.assistant, .blocks [.toolUse "a" "list" "1"]⟩,
      ⟨.user, .blocks [.text "And?" none, .toolResult "a" "" (.string "one"), .image (.base64 "image/png" "AA")]⟩]

theorem conversation_kept_iff_tools :
    ∃ conversation, claudeToOpenAIRequest id (fun _ => "[]") toolConversation false = some conversation ∧
      Arranged Item.Held (toolConversation.messages.flatMap (·.items id fun _ => "[]")) (conversation.flatMap Message.items) := by
  obtain ⟨conversation, hsome, hiff⟩ := conversation_kept_iff id (fun _ => "[]") toolConversation false (by decide)
  exact ⟨conversation, hsome, hiff.2 (by decide)⟩

def remarkedCall : ClaudeRequest String where
  messages :=
    [⟨.user, .blocks [.image (.url "" "https://a.b/c.png"), .text "What is it?" none]⟩,
      ⟨.assistant, .blocks [.text "Let me look." none, .toolUse "a" "look" "1"]⟩]

def answeredCall : ClaudeRequest String where
  messages := [⟨.assistant, .blocks [.toolUse "a" "look" "1", .toolResult "a" "" (.string "one")]⟩]

/-- The remark is not sent, the address of the image is not sent, and the result is sent before the call. -/
theorem remark_lost :
    (claudeToOpenAIRequest id (fun _ => "[]") remarkedCall false).map (·.flatMap Message.items) =
      some [.image (.inline "data:;base64,%!s(<nil>)"), .text "What is it?", .call "a" "look" "1"] ∧
    (claudeToOpenAIRequest id (fun _ => "[]") answeredCall false).map (·.flatMap Message.items) =
      some [.result "a" "one", .call "a" "look" "1"] ∧
    (∀ conversation, claudeToOpenAIRequest id (fun _ => "[]") remarkedCall false = some conversation →
      ¬Arranged Item.Held (remarkedCall.messages.flatMap (·.items id fun _ => "[]")) (conversation.flatMap Message.items)) := by
  refine ⟨by decide, by decide, fun conversation hsome h => ?_⟩
  obtain ⟨⟩ := hsome.symm.trans rfl
  exact absurd h.perm.length_eq (by decide)

end StarNexus.Convert
