import Mathlib.Algebra.Order.Ring.Int
import StarNexus.Convert.OpenAIToClaude

/-!
# What the built messages say

The texts, tool calls and tool results of a chat request, and those of the Messages request that is built from it.  Texts of
neighbours are joined by one space; everything else stays as it is, unless a tool call is lost or a quotation mark is trimmed
when neighbours are joined.
-/

namespace StarNexus.Convert

open List Option String

variable {J M : Type*}

inductive Part (J : Type*)
  | text (text : String)
  | call (id name : String) (input : J)
  | result (id : String) (content : MessageContent)
  deriving DecidableEq

/-- A part, with the role that it is sent under: tool results are sent by the user. -/
structure Entry (J : Type*) where
  role : String
  part : Part J
  deriving DecidableEq

def MessageContent.texts (content : MessageContent) : List String :=
  content.parseContent.filterMap fun
    | .text text _ => some text
    | _ => none

def Message.calls (m : Message) : List ToolCallRequest := if m.role = "assistant" then m.toolCalls.getD [] else []

def Message.entries (unmarshal : String → Option J) (m : Message) : List (Entry J) :=
  if m.role = "tool" then [⟨"user", .result m.toolCallId m.content⟩]
  else m.content.texts.map (fun text => ⟨m.role, .text text⟩) ++
    m.calls.filterMap fun toolCall => (unmarshal toolCall.arguments).map fun input => ⟨m.role, .call toolCall.id toolCall.name input⟩

def BuiltBlock.part : BuiltBlock J M → Option (Part J)
  | .text content => some (.text content)
  | .media _ => none
  | .toolUse id name input => some (.call id name input)
  | .toolResult toolUseId content => some (.result toolUseId content)

def BuiltMessage.entries (m : BuiltMessage J M) : List (Entry J) :=
  (m.content.asBlocks.filterMap BuiltBlock.part).map fun part => ⟨m.role, part⟩

/-- Texts of one role that follow each other may be joined by one space. -/
inductive Joined : List (Entry J) → List (Entry J) → Prop
  | nil : Joined [] []
  | keep {xs ys : List (Entry J)} (x : Entry J) : Joined xs ys → Joined (x :: xs) (x :: ys)
  | join {xs ys : List (Entry J)} (role a b : String) :
    Joined (⟨role, .text (a ++ " " ++ b)⟩ :: xs) ys → Joined (⟨role, .text a⟩ :: ⟨role, .text b⟩ :: xs) ys

/-- Every tool result answers a call that the assistant has made before; `ids` are the calls so far. -/
def AnsweredFrom (ids : List String) : List (Entry J) → Prop
  | [] => True
  | ⟨_, .text _⟩ :: rest => AnsweredFrom ids rest
  | ⟨role, .call id _ _⟩ :: rest => AnsweredFrom (if role = "assistant" then id :: ids else ids) rest
  | ⟨_, .result id _⟩ :: rest => id ∈ ids ∧ AnsweredFrom ids rest

def lead (messages : List Message) : List (Entry J) :=
  if messages.head?.any (·.role ≠ "user") then [⟨"user", .text placeholder⟩] else []

structure Kept (unmarshal : String → Option J) (messages : List Message) (req : BuiltRequest J M) : Prop where
  entries : ∃ ys, Joined (messages.flatMap (Message.entries unmarshal)) ys ∧
    req.claudeMessages.flatMap BuiltMessage.entries = lead messages ++ ys
  first : ∀ m ∈ req.claudeMessages.head?, m.role = "user"
  answered : AnsweredFrom [] (messages.flatMap (Message.entries unmarshal)) →
    AnsweredFrom [] (req.claudeMessages.flatMap BuiltMessage.entries)

def MediaContent.isText : MediaContent → Bool
  | .text content _ => content ≠ ""
  | _ => false

/-- Messages of users, assistants and tools: the texts are not empty, and the arguments of tool calls are objects. -/
@[mk_iff]
structure Message.Legal (unmarshal : String → Option J) (m : Message) : Prop where
  role : m.role = "user" ∨ m.role = "assistant" ∨ m.role = "tool"
  content : m.content ≠ .null ∧ ∀ part ∈ m.content.parseContent, part.isText = true
  arguments : ∀ toolCall ∈ m.calls, (unmarshal toolCall.arguments).isSome
  toolCalls : m.role ≠ "assistant" → m.toolCalls = none

instance (unmarshal : String → Option J) (m : Message) : Decidable (m.Legal unmarshal) :=
  decidable_of_iff _ (Message.legal_iff unmarshal m).symm

def startsQuoted (s : String) : Bool := s.toList.head? = some quote

def endsQuoted (s : String) : Bool := s.toList.getLast? = some quote

/-- No tool calls in the first, no quotation mark at the end of the second or at the start of all (`fresh`: `m` is the
first). -/
def PlainFrom (fresh : Bool) : Message → List Message → Prop
  | _, [] => True
  | m, m' :: rest =>
    if m.merges m' then
      m.calls = [] ∧ (fresh = true → startsQuoted m.content.stringContent = false) ∧ endsQuoted m'.content.stringContent = false ∧
        PlainFrom false m' rest
    else PlainFrom true m' rest

def Plain : List Message → Prop
  | [] => True
  | m :: rest => PlainFrom true m rest

instance PlainFrom.decidable : ∀ fresh m rest, Decidable (PlainFrom fresh m rest)
  | _, _, [] => isTrue trivial
  | _, m, m' :: rest =>
    have := PlainFrom.decidable false m' rest
    have := PlainFrom.decidable true m' rest
    inferInstanceAs (Decidable (if m.merges m' then _ else _))

instance : ∀ messages, Decidable (Plain messages)
  | [] => isTrue trivial
  | m :: rest => PlainFrom.decidable true m rest

/-! ### Trimming -/

lemma mem_dropWhile {p : Char → Bool} {l : List Char} {c : Char} (hc : c ∈ l) (hp : ¬p c = true) : c ∈ l.dropWhile p := by
  rw [← takeWhile_append_dropWhile (l := l)] at hc
  exact (mem_append.1 hc).resolve_left fun htake => hp (mem_takeWhile_imp htake)

lemma mem_rdropWhile {p : Char → Bool} {l : List Char} {c : Char} (hc : c ∈ l) (hp : ¬p c = true) : c ∈ l.rdropWhile p := by
  rw [rdropWhile, mem_reverse]
  exact mem_dropWhile (mem_reverse.2 hc) hp

lemma trimQuotes_ne_empty (a b : String) : trimQuotes (a ++ " " ++ b) ≠ "" := by
  intro h
  have hmem : ' ' ∈ (trimQuotes (a ++ " " ++ b)).toList := by
    rw [trimQuotes, toList_ofList]
    refine mem_rdropWhile (mem_dropWhile ?_ (by decide)) (by decide)
    simp
  rw [h] at hmem
  cases hmem

variable (s : String)

lemma dropWhile_quote_iff : s.toList.dropWhile (· = quote) = s.toList ↔ startsQuoted s = false := by
  unfold startsQuoted
  cases s.toList with
  | nil | cons c l => simp

lemma rdropWhile_quote_iff : s.toList.rdropWhile (· = quote) = s.toList ↔ endsQuoted s = false := by
  unfold endsQuoted
  cases hl : s.toList using reverseRecOn with
  | nil | append_singleton l c => simp

lemma trimQuotes_eq {s : String} (hstarts : startsQuoted s = false) (hends : endsQuoted s = false) : trimQuotes s = s := by
  rw [trimQuotes, (dropWhile_quote_iff s).2 hstarts, (rdropWhile_quote_iff s).2 hends, ofList_toList]

lemma trimQuotes_length :
    (trimQuotes s).length ≤ s.length ∧ ((trimQuotes s).length = s.length → startsQuoted s = false ∧ endsQuoted s = false) := by
  have hfirst : s.toList.dropWhile (· = quote) <:+ s.toList := dropWhile_suffix _
  have hsecond : (s.toList.dropWhile (· = quote)).rdropWhile (· = quote) <+: s.toList.dropWhile (· = quote) :=
    rdropWhile_prefix _ _
  have hlength : (trimQuotes s).length = ((s.toList.dropWhile (· = quote)).rdropWhile (· = quote)).length := by
    rw [trimQuotes, length_ofList]
  have hs : s.length = s.toList.length := (String.length_toList).symm
  refine ⟨by rw [hlength]; exact hsecond.length_le.trans hfirst.length_le, fun heq => ?_⟩
  have hone : s.toList.dropWhile (· = quote) = s.toList :=
    hfirst.eq_of_length (le_antisymm hfirst.length_le (by rw [← hs, ← heq, hlength]; exact hsecond.length_le))
  rw [hone] at hsecond hlength
  have htwo := hsecond.eq_of_length (by rw [← hlength, heq, hs])
  exact ⟨(dropWhile_quote_iff s).1 hone, (rdropWhile_quote_iff s).1 htwo⟩

/-! ### Formatting -/

def formatFrom (last : Message) : List Message → List Message
  | [] => [last]
  | m :: rest => if last.merges m then formatFrom (fmtMessage last m) rest else last :: formatFrom (fmtMessage last m) rest

variable (messages : List Message)

lemma foldl_formatStep (done : List Message) (last : Message) :
    (messages.foldl formatStep ⟨done ++ [last], last⟩).formatMessages = done ++ formatFrom last messages := by
  induction messages generalizing done last with
  | nil => rfl
  | cons m rest ih =>
    have hstep : formatStep ⟨done ++ [last], last⟩ m =
        ⟨(if last.merges m then done else done ++ [last]) ++ [fmtMessage last m], fmtMessage last m⟩ := by
      simp [formatStep]
    rw [foldl_cons, hstep, ih, formatFrom]
    split_ifs with hmerges
    · rfl
    · simp

variable (m : Message)

lemma formatMessages_cons (rest : List Message) : formatMessages (m :: rest) = formatFrom m.plain.filled rest := by
  have hmerges : Message.merges { role := "tool" } m = false := by simp [Message.merges]
  have hfirst : formatStep {} m = ⟨[] ++ [m.plain.filled], m.plain.filled⟩ := by simp [formatStep, fmtMessage, hmerges]
  rw [formatMessages, foldl_cons, hfirst, foldl_formatStep]
  rfl

variable {unmarshal : String → Option J} {fresh : Bool} {m m' last : Message}

lemma Message.Legal.ne_empty (h : m.Legal unmarshal) : m.content ≠ .null ∧ m.content ≠ .string "" := by
  refine ⟨h.content.1, fun hempty => ?_⟩
  have htext := h.content.2 (.text "" none) (by rw [hempty]; exact (.head _))
  cases htext

lemma Message.filled_eq (h : m.content ≠ .null ∧ m.content ≠ .string "") : m.filled = m := if_neg (not_or.2 h)

open Message

@[simp] lemma Message.plain_calls : m.plain.calls = m.calls := by
  unfold calls plain
  split_ifs <;> rfl

lemma Message.plain_entries : m.plain.entries unmarshal = m.entries unmarshal := by
  unfold Message.entries
  rw [plain_calls]
  have hrole : m.plain.role = m.role := rfl
  have hcontent : m.plain.content = m.content := rfl
  rw [hrole, hcontent]
  by_cases htool : m.role = "tool"
  · simp [plain, htool]
  · rw [if_neg htool, if_neg htool]

structure Stands (unmarshal : String → Option J) (fresh : Bool) (m last : Message) : Prop where
  legal : last.Legal unmarshal
  role : last.role = m.role
  calls : last.calls = m.calls
  isString : last.content.isString = m.content.isString
  unjoined : fresh = true → last.content = m.content

lemma Message.Legal.filled (h : m.Legal unmarshal) : m.plain.filled = m.plain := filled_eq h.ne_empty

lemma Message.Legal.stands (h : m.Legal unmarshal) : Stands unmarshal true m m.plain.filled := by
  rw [h.filled]
  refine ⟨⟨h.role, h.content, by rw [plain_calls]; exact h.arguments, fun hrole => ?_⟩, rfl, m.plain_calls, rfl, fun _ => rfl⟩
  exact if_neg hrole

lemma Stands.merges (h : Stands unmarshal fresh m last) (m' : Message) : last.merges m' = m.merges m' := by
  unfold Message.merges
  rw [h.role, h.isString]

def callEntries (unmarshal : String → Option J) (role : String) (toolCalls : List ToolCallRequest) : List (Entry J) :=
  toolCalls.filterMap fun toolCall => (unmarshal toolCall.arguments).map fun input => ⟨role, .call toolCall.id toolCall.name input⟩

variable {a : String}

lemma entries_of_string (hrole : m.role ≠ "tool") (hcontent : m.content = .string a) :
    m.entries unmarshal = ⟨m.role, .text a⟩ :: callEntries unmarshal m.role m.calls := by
  rw [Message.entries, if_neg hrole, hcontent]
  rfl

open MessageContent

lemma Message.merges_iff : last.merges m = true ↔ last.role = m.role ∧ last.role ≠ "tool" ∧
    (∃ a, last.content = .string a) ∧ ∃ b, m.content = .string b := by
  have hstring : ∀ content : MessageContent, content.isString = true ↔ ∃ a, content = .string a := by
    intro content
    cases content <;> simp [isString]
  simp [Message.merges, hstring]

lemma Message.Legal.merged (h : m.Legal unmarshal) {a b : String} (hmerges : last.merges m = true) (ha : last.content = .string a)
    (hb : m.content = .string b) :
    fmtMessage last m = { m.plain with content := .string (trimQuotes (a ++ " " ++ b)) } ∧
      Stands unmarshal false m { m.plain with content := .string (trimQuotes (a ++ " " ++ b)) } := by
  have hne := trimQuotes_ne_empty a b
  constructor
  · rw [fmtMessage, if_pos hmerges, ha, hb]
    exact filled_eq ⟨nofun, fun h => hne (string.inj h)⟩
  · have hcalls : calls { m.plain with content := .string (trimQuotes (a ++ " " ++ b)) } = m.calls := m.plain_calls
    refine ⟨⟨h.role, ⟨nofun, ?_⟩, by rw [hcalls]; exact h.arguments, fun hrole => if_neg hrole⟩, rfl, hcalls, ?_,
      nofun⟩
    · intro part hpart
      rw [mem_singleton.1 hpart]
      exact decide_eq_true hne
    · rw [hb]
      rfl

/-! ### Weights -/

/-- A text weighs one more than its length, so that joining texts keeps the weight. -/
def Part.weight : Part J → ℕ
  | .text content => content.length + 1
  | _ => 1

def weight (l : List (Entry J)) : ℕ := (l.map fun x => x.part.weight).sum

@[simp] lemma weight_append (l l' : List (Entry J)) : weight (l ++ l') = weight l + weight l' := by simp [weight]

@[simp] lemma weight_cons (x : Entry J) (l : List (Entry J)) : weight (x :: l) = x.part.weight + weight l := by simp [weight]

lemma joined_length (a b : String) : (a ++ " " ++ b).length = a.length + b.length + 1 := by
  have hspace : " ".length = 1 := rfl
  rw [String.length_append, String.length_append]
  omega

variable {xs ys : List (Entry J)}

lemma Joined.weight_eq (h : Joined xs ys) : weight xs = weight ys := by
  induction h with
  | nil => rfl
  | keep x _ ih => rw [weight_cons, weight_cons, ih]
  | join role a b _ ih =>
    rw [← ih]
    simp only [weight_cons, Part.weight, joined_length]
    omega

lemma Joined.refl : ∀ xs : List (Entry J), Joined xs xs
  | [] => .nil
  | x :: xs => .keep x (.refl xs)

lemma Joined.append_left (zs : List (Entry J)) (h : Joined xs ys) : Joined (zs ++ xs) (zs ++ ys) := by
  induction zs with
  | nil => exact h
  | cons z zs ih => exact .keep z ih

variable (role : String)

lemma callEntries_weight {toolCalls : List ToolCallRequest}
    (h : ∀ toolCall ∈ toolCalls, (unmarshal toolCall.arguments).isSome) :
    weight (callEntries unmarshal role toolCalls) = toolCalls.length := by
  induction toolCalls with
  | nil => rfl
  | cons toolCall rest ih =>
    obtain ⟨input, hinput⟩ := isSome_iff_exists.1 (h toolCall (.head _))
    have htail := ih fun t ht => h t (.tail _ ht)
    unfold callEntries at htail ⊢
    rw [filterMap_cons, hinput]
    dsimp only [map_some]
    rw [weight_cons, htail]
    exact Nat.add_comm _ _

lemma startsQuoted_append (ha : a ≠ "") (b : String) : startsQuoted (a ++ b) = startsQuoted a := by
  obtain ⟨c, l, hl⟩ := exists_cons_of_ne_nil (l := a.toList) (by simpa using ha)
  simp [startsQuoted, hl]

lemma endsQuoted_append {b : String} (hb : b ≠ "") (a : String) : endsQuoted (a ++ b) = endsQuoted b := by
  have hne : b.toList ≠ [] := by simpa using hb
  simp [endsQuoted, getLast?_append_of_ne_nil _ hne]

lemma Message.Legal.text_ne_empty (h : m.Legal unmarshal) (ha : m.content = .string a) : a ≠ "" := by
  rintro rfl
  exact h.ne_empty.2 ha

/-! ### Formatting keeps the weight exactly if nothing is lost -/

variable {rest : List Message}

lemma formatFrom_unmerged {m' : Message} (h : ¬last.merges m' = true) :
    formatFrom last (m' :: rest) = last :: formatFrom m'.plain.filled rest := by
  have hfmt : fmtMessage last m' = m'.plain.filled := if_neg h
  rw [formatFrom, if_neg h, hfmt]

section

variable (hlegal : ∀ x ∈ rest, x.Legal unmarshal)

include hlegal

lemma formatFrom_weight (h : Stands unmarshal fresh m last) :
    weight ((formatFrom last rest).flatMap (Message.entries unmarshal)) ≤
        weight (last.entries unmarshal ++ rest.flatMap (Message.entries unmarshal)) ∧
      (weight ((formatFrom last rest).flatMap (Message.entries unmarshal)) =
        weight (last.entries unmarshal ++ rest.flatMap (Message.entries unmarshal)) → PlainFrom fresh m rest) := by
  induction rest generalizing fresh m last with
  | nil => exact ⟨le_of_eq (by simp [formatFrom]), fun _ => trivial⟩
  | cons m' rest ih =>
    obtain ⟨hm', hrest⟩ := forall_mem_cons.1 hlegal
    rw [PlainFrom, ← h.merges]
    by_cases hmerges : last.merges m' = true
    · obtain ⟨hrole, htool, ⟨a, ha⟩, b, hb⟩ := merges_iff.1 hmerges
      obtain ⟨hfmt, hstands⟩ := hm'.merged hmerges ha hb
      obtain ⟨hle, heq⟩ := ih hrest hstands
      obtain ⟨htrim, hkept⟩ := trimQuotes_length (a ++ " " ++ b)
      rw [formatFrom, if_pos hmerges, if_pos hmerges, hfmt, flatMap_cons]
      rw [entries_of_string (hrole ▸ htool) rfl, hstands.calls] at hle heq
      rw [entries_of_string htool ha, entries_of_string (hrole ▸ htool) hb]
      have hcalls := callEntries_weight last.role h.legal.arguments
      have hrole' : m'.plain.role = m'.role := rfl
      rw [hrole'] at hle heq
      simp only [weight_append, weight_cons, Part.weight, joined_length] at hle heq htrim hkept ⊢
      refine ⟨by omega, fun hsame => ?_⟩
      have hnone : last.calls = [] := eq_nil_of_length_eq_zero (by omega)
      obtain ⟨hstarts, hends⟩ := hkept (by omega)
      rw [String.append_assoc, startsQuoted_append (h.legal.text_ne_empty ha)] at hstarts
      rw [endsQuoted_append (hm'.text_ne_empty hb)] at hends
      refine ⟨h.calls.symm.trans hnone, fun hfresh => ?_, ?_, heq (by omega)⟩
      · rw [← h.unjoined hfresh, ha]
        exact hstarts
      · rw [hb]
        exact hends
    · obtain ⟨hle, heq⟩ := ih hrest hm'.stands
      rw [formatFrom_unmerged hmerges, if_neg hmerges, flatMap_cons, flatMap_cons]
      rw [hm'.filled] at hle heq ⊢
      rw [plain_entries] at hle heq
      simp only [weight_append] at hle heq ⊢
      exact ⟨by omega, fun hsame => heq (by omega)⟩

lemma formatFrom_joined (h : Stands unmarshal fresh m last)
    (hplain : PlainFrom fresh m rest) (hstarts : fresh = false → startsQuoted last.content.stringContent = false) :
    Joined (last.entries unmarshal ++ rest.flatMap (Message.entries unmarshal))
      ((formatFrom last rest).flatMap (Message.entries unmarshal)) := by
  induction rest generalizing fresh m last with
  | nil => exact .refl _
  | cons m' rest ih =>
    obtain ⟨hm', hrest⟩ := forall_mem_cons.1 hlegal
    rw [PlainFrom, ← h.merges] at hplain
    by_cases hmerges : last.merges m' = true
    · obtain ⟨hrole, htool, ⟨a, ha⟩, b, hb⟩ := merges_iff.1 hmerges
      obtain ⟨hfmt, hstands⟩ := hm'.merged hmerges ha hb
      rw [if_pos hmerges] at hplain
      obtain ⟨hcalls, hfirst, hends, hplain⟩ := hplain
      have hstart : startsQuoted (a ++ " " ++ b) = false := by
        rw [String.append_assoc, startsQuoted_append (h.legal.text_ne_empty ha)]
        cases hfresh : fresh with
        | true =>
          have hunquoted := hfirst hfresh
          rwa [← h.unjoined hfresh, ha] at hunquoted
        | false =>
          have hunquoted := hstarts hfresh
          rwa [ha] at hunquoted
      have htrim : trimQuotes (a ++ " " ++ b) = a ++ " " ++ b := by
        refine trimQuotes_eq hstart ?_
        rw [endsQuoted_append (hm'.text_ne_empty hb)]
        rwa [hb] at hends
      rw [htrim] at hfmt hstands
      have hjoined := ih hrest hstands hplain fun _ => hstart
      rw [formatFrom, if_pos hmerges, hfmt, flatMap_cons]
      rw [entries_of_string (hrole ▸ htool) rfl, hstands.calls] at hjoined
      rw [entries_of_string htool ha, entries_of_string (hrole ▸ htool) hb, h.calls, hcalls, hrole]
      exact .join _ a b hjoined
    · rw [if_neg hmerges] at hplain
      have hjoined := ih hrest hm'.stands hplain nofun
      rw [formatFrom_unmerged hmerges, flatMap_cons]
      rw [hm'.filled, plain_entries] at hjoined
      rw [hm'.filled]
      exact .append_left _ hjoined

lemma formatFrom_legal (hlast : last.Legal unmarshal) :
    (∀ x ∈ formatFrom last rest, x.Legal unmarshal) ∧ (formatFrom last rest).head?.map Message.role = some last.role := by
  induction rest generalizing last with
  | nil => exact ⟨fun x hx => mem_singleton.1 hx ▸ hlast, rfl⟩
  | cons m' rest ih =>
    obtain ⟨hm', hrest⟩ := forall_mem_cons.1 hlegal
    by_cases hmerges : last.merges m' = true
    · obtain ⟨hrole, htool, ⟨a, ha⟩, b, hb⟩ := merges_iff.1 hmerges
      obtain ⟨hfmt, hstands⟩ := hm'.merged hmerges ha hb
      rw [formatFrom, if_pos hmerges, hfmt, hrole]
      exact ih hrest hstands.legal
    · rw [formatFrom_unmerged hmerges]
      exact ⟨forall_mem_cons.2 ⟨hlast, (ih hrest hm'.stands.legal).1⟩, rfl⟩

end

/-! ### Building -/

variable {fetch : MediaContent → Except String (Option M)}

structure Built (said : List (Entry J)) (s : BuiltRequest J M) : Prop where
  entries : s.claudeMessages.flatMap BuiltMessage.entries = said
  first : s.isFirstMessage = true ↔ s.claudeMessages = []
  user : ∀ x ∈ s.claudeMessages.head?, x.role = "user"

variable (claudeMessages : List (BuiltMessage J M)) (id : String) (content : MessageContent)

lemma addToolResult_entries : (addToolResult claudeMessages id content).flatMap BuiltMessage.entries =
      claudeMessages.flatMap BuiltMessage.entries ++ [⟨"user", .result id content⟩] := by
  unfold addToolResult
  cases claudeMessages using reverseRecOn with
  | nil => rfl
  | append_singleton before last =>
    simp only [getLast?_append, getLast?_singleton, some_or]
    split_ifs with huser
    · simp [BuiltMessage.entries, BuiltContent.asBlocks, BuiltBlock.part, huser]
    · simp [BuiltMessage.entries, BuiltContent.asBlocks, BuiltBlock.part]

lemma addToolResult_head (h : ∀ x ∈ claudeMessages.head?, x.role = "user") :
    addToolResult claudeMessages id content ≠ [] ∧ ∀ x ∈ (addToolResult claudeMessages id content).head?, x.role = "user" := by
  unfold addToolResult
  cases claudeMessages using reverseRecOn with
  | nil => simp
  | append_singleton before last =>
    simp only [getLast?_append, getLast?_singleton, some_or]
    split_ifs with huser
    · rw [dropLast_concat]
      cases before with
      | nil => simpa using huser
      | cons x before => simpa using h
    · cases before with
      | nil | cons x before => simpa using h

lemma mapM_mediaBlocks {parts : List MediaContent} (h : ∀ part ∈ parts, part.isText = true) :
    parts.mapM (mediaBlocks (J := J) fetch) = .ok (parts.map fun
      | .text text _ => [.text text]
      | _ => []) := by
  induction parts with
  | nil => rfl
  | cons part parts ih =>
    have hpart := h part (.head _)
    rw [List.mapM_cons, ih fun x hx => h x (.tail _ hx)]
    cases part with
    | text text cacheControl =>
      simp only [mediaBlocks, if_neg (of_decide_eq_true hpart)]
      rfl
    | _ => cases hpart

lemma texts_blocks (parts : List MediaContent) :
    (((parts.map fun
        | .text text _ => [BuiltBlock.text (J := J) (M := M) text]
        | _ => []).flatten.filterMap BuiltBlock.part).map fun part => (⟨role, part⟩ : Entry J)) =
      (parts.filterMap fun
        | .text text _ => some text
        | _ => none).map fun text => ⟨role, .text text⟩ := by
  induction parts with
  | nil => rfl
  | cons part parts ih => cases part <;> simpa [BuiltBlock.part] using ih

lemma toolUse_blocks (toolCalls : List ToolCallRequest) :
    ((toolUseBlocks (M := M) unmarshal toolCalls).filterMap BuiltBlock.part).map (fun part => (⟨role, part⟩ : Entry J)) =
      callEntries unmarshal role toolCalls := by
  unfold toolUseBlocks callEntries
  induction toolCalls with
  | nil => rfl
  | cons toolCall rest ih =>
    rw [filterMap_cons, filterMap_cons]
    cases unmarshal toolCall.arguments with
    | none => exact ih
    | some input => simpa [BuiltBlock.part] using ih

section

variable (fetch : MediaContent → Except String (Option M)) {said : List (Entry J)} {s : BuiltRequest J M}

lemma Built.step (h : Built said s) (hm : m.Legal unmarshal) :
    ∃ s', buildStep unmarshal fetch s m = .ok s' ∧ s'.isFirstMessage = false ∧
      Built (said ++ (if s.isFirstMessage = true ∧ m.role ≠ "user" then [⟨"user", .text placeholder⟩] else []) ++
        m.entries unmarshal) s' := by
  set claudeMessages := if s.isFirstMessage = true ∧ m.role ≠ "user" then s.claudeMessages ++ [firstUserMessage] else s.claudeMessages
    with hclaude
  have hsaid : claudeMessages.flatMap BuiltMessage.entries =
      said ++ (if s.isFirstMessage = true ∧ m.role ≠ "user" then [⟨"user", .text placeholder⟩] else []) := by
    rw [hclaude]
    split_ifs
    · rw [flatMap_append, h.entries]
      rfl
    · rw [h.entries, append_nil]
  have hsystem : m.role ≠ "system" := by
    obtain hrole | hrole | hrole := hm.role <;> rw [hrole] <;> decide
  have hfirst : (∀ x ∈ claudeMessages.head?, x.role = "user") ∧ (claudeMessages = [] → m.role = "user") := by
    rw [hclaude]
    split_ifs with hlead
    · rw [h.first.1 hlead.1]
      simp [firstUserMessage]
    · refine ⟨h.user, fun hnil => ?_⟩
      exact not_not.1 fun hrole => hlead ⟨h.first.2 hnil, hrole⟩
  -- a message that is added at the end
  have happend : ∀ content : BuiltContent J M, ∀ x ∈ (claudeMessages ++ [BuiltMessage.mk m.role content]).head?, x.role = "user" := by
    intro content
    cases hmessages : claudeMessages with
    | nil => simpa using hfirst.2 hmessages
    | cons x rest => simpa [hmessages] using hfirst.1
  unfold buildStep
  rw [if_neg hsystem]
  by_cases htool : m.role = "tool"
  · obtain ⟨hne, huser⟩ := addToolResult_head claudeMessages m.toolCallId m.content hfirst.1
    refine ⟨_, by rw [if_pos htool]; rfl, rfl, ?_, ⟨(fun h => by cases h), fun hnil => absurd hnil hne⟩, huser⟩
    rw [Message.entries, if_pos htool, ← hsaid]
    exact addToolResult_entries _ _ _
  · rw [if_neg htool, Message.entries, if_neg htool, ← hsaid]
    have hcalls : m.calls = m.toolCalls.getD [] := by
      unfold calls
      split_ifs with hassistant
      · rfl
      · rw [hm.toolCalls hassistant]
        rfl
    by_cases hstring : m.content.isString = true ∧ m.toolCalls = none
    · obtain ⟨text, htext⟩ : ∃ text, m.content = .string text := by
        cases hcontent : m.content with
        | string text => exact ⟨text, rfl⟩
        | _ => rw [hcontent] at hstring; cases hstring.1
      refine ⟨_, by rw [if_pos hstring]; rfl, rfl, ?_, ⟨(fun h => by cases h), fun hnil => by simp at hnil⟩, happend _⟩
      rw [flatMap_append, hcalls, hstring.2, htext]
      have hkept : (if (string text).stringContent = "" then placeholder else (string text).stringContent) =
          text := if_neg (hm.text_ne_empty htext)
      rw [hkept]
      rfl
    · rw [if_neg hstring, mapM_mediaBlocks hm.content.2]
      refine ⟨_, rfl, rfl, ?_, ⟨nofun, fun hnil => by simp at hnil⟩, happend _⟩
      have hblocks : BuiltMessage.entries (⟨m.role, .blocks ((m.content.parseContent.map fun
          | .text text _ => [.text text]
          | _ => []).flatten ++ toolUseBlocks unmarshal (m.toolCalls.getD []))⟩ : BuiltMessage J M) =
          m.content.texts.map (fun text => ⟨m.role, .text text⟩) ++ callEntries unmarshal m.role m.calls := by
        rw [hcalls, ← toolUse_blocks, texts, ← texts_blocks, ← map_append, ← filterMap_append]
        rfl
      rw [flatMap_append, flatMap_singleton]
      exact congrArg _ hblocks

lemma Built.run {messages : List Message} (h : Built said s) (hfirst : s.isFirstMessage = false)
    (hlegal : ∀ x ∈ messages, x.Legal unmarshal) :
    ∃ s', messages.foldlM (buildStep unmarshal fetch) s = .ok s' ∧
      Built (said ++ messages.flatMap (Message.entries unmarshal)) s' := by
  induction messages generalizing said s with
  | nil => exact ⟨s, rfl, by simpa using h⟩
  | cons m rest ih =>
    obtain ⟨s₁, hstep, hfirst₁, hbuilt⟩ := h.step fetch (hlegal m (.head _))
    rw [hfirst, if_neg (by simp), append_nil] at hbuilt
    obtain ⟨s', hrun, hbuilt'⟩ := ih hbuilt hfirst₁ fun x hx => hlegal x (.tail _ hx)
    refine ⟨s', ?_, by rwa [flatMap_cons, ← List.append_assoc]⟩
    rw [foldlM_cons, hstep]
    exact hrun

lemma requestOpenAI2ClaudeMessage_spec {m : Message} (hlegal : ∀ x ∈ m :: rest, x.Legal unmarshal) :
    ∃ req, requestOpenAI2ClaudeMessage unmarshal fetch (m :: rest) = .ok req ∧
      Built (lead (m :: rest) ++ (formatFrom m.plain rest).flatMap (Message.entries unmarshal)) req := by
  have hm := hlegal m (.head _)
  have hplain : m.plain.Legal unmarshal := hm.filled ▸ hm.stands.legal
  obtain ⟨hformat, hhead⟩ := formatFrom_legal (fun x hx => hlegal x (List.mem_cons_of_mem m hx)) hplain
  have hstart : Built (M := M) ([] : List (Entry J)) {} := ⟨rfl, ⟨fun _ => rfl, fun _ => rfl⟩, nofun⟩
  rw [requestOpenAI2ClaudeMessage, formatMessages_cons, hm.filled]
  cases hfs : formatFrom m.plain rest with
  | nil =>
    rw [hfs] at hhead
    cases hhead
  | cons f fs =>
    rw [hfs] at hformat hhead
    obtain ⟨s₁, hstep, hfirst₁, hbuilt⟩ := hstart.step fetch (hformat f (.head _))
    obtain ⟨s', hrun, hbuilt'⟩ := hbuilt.run fetch hfirst₁ fun x hx => hformat x (.tail _ hx)
    refine ⟨s', by rw [foldlM_cons, hstep]; exact hrun, ?_⟩
    have hrole : f.role = m.role := Option.some.inj hhead
    have hlead : lead (J := J) (m :: rest) = if (true = true ∧ f.role ≠ "user") then [⟨"user", .text placeholder⟩] else [] := by
      simp [lead, hrole]
    rw [flatMap_cons, hlead, ← List.append_assoc]
    exact hbuilt'

end

lemma AnsweredFrom.joined (h : Joined xs ys) {ids : List String} (hxs : AnsweredFrom ids xs) :
    AnsweredFrom ids ys := by
  induction h generalizing ids with
  | nil => exact hxs
  | keep x _ ih =>
    obtain ⟨role, part⟩ := x
    cases part with
    | text text | call id name input => exact ih hxs
    | result id content => exact ⟨hxs.1, ih hxs.2⟩
  | join role a b _ ih => exact ih hxs

lemma AnsweredFrom.lead {l : List (Entry J)} (h : AnsweredFrom [] l) :
    AnsweredFrom [] (lead messages ++ l) := by
  unfold Convert.lead
  split_ifs
  · exact h
  · exact h

/-- **The request says what the chat request says exactly if the messages that are joined are joined plainly.** -/
theorem messages_kept_iff (unmarshal : String → Option J) (fetch : MediaContent → Except String (Option M)) {messages : List Message}
    (hlegal : ∀ m ∈ messages, m.Legal unmarshal) :
    ∃ req, requestOpenAI2ClaudeMessage unmarshal fetch messages = .ok req ∧ (Kept unmarshal messages req ↔ Plain messages) := by
  cases messages with
  | nil => exact ⟨{}, rfl, fun _ => trivial, fun _ => ⟨⟨[], .nil, rfl⟩, nofun, fun h => h⟩⟩
  | cons m rest =>
    have hm := hlegal m (.head _)
    have hrest := fun x hx => hlegal x (List.mem_cons_of_mem m hx)
    have hstands : Stands unmarshal true m m.plain := hm.filled ▸ hm.stands
    obtain ⟨req, hreq, hbuilt⟩ := requestOpenAI2ClaudeMessage_spec fetch hlegal
    refine ⟨req, hreq, fun hkept => ?_, fun hplain => ?_⟩
    · obtain ⟨ys, hjoined, hys⟩ := hkept.entries
      rw [hbuilt.entries] at hys
      obtain rfl := append_cancel_left hys
      have hweight := hjoined.weight_eq
      rw [flatMap_cons, ← plain_entries] at hweight
      exact (formatFrom_weight hrest hstands).2 hweight.symm
    · have hjoined := formatFrom_joined hrest hstands hplain nofun
      rw [plain_entries] at hjoined
      refine ⟨⟨_, hjoined, hbuilt.entries⟩, hbuilt.user, fun hanswered => ?_⟩
      rw [hbuilt.entries]
      exact .lead _ (hanswered.joined hjoined)

def splitQuestion : List Message :=
  [{ role := "user", content := .string "What is it?" }, { role := "user", content := .string "Look." },
    { role := "assistant", content := .string "I look.", toolCalls := some [⟨"a", "look", "1"⟩] },
    { role := "tool", toolCallId := "a", content := .string "a cat" }, { role := "assistant", content := .string "A cat." }]

theorem messages_kept_iff_question :
    ∃ req : BuiltRequest String Unit, requestOpenAI2ClaudeMessage some (fun _ => .ok none) splitQuestion = .ok req ∧
      Kept some splitQuestion req := by
  have hlegal : ∀ m ∈ splitQuestion, m.Legal (some : String → Option String) := by decide
  obtain ⟨req, hreq, hiff⟩ := messages_kept_iff some (fun _ => .ok none) hlegal
  exact ⟨req, hreq, hiff.2 (by decide)⟩

def splitCalls : List Message :=
  [{ role := "user", content := .string "Look." },
    { role := "assistant", content := .string "First.", toolCalls := some [⟨"a", "look", "1"⟩] },
    { role := "assistant", content := .string "Second.", toolCalls := some [⟨"b", "look", "2"⟩] },
    { role := "tool", toolCallId := "a", content := .string "a cat" },
    { role := "tool", toolCallId := "b", content := .string "a dog" }]

def splitQuotation : List Message :=
  [{ role := "user", content := .string "\"Look" }, { role := "user", content := .string "here.\"" }]

/-- The first tool call is lost, and its result is kept; the quotation marks are lost. -/
theorem split_calls_lost :
    (requestOpenAI2ClaudeMessage (M := Unit) some (fun _ => .ok none) splitCalls).toOption.map
        (·.claudeMessages.flatMap BuiltMessage.entries) =
      some [⟨"user", .text "Look."⟩, ⟨"assistant", .text "First. Second."⟩, ⟨"assistant", .call "b" "look" "2"⟩,
        ⟨"user", .result "a" (.string "a cat")⟩, ⟨"user", .result "b" (.string "a dog")⟩] ∧
    (requestOpenAI2ClaudeMessage (J := String) (M := Unit) some (fun _ => .ok none) splitQuotation).toOption.map
        (·.claudeMessages.flatMap BuiltMessage.entries) = some [⟨"user", .text "Look here."⟩] := by
  decide

end StarNexus.Convert
