import Mathlib.Data.List.TakeWhile
import StarNexus.Lib.Text

/-!
# Addresses

The textual form of IPv4 and IPv6 addresses and of CIDR blocks.  An address has 128 bits, an IPv4 address being the one
that is mapped under `::ffff:0:0/96`; the text of an IPv6 address can name a zone.
-/

namespace StarNexus.Lib

open List Option

abbrev IP := BitVec 128

namespace IP

def is4 (ip : IP) : Bool := ip >>> 32 == (0xffff : BitVec 128)

def v4 (a b c d : ℕ) : IP := BitVec.ofNat 128 (0xffff00000000 + ((a * 256 + b) * 256 + c) * 256 + d)

def ofGroups (groups : List ℕ) : IP := BitVec.ofNat 128 (groups.foldl (fun n g => n * 65536 + g) 0)

end IP

/-- An address and its zone; `bitLen` is 32 for the dotted form. -/
structure Addr where
  ip : IP
  bitLen : ℕ
  zone : List Char
deriving DecidableEq

/-! ### Parsing -/

def octet? (digits : List Char) : Option ℕ :=
  if digits = [] ∨ 1 < digits.length ∧ digits.head? = some '0' then none
  else (number? 10 digits).filter (· ≤ 255)

def group? (digits : List Char) : Option ℕ :=
  if digits = [] ∨ 4 < digits.length then none else number? 16 digits

def quad? (s : List Char) : Option (ℕ × ℕ × ℕ × ℕ) :=
  match (s.splitOn '.').mapM octet? with
  | some [a, b, c, d] => some (a, b, c, d)
  | _ => none

/-- The groups of a part of an IPv6 address; the last of them can be in the dotted form. -/
def groups? : List (List Char) → Option (List ℕ)
  | [] => some []
  | [last] =>
    if '.' ∈ last then (quad? last).map fun (a, b, c, d) => [a * 256 + b, c * 256 + d] else (group? last).map ([·])
  | field :: rest => (group? field).bind fun g => (groups? rest).map (g :: ·)

/-- The parts before and after the first double colon. -/
def cutEllipsis : List Char → List Char × Option (List Char)
  | ':' :: ':' :: rest => ([], some rest)
  | c :: rest => ((c :: (cutEllipsis rest).1), (cutEllipsis rest).2)
  | [] => ([], none)

def part? (s : List Char) : Option (List ℕ) := if s = [] then some [] else groups? (s.splitOn ':')

def colons? (s : List Char) : Option IP :=
  match cutEllipsis s with
  | (front, none) => ((part? front).filter (·.length = 8)).map IP.ofGroups
  | (front, some back) =>
    -- what stands before the double colon has no dotted form
    if '.' ∈ front then none
    else
      (part? front).bind fun f => (part? back).bind fun b =>
        if f.length + b.length < 8 then some (IP.ofGroups (f ++ List.replicate (8 - f.length - b.length) 0 ++ b)) else none

def parseAddr (s : List Char) : Option Addr :=
  match s.find? (· ∈ ['.', ':', '%']) with
  | some '.' => (quad? s).map fun (a, b, c, d) => { ip := .v4 a b c d, bitLen := 32, zone := [] }
  | some ':' =>
    let zone := (s.dropWhile (· ≠ '%')).tail
    if '%' ∈ s ∧ zone = [] then none
    else (colons? (s.takeWhile (· ≠ '%'))).map fun ip => { ip, bitLen := 128, zone }
  | _ => none

def parseIP (s : String) : Option IP := ((parseAddr s.toList).filter (·.zone = [])).map Addr.ip

/-! ### The characters of an address -/

/-- A character that the text of an address without a zone can have. -/
def literalChar (c : Char) : Bool := (digit? c).isSome || c == '.' || c == ':'

variable {fields : List (List Char)}

lemma mem_of_mem_intercalate {x c : Char} (h : c ∈ [x].intercalate fields) :
    c = x ∨ ∃ field ∈ fields, c ∈ field := by
  induction fields with
  | nil => simp at h
  | cons field rest ih =>
    cases rest with
    | nil => exact .inr ⟨field, mem_cons_self, by simpa using h⟩
    | cons next rest =>
      have hsplit : [x].intercalate (field :: next :: rest) = field ++ [x] ++ [x].intercalate (next :: rest) := by
        simp
      rw [hsplit, mem_append, mem_append, mem_singleton] at h
      rcases h with (h | h) | h
      · exact .inr ⟨field, mem_cons_self, h⟩
      · exact .inl h
      · rcases ih h with h | ⟨f, hf, hc⟩
        · exact .inl h
        · exact .inr ⟨f, mem_cons_of_mem _ hf, hc⟩

variable {s : List Char}

lemma mem_splitOn (x : Char) {c : Char} (h : c ∈ s) : c = x ∨ ∃ field ∈ s.splitOn x, c ∈ field := by
  have hjoin : [x].intercalate (s.splitOn x) = s := intercalate_splitOn x
  rw [← hjoin] at h
  exact mem_of_mem_intercalate h

lemma isSome_of_mapM {α β : Type} {f : α → Option β} {l : List α} {r : List β} (h : l.mapM f = some r) :
    ∀ a ∈ l, ∃ b, f a = some b := by
  induction l generalizing r with
  | nil => exact forall_mem_nil _
  | cons x l ih =>
    rw [mapM_cons] at h
    obtain ⟨y, hy, h⟩ := bind_eq_some_iff.1 h
    obtain ⟨ys, hys, -⟩ := bind_eq_some_iff.1 h
    exact forall_mem_cons.2 ⟨⟨y, hy⟩, ih hys⟩

variable {digits : List Char}

lemma digits_of_number {base : ℕ} {n : ℕ} (h : number? base digits = some n) :
    ∀ c ∈ digits, literalChar c := by
  unfold number? at h
  generalize 0 = acc at h
  induction digits generalizing acc with
  | nil => exact forall_mem_nil _
  | cons d digits ih =>
    obtain ⟨acc', hd, h⟩ := bind_eq_some_iff.1 h
    obtain ⟨v, hv, -⟩ := bind_eq_some_iff.1 hd
    exact forall_mem_cons.2 ⟨by simp [literalChar, hv], ih acc' h⟩

lemma literal_of_octet {n : ℕ} (h : octet? digits = some n) : ∀ c ∈ digits, literalChar c := by
  obtain ⟨-, h⟩ := ite_none_left_eq_some.1 h
  exact digits_of_number (filter_eq_some_iff.1 h).1

lemma literal_of_group {n : ℕ} (h : group? digits = some n) : ∀ c ∈ digits, literalChar c :=
  digits_of_number (ite_none_left_eq_some.1 h).2

lemma literal_of_quad {q : ℕ × ℕ × ℕ × ℕ} (h : quad? s = some q) : ∀ c ∈ s, literalChar c := by
  unfold quad? at h
  intro c hc
  cases hfields : (s.splitOn '.').mapM octet? with
  | none =>
    rw [hfields] at h
    cases h
  | some r =>
    rcases mem_splitOn '.' hc with rfl | ⟨field, hfield, hc⟩
    · decide
    · obtain ⟨n, hn⟩ := isSome_of_mapM hfields field hfield
      exact literal_of_octet hn c hc

lemma literal_of_groups {gs : List ℕ} (h : groups? fields = some gs) :
    ∀ field ∈ fields, ∀ c ∈ field, literalChar c := by
  fun_induction groups? fields generalizing gs with
  | case1 => exact forall_mem_nil _
  | case2 last hdot =>
    obtain ⟨q, hq, -⟩ := map_eq_some_iff.1 h
    exact forall_mem_singleton.2 (literal_of_quad hq)
  | case3 last hdot =>
    obtain ⟨g, hg, -⟩ := map_eq_some_iff.1 h
    exact forall_mem_singleton.2 (literal_of_group hg)
  | case4 first rest _ ih =>
    obtain ⟨g, hg, h⟩ := bind_eq_some_iff.1 h
    obtain ⟨gs', hgs', -⟩ := map_eq_some_iff.1 h
    exact forall_mem_cons.2 ⟨literal_of_group hg, ih hgs'⟩

lemma literal_of_part {gs : List ℕ} (h : part? s = some gs) : ∀ c ∈ s, literalChar c := by
  unfold part? at h
  split at h
  · next hs => exact fun c hc => absurd (hs ▸ hc) not_mem_nil
  · intro c hc
    rcases mem_splitOn ':' hc with rfl | ⟨field, hfield, hc⟩
    · decide
    · exact literal_of_groups h field hfield c hc

lemma mem_of_cutEllipsis {c : Char} (hc : c ∈ s) :
    c = ':' ∨ c ∈ (cutEllipsis s).1 ∨ ∃ back, (cutEllipsis s).2 = some back ∧ c ∈ back := by
  fun_induction cutEllipsis s with
  | case1 rest =>
    rcases mem_cons.1 hc with rfl | hc
    · exact .inl rfl
    · rcases mem_cons.1 hc with rfl | hc
      · exact .inl rfl
      · exact .inr (.inr ⟨rest, rfl, hc⟩)
  | case2 d rest _ ih =>
    rcases mem_cons.1 hc with rfl | hc
    · exact .inr (.inl (.head _))
    · rcases ih hc with h | h | h
      · exact .inl h
      · exact .inr (.inl (.tail _ h))
      · exact .inr (.inr h)
  | case3 => exact absurd hc not_mem_nil

lemma literal_of_colons {ip : IP} (h : colons? s = some ip) : ∀ c ∈ s, literalChar c := by
  intro c hc
  have hcut := mem_of_cutEllipsis hc
  unfold colons? at h
  generalize cutEllipsis s = cut at h hcut
  obtain ⟨front, back⟩ := cut
  cases back with
  | none =>
    obtain ⟨gs, hgs, -⟩ := map_eq_some_iff.1 h
    rcases hcut with rfl | hfront | ⟨back, hback, -⟩
    · decide
    · exact literal_of_part (filter_eq_some_iff.1 hgs).1 c hfront
    · cases hback
  | some back =>
    obtain ⟨-, h⟩ := ite_none_left_eq_some.1 h
    obtain ⟨f, hf, h⟩ := bind_eq_some_iff.1 h
    obtain ⟨b, hb, -⟩ := bind_eq_some_iff.1 h
    rcases hcut with rfl | hfront | ⟨_, heq, hback⟩
    · decide
    · exact literal_of_part hf c hfront
    · cases heq
      exact literal_of_part hb c hback

lemma literal_of_parseIP {s : String} {ip : IP} (h : parseIP s = some ip) : ∀ c ∈ s.toList, literalChar c := by
  obtain ⟨a, ha, -⟩ := map_eq_some_iff.1 h
  obtain ⟨ha, hzone⟩ := filter_eq_some_iff.1 ha
  unfold parseAddr at ha
  split at ha
  · obtain ⟨q, hq, -⟩ := map_eq_some_iff.1 ha
    exact literal_of_quad hq
  · obtain ⟨hno, ha⟩ := ite_none_left_eq_some.1 ha
    obtain ⟨ip, hip, rfl⟩ := map_eq_some_iff.1 ha
    have habsent : '%' ∉ s.toList := fun hmem => hno ⟨hmem, by simpa using hzone⟩
    have hall : s.toList.takeWhile (· ≠ '%') = s.toList := by
      apply takeWhile_eq_self_iff.2
      intro c hc
      have : c ≠ '%' := fun heq => habsent (heq ▸ hc)
      simpa using this
    rw [hall] at hip
    exact literal_of_colons hip
  · cases ha

/-! ### Blocks -/

/-- A block: the addresses with the first `bits` bits of `base`. -/
structure Net where
  base : IP
  bits : ℕ
deriving DecidableEq

def Net.ofPrefix (base : IP) (bits : ℕ) : Net := { base := base >>> (128 - bits) <<< (128 - bits), bits }

def Net.v4 (a b c d bits : ℕ) : Net := .ofPrefix (.v4 a b c d) (96 + bits)

def Net.contains (net : Net) (ip : IP) : Bool :=
  net.base.is4 == ip.is4 && ip >>> (128 - net.bits) == net.base >>> (128 - net.bits)

def parseCIDR (s : String) : Option Net :=
  let addr := s.toList.takeWhile (· ≠ '/')
  match s.toList.dropWhile (· ≠ '/') with
  | [] => none
  | _ :: mask => do
    let a ← (parseAddr addr).filter (·.zone = [])
    let n ← if mask = [] then none else number? 10 mask
    if a.bitLen < n then none else some (.ofPrefix a.ip (128 - a.bitLen + n))

end StarNexus.Lib
