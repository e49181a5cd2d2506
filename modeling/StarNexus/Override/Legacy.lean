import Mathlib.Data.Set.Finite.Lemmas

/-!
# Overriding parameters by name

An override without operations assigns every entry to the member of the request with the same name.  The name is escaped and
handed to `sjson` as a path.  The escape covers dots, wildcards and backslashes; a bar, a number sign or an at sign still makes
the path a complex one, which creates no member, and a leading colon is dropped from the name.
-/

namespace StarNexus.Override

open List

abbrev Key := List Char

variable {V : Type}

/-- A part of a path; a colon before it forces a member of an object. -/
structure Part where
  part : Key
  force : Bool

def isSimpleChar (c : Char) : Bool := !decide (c ∈ ['|', '#', '@', '*', '?'])

/-- The rest of a part and the parts after it, if no character makes the path a complex one. -/
def parseFrom : List Char → Option (Key × List Part)
  | [] | ['\\'] => some ([], [])
  | '\\' :: c :: rest => (parseFrom rest).map fun x => (c :: x.1, x.2)
  | '.' :: ':' :: rest => (parseFrom rest).map fun x => ([], ⟨x.1, true⟩ :: x.2)
  | '.' :: rest => (parseFrom rest).map fun x => ([], ⟨x.1, false⟩ :: x.2)
  | c :: rest => if isSimpleChar c then (parseFrom rest).map fun x => (c :: x.1, x.2) else none

def dropColon : List Char → List Char
  | ':' :: rest => rest
  | path => path

def parsePath (path : List Char) : Option (Part × List Part) :=
  (parseFrom (dropColon path)).map fun x => (⟨x.1, path.head? = some ':'⟩, x.2)

def assign (key : Key) (value : V) : List (Key × V) → List (Key × V)
  | [] => [(key, value)]
  | x :: fields => if x.1 = key then (key, value) :: fields else x :: assign key value fields

/-- What `sjson` does with paths that are no names; a complex path adds no member. -/
structure Sjson (V : Type) where
  nested : Option V → List Part → V → Option V
  complex : List (Key × V) → List Char → V → List (Key × V)
  complex_missing : ∀ fields path value key, fields.lookup key = none → (complex fields path value).lookup key = none

def Sjson.setBytes (sjson : Sjson V) (fields : List (Key × V)) (path : List Char) (value : V) : Option (List (Key × V)) :=
  if path = [] then none
  else match parsePath path with
    | none => some (sjson.complex fields path value)
    | some (part, []) => some (assign part.part value fields)
    | some (part, rest) => (sjson.nested (fields.lookup part.part) rest value).map fun v => assign part.part v fields

def escapeSjsonLiteralKey (key : Key) : List Char :=
  key.flatMap fun c => if c ∈ ['.', '*', '?', '\\'] then ['\\', c] else [c]

/-- The entries in the order in which the map is iterated. -/
structure ParamOverride (V : Type) where
  entries : List (Key × V)
  nodup : (entries.map Prod.fst).Nodup

def applyEntries (sjson : Sjson V) (entries fields : List (Key × V)) : Option (List (Key × V)) :=
  entries.foldlM (fun result x => sjson.setBytes result (escapeSjsonLiteralKey x.1) x.2) fields

def applyOperationsLegacy (sjson : Sjson V) (paramOverride : ParamOverride V) (fields : List (Key × V)) : Option (List (Key × V)) :=
  applyEntries sjson paramOverride.entries fields

def isPlain (c : Char) : Bool := !decide (c ∈ ['|', '#', '@'])

/-- A name that its escaped form stands for. -/
def Literal (key : Key) : Prop := key ≠ [] ∧ dropColon key = key ∧ key.all isPlain

/-! ### One name -/

lemma lookup_cons_eq (x : Key × V) (fields : List (Key × V)) (k : Key) :
    (x :: fields).lookup k = if k = x.1 then some x.2 else fields.lookup k := by
  rw [lookup_cons]
  by_cases hk : k = x.1
  · rw [if_pos hk, beq_iff_eq.2 hk]
  · rw [if_neg hk, beq_eq_false_iff_ne.2 hk]

lemma lookup_assign (key : Key) (value : V) (fields : List (Key × V)) (k : Key) :
    (assign key value fields).lookup k = if k = key then some value else fields.lookup k := by
  induction fields with
  | nil => exact lookup_cons_eq _ [] k
  | cons x fields ih =>
    unfold assign
    split
    · next hx =>
      rw [lookup_cons_eq, lookup_cons_eq, hx]
      by_cases hk : k = key <;> simp [hk]
    · next hx =>
      rw [lookup_cons_eq, lookup_cons_eq, ih]
      by_cases hk : k = x.1
      · simp [hk, hx]
      · simp [hk]

lemma parseFrom_escape (key : Key) :
    parseFrom (escapeSjsonLiteralKey key) = if key.all isPlain then some (key, []) else none := by
  induction key with
  | nil => rfl
  | cons c key ih =>
    have hcons : parseFrom (escapeSjsonLiteralKey (c :: key)) =
        if isPlain c then (parseFrom (escapeSjsonLiteralKey key)).map fun x => (c :: x.1, x.2) else none := by
      unfold escapeSjsonLiteralKey
      rw [flatMap_cons]
      by_cases hc : c ∈ ['.', '*', '?', '\\']
      · rw [if_pos hc, if_pos (by simp only [mem_cons, not_mem_nil, or_false] at hc; rcases hc with rfl | rfl | rfl | rfl <;> rfl)]
        rfl
      · simp only [mem_cons, not_or] at hc
        rw [if_neg (by simpa using hc), singleton_append, parseFrom]
        · simp [isSimpleChar, isPlain, hc]
        all_goals grind
    rw [hcons, ih, all_cons]
    cases isPlain c <;> cases key.all isPlain <;> rfl

variable {sjson : Sjson V} {fields result : List (Key × V)} {key k : Key}

lemma dropColon_cases (key : Key) : dropColon key = key ∨ key = ':' :: dropColon key := by
  unfold dropColon
  split
  · exact .inr rfl
  · exact .inl rfl

lemma dropColon_escape (key : Key) : dropColon (escapeSjsonLiteralKey key) = escapeSjsonLiteralKey (dropColon key) := by
  cases key with
  | nil => rfl
  | cons c key =>
    by_cases hc : c = ':'
    · subst hc
      rfl
    · have hkeep : ∀ rest, dropColon (c :: rest) = c :: rest := fun rest => by simp [dropColon, hc]
      rw [hkeep, escapeSjsonLiteralKey, flatMap_cons]
      split
      · rfl
      · exact hkeep _

lemma setBytes_escape (hkey : key ≠ []) (value : V) :
    sjson.setBytes fields (escapeSjsonLiteralKey key) value = some (if (dropColon key).all isPlain then
      assign (dropColon key) value fields else sjson.complex fields (escapeSjsonLiteralKey key) value) := by
  have hpath : escapeSjsonLiteralKey key ≠ [] := by
    obtain ⟨c, rest, rfl⟩ := exists_cons_of_ne_nil hkey
    rw [escapeSjsonLiteralKey, flatMap_cons]
    split <;> simp
  rw [Sjson.setBytes, if_neg hpath, parsePath, dropColon_escape, parseFrom_escape]
  split_ifs <;> rfl

lemma setBytes_literal (h : Literal key) (value : V) :
    sjson.setBytes fields (escapeSjsonLiteralKey key) value = some (assign key value fields) := by
  rw [setBytes_escape h.1, h.2.1, if_pos h.2.2]

lemma setBytes_missing (h : ¬Literal key) (hk : key ≠ ':' :: k) {value : V} (hmissing : fields.lookup k = none)
    (hset : sjson.setBytes fields (escapeSjsonLiteralKey key) value = some result) : result.lookup k = none := by
  have hkey : key ≠ [] := by
    rintro rfl
    cases hset
  rw [setBytes_escape hkey] at hset
  cases hset
  split
  · next hsimple =>
    rw [lookup_assign, if_neg]
    · exact hmissing
    · rintro rfl
      obtain heq | heq := dropColon_cases key
      · exact h ⟨hkey, heq, heq ▸ hsimple⟩
      · exact hk heq
  · exact sjson.complex_missing _ _ _ _ hmissing

/-! ### All entries -/

variable {entries : List (Key × V)}

lemma applyEntries_literal (hnodup : (entries.map Prod.fst).Nodup) (h : ∀ x ∈ entries, Literal x.1) (fields : List (Key × V)) :
    ∃ result, applyEntries sjson entries fields = some result ∧
      ∀ k, result.lookup k = (entries.lookup k).or (fields.lookup k) := by
  induction entries generalizing fields with
  | nil => exact ⟨fields, rfl, fun _ => rfl⟩
  | cons x entries ih =>
    obtain ⟨hfresh, hnodup⟩ := nodup_cons.1 hnodup
    obtain ⟨result, hrun, hresult⟩ := ih hnodup (fun y hy => h y (mem_cons_of_mem _ hy)) (assign x.1 x.2 fields)
    refine ⟨result, ?_, fun k => ?_⟩
    · rw [applyEntries, foldlM_cons, setBytes_literal (h x mem_cons_self)]
      exact hrun
    · rw [hresult, lookup_assign, lookup_cons_eq]
      split
      · next hk =>
        have hnone : entries.lookup k = none := by
          rw [lookup_eq_none_iff]
          rintro y hy
          simp only [hk, bne_iff_ne]
          exact fun heq => hfresh (heq ▸ mem_map_of_mem hy)
        rw [hnone]
        rfl
      · rfl

lemma applyEntries_missing (hk : ∀ x ∈ entries, x.1 ≠ ':' :: k ∧ (Literal x.1 → x.1 ≠ k)) (hmissing : fields.lookup k = none)
    (hrun : applyEntries sjson entries fields = some result) : result.lookup k = none := by
  induction entries generalizing fields with
  | nil =>
    cases hrun
    exact hmissing
  | cons x entries ih =>
    obtain ⟨middle, hset, hrest⟩ := Option.bind_eq_some_iff.1 hrun
    refine ih (fun y hy => hk y (mem_cons_of_mem _ hy)) ?_ hrest
    obtain ⟨hcolon, hother⟩ := hk x mem_cons_self
    by_cases hx : Literal x.1
    · cases (setBytes_literal hx x.2).symm.trans hset
      rw [lookup_assign, if_neg (hother hx).symm]
      exact hmissing
    · exact setBytes_missing hx hcolon hmissing hset

/-- **A legacy override is an assignment to the members it names, in any order, exactly if each of its names is literal.** -/
theorem legacy_assigns_iff (sjson : Sjson V) (paramOverride : ParamOverride V) :
    (∀ fields, ∃ result, applyOperationsLegacy sjson paramOverride fields = some result ∧
      ∀ k, result.lookup k = (paramOverride.entries.lookup k).or (fields.lookup k)) ↔
    ∀ x ∈ paramOverride.entries, Literal x.1 := by
  refine ⟨fun h => ?_, fun h => applyEntries_literal paramOverride.nodup h⟩
  obtain ⟨result, hrun, hresult⟩ := h []
  by_contra hnot
  push Not at hnot
  -- of the names that are not literal, no other entry assigns the longest one: that entry would have one colon more
  obtain ⟨x, ⟨hx, hx'⟩, hmax⟩ := Set.exists_max_image {x | x ∈ paramOverride.entries ∧ ¬Literal x.1} (fun x => x.1.length)
    ((finite_toSet _).subset fun _ h => h.1) hnot
  have hmissing : result.lookup x.1 = none := by
    refine applyEntries_missing (fun y hy => ⟨fun heq => ?_, fun hlit heq => hx' (heq ▸ hlit)⟩) rfl hrun
    have hle := hmax y ⟨hy, fun hlit => cons_ne_self _ _ (heq ▸ hlit.2.1).symm⟩
    rw [heq] at hle
    exact Nat.not_succ_le_self _ hle
  rw [hresult, lookup_nil, Option.or_none, lookup_eq_none_iff] at hmissing
  simpa using hmissing x hx

def unchanged : Sjson ℕ where
  nested _ _ value := some value
  complex fields _ _ := fields
  complex_missing _ _ _ _ h := h

/-- The member `a|b` is not created, and the member `:a` is created under the name `a`. -/
theorem legacy_entries_lost :
    applyOperationsLegacy unchanged ⟨[("a|b".toList, 1)], by simp⟩ [] = some [] ∧
      applyOperationsLegacy unchanged ⟨[(":a".toList, 1)], by simp⟩ [] = some [("a".toList, 1)] := by
  decide

end StarNexus.Override
