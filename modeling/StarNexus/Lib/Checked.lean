import Mathlib.Data.List.Basic

/-!
# Computations that can panic

A call returns a value, returns an error, or panics: on a slice out of range, on a nil pointer or on a type assertion
that fails.  `Safe` is the absence of a panic.  In a loop an error ends the run, so what comes after it can no longer panic.
-/

namespace StarNexus.Lib

open List

inductive Checked (α : Type*) where
  | ok (value : α)
  | error (message : String)
  | panicked
deriving DecidableEq, Repr

namespace Checked

universe u

variable {α β σ : Type u}

def bind (x : Checked α) (f : α → Checked β) : Checked β :=
  match x with
  | ok a => f a
  | error message => error message
  | panicked => panicked

instance : Monad Checked where
  pure := ok
  bind := bind

def Safe (x : Checked α) : Prop := x ≠ panicked

instance [DecidableEq α] (x : Checked α) : Decidable x.Safe := inferInstanceAs (Decidable (_ ≠ _))

variable (a : α) (f : α → Checked β)

@[simp] lemma ok_bind : (ok a >>= f) = f a := rfl

@[simp] lemma pure_bind : ((pure a : Checked α) >>= f) = f a := rfl

@[simp] lemma error_bind (message : String) (f : α → Checked β) : (error message >>= f) = error message := rfl

@[simp] lemma panicked_bind : ((panicked : Checked α) >>= f) = panicked := rfl

@[simp] lemma safe_ok : (ok a).Safe := nofun

@[simp] lemma safe_pure : (pure a : Checked α).Safe := nofun

@[simp] lemma safe_error (message : String) : (error message : Checked α).Safe := nofun

@[simp] lemma not_safe_panicked : ¬(panicked : Checked α).Safe := fun h => h rfl

/-- A sequence is safe if its parts are, the second one as far as it is reached. -/
lemma safe_bind_iff (x : Checked α) (f : α → Checked β) :
    (x >>= f).Safe ↔ x.Safe ∧ ∀ a, x = ok a → (f a).Safe := by
  cases x with
  | ok a | error message | panicked => simp

def deref : Option α → Checked α
  | some a => ok a
  | none => panicked

def index (l : List α) (i : ℕ) : Checked α := deref l[i]?

def slice (l : List α) (i j : ℕ) : Checked (List α) :=
  if i ≤ j ∧ j ≤ l.length then ok ((l.take j).drop i) else panicked

lemma slice_of_le {l : List α} {i j : ℕ} (hij : i ≤ j) (hj : j ≤ l.length) : slice l i j = ok ((l.take j).drop i) :=
  if_pos ⟨hij, hj⟩

def allButLast : List α → Checked (List α)
  | [] => panicked
  | a :: l => ok (a :: l).dropLast

@[simp] lemma allButLast_of_ne_nil {l : List α} (h : l ≠ []) : allButLast l = ok l.dropLast := by
  cases l with
  | nil => exact absurd rfl h
  | cons a l => rfl

variable {f : σ → α → Checked σ}

/-- **Loops.**  `safe` says when one pass does not panic and `goes` when it comes to its end; neither depends on what the
loop has collected.  The loop is safe if every pass is that is reached. -/
lemma safe_foldlM_iff {safe goes : α → Prop} (hsafe : ∀ s a, (f s a).Safe ↔ safe a)
    (hgoes : ∀ s a, (∃ s', f s a = ok s') ↔ safe a ∧ goes a) (l : List α) (s : σ) :
    (l.foldlM f s).Safe ↔ ∀ pre a post, l = pre ++ a :: post → (∀ b ∈ pre, goes b) → safe a := by
  induction l generalizing s with
  | nil => simp
  | cons a l ih =>
    rw [foldlM_cons, safe_bind_iff, hsafe]
    constructor
    · rintro ⟨ha, hrest⟩ pre b post hl hpre
      cases pre with
      | nil =>
        obtain ⟨rfl, -⟩ := cons.inj hl
        exact ha
      | cons c pre =>
        obtain ⟨rfl, htail⟩ := cons.inj hl
        obtain ⟨s', hs'⟩ := (hgoes s a).2 ⟨ha, hpre a (.head _)⟩
        exact (ih s').1 (hrest s' hs') pre b post htail fun d hd => hpre d (.tail _ hd)
    · intro h
      refine ⟨h [] a l rfl fun b hb => (nomatch hb), fun s' hs' => (ih s').2 ?_⟩
      intro pre b post hl hpre
      refine h _ b post (by rw [hl, cons_append]) fun c hc => ?_
      rcases mem_cons.1 hc with rfl | hc
      · exact ((hgoes s c).1 ⟨s', hs'⟩).2
      · exact hpre c hc

/-! ### Calls that return a value or panic -/

/-- The call returns a value if `p` holds and panics if it does not. -/
def OkIff (x : Checked α) (p : Prop) : Prop := p ∧ (∃ a, x = ok a) ∨ ¬p ∧ x = panicked

variable {p q : Prop}

lemma okIff_pure : (pure a : Checked α).OkIff True := .inl ⟨trivial, a, rfl⟩

variable {x : Checked α}

lemma OkIff.congr (h : x.OkIff p) (hpq : p ↔ q) : x.OkIff q := propext hpq ▸ h

lemma OkIff.bind {f : α → Checked β} (hx : x.OkIff p) (hf : ∀ a, (f a).OkIff q) :
    (x >>= f).OkIff (p ∧ q) := by
  rcases hx with ⟨hp, a, rfl⟩ | ⟨hp, rfl⟩
  · exact (hf a).congr ⟨fun hq => ⟨hp, hq⟩, And.right⟩
  · exact .inr ⟨fun h => hp h.1, rfl⟩

lemma OkIff.bind_pure (hx : x.OkIff p) (f : α → β) : (x >>= fun a => pure (f a)).OkIff p :=
  (hx.bind fun a => okIff_pure (f a)).congr (and_iff_left trivial)

lemma okIff_deref (x : Option α) : (deref x).OkIff x.isSome := by
  cases x with
  | none => exact .inr ⟨Bool.false_ne_true, rfl⟩
  | some a => exact .inl ⟨rfl, a, rfl⟩

lemma okIff_foldlM {good : α → Prop} (hf : ∀ s a, (f s a).OkIff (good a)) (l : List α) (s : σ) :
    (l.foldlM f s).OkIff (∀ a ∈ l, good a) := by
  induction l generalizing s with
  | nil => exact .inl ⟨fun a ha => (nomatch ha), s, rfl⟩
  | cons a l ih =>
    exact ((hf s a).bind ih).congr forall_mem_cons.symm

end Checked

/-! ## Slices -/

/-- A slice: its elements, and what its array holds behind them. -/
structure Slice (α : Type*) where
  elems : List α
  spare : List α := []
deriving DecidableEq, Repr

def Slice.upTo {α : Type*} (s : Slice α) (n : ℕ) : Checked (List α) :=
  if n ≤ s.elems.length + s.spare.length then .ok ((s.elems ++ s.spare).take n) else .panicked

lemma Slice.upTo_of_le {α : Type*} (s : Slice α) {n : ℕ} (h : n ≤ s.elems.length) :
    s.upTo n = .ok (s.elems.take n) := by
  unfold Slice.upTo
  rw [if_pos (by omega), take_append_of_le_length h]

lemma Slice.length_of_upTo {α : Type*} {s : Slice α} {n : ℕ} {l : List α} (h : s.upTo n = .ok l) :
    l.length = n := by
  unfold Slice.upTo at h
  split at h
  · obtain rfl := Checked.ok.inj h
    simp only [length_take, length_append]
    omega
  · cases h

end StarNexus.Lib
