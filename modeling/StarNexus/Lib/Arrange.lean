import Mathlib.Data.List.Perm.Basic
import Mathlib.Data.List.Flatten
import Mathlib.Data.List.Pairwise
import Mathlib.Data.List.Sort

/-!
# Rearranged lists

A list is handed on in another order, in which some entries have to stay after others.  Every entry is followed by its
position, so that equal entries are told apart.
-/

namespace StarNexus.Lib

open List

variable {α β : Type*} {held : α → α → Prop} {l l' k k' : List α}

/-- The entries of `l`, each once, in the order of `l'`; an entry that is held by another one stays after it. -/
def Arranged (held : α → α → Prop) (l l' : List α) : Prop :=
  ∃ ts : List (α × ℕ), ts.Perm l.zipIdx ∧ ts.map Prod.fst = l' ∧ ts.Pairwise fun a b => b.2 < a.2 → ¬held b.1 a.1

lemma Arranged.perm (h : Arranged held l l') : l'.Perm l := by
  obtain ⟨ts, hperm, rfl, -⟩ := h
  simpa using hperm.map Prod.fst

lemma Arranged.nil : Arranged held ([] : List α) [] := ⟨[], .refl _, rfl, .nil⟩

lemma Arranged.append (h : Arranged held l l') (h' : Arranged held k k') : Arranged held (l ++ k) (l' ++ k') := by
  obtain ⟨ts, hperm, rfl, hts⟩ := h
  obtain ⟨us, hperm', rfl, hus⟩ := h'
  have hshift : (us.map fun x => (x.1, l.length + x.2)).Perm (k.zipIdx l.length) := by
    rw [zipIdx_eq_map_add]
    exact hperm'.map _
  refine ⟨ts ++ us.map fun x => (x.1, l.length + x.2), ?_, ?_, ?_⟩
  · rw [zipIdx_append, Nat.zero_add]
    exact hperm.append hshift
  · simp
  · refine pairwise_append.2 ⟨hts, ?_, fun a ha b hb hlt => ?_⟩
    · refine pairwise_map.2 (hus.imp fun {a b} hab hlt => hab ?_)
      simpa using hlt
    · have hfirst : a.2 < l.length := by simpa using (mem_zipIdx (hperm.subset ha)).2.1
      have hsecond : l.length ≤ b.2 := (mem_zipIdx (hshift.subset hb)).1
      omega

variable {f g : β → List α} {xs : List β}

lemma Arranged.flatMap (h : ∀ x ∈ xs, Arranged held (f x) (g x)) :
    Arranged held (xs.flatMap f) (xs.flatMap g) := by
  induction xs with
  | nil => exact Arranged.nil
  | cons x xs ih =>
    exact (h x (.head _)).append (ih fun y hy => h y (.tail _ hy))

lemma zipIdx_pairwise_lt (l : List α) : l.zipIdx.Pairwise fun a b => a.2 < b.2 := by
  have hsorted := pairwise_lt_range' (s := 0) (n := l.length)
  rw [← zipIdx_map_snd] at hsorted
  exact pairwise_map.1 hsorted

lemma zipIdx_filter_fst (l : List α) (q : α → Bool) : (l.zipIdx.filter fun x => q x.1).map Prod.fst = l.filter q := by
  conv_rhs => rw [← zipIdx_map_fst 0 l, filter_map]
  rfl

lemma zipIdx_rel_of_lt {R : α → α → Prop} (h : l.Pairwise R) {a b : α × ℕ} (ha : a ∈ l.zipIdx) (hb : b ∈ l.zipIdx) (hlt : a.2 < b.2) :
    R a.1 b.1 := by
  have hrel : l.zipIdx.Pairwise fun a b => R a.1 b.1 := by
    rw [← zipIdx_map_fst 0 l] at h
    exact pairwise_map.1 h
  have hboth : l.zipIdx.Pairwise fun a b => (a.2 < b.2 → R a.1 b.1) ∧ (b.2 < a.2 → R b.1 a.1) :=
    ((zipIdx_pairwise_lt l).and hrel).imp fun ⟨hab, hR⟩ => ⟨fun _ => hR, fun hba => absurd hba hab.asymm⟩
  have : Std.Symm fun a b : α × ℕ => (a.2 < b.2 → R a.1 b.1) ∧ (b.2 < a.2 → R b.1 a.1) := ⟨fun a b hab => ⟨hab.2, hab.1⟩⟩
  exact (hboth.forall_of_forall (fun a _ => ⟨fun h => absurd h (lt_irrefl _), fun h => absurd h (lt_irrefl _)⟩) ha hb).1 hlt

lemma Arranged.filter (p : α → Bool) (h : l.Pairwise fun x y => ¬p x = true → p y = true → ¬held x y) :
    Arranged held l (l.filter p ++ l.filter (!p ·)) := by
  have hlt := zipIdx_pairwise_lt l
  refine ⟨l.zipIdx.filter (fun x => p x.1) ++ l.zipIdx.filter fun x => !p x.1, filter_append_perm _ _, ?_, ?_⟩
  · rw [map_append, zipIdx_filter_fst l p, zipIdx_filter_fst l (!p ·)]
  · refine pairwise_append.2 ⟨(hlt.filter _).imp fun hab hba => absurd hab (by omega),
      (hlt.filter _).imp fun hab hba => absurd hab (by omega), fun a ha b hb hba => ?_⟩
    obtain ⟨ha, hpa⟩ := mem_filter.1 ha
    obtain ⟨hb, hpb⟩ := mem_filter.1 hb
    -- `b` comes before `a` in `l`, and `a` is moved past it
    exact zipIdx_rel_of_lt h hb ha hba (by simpa using hpb) hpa

lemma Arranged.filter_eq (h : Arranged held l l') {q : α → Bool} (hq : ∀ x y, q x = true → q y = true → held x y) :
    l'.filter q = l.filter q := by
  obtain ⟨ts, hperm, rfl, hts⟩ := h
  have hne : ts.Pairwise fun a b => a.2 ≠ b.2 := by
    have hnodup : (l.zipIdx.map Prod.snd).Nodup := by
      rw [zipIdx_map_snd]
      exact nodup_range'
    exact pairwise_map.1 ((hperm.map Prod.snd).nodup_iff.2 hnodup)
  have hsorted : (ts.filter fun x => q x.1).Pairwise fun a b => a.2 < b.2 := by
    refine pairwise_filter.2 ((hts.and hne).imp fun {a b} hab hqa hqb => ?_)
    exact lt_of_le_of_ne (not_lt.1 fun hba => hab.1 hba (hq _ _ hqb hqa)) hab.2
  have hsame : ts.filter (fun x => q x.1) = l.zipIdx.filter fun x => q x.1 :=
    List.Perm.eq_of_pairwise (fun a b _ _ hab hba => absurd hab hba.asymm) hsorted ((zipIdx_pairwise_lt l).filter _)
      (hperm.filter _)
  rw [← zipIdx_filter_fst l q, ← hsame, filter_map]
  rfl

/-! ### Lists made of parts -/

section

variable (hle : ∀ x ∈ xs, (g x).length ≤ (f x).length)

include hle

lemma flatMap_length_le :
    (xs.flatMap g).length ≤ (xs.flatMap f).length := by
  induction xs with
  | nil => exact le_rfl
  | cons y ys ih =>
    rw [flatMap_cons, flatMap_cons, length_append, length_append]
    exact Nat.add_le_add (hle y (.head _)) (ih fun x hx => hle x (.tail _ hx))

lemma length_eq_of_flatMap
    (h : (xs.flatMap g).length = (xs.flatMap f).length) : ∀ x ∈ xs, (g x).length = (f x).length := by
  induction xs with
  | nil => exact nofun
  | cons y ys ih =>
    rw [flatMap_cons, flatMap_cons, length_append, length_append] at h
    have hhead := hle y (.head _)
    have htail := flatMap_length_le fun x hx => hle x (mem_cons_of_mem y hx)
    refine forall_mem_cons.2 ⟨by omega, ih (fun x hx => hle x (.tail _ hx)) (by omega)⟩

end

lemma eq_of_flatMap (hlength : ∀ x ∈ xs, (g x).length = (f x).length)
    (h : xs.flatMap g = xs.flatMap f) : ∀ x ∈ xs, g x = f x := by
  induction xs with
  | nil => exact nofun
  | cons y ys ih =>
    obtain ⟨hhead, htail⟩ := append_inj h (hlength y (.head _))
    exact forall_mem_cons.2 ⟨hhead, ih (fun x hx => hlength x (.tail _ hx)) htail⟩

end StarNexus.Lib
