import Mathlib.Tactic.Lemma
import Mathlib.Data.Int.Order.Basic
import Mathlib.Data.List.Basic

/-!
# Sliding windows

Events are known by their times.  `Sparse d n l` says that no interval of length `d` holds more than `n` of the events `l`,
and `Room d n now l p` is the invariant of a limiter that lets `p` pending events through in advance: the events of the
last `d` units and the pending ones together stay within `n`.
-/

namespace StarNexus.Lib

open List

variable {d n now now' : ℤ} {l : List ℤ} {p : ℕ}

/-- The events that are less than `d` old at the time `now`. -/
def recent (d now : ℤ) (l : List ℤ) : List ℤ := l.filter fun t => now - t < d

/-- No interval `[a, a + d)` holds more than `n` of the events. -/
def Sparse (d n : ℤ) (l : List ℤ) : Prop := ∀ a, ((l.filter fun t => a ≤ t ∧ t < a + d).length : ℤ) ≤ n

@[simp] lemma recent_nil : recent d now [] = [] := rfl

lemma recent_append (l l' : List ℤ) : recent d now (l ++ l') = recent d now l ++ recent d now l' := filter_append ..

lemma length_recent_le : (recent d now l).length ≤ l.length := length_filter_le _ _

lemma recent_eq_nil (h : ∀ t ∈ l, d ≤ now - t) : recent d now l = [] := by
  rw [recent, filter_eq_nil_iff]
  intro t ht
  have hold := h t ht
  simpa using hold

lemma recent_recent (h : now ≤ now') : recent d now' (recent d now l) = recent d now' l := by
  unfold recent
  rw [filter_filter]
  refine filter_congr fun t _ => ?_
  simp only [← Bool.decide_and, decide_eq_decide]
  omega

lemma length_recent_later (h : now ≤ now') : (recent d now' l).length ≤ (recent d now l).length := by
  rw [← recent_recent h]
  exact length_recent_le

lemma dropWhile_eq_recent (hsorted : l.Pairwise (· ≤ ·)) : (l.dropWhile fun t => d ≤ now - t) = recent d now l := by
  induction l with
  | nil => rfl
  | cons t l ih =>
    obtain ⟨hfirst, hrest⟩ := pairwise_cons.1 hsorted
    by_cases hold : d ≤ now - t
    · rw [dropWhile_cons_of_pos (by simpa using hold), ih hrest, recent, recent,
        filter_cons_of_neg (by simpa using hold)]
    · rw [dropWhile_cons_of_neg (by simpa using hold), recent, filter_eq_self.2]
      intro u hu
      have hge : t ≤ u := by
        rcases mem_cons.1 hu with rfl | hu
        · exact le_rfl
        · exact hfirst u hu
      simp only [decide_eq_true_eq]
      omega

lemma Sparse.snoc (h : Sparse d n l) (hroom : ((recent d now l).length : ℤ) < n) : Sparse d n (l ++ [now]) := by
  intro a
  rw [filter_append, length_append]
  by_cases hin : a ≤ now ∧ now < a + d
  · -- an event of an interval around `now` is recent at `now`
    have hle : (l.filter fun t => a ≤ t ∧ t < a + d).length ≤ (recent d now l).length := by
      refine (monotone_filter_right l fun t ht => ?_).length_le
      simp only [decide_eq_true_eq] at ht ⊢
      omega
    rw [filter_cons_of_pos (by simpa using hin), filter_nil, length_singleton]
    omega
  · rw [filter_cons_of_neg (by simpa using hin), filter_nil]
    exact h a

/-- The invariant of a limiter with `p` places taken in advance. -/
structure Room (d n now : ℤ) (l : List ℤ) (p : ℕ) : Prop where
  sparse : Sparse d n l
  fits : ((recent d now l).length : ℤ) + p ≤ n

namespace Room

lemma start (h : 0 ≤ n) : Room d n now [] 0 := ⟨fun a => by exact h, by exact h⟩

lemma later (h : Room d n now l p) (hnow : now ≤ now') : Room d n now' l p := by
  refine ⟨h.sparse, ?_⟩
  have hfits := h.fits
  have hle := length_recent_later (d := d) (l := l) hnow
  omega

lemma release {p' : ℕ} (h : Room d n now l p) (hp : p' ≤ p) : Room d n now l p' := by
  have hfits := h.fits
  exact ⟨h.sparse, by omega⟩

lemma take (h : Room d n now l p) (hlt : ((recent d now l).length : ℤ) + p < n) : Room d n now l (p + 1) :=
  ⟨h.sparse, by omega⟩

lemma count (h : Room d n now l (p + 1)) : Room d n now (l ++ [now]) p := by
  have hfits := h.fits
  refine ⟨h.sparse.snoc (by omega), ?_⟩
  have hone : (recent d now [now]).length ≤ 1 := length_recent_le
  rw [recent_append, length_append]
  omega

end Room

end StarNexus.Lib
