import Mathlib.Algebra.BigOperators.Group.List.Basic
import Mathlib.Algebra.Order.Ring.Int

/-!
# What has been charged in a period

A meter keeps the charges in the order in which they were made, and for every account the period in which it was opened.
The net charges of a period are those of the accounts opened in it, whenever they were made.
-/

namespace StarNexus.Lib

open List

/-- The charges, and the period in which an account was opened. -/
structure Meter (R T : Type*) where
  charges : List (R × ℤ) := []
  period : R → Option T := fun _ => none

namespace Meter

variable {R T : Type*} [DecidableEq R] [DecidableEq T]

/-- The net charges of the accounts that were opened in the period `t`. -/
def net (m : Meter R T) (t : T) : ℤ := (m.charges.map fun c => if m.period c.1 = some t then c.2 else 0).sum

def charge (m : Meter R T) (r : R) (x : ℤ) : Meter R T := { m with charges := m.charges ++ [(r, x)] }

/-- An account is opened in the period `t` with a first charge. -/
def enter (m : Meter R T) (r : R) (x : ℤ) (t : T) : Meter R T :=
  { charges := m.charges ++ [(r, x)], period := Function.update m.period r (some t) }

variable {m : Meter R T} {r : R} {x : ℤ} {t t' : T}

omit [DecidableEq R] in
lemma net_charge (h : m.period r = some t) : (m.charge r x).net t = m.net t + x := by
  have hlast : (if m.period r = some t then x else 0) = x := if_pos h
  unfold net
  rw [charge, map_append, sum_append, map_singleton, sum_singleton, hlast]

/-- Everyone who is charged has an account, opened no later than in the period `t`. -/
def Sound [LE T] (m : Meter R T) (t : T) : Prop := ∀ c ∈ m.charges, ∃ p, m.period c.1 = some p ∧ p ≤ t

section order

variable [Preorder T]

omit [DecidableEq R] [DecidableEq T] in
lemma Sound.later (h : m.Sound t) (hle : t ≤ t') : m.Sound t' := fun c hc =>
  let ⟨p, hp, hpt⟩ := h c hc
  ⟨p, hp, hpt.trans hle⟩

omit [DecidableEq R] [DecidableEq T] in
lemma Sound.charge (h : m.Sound t) (hr : m.period r = some t) : (m.charge r x).Sound t := by
  intro c hc
  rcases mem_append.1 hc with hc | hc
  · exact h c hc
  · obtain rfl := mem_singleton.1 hc
    exact ⟨t, hr, le_rfl⟩

omit [DecidableEq T] in
lemma Sound.enter (h : m.Sound t) : (m.enter r x t).Sound t := by
  intro c hc
  by_cases hcr : c.1 = r
  · exact ⟨t, by simp [Meter.enter, hcr], le_rfl⟩
  · rcases mem_append.1 hc with hc | hc
    · obtain ⟨p, hp, hpt⟩ := h c hc
      exact ⟨p, by simpa [Meter.enter, hcr] using hp, hpt⟩
    · obtain rfl := mem_singleton.1 hc
      exact absurd rfl hcr

lemma net_admit (h : m.Sound t) (hr : m.period r = none) : (m.enter r x t).net t = m.net t + x := by
  have hold : ∀ c ∈ m.charges, (if (m.enter r x t).period c.1 = some t then c.2 else 0) =
      if m.period c.1 = some t then c.2 else 0 := by
    intro c hc
    have hcr : c.1 ≠ r := by
      rintro rfl
      obtain ⟨p, hp, -⟩ := h c hc
      rw [hr] at hp
      cases hp
    simp [Meter.enter, hcr]
  unfold net
  rw [Meter.enter, map_append, sum_append]
  congr 1
  · exact congrArg sum (map_congr_left hold)
  · simp

omit [DecidableEq R] in
lemma net_of_lt (h : m.Sound t) (hlt : t < t') : m.net t' = 0 := by
  refine sum_eq_zero fun y hy => ?_
  obtain ⟨c, hc, rfl⟩ := mem_map.1 hy
  obtain ⟨p, hp, hpt⟩ := h c hc
  rw [hp, if_neg]
  intro heq
  cases heq
  exact absurd hlt (not_lt_of_ge hpt)

end order

end Meter

end StarNexus.Lib
