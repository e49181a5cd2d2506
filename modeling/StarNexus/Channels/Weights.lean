import Mathlib.Algebra.BigOperators.Ring.List
import Mathlib.Algebra.Order.Group.Int
import Mathlib.Algebra.Ring.Nat
import Mathlib.Data.Nat.Cast.Basic

/-!
# The choice of a channel

`model/channel_cache.go` and `model/ability.go` choose among the channels of one priority: a random number below the total
weight is reduced by one weight after the other, and the channel at which it is used up is taken.  A channel is its
position in the list.  The selectors over the database take the first channel once too often.
-/

namespace StarNexus.Channels

open List

/-- The functions that choose, with the memory cache and from the database. -/
inductive Selector where
  | getRandomSatisfiedChannel
  | selectWeightedChannelByRetry
  | getChannel
  | getChannelFiltered

def Selector.cached : Selector → Bool
  | .getRandomSatisfiedChannel | .selectWeightedChannelByRetry => true
  | .getChannel | .getChannelFiltered => false

/-- `smoothingFactor` and `smoothingAdjustment`. -/
def smoothing (weights : List ℕ) : ℕ × ℕ :=
  if weights.sum = 0 then (1, 100) else if weights.sum / weights.length < 10 then (100, 0) else (1, 0)

def Selector.effective (s : Selector) (weights : List ℕ) : List ℕ :=
  if s.cached then weights.map fun w => w * (smoothing weights).1 + (smoothing weights).2 else weights.map (· + 10)

def Selector.totalWeight (s : Selector) (weights : List ℕ) : ℕ :=
  if s.cached then (if weights.sum = 0 then weights.length * 100 else weights.sum) * (smoothing weights).1
  else (weights.map (· + 10)).sum

def takeUp (stops : ℤ → Bool) : List ℕ → ℤ → Option ℕ
  | [], _ => none
  | w :: rest, random => if stops (random - w) then some 0 else (takeUp stops rest (random - w)).map (· + 1)

/-- The channel that is taken at a draw; the two that filter fall back to the last one. -/
def Selector.select (s : Selector) (weights : List ℕ) (draw : ℕ) : Option ℕ :=
  match s with
  | .getRandomSatisfiedChannel => takeUp (· < 0) (s.effective weights) draw
  | .selectWeightedChannelByRetry => some ((takeUp (· < 0) (s.effective weights) draw).getD (weights.length - 1))
  | .getChannel => takeUp (· ≤ 0) (s.effective weights) draw
  | .getChannelFiltered => some ((takeUp (· ≤ 0) (s.effective weights) draw).getD (weights.length - 1))

/-- Each channel is taken at as many draws as its weight says, and none ends without a channel. -/
structure Exact (s : Selector) (weights : List ℕ) : Prop where
  taken : ∀ i < weights.length, (range (s.totalWeight weights)).countP (s.select weights · = some i) =
    (s.effective weights).getD i 0
  total : (s.effective weights).sum = s.totalWeight weights
  found : ∀ draw < s.totalWeight weights, ∃ i < weights.length, s.select weights draw = some i

/-! ### The loop of the cached selectors -/

section

variable (w r : ℕ) (rest : List ℕ)

lemma takeUp_of_lt (h : r < w) : takeUp (· < 0) (w :: rest) r = some 0 := by
  simp only [takeUp, decide_eq_true_eq]
  rw [if_pos (by omega)]

lemma takeUp_add : takeUp (· < 0) (w :: rest) (w + r) = (takeUp (· < 0) rest r).map (· + 1) := by
  simp [takeUp]

end

lemma countP_takeUp (weights : List ℕ) (i : ℕ) :
    (range weights.sum).countP (fun r => takeUp (· < 0) weights (r : ℕ) = some i) = weights.getD i 0 := by
  induction weights generalizing i with
  | nil => simp
  | cons w rest ih =>
    rw [sum_cons, range_add, countP_append, countP_map]
    have hfirst : (range w).countP (fun r => takeUp (· < 0) (w :: rest) (r : ℕ) = some i) = if i = 0 then w else 0 := by
      rw [countP_congr (q := fun _ => i = 0) fun r hr => by simp [takeUp_of_lt w r rest (mem_range.1 hr), eq_comm]]
      split_ifs with hi <;> simp [hi]
    rw [hfirst]
    cases i with
    | zero => simp [Function.comp_def, takeUp_add]
    | succ i => simpa [Function.comp_def, takeUp_add] using ih i

lemma takeUp_found {weights : List ℕ} {r : ℕ} (h : r < weights.sum) :
    ∃ i < weights.length, takeUp (· < 0) weights r = some i := by
  induction weights generalizing r with
  | nil => simp at h
  | cons w rest ih =>
    by_cases hr : r < w
    · exact ⟨0, by simp, takeUp_of_lt w r rest hr⟩
    · obtain ⟨k, rfl⟩ := Nat.exists_eq_add_of_le (not_lt.1 hr)
      rw [sum_cons] at h
      obtain ⟨i, hi, hk⟩ := ih (by omega : k < rest.sum)
      exact ⟨i + 1, by simpa using hi, by rw [Int.natCast_add, takeUp_add, hk]; rfl⟩

lemma sum_smoothed (weights : List ℕ) (factor adjustment : ℕ) :
    (weights.map fun w => w * factor + adjustment).sum = weights.sum * factor + weights.length * adjustment := by
  simpa using sum_map_mul_right weights id factor

variable {s : Selector} {weights : List ℕ}

lemma Selector.sum_effective (s : Selector) (weights : List ℕ) : (s.effective weights).sum = s.totalWeight weights := by
  unfold effective totalWeight
  split_ifs with hcached hsum
  · rw [sum_smoothed, smoothing, if_pos hsum]
    omega
  · rw [sum_smoothed, smoothing, if_neg hsum]
    split_ifs <;> omega
  · rfl

lemma Selector.length_effective (s : Selector) (weights : List ℕ) : (s.effective weights).length = weights.length := by
  unfold effective
  split_ifs <;> simp

/-! ### Exactness -/

lemma exact_of_takeUp (h : ∀ draw < s.totalWeight weights,
    s.select weights draw = takeUp (· < 0) (s.effective weights) draw) : Exact s weights where
  taken i _ := by
    rw [← countP_takeUp, s.sum_effective]
    exact countP_congr fun draw hdraw => by rw [h draw (mem_range.1 hdraw)]
  total := s.sum_effective weights
  found draw hdraw := by
    rw [h draw hdraw, ← s.length_effective weights]
    exact takeUp_found (by rwa [s.sum_effective])

lemma exact_of_cached (hs : s.cached) : Exact s weights := by
  refine exact_of_takeUp fun draw hdraw => ?_
  cases s with
  | getRandomSatisfiedChannel => rfl
  | selectWeightedChannelByRetry =>
    obtain ⟨i, -, hi⟩ := takeUp_found (by rwa [Selector.sum_effective])
    rw [Selector.select, hi]
    rfl
  | getChannel | getChannelFiltered => cases hs

section database

variable (hs : ¬s.cached)

include hs

lemma effective_of_database (weights : List ℕ) : s.effective weights = weights.map (· + 10) := if_neg hs

lemma select_first {w draw : ℕ} {rest : List ℕ} (hle : draw ≤ w + 10) : s.select (w :: rest) draw = some 0 := by
  have hstops : (draw : ℤ) - (w + 10) ≤ 0 := by omega
  have heffective := effective_of_database hs (w :: rest)
  cases s with
  | getRandomSatisfiedChannel | selectWeightedChannelByRetry => exact absurd rfl hs
  | getChannel | getChannelFiltered => simp [Selector.select, heffective, takeUp, hstops]

lemma exact_one (w : ℕ) : Exact s [w] := by
  refine exact_of_takeUp fun draw hdraw => ?_
  rw [← s.sum_effective, effective_of_database hs, map_singleton, sum_singleton] at hdraw
  rw [select_first hs hdraw.le, effective_of_database hs, map_singleton, takeUp_of_lt _ _ _ hdraw]

lemma not_exact_of_two {w v : ℕ} {rest : List ℕ} : ¬Exact s (w :: v :: rest) := by
  intro h
  have htaken := h.taken 0 (by simp)
  have hsum := s.sum_effective (w :: v :: rest)
  rw [effective_of_database hs] at hsum htaken
  obtain ⟨k, hk⟩ : ∃ k, s.totalWeight (w :: v :: rest) = (w + 11) + k :=
    Nat.exists_eq_add_of_le (by simp only [map_cons, sum_cons] at hsum; omega)
  have hall : (range (w + 11)).countP (s.select (w :: v :: rest) · = some 0) = w + 11 := by
    refine (countP_eq_length.2 fun draw hdraw => ?_).trans length_range
    simpa using select_first hs (Nat.le_of_lt_succ (mem_range.1 hdraw))
  rw [hk, range_add, countP_append, hall] at htaken
  simp at htaken
  omega

end database

/-- **Every weight is met exactly with the memory cache, and from the database only for a single channel.** -/
theorem weighted_choice_exact_iff (s : Selector) (hne : weights ≠ []) :
    Exact s weights ↔ s.cached ∨ weights.length = 1 := by
  by_cases hs : s.cached
  · exact iff_of_true (exact_of_cached hs) (.inl hs)
  · match weights, hne with
    | [w], _ => exact iff_of_true (exact_one hs w) (.inr rfl)
    | w :: v :: rest, _ => exact iff_of_false (not_exact_of_two hs) (by simp [hs])

theorem weighted_choice_exact_cached : Exact .getRandomSatisfiedChannel [0, 3, 5] :=
  (weighted_choice_exact_iff _ (by simp)).2 (.inl rfl)

/-- Of two channels of weight 0 the first is taken at eleven draws of twenty, not at ten. -/
theorem first_channel_favoured :
    (range (Selector.getChannel.totalWeight [0, 0])).countP (Selector.getChannel.select [0, 0] · = some 0) = 11 ∧
      (Selector.getChannel.effective [0, 0]).getD 0 0 = 10 := by
  decide

end StarNexus.Channels
