import Mathlib.Data.Rat.Floor

/-!
# Rounding to the nearest whole number, ties away from zero
-/

namespace StarNexus.Lib

open Int

def roundAway (q : ℚ) : ℤ := if 0 ≤ q then ⌊q + 1 / 2⌋ else -⌊-q + 1 / 2⌋

variable {q q' : ℚ}

lemma roundAway_nonneg (h : 0 ≤ q) : 0 ≤ roundAway q := by
  rw [roundAway, if_pos h]
  exact floor_nonneg.2 (by linarith)

lemma roundAway_nonpos (h : q ≤ 0) : roundAway q ≤ 0 := by
  unfold roundAway
  split
  · next hq =>
    obtain rfl := le_antisymm h hq
    norm_num
  · exact neg_nonpos.2 (floor_nonneg.2 (by linarith))

lemma roundAway_mono (h : q ≤ q') : roundAway q ≤ roundAway q' := by
  by_cases hq : 0 ≤ q
  · rw [roundAway, roundAway, if_pos hq, if_pos (hq.trans h)]
    exact floor_mono (by linarith)
  · by_cases hq' : 0 ≤ q'
    · exact (roundAway_nonpos (by linarith)).trans (roundAway_nonneg hq')
    · rw [roundAway, roundAway, if_neg hq, if_neg hq']
      exact neg_le_neg (floor_mono (by linarith))

lemma abs_roundAway_sub_le (q : ℚ) : |(roundAway q : ℚ) - q| ≤ 1 / 2 := by
  unfold roundAway
  rw [abs_le]
  split
  · constructor <;> linarith [floor_le (q + 1 / 2), lt_floor_add_one (q + 1 / 2)]
  · push_cast
    constructor <;> linarith [floor_le (-q + 1 / 2), lt_floor_add_one (-q + 1 / 2)]

end StarNexus.Lib
