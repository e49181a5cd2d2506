import Mathlib.Logic.Function.Iterate
import Mathlib.Tactic.Ring
import StarNexus.Model.SubscriptionReset

/-!
# The loops of the subscription reset

`maybeResetUserSubscriptionWithPlanTx` counts the resets of a plan in a loop until one lies in the future.  A custom period is
a `time.Duration`, nanoseconds in an `int64`, and the product that computes it wraps around: with a period of less than a
second the loop does not end, with a negative one it counts backwards.  A daily reset at a midnight that the clocks skip may be
put before that midnight, and is then followed by itself.
-/

namespace StarNexus.ResetLoop

open Lib Model Model.SubscriptionPlan List Option

/-! ### The resets that the loop comes to -/

/-- The loop goes on at the reset `x`. -/
def Due (endUnix now x : ℤ) : Prop := 0 < x ∧ x ≤ now ∧ (0 < endUnix → x ≤ endUnix)

/-- The loop is left at `x` with no reset or with one in the future. -/
def Past (endUnix now x : ℤ) : Prop := x = 0 ∨ now < x ∨ (0 < endUnix ∧ endUnix < x)

variable {next step : ℤ → ℤ} {endUnix now base x : ℤ}

/-- The resets from `x` on come past `now` or the end. -/
def Passes (step : ℤ → ℤ) (endUnix now x : ℤ) : Prop :=
  ∃ n, Past endUnix now (step^[n] x) ∧ ∀ k < n, Due endUnix now (step^[k] x)

def Ends (step : ℤ → ℤ) (endUnix now x : ℤ) : Prop := ∃ n, ¬Due endUnix now (step^[n] x)

open Classical in
lemma Ends.first (h : Ends step endUnix now x) :
    ∃ n, ¬Due endUnix now (step^[n] x) ∧ ∀ k < n, Due endUnix now (step^[k] x) :=
  ⟨Nat.find h, Nat.find_spec h, fun _ hk => not_not.1 (Nat.find_min h hk)⟩

variable {zone : Zone} {plan : SubscriptionPlan} {sub : UserSubscription}

/-- The resets of the plan come past `now`: a custom period leads forward, or back and exactly to zero; the days, weeks or
months of the zone lead on from the start of the period. -/
def MovesOn (zone : Zone) (plan : SubscriptionPlan) (sub : UserSubscription) (now : ℤ) : Prop :=
  match plan.quotaResetPeriod with
  | .never => True
  | .custom =>
    let w := durationSeconds plan.quotaResetCustomSeconds
    plan.quotaResetCustomSeconds ≤ 0 ∨ Past sub.endTime now (sub.periodStart + w) ∨
      Due sub.endTime now (sub.periodStart + w) ∧ (0 < w ∨ w < 0 ∧ w ∣ sub.periodStart)
  | .daily | .weekly | .monthly =>
    Passes (plan.following zone) sub.endTime now (plan.following zone sub.periodStart)

end StarNexus.ResetLoop
