import StarNexus.Lib.Calendar
import StarNexus.Model.Subscription

/-!
# Resetting the quota of subscriptions

When a subscription's use starts again from zero: `calcNextResetTime`, `maybeResetUserSubscriptionWithPlanTx` and
`ResetDueSubscriptions` of `model/subscription.go`.  Midnights, Mondays and first days of months are found in the zone of the
server, and a custom period is a `time.Duration` that wraps around; nothing of either is known to lead forward.
-/

namespace StarNexus.Model

open Lib Lib.Tx

/-! ### The plan -/

inductive ResetPeriod where
  | never
  | daily
  | weekly
  | monthly
  | custom
  deriving DecidableEq

structure SubscriptionPlan where
  quotaResetPeriod : ResetPeriod
  quotaResetCustomSeconds : ℤ := 0

/-- There is no reset after the end of the subscription; `endUnix = 0` is no end. -/
def unlessEnded (endUnix next : ℤ) : ℤ := if 0 < endUnix ∧ endUnix < next then 0 else next

/-- `calcNextResetTime`; `0` is no reset. -/
def calcNextResetTime (zone : Zone) (base : ℤ) (plan : SubscriptionPlan) (endUnix : ℤ) : ℤ :=
  match plan.quotaResetPeriod with
  | .never => 0
  | .daily => unlessEnded endUnix (zone.nextDay base)
  | .weekly => unlessEnded endUnix (zone.nextMonday base)
  | .monthly => unlessEnded endUnix (zone.nextMonth base)
  | .custom =>
    if plan.quotaResetCustomSeconds ≤ 0 then 0
    else unlessEnded endUnix (base + durationSeconds plan.quotaResetCustomSeconds)

namespace SubscriptionPlan

variable (zone : Zone) (plan : SubscriptionPlan)

def Resets : Prop := plan.quotaResetPeriod ≠ .never ∧ (plan.quotaResetPeriod = .custom → 0 < plan.quotaResetCustomSeconds)

/-- The reset after `t` for a subscription without end. -/
def following (t : ℤ) : ℤ :=
  match plan.quotaResetPeriod with
  | .never => 0
  | .daily => zone.nextDay t
  | .weekly => zone.nextMonday t
  | .monthly => zone.nextMonth t
  | .custom => t + durationSeconds plan.quotaResetCustomSeconds

/-- The clocks skip no midnight, and a custom period has a whole second after it has wrapped around. -/
def Forward : Prop := match plan.quotaResetPeriod with
  | .never => True
  | .daily | .weekly | .monthly => zone.Regular
  | .custom => 0 < durationSeconds plan.quotaResetCustomSeconds

variable {zone plan} {base endUnix : ℤ}

lemma calcNextResetTime_of_resets (h : plan.Resets) :
    calcNextResetTime zone base plan endUnix = unlessEnded endUnix (plan.following zone base) := by
  obtain ⟨hnever, hcustom⟩ := h
  unfold calcNextResetTime following
  cases hperiod : plan.quotaResetPeriod with
  | never => exact absurd hperiod hnever
  | custom => exact if_neg (not_le.2 (hcustom hperiod))
  | daily | weekly | monthly => rfl

lemma calcNextResetTime_of_not_resets (h : ¬plan.Resets) : calcNextResetTime zone base plan endUnix = 0 := by
  unfold calcNextResetTime
  cases hperiod : plan.quotaResetPeriod with
  | never => rfl
  | custom => exact if_pos (not_lt.1 fun hpos => h ⟨by simp [hperiod], fun _ => hpos⟩)
  | daily | weekly | monthly => exact absurd ⟨by simp [hperiod], by simp [hperiod]⟩ h

lemma Forward.lt_following (h : plan.Forward zone) (hresets : plan.Resets) (t : ℤ) : t < plan.following zone t := by
  unfold Forward at h
  unfold following
  cases hperiod : plan.quotaResetPeriod with
  | never => exact absurd hperiod hresets.1
  | daily =>
    rw [hperiod] at h
    exact Zone.Regular.lt_nextDay h t
  | weekly =>
    rw [hperiod] at h
    exact Zone.Regular.lt_nextMonday h t
  | monthly =>
    rw [hperiod] at h
    exact Zone.Regular.lt_nextMonth h t
  | custom =>
    rw [hperiod] at h
    exact Int.lt_add_of_pos_right t h

lemma Forward.lt_calcNextResetTime (h : plan.Forward zone) (h0 : calcNextResetTime zone base plan endUnix ≠ 0) :
    base < calcNextResetTime zone base plan endUnix := by
  by_cases hresets : plan.Resets
  · rw [calcNextResetTime_of_resets hresets] at h0 ⊢
    have hlt := h.lt_following hresets base
    unfold unlessEnded at h0 ⊢
    split_ifs at h0 ⊢
    · exact absurd rfl h0
    · exact hlt
  · exact absurd (calcNextResetTime_of_not_resets hresets) h0

end SubscriptionPlan

/-! ### Resetting one subscription -/

/-- The loop of `maybeResetUserSubscriptionWithPlanTx`: the last reset that is not in the future, and the one after it; `none`
if the loop is not left in so many rounds. -/
def resetLoop (next : ℤ → ℤ) (now : ℤ) : ℕ → ℤ → ℤ → Option (ℤ × ℤ)
  | 0, _, _ => none
  | rounds + 1, base, reset =>
    if 0 < reset ∧ reset ≤ now then resetLoop next now rounds reset (next reset) else some (base, reset)

/-- What the loop keeps of the last reset and the next one. -/
lemma resetLoop_inv {next : ℤ → ℤ} {now : ℤ} (I : ℤ → ℤ → Prop) (hstep : ∀ a b, I a b → 0 < b → b ≤ now → I b (next b))
    {rounds : ℕ} {base reset : ℤ} {out : ℤ × ℤ} (h : resetLoop next now rounds base reset = some out) (h0 : I base reset) :
    I out.1 out.2 ∧ ¬(0 < out.2 ∧ out.2 ≤ now) := by
  induction rounds generalizing base reset with
  | zero => cases h
  | succ rounds ih =>
    unfold resetLoop at h
    split_ifs at h with hdue
    · exact ih h (hstep base reset h0 hdue.1 hdue.2)
    · cases h
      exact ⟨h0, hdue⟩

def UserSubscription.periodStart (sub : UserSubscription) : ℤ :=
  if sub.lastResetTime ≤ 0 then sub.startTime else sub.lastResetTime

variable (sub : UserSubscription)

@[simp] lemma UserSubscription.setUsed_periodStart (why : Cause) (used : ℤ) :
    (sub.setUsed why used).periodStart = sub.periodStart := rfl

/-- The columns that `maybeResetUserSubscriptionWithPlanTx` saves; `none` if its loop is not left in so many rounds. -/
def maybeResetUserSubscriptionWithPlan (rounds : ℕ) (zone : Zone) (plan : SubscriptionPlan) (sub : UserSubscription)
    (now : ℤ) : Option (ℤ × ℤ × ℤ) :=
  if 0 < sub.nextResetTime ∧ now < sub.nextResetTime then some (sub.amountUsed, sub.lastResetTime, sub.nextResetTime)
  else if plan.quotaResetPeriod = .never then some (sub.amountUsed, sub.lastResetTime, sub.nextResetTime)
  else
    let first := calcNextResetTime zone sub.periodStart plan sub.endTime
    (resetLoop (fun base => calcNextResetTime zone base plan sub.endTime) now rounds sub.periodStart first).map fun out =>
      if 0 < first ∧ first ≤ now then (0, out.1, out.2)
      else if sub.nextResetTime = 0 ∧ 0 < out.2 then (sub.amountUsed, out.1, out.2)
      else (sub.amountUsed, sub.lastResetTime, sub.nextResetTime)

def UserSubscription.renewed (sub : UserSubscription) (columns : ℤ × ℤ × ℤ) : UserSubscription :=
  { sub with amountUsed := columns.1, lastResetTime := columns.2.1, nextResetTime := columns.2.2 }

lemma UserSubscription.renewed_periodStart (used : ℤ) {last : ℤ} (next : ℤ) (h : 0 < last) :
    (sub.renewed (used, last, next)).periodStart = last := if_neg (Int.not_le.2 h)

def resetByPlan (rounds : ℕ) (zone : Zone) (plans : ℕ → Option SubscriptionPlan) : ResetRule := fun sub now =>
  (plans sub.planId).bind fun plan => maybeResetUserSubscriptionWithPlan rounds zone plan sub now

/-! ### Resetting what is due -/

def UserSubscription.resetDue (sub : UserSubscription) (now : ℤ) : Bool :=
  0 < sub.nextResetTime && sub.nextResetTime ≤ now

def dueSubscriptions (s : Snap schema) (now : ℤ) (limit : ℕ) : List (ℕ × UserSubscription) :=
  (((List.range (s .subscriptionSeq)).filterMap fun id =>
    (s (.subscription id)).bind fun sub => if sub.resetDue now ∧ sub.active then some (id, sub) else none).insertionSort
      fun a b => a.2.nextResetTime ≤ b.2.nextResetTime).take limit

/-- The transaction of `ResetDueSubscriptions`; a subscription that cannot be read is passed over, and nothing is committed
if the loop is not left. -/
def resetDueSubscription (rounds : ℕ) (zone : Zone) (plan : SubscriptionPlan) (id : ℕ) (now : ℤ) : Tx Bool := do
  let row ← attempt (select (S := schema) Label.plain fun s => (s (.subscription id)).filter (·.resetDue now))
  match row with
  | .ok (some sub) =>
    match maybeResetUserSubscriptionWithPlan rounds zone plan sub now with
    | none => fail .database
    | some columns => do
      let _ ← updateRow (.subscription id) fun _ => some (some (sub.renewed columns))
      pure true
  | _ => pure false

def resetEach (rounds : ℕ) (zone : Zone) (plans : ℕ → Option SubscriptionPlan) (now : ℤ) :
    List (ℕ × UserSubscription) → ℕ → Tx ℕ
  | [], resetCount => pure resetCount
  | (id, sub) :: rest, resetCount =>
    match plans sub.planId with
    | none => resetEach rounds zone plans now rest resetCount
    | some plan => do
      let done ← transaction (resetDueSubscription rounds zone plan id now)
      resetEach rounds zone plans now rest (if done then resetCount + 1 else resetCount)

def resetDueSubscriptions (rounds : ℕ) (zone : Zone) (plans : ℕ → Option SubscriptionPlan) (limit : ℕ) : Tx ℕ := do
  let now ← now
  let subs ← select (S := schema) Label.plain fun s => dueSubscriptions s now (if limit = 0 then 200 else limit)
  resetEach rounds zone plans now subs 0

end StarNexus.Model
