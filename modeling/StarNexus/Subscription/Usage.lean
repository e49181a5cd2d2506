import StarNexus.Ledger.Writes
import StarNexus.Lib.Meter
import StarNexus.Lib.Run
import StarNexus.Model.Quota
import StarNexus.Model.SubscriptionReset

/-!
# The use of a subscription in a period

Requests are charged to a subscription when they are pre-consumed, adjusted afterwards and refunded, and the use of the
subscription starts again from zero with every period.  A meter beside the database keeps what each request has been
charged and in which period it was pre-consumed.  The code subtracts a refund from whatever period is current.  A period is
named by the time at which it began, so that the plans must lead forward: one whose custom period wraps around to a negative
one takes the subscription back to a time at which another period may have begun.
-/

namespace StarNexus.Subscription

open Lib Lib.Tx Model Ledger Model.UserSubscription Option
open Function (update_eq_self update_of_ne update_self)

/-! ### Runs -/

structure Usage where
  rows : Snap schema
  meter : Meter String ℤ := {}

/-- The transactions on subscriptions; the caller knows for which request an adjustment is made. -/
inductive UsageOp where
  | preConsume (requestId : String) (userId : ℕ) (amount : ℤ)
  | postConsume (requestId : String) (userSubscriptionId : ℕ) (delta : ℤ)
  | refund (requestId : String)
  | resetDue (limit : ℕ)

structure UsageCall where
  op : UsageOp
  plans : ℕ → Option Model.SubscriptionPlan
  oracle : Oracle

def periodOf (s : Snap schema) (id : ℕ) : ℤ := (s (.subscription id)).elim 0 Model.UserSubscription.periodStart

/-- The meter of the subscription `id` after a request was pre-consumed: what it was charged, if it had not been
before. -/
def metered (id : ℕ) (requestId : String) (amount : ℤ) (σ : Usage) (s : Snap schema) :
    Except Err PreConsumeResult → Meter String ℤ
  | .ok result =>
    if σ.rows (.preConsumeRecord requestId) = none ∧ result.userSubscriptionId = id then
      σ.meter.enter requestId amount (periodOf s id)
    else σ.meter
  | .error _ => σ.meter

def refundOf (id : ℕ) (requestId : String) (s : Snap schema) : Option ℤ :=
  (s (.preConsumeRecord requestId)).bind fun record =>
    if record.userSubscriptionId = id ∧ record.refunded = false ∧ 0 < record.preConsumed then some record.preConsumed else none

lemma refundOf_eq (id : ℕ) {requestId : String} {s : Snap schema} {record : PreConsumeRecord}
    (h : s (.preConsumeRecord requestId) = some record) :
    refundOf id requestId s = if record.userSubscriptionId = id ∧ record.refunded = false ∧ 0 < record.preConsumed then
      some record.preConsumed else none := by
  rw [refundOf, h, bind_some]

/-- One call, and its entry in the meter of the subscription `id`. -/
def usageStep (rounds : ℕ) (zone : Zone) (id : ℕ) (σ : Usage) (c : UsageCall) : Option Usage :=
  match c.op with
  | .preConsume requestId userId amount =>
    let (x, τ) := Prog.exec c.oracle
      (preConsumeUserSubscription (resetByPlan rounds zone c.plans) (fun _ => .session) requestId userId amount) (Solo.init σ.rows)
    some ⟨τ.rows, metered id requestId amount σ τ.rows x⟩
  | .postConsume requestId userSubscriptionId delta =>
    let (x, τ) := Prog.exec c.oracle (postConsumeUserSubscriptionDelta (fun _ => .session) userSubscriptionId delta)
      (Solo.init σ.rows)
    some ⟨τ.rows, if x.isOk ∧ userSubscriptionId = id ∧ delta ≠ 0 then σ.meter.charge requestId delta else σ.meter⟩
  | .refund requestId =>
    let (x, τ) := Prog.exec c.oracle (refundSubscriptionPreConsume (fun _ => .session) requestId) (Solo.init σ.rows)
    some ⟨τ.rows, match x, refundOf id requestId σ.rows with
      | .ok _, some amount => σ.meter.charge requestId (-amount)
      | _, _ => σ.meter⟩
  | .resetDue limit =>
    let (_, τ) := Prog.exec c.oracle (resetDueSubscriptions rounds zone c.plans limit) (Solo.init σ.rows)
    some ⟨τ.rows, σ.meter⟩

def WithinTotal (id : ℕ) (s : Snap schema) : Prop :=
  ∃ sub, s (.subscription id) = some sub ∧ 0 ≤ sub.amountUsed ∧ sub.amountUsed ≤ sub.amountTotal

def Accounted (id : ℕ) (σ : Usage) : Prop :=
  ∃ sub, σ.rows (.subscription id) = some sub ∧ sub.amountUsed = σ.meter.net sub.periodStart

/-- The request was pre-consumed in the current period of the subscription `id`, and no more is taken back than is
used. -/
def Current (id : ℕ) (σ : Usage) (requestId : String) (delta : ℤ) : Prop :=
  ∀ sub, σ.rows (.subscription id) = some sub → σ.meter.period requestId = some sub.periodStart ∧ 0 ≤ sub.amountUsed + delta

/-- What the subscription `id` was charged is adjusted and refunded in the period in which it was charged. -/
def Timely (id : ℕ) (σ : Usage) (c : UsageCall) : Prop :=
  match c.op with
  | .postConsume requestId userSubscriptionId delta => userSubscriptionId = id → delta ≠ 0 → Current id σ requestId delta
  | .refund requestId => ∀ amount, refundOf id requestId σ.rows = some amount → Current id σ requestId (-amount)
  | _ => True

instance (id : ℕ) (σ : Usage) (requestId : String) (delta : ℤ) : Decidable (Current id σ requestId delta) :=
  inferInstanceAs (Decidable (∀ sub ∈ σ.rows (.subscription id),
    σ.meter.period requestId = some sub.periodStart ∧ 0 ≤ sub.amountUsed + delta))

instance (id : ℕ) (σ : Usage) (c : UsageCall) : Decidable (Timely id σ c) :=
  match c with
  | ⟨.preConsume _ _ _, _, _⟩ => isTrue trivial
  | ⟨.postConsume requestId n delta, _, _⟩ => inferInstanceAs (Decidable (n = id → delta ≠ 0 → Current id σ requestId delta))
  | ⟨.refund requestId, _, _⟩ =>
    inferInstanceAs (Decidable (∀ amount ∈ refundOf id requestId σ.rows, Current id σ requestId (-amount)))
  | ⟨.resetDue _, _, _⟩ => isTrue trivial

/-- The resets of all plans lead forward. -/
def LeadForward (zone : Zone) (plans : ℕ → Option Model.SubscriptionPlan) : Prop :=
  ∀ n plan, plans n = some plan → plan.Forward zone

/-- A call that is timely, while the plans lead forward. -/
def InPeriod (zone : Zone) (id : ℕ) (σ : Usage) (c : UsageCall) : Prop := Timely id σ c ∧ LeadForward zone c.plans

/-! ### Resets -/

section resets

variable (rounds : ℕ) (zone : Zone) (plans : ℕ → Option Model.SubscriptionPlan)

/-- A subscription is as before, or its use has started again from zero, in a later period if the plans lead forward. -/
structure Renewed (sub sub' : Model.UserSubscription) : Prop where
  total : sub'.amountTotal = sub.amountTotal
  period : (sub'.amountUsed = sub.amountUsed ∧ sub'.periodStart = sub.periodStart) ∨
    (sub'.amountUsed = 0 ∧ (LeadForward zone plans → sub.periodStart < sub'.periodStart))

variable {zone plans}

lemma Renewed.refl (sub : Model.UserSubscription) : Renewed zone plans sub sub := ⟨rfl, .inl ⟨rfl, rfl⟩⟩

lemma Renewed.trans {a b c : Model.UserSubscription} (h : Renewed zone plans a b) (h' : Renewed zone plans b c) :
    Renewed zone plans a c := by
  refine ⟨h'.total.trans h.total, ?_⟩
  rcases h'.period with ⟨hused', hperiod'⟩ | ⟨hused', hperiod'⟩
  · rw [hused', hperiod']
    exact h.period
  · refine .inr ⟨hused', fun hforward => ?_⟩
    have hlater := hperiod' hforward
    rcases h.period with ⟨-, hperiod⟩ | ⟨-, hperiod⟩
    · rwa [← hperiod]
    · exact (hperiod hforward).trans hlater

lemma maybeReset_renewed {rounds : ℕ} {plan : Model.SubscriptionPlan} {sub : Model.UserSubscription} {now : ℤ}
    {columns : ℤ × ℤ × ℤ} {n : ℕ} (hplan : plans n = some plan)
    (h : maybeResetUserSubscriptionWithPlan rounds zone plan sub now = some columns) :
    Renewed zone plans sub (sub.renewed columns) := by
  refine ⟨rfl, ?_⟩
  unfold maybeResetUserSubscriptionWithPlan at h
  split at h
  · cases h
    exact .inl ⟨rfl, rfl⟩
  split at h
  · cases h
    exact .inl ⟨rfl, rfl⟩
  obtain ⟨out, hout, rfl⟩ := map_eq_some_iff.1 h
  split
  · next hfirst =>
    refine .inr ⟨rfl, fun hforward => ?_⟩
    have hplanForward := hforward n plan hplan
    have hlt : ∀ base, calcNextResetTime zone base plan sub.endTime ≠ 0 →
        base < calcNextResetTime zone base plan sub.endTime := fun base => hplanForward.lt_calcNextResetTime
    let I (a b : ℤ) : Prop := a = sub.periodStart ∧ b = calcNextResetTime zone sub.periodStart plan sub.endTime ∨
      sub.periodStart < a ∧ 0 < a ∧ b = calcNextResetTime zone a plan sub.endTime
    have hstep : ∀ a b, I a b → 0 < b → b ≤ now → I b (calcNextResetTime zone b plan sub.endTime) := by
      rintro a b (⟨rfl, rfl⟩ | ⟨hlater, -, rfl⟩) hpos _
      · exact .inr ⟨hlt _ hpos.ne', hpos, rfl⟩
      · exact .inr ⟨hlater.trans (hlt _ hpos.ne'), hpos, rfl⟩
    -- the reset that is counted last is later than the start of the period
    obtain ⟨⟨-, hout₂⟩ | ⟨hlater, hpos, -⟩, hexit⟩ := resetLoop_inv I hstep hout (.inl ⟨rfl, rfl⟩)
    · exact absurd (hout₂ ▸ hfirst) hexit
    · rwa [sub.renewed_periodStart _ _ hpos]
  next hfirst =>
  split
  · -- the loop was not entered
    have hout₁ := (resetLoop_inv (fun a b => a = sub.periodStart ∧
      b = calcNextResetTime zone sub.periodStart plan sub.endTime)
      (fun a b hab hpos hle => absurd (hab.2 ▸ ⟨hpos, hle⟩) hfirst) hout ⟨rfl, rfl⟩).1.1
    rw [hout₁]
    refine .inl ⟨rfl, ?_⟩
    show (if sub.periodStart ≤ 0 then sub.startTime else sub.periodStart) = sub.periodStart
    unfold periodStart
    split_ifs <;> omega
  · exact .inl ⟨rfl, rfl⟩

structure RenewedRows (zone : Zone) (plans : ℕ → Option Model.SubscriptionPlan) (s s' : Snap schema) : Prop where
  sub : ∀ n sub, s (.subscription n) = some sub → ∃ sub', s' (.subscription n) = some sub' ∧ Renewed zone plans sub sub'
  record : ∀ requestId, s' (.preConsumeRecord requestId) = s (.preConsumeRecord requestId)

lemma RenewedRows.refl (s : Snap schema) : RenewedRows zone plans s s := ⟨fun _ sub h => ⟨sub, h, .refl sub⟩, fun _ => rfl⟩

lemma RenewedRows.update {s w : Snap schema} (h : RenewedRows zone plans s w) {n : ℕ} {old sub : Model.UserSubscription}
    (hold : s (.subscription n) = some old) (hsub : Renewed zone plans old sub) :
    RenewedRows zone plans s (Function.update w (.subscription n) (some sub)) := by
  refine ⟨fun n' x hx => ?_, fun requestId => ?_⟩
  · by_cases hn : n' = n
    · subst hn
      rw [hold] at hx
      cases hx
      exact ⟨sub, update_self _ _ _, hsub⟩
    · obtain ⟨sub', hsub', hrenewed⟩ := h.sub n' x hx
      refine ⟨sub', ?_, hrenewed⟩
      rw [update_of_ne (by simpa using hn)]
      exact hsub'
  · exact h.record requestId

lemma RenewedRows.trans {s s' s'' : Snap schema} (h : RenewedRows zone plans s s') (h' : RenewedRows zone plans s' s'') :
    RenewedRows zone plans s s'' := by
  refine ⟨fun n sub hsub => ?_, fun requestId => (h'.record requestId).trans (h.record requestId)⟩
  obtain ⟨sub', hsub', hr⟩ := h.sub n sub hsub
  obtain ⟨sub'', hsub'', hr'⟩ := h'.sub n sub' hsub'
  exact ⟨sub'', hsub'', hr.trans hr'⟩

lemma resetDueSubscription_renews {plan : Model.SubscriptionPlan} {n : ℕ} (hplan : plans n = some plan) (id : ℕ) (now : ℤ)
    (s : Snap schema) :
    Ensures (resetDueSubscription rounds zone plan id now) s fun _ w => RenewedRows zone plans s w := by
  refine .bind (.attempt_select (fun _ => .pure (.refl s)) ?_)
  cases hrow : (s (.subscription id)).filter (·.resetDue now) with
  | none => exact .pure (.refl s)
  | some sub =>
    have hsub : s (.subscription id) = some sub := (filter_eq_some_iff.1 hrow).1
    cases hcolumns : maybeResetUserSubscriptionWithPlan rounds zone plan sub now with
    | none =>
      simp only [hcolumns]
      exact .fail _
    | some columns =>
      simp only [hcolumns]
      exact .bind (.row_of rfl (.pure ((RenewedRows.refl s).update hsub (maybeReset_renewed hplan hcolumns))))

lemma resetEach_renews (now : ℤ) (s : Snap schema) (subs : List (ℕ × Model.UserSubscription)) (count : ℕ) :
    Keeps (resetEach rounds zone plans now subs count) (RenewedRows zone plans s) := by
  induction subs generalizing count with
  | nil => exact .pure _
  | cons x rest ih =>
    obtain ⟨id, sub⟩ := x
    unfold resetEach
    split
    · exact ih count
    · next plan hplan =>
      refine .bind (.transaction fun r hr => ?_) fun done => ih _
      exact (resetDueSubscription_renews rounds hplan id now r).mono fun _ w hw => hr.trans hw

lemma resetDueSubscriptions_renews (limit : ℕ) (s : Snap schema) :
    Keeps (resetDueSubscriptions rounds zone plans limit) (RenewedRows zone plans s) :=
  .bind .now fun now => .bind (.select _ _) fun subs => resetEach_renews rounds now s subs 0

end resets

/-! ### What a call does to a subscription -/

structure Charged (zone : Zone) (plans : ℕ → Option Model.SubscriptionPlan) (requestId : String) (amount : ℤ)
    (s : Snap schema) (result : PreConsumeResult) (w : Snap schema) : Prop where
  pos : 0 < amount
  record : w (.preConsumeRecord requestId) ≠ none
  others : ∀ other, other ≠ requestId → w (.preConsumeRecord other) = s (.preConsumeRecord other)
  sub : ∀ n sub, s (.subscription n) = some sub → ∃ sub₁ sub', Renewed zone plans sub sub₁ ∧ w (.subscription n) = some sub' ∧
    if n = result.userSubscriptionId then
      (∃ cause, sub' = sub₁.setUsed cause (sub₁.amountUsed + amount)) ∧
        (0 < sub₁.amountTotal → sub₁.amountUsed + amount ≤ sub₁.amountTotal)
    else sub' = sub₁

section pre

variable {rounds : ℕ} {zone : Zone} {plans : ℕ → Option Model.SubscriptionPlan} {why : Why} {requestId : String} {amount : ℤ}
  {s w : Snap schema}

lemma RenewedRows.charged (hw : RenewedRows zone plans s w) (hpos : 0 < amount) {id : ℕ} {old sub : Model.UserSubscription}
    (hold : s (.subscription id) = some old) (hsub : Renewed zone plans old sub)
    (hfits : ¬(0 < sub.amountTotal ∧ sub.amountTotal - sub.amountUsed < amount)) (record : Option PreConsumeRecord)
    (hrecord : record ≠ none) (cause : Cause) :
    Charged zone plans requestId amount s ⟨id, amount⟩ (Function.update (Function.update w (.preConsumeRecord requestId) record)
      (.subscription id) (some (sub.setUsed cause (sub.amountUsed + amount)))) := by
  refine ⟨hpos, ?_, fun other hother => ?_, fun n x hx => ?_⟩
  · rw [update_of_ne (by simp), update_self]
    exact hrecord
  · rw [update_of_ne (by simp), update_of_ne (by simpa using hother)]
    exact hw.record other
  · by_cases hn : n = id
    · subst hn
      rw [hold] at hx
      cases hx
      refine ⟨sub, _, hsub, update_self _ _ _, ?_⟩
      rw [if_pos rfl]
      exact ⟨⟨cause, rfl⟩, fun hlimited => by omega⟩
    · obtain ⟨sub', hsub', hrenewed⟩ := hw.sub n x hx
      refine ⟨sub', sub', hrenewed, ?_, ?_⟩
      · rw [update_of_ne (by simpa using hn)]
        exact hsub'
      · rw [if_neg hn]

lemma preConsumeFrom_charged (hpos : 0 < amount) (userId : ℕ) (now : ℤ) (subs : List (ℕ × Model.UserSubscription))
    (hsubs : ∀ x ∈ subs, s (.subscription x.1) = some x.2) (hw : RenewedRows zone plans s w)
    (hfree : s (.preConsumeRecord requestId) = none) :
    Ensures (preConsumeFrom (resetByPlan rounds zone plans) why requestId userId now amount subs) w
      (Charged zone plans requestId amount s) := by
  induction subs generalizing w with
  | nil => exact .fail _
  | cons x rest ih =>
    obtain ⟨id, candidate⟩ := x
    have hrow : s (.subscription id) = some candidate := hsubs (id, candidate) (.head _)
    unfold preConsumeFrom
    split
    · exact .fail _
    next used last next hreset =>
    obtain ⟨plan, hplan, hcolumns⟩ := bind_eq_some_iff.1 hreset
    have hrenewed := maybeReset_renewed hplan hcolumns
    refine .bind (.row_of rfl ?_)
    have hw₁ := hw.update hrow hrenewed
    refine .ite (fun _ => ih (fun y hy => hsubs y (.tail _ hy)) hw₁) fun hfits => ?_
    refine .bind (.row (fun _ => .guard fun h0 => absurd rfl h0) fun v hv => ?_)
    have hne : v ≠ none := by
      have hold : w (.preConsumeRecord requestId) = none := (hw.record requestId).trans hfree
      have hv' : ifAbsent _ (w (.preConsumeRecord requestId)) = some v := hv
      rw [hold] at hv'
      cases hv'
      simp
    refine .bind (ensures_balanceRow nofun fun v' hv' => .pure ?_)
    cases hv'
    exact hw₁.charged hpos hrow hrenewed hfits v hne _

/-- **Pre-consuming** does nothing for a request that has a record, and charges one that has none. -/
lemma preConsumeUserSubscriptionTx_charged (userId : ℕ) :
    Ensures (preConsumeUserSubscriptionTx (resetByPlan rounds zone plans) why requestId userId amount) s fun result w =>
      (s (.preConsumeRecord requestId) ≠ none ∧ w = s) ∨
        (s (.preConsumeRecord requestId) = none ∧ Charged zone plans requestId amount s result w) := by
  refine .guard fun hargs => .bind (.now fun now => ?_)
  refine .bind (.select ?_)
  cases hrecord : s (.preConsumeRecord requestId) with
  | some record =>
    refine .guard fun _ => .bind (.select ?_)
    split
    · exact .fail _
    · exact .pure (.inl ⟨by simp, rfl⟩)
  | none =>
    refine .bind (.exec ?_)
    rw [put_activeSubscriptions]
    refine .bind (.select (.guard fun _ => ?_))
    have hpos : 0 < amount := by omega
    exact (preConsumeFrom_charged hpos userId now _ (fun x hx => row_of_mem_activeSubscriptions hx) (.refl s) hrecord).mono
      fun _ _ h => .inr ⟨rfl, h⟩

lemma preConsumeUserSubscription_yields (rounds : ℕ) (zone : Zone) (plans : ℕ → Option Model.SubscriptionPlan) (why : Why)
    (requestId : String) (userId : ℕ) (amount : ℤ) (r : Snap schema) :
    Yields (preConsumeUserSubscription (resetByPlan rounds zone plans) why requestId userId amount) r (· = r) fun result r' =>
      (r (.preConsumeRecord requestId) ≠ none ∧ r' = r) ∨
        (r (.preConsumeRecord requestId) = none ∧ Charged zone plans requestId amount r result r') := by
  refine .guard rfl fun _ => .guard rfl fun _ => ?_
  exact .guard rfl fun _ => .transaction rfl (preConsumeUserSubscriptionTx_charged userId)

end pre

/-- The use of the subscription `n` is changed by `delta`, and by nothing below zero. -/
structure Adjusted (n : ℕ) (delta : ℤ) (s w : Snap schema) : Prop where
  sub : ∃ sub cause, s (.subscription n) = some sub ∧
    w (.subscription n) = some (sub.setUsed cause (max 0 (sub.amountUsed + delta))) ∧
    (0 < sub.amountTotal → max 0 (sub.amountUsed + delta) ≤ sub.amountTotal)
  others : ∀ other, other ≠ n → w (.subscription other) = s (.subscription other)
  record : ∀ requestId, s (.preConsumeRecord requestId) ≠ none → w (.preConsumeRecord requestId) ≠ none

lemma postConsumeUserSubscriptionDeltaTx_adjusted {why : Why} {n : ℕ} {delta : ℤ} (h0 : delta ≠ 0) (s : Snap schema) :
    Ensures (postConsumeUserSubscriptionDeltaTx why n delta) s fun _ w => Adjusted n delta s w := by
  refine (postConsumeUserSubscriptionDeltaTx_writes why n delta s).mono fun _ w hw => ?_
  obtain ⟨-, ⟨hzero, -⟩ | ⟨sub, hsub, rfl, hfits⟩⟩ := hw
  · exact absurd hzero h0
  · refine ⟨⟨sub, why s, hsub, update_self _ _ _, hfits⟩, fun other hother => ?_, fun requestId h => ?_⟩
    · exact update_of_ne (by simpa using hother) _ _
    · rwa [update_of_ne (by simp)]

lemma postConsumeUserSubscriptionDelta_yields (why : Why) (n : ℕ) (delta : ℤ) (r : Snap schema) :
    Yields (postConsumeUserSubscriptionDelta why n delta) r (· = r) fun _ r' =>
      (delta = 0 ∧ r' = r) ∨ (delta ≠ 0 ∧ Adjusted n delta r r') := by
  refine .guard rfl fun _ => .ite (fun h0 => .pure (.inl ⟨h0, rfl⟩)) fun h0 => ?_
  exact .transaction rfl
    ((postConsumeUserSubscriptionDeltaTx_adjusted h0 r).mono fun _ _ h => .inr ⟨h0, h⟩)

variable (s : Snap schema)

structure SameUse (s w : Snap schema) : Prop where
  sub : ∀ n, w (.subscription n) = s (.subscription n)
  record : ∀ requestId, s (.preConsumeRecord requestId) ≠ none → w (.preConsumeRecord requestId) ≠ none

lemma SameUse.refl : SameUse s s := ⟨fun _ => rfl, fun _ h => h⟩

lemma refundSubscriptionPreConsumeTx_adjusted {why : Why} {requestId : String} :
    Ensures (refundSubscriptionPreConsumeTx why requestId) s fun _ w =>
      ∃ record, s (.preConsumeRecord requestId) = some record ∧
        if record.refunded = false ∧ 0 < record.preConsumed then
          Adjusted record.userSubscriptionId (-record.preConsumed) s w
        else SameUse s w := by
  refine .bind (.row_of rfl ?_)
  -- the lock writes the row back as it is
  rw [update_eq_self]
  refine .bind (.select ?_)
  cases hrecord : s (.preConsumeRecord requestId) with
  | none => exact .fail _
  | some record =>
    refine .ite (fun hrefunded => .pure ⟨record, rfl, ?_⟩) fun hrefunded => ?_
    · rw [if_neg (by simp [hrefunded])]
      exact .refl s
    refine .ite (fun hnonpos => ?_) fun hpos => ?_
    · refine .bind (.row_of rfl (.pure ⟨record, rfl, ?_⟩))
      rw [if_neg (by omega)]
      refine ⟨fun n => update_of_ne (by simp) _ _, fun other hother => ?_⟩
      by_cases heq : other = requestId
      · subst heq
        simp
      · rwa [update_of_ne (by simpa using heq)]
    · refine .bind ((postConsumeUserSubscriptionDeltaTx_adjusted (by omega) s).mono fun _ w hw => ?_)
      refine .bind (.row_of rfl (.pure ⟨record, rfl, ?_⟩))
      rw [if_pos ⟨by simpa using hrefunded, by omega⟩]
      obtain ⟨sub, cause, hsub, hsub', hfits⟩ := hw.sub
      refine ⟨⟨sub, cause, hsub, ?_, hfits⟩, fun other hother => ?_, fun other hother => ?_⟩
      · rwa [update_of_ne (by simp)]
      · exact hw.others other hother
      · by_cases heq : other = requestId
        · subst heq
          simp
        · rw [update_of_ne (by simpa using heq)]
          exact hw.record other hother

lemma refundSubscriptionPreConsume_yields (why : Why) (requestId : String) (r : Snap schema) :
    Yields (refundSubscriptionPreConsume why requestId) r (· = r) fun _ r' =>
      ∃ record, r (.preConsumeRecord requestId) = some record ∧
        if record.refunded = false ∧ 0 < record.preConsumed then
          Adjusted record.userSubscriptionId (-record.preConsumed) r r'
        else SameUse r r' := by
  exact .guard rfl fun _ =>
    .transaction rfl (refundSubscriptionPreConsumeTx_adjusted r)

/-! ### One step -/

/-- What a call can do to the subscription `id`, whose row is `sub` before and `sub'` after it, and to its meter. -/
inductive Change (zone : Zone) (id : ℕ) (c : UsageCall) (σ σ' : Usage) (sub sub' : Model.UserSubscription) : Prop where
  | renew (h : Renewed zone c.plans sub sub') (hmeter : σ'.meter = σ.meter)
  | enter (requestId : String) (amount : ℤ) (sub₁ : Model.UserSubscription) (h : Renewed zone c.plans sub sub₁) (hpos : 0 < amount)
      (hsub : ∃ cause, sub' = sub₁.setUsed cause (sub₁.amountUsed + amount))
      (hfits : 0 < sub₁.amountTotal → sub₁.amountUsed + amount ≤ sub₁.amountTotal)
      (hnew : σ.rows (.preConsumeRecord requestId) = none) (hrecord : σ'.rows (.preConsumeRecord requestId) ≠ none)
      (hmeter : σ'.meter = σ.meter.enter requestId amount sub'.periodStart)
  | adjust (requestId : String) (delta : ℤ) (hsub : ∃ cause, sub' = sub.setUsed cause (max 0 (sub.amountUsed + delta)))
      (hfits : 0 < sub.amountTotal → max 0 (sub.amountUsed + delta) ≤ sub.amountTotal)
      (hcurrent : Timely id σ c → Current id σ requestId delta) (hmeter : σ'.meter = σ.meter.charge requestId delta)

/-- The records stay, and the subscription changes in one of three ways. -/
structure Stepped (zone : Zone) (id : ℕ) (c : UsageCall) (sub : Model.UserSubscription) (σ σ' : Usage) : Prop where
  record : ∀ requestId, σ.rows (.preConsumeRecord requestId) ≠ none → σ'.rows (.preConsumeRecord requestId) ≠ none
  sub : ∃ sub', σ'.rows (.subscription id) = some sub' ∧ Change zone id c σ σ' sub sub'

section step

variable {rounds : ℕ} {zone : Zone} {id : ℕ} {σ σ' : Usage} {c : UsageCall} {sub : Model.UserSubscription}

section

variable (hsub : σ.rows (.subscription id) = some sub)

include hsub

lemma Stepped.same (hrows : σ'.rows = σ.rows) (hmeter : σ'.meter = σ.meter) : Stepped zone id c sub σ σ' :=
  ⟨fun _ h => by rwa [hrows], ⟨sub, by rw [hrows, hsub], .renew (.refl sub) hmeter⟩⟩

lemma Stepped.renewed (hrows : RenewedRows zone c.plans σ.rows σ'.rows) (hmeter : σ'.meter = σ.meter) :
    Stepped zone id c sub σ σ' := by
  obtain ⟨sub', hsub', hrenewed⟩ := hrows.sub id sub hsub
  exact ⟨fun _ h => by rwa [hrows.record], ⟨sub', hsub', .renew hrenewed hmeter⟩⟩

lemma Stepped.charged {requestId : String} {amount : ℤ}
    {result : PreConsumeResult} (hnew : σ.rows (.preConsumeRecord requestId) = none)
    (h : Charged zone c.plans requestId amount σ.rows result σ'.rows)
    (hmeter : σ'.meter = metered id requestId amount σ σ'.rows (.ok result)) : Stepped zone id c sub σ σ' := by
  have hrecord : ∀ other, σ.rows (.preConsumeRecord other) ≠ none → σ'.rows (.preConsumeRecord other) ≠ none := by
    intro other hother
    by_cases heq : other = requestId
    · rw [heq]
      exact h.record
    · rwa [h.others other heq]
  obtain ⟨sub₁, sub', hrenewed, hsub', hcase⟩ := h.sub id sub hsub
  refine ⟨hrecord, sub', hsub', ?_⟩
  by_cases hid : result.userSubscriptionId = id
  · have hadmit : σ'.meter = σ.meter.enter requestId amount sub'.periodStart := by
      rw [hmeter, metered, if_pos ⟨hnew, hid⟩, periodOf, hsub', elim_some]
    rw [if_pos hid.symm] at hcase
    exact .enter requestId amount sub₁ hrenewed h.pos hcase.1 hcase.2 hnew h.record hadmit
  · have hsame : σ'.meter = σ.meter := by
      rw [hmeter, metered, if_neg fun hboth => hid hboth.2]
    rw [if_neg (Ne.symm hid)] at hcase
    subst hcase
    exact .renew hrenewed hsame

end

lemma Stepped.adjusted (requestId : String) (hsub : σ.rows (.subscription id) = some sub) {n : ℕ} {delta : ℤ}
    (h : Adjusted n delta σ.rows σ'.rows) (hcurrent : n = id → Timely id σ c → Current id σ requestId delta)
    (hmeter : σ'.meter = if n = id then σ.meter.charge requestId delta else σ.meter) : Stepped zone id c sub σ σ' := by
  by_cases hid : n = id
  · rw [if_pos hid] at hmeter
    obtain ⟨sub₀, cause, hsub₀, hsub', hfits⟩ := h.sub
    rw [hid] at hsub₀ hsub'
    obtain rfl : sub₀ = sub := Option.some.inj (hsub₀.symm.trans hsub)
    exact ⟨h.record, _, hsub', .adjust requestId delta ⟨cause, rfl⟩ hfits (hcurrent hid) hmeter⟩
  · rw [if_neg hid] at hmeter
    exact ⟨h.record, sub, (h.others id (.symm hid)).trans hsub, .renew (.refl sub) hmeter⟩

lemma usageStep_stepped (hsub : σ.rows (.subscription id) = some sub) (hstep : usageStep rounds zone id σ c = some σ') :
    Stepped zone id c sub σ σ' := by
  obtain ⟨op, plans, oracle⟩ := c
  cases op with
  | preConsume requestId userId amount =>
    obtain ⟨herror, hok⟩ := (preConsumeUserSubscription_yields rounds zone plans (fun _ => .session) requestId userId amount
      σ.rows).exec oracle
    cases hstep
    cases hx : (Prog.exec oracle (preConsumeUserSubscription (resetByPlan rounds zone plans) (fun _ => .session) requestId userId
      amount) (.init σ.rows)).1 with
    | error e => exact .same hsub (herror e hx) (by simp [metered])
    | ok result =>
      rcases hok result hx with ⟨hrecord, hrows⟩ | ⟨hnew, hcharged⟩
      · refine .same hsub hrows ?_
        simp only [metered]
        rw [if_neg fun hboth => hrecord hboth.1]
      · exact .charged hsub hnew hcharged rfl
  | postConsume requestId n delta =>
    obtain ⟨herror, hok⟩ := (postConsumeUserSubscriptionDelta_yields (fun _ => .session) n delta σ.rows).exec oracle
    cases hstep
    cases hx : (Prog.exec oracle (postConsumeUserSubscriptionDelta (fun _ => .session) n delta) (.init σ.rows)).1 with
    | error e => exact .same hsub (herror e hx) (by simp [Except.toBool])
    | ok u =>
      rcases hok u hx with ⟨h0, hrows⟩ | ⟨h0, hadjusted⟩
      · exact .same hsub hrows (by simp [h0])
      · exact .adjusted requestId hsub hadjusted (fun hid hcond => hcond hid h0) (by simp [h0, Except.toBool])
  | refund requestId =>
    obtain ⟨herror, hok⟩ := (refundSubscriptionPreConsume_yields (fun _ => .session) requestId σ.rows).exec oracle
    cases hstep
    cases hx : (Prog.exec oracle (refundSubscriptionPreConsume (fun _ => .session) requestId) (.init σ.rows)).1 with
    | error e => exact .same hsub (herror e hx) rfl
    | ok u =>
      obtain ⟨record, hrecord, hcase⟩ := hok u hx
      have hrefund := refundOf_eq id hrecord
      by_cases hdue : record.refunded = false ∧ 0 < record.preConsumed
      · rw [if_pos hdue] at hcase
        refine .adjusted requestId hsub hcase (fun hid hcond => ?_) ?_
        · rw [if_pos ⟨hid, hdue⟩] at hrefund
          exact hcond _ hrefund
        · by_cases hid : record.userSubscriptionId = id
          · rw [if_pos ⟨hid, hdue⟩] at hrefund
            simp [hrefund, if_pos hid]
          · rw [if_neg fun hall => hid hall.1] at hrefund
            simp [hrefund, if_neg hid]
      · rw [if_neg hdue] at hcase
        rw [if_neg fun hall => hdue hall.2] at hrefund
        exact ⟨hcase.record, sub, (hcase.sub id).trans hsub, .renew (.refl sub) (by simp [hrefund])⟩
  | resetDue limit =>
    cases hstep
    exact .renewed hsub ((resetDueSubscriptions_renews rounds limit σ.rows).exec oracle (.refl σ.rows)) rfl

end step

/-! ### Whole runs -/

def Limited (id : ℕ) (σ : Usage) : Prop :=
  ∃ sub, σ.rows (.subscription id) = some sub ∧ 0 < sub.amountTotal ∧ 0 ≤ sub.amountUsed ∧ sub.amountUsed ≤ sub.amountTotal

variable {rounds : ℕ} {zone : Zone} {id : ℕ}

lemma Limited.step {σ σ' : Usage} {c : UsageCall} (h : Limited id σ)
    (hstep : usageStep rounds zone id σ c = some σ') : Limited id σ' := by
  obtain ⟨sub, hsub, htotal, hlow, hhigh⟩ := h
  obtain ⟨sub', hsub', hchange⟩ := (usageStep_stepped hsub hstep).sub
  refine ⟨sub', hsub', ?_⟩
  cases hchange with
  | renew hrenewed =>
    have ht := hrenewed.total
    rcases hrenewed.period with ⟨hused, -⟩ | ⟨hused, -⟩ <;> omega
  | enter requestId amount sub₁ hrenewed hpos hsub₁ hfits =>
    obtain ⟨cause, rfl⟩ := hsub₁
    have ht := hrenewed.total
    simp only [setUsed]
    rcases hrenewed.period with ⟨hused, -⟩ | ⟨hused, -⟩ <;> omega
  | adjust requestId delta hsub₁ hfits =>
    obtain ⟨cause, rfl⟩ := hsub₁
    simp only [setUsed]
    omega

/-- What every call keeps that adjusts and refunds in the period of the charge. -/
structure Kept (id : ℕ) (σ : Usage) : Prop where
  sub : ∃ sub, σ.rows (.subscription id) = some sub ∧ sub.amountUsed = σ.meter.net sub.periodStart ∧
    σ.meter.Sound sub.periodStart
  record : ∀ requestId, σ.meter.period requestId ≠ none → σ.rows (.preConsumeRecord requestId) ≠ none

lemma Renewed.accounted {plans : ℕ → Option Model.SubscriptionPlan} {sub sub' : Model.UserSubscription}
    (h : Renewed zone plans sub sub') (hforward : LeadForward zone plans) {m : Meter String ℤ}
    (hused : sub.amountUsed = m.net sub.periodStart) (hsound : m.Sound sub.periodStart) :
    sub'.amountUsed = m.net sub'.periodStart ∧ m.Sound sub'.periodStart := by
  rcases h.period with ⟨hsame, hperiod⟩ | ⟨hzero, hlater⟩
  · rw [hsame, hperiod]
    exact ⟨hused, hsound⟩
  · have hlt := hlater hforward
    rw [hzero, Meter.net_of_lt hsound hlt]
    exact ⟨rfl, hsound.later hlt.le⟩

lemma Kept.step {σ σ' : Usage} {c : UsageCall} (h : Kept id σ) (hok : InPeriod zone id σ c)
    (hstep : usageStep rounds zone id σ c = some σ') : Kept id σ' := by
  obtain ⟨sub, hsub, hused, hsound⟩ := h.sub
  obtain ⟨hrecord, sub', hsub', hchange⟩ := usageStep_stepped hsub hstep
  cases hchange with
  | renew hrenewed hmeter =>
    refine ⟨⟨sub', hsub', ?_⟩, fun requestId hopen => hrecord _ (h.record _ ?_)⟩
    · rw [hmeter]
      exact hrenewed.accounted hok.2 hused hsound
    · rwa [← hmeter]
  | enter requestId amount sub₁ hrenewed hpos hsub₁ hfits hnew hcreated hmeter =>
    obtain ⟨cause, rfl⟩ := hsub₁
    obtain ⟨hused₁, hsound₁⟩ := hrenewed.accounted hok.2 hused hsound
    -- a request without a record has never been charged
    have hfresh : σ.meter.period requestId = none := by
      by_contra hopen
      exact h.record requestId hopen hnew
    refine ⟨⟨_, hsub', ?_⟩, fun other hopen => ?_⟩
    · rw [hmeter, setUsed_periodStart, Meter.net_admit hsound₁ hfresh, ← hused₁]
      exact ⟨rfl, hsound₁.enter⟩
    · by_cases heq : other = requestId
      · rwa [heq]
      · refine hrecord other (h.record other fun hnone => hopen ?_)
        rw [hmeter]
        exact (update_of_ne heq _ _).trans hnone
  | adjust requestId delta hsub₁ hfits hcurrent hmeter =>
    obtain ⟨cause, rfl⟩ := hsub₁
    obtain ⟨hperiod, hnonneg⟩ := hcurrent hok.1 sub hsub
    refine ⟨⟨_, hsub', ?_⟩, fun other hopen => hrecord other (h.record other ?_)⟩
    · rw [hmeter, setUsed_periodStart, Meter.net_charge hperiod, ← hused]
      exact ⟨max_eq_right hnonneg, hsound.charge hperiod⟩
    · rw [hmeter] at hopen
      exact hopen

/-- **The use of a subscription**, from its creation on. -/
theorem usage_eq_net_charges (rounds : ℕ) (zone : Zone) (id : ℕ) (r : Snap schema) (sub : Model.UserSubscription)
    (hsub : r (.subscription id) = some sub) (hlimited : 0 < sub.amountTotal) (hfresh : sub.amountUsed = 0)
    (calls : List UsageCall) (σ : Usage) (hrun : runs (usageStep rounds zone id) { rows := r } calls = some σ) :
    WithinTotal id σ.rows ∧ (Along (usageStep rounds zone id) (InPeriod zone id) { rows := r } calls → Accounted id σ) := by
  constructor
  · have hstart : Limited id { rows := r } := ⟨sub, hsub, hlimited, by omega, by omega⟩
    have hany : Along (usageStep rounds zone id) (fun _ _ => True) { rows := r } calls := .of_forall (fun _ _ _ => trivial) _
    obtain ⟨sub', hsub', -, hlow, hhigh⟩ :=
      runs_inv (Limited id) (fun _ _ _ h _ hstep => h.step hstep) hstart hany hrun
    exact ⟨sub', hsub', hlow, hhigh⟩
  · intro hok
    have hstart : Kept id { rows := r } := by
      refine ⟨⟨sub, hsub, hfresh, fun c hc => ?_⟩, fun _ hopen => absurd rfl hopen⟩
      cases hc
    obtain ⟨sub', hsub', hused, -⟩ := (runs_inv (Kept id) (fun _ _ _ h hok hstep => h.step hok hstep) hstart hok hrun).sub
    exact ⟨sub', hsub', hused⟩

/-! ### A subscription that is reset every 100 seconds -/

def hundredSeconds : ℕ → Option Model.SubscriptionPlan := fun _ =>
  some { quotaResetPeriod := .custom, quotaResetCustomSeconds := 100 }

def subscribedRows : Snap schema
  | .subscription id => if id = 1 then some
      { userId := 1, planId := 1, amountTotal := 100, amountUsed := 0, endTime := 1000, active := true, startTime := 1,
        lastResetTime := 1, nextResetTime := 101 } else none
  | .subscriptionSeq => (2 : ℕ)
  | k => noRows k

def calmly (z : ℤ) (op : UsageOp) : UsageCall := ⟨op, hundredSeconds, .calm z⟩

def refundedInPeriod : List UsageCall :=
  [calmly 10 (.preConsume "a" 1 60), calmly 20 (.refund "a"), calmly 110 (.resetDue 0), calmly 120 (.preConsume "b" 1 50),
    calmly 130 (.postConsume "b" 1 (-5))]

def refundedLater : List UsageCall :=
  [calmly 10 (.preConsume "a" 1 60), calmly 110 (.resetDue 0), calmly 120 (.preConsume "b" 1 50), calmly 130 (.refund "a")]

lemma refundedInPeriod_runs : (runs (usageStep 3 (.fixed 0) 1) { rows := subscribedRows } refundedInPeriod).isSome := by
  decide

lemma refundedLater_runs : (runs (usageStep 3 (.fixed 0) 1) { rows := subscribedRows } refundedLater).isSome := by
  decide

theorem usage_eq_net_charges_refundedInPeriod :
    ∃ σ, runs (usageStep 3 (.fixed 0) 1) { rows := subscribedRows } refundedInPeriod = some σ ∧ WithinTotal 1 σ.rows ∧
      Accounted 1 σ := by
  have hrun := (some_get refundedInPeriod_runs).symm
  obtain ⟨hwithin, haccounted⟩ := usage_eq_net_charges 3 (.fixed 0) 1 subscribedRows _ rfl (by decide) rfl
    refundedInPeriod _ hrun
  have htimely : Along (usageStep 3 (.fixed 0) 1) (Timely 1) { rows := subscribedRows } refundedInPeriod := by decide
  have hplans : ∀ c ∈ refundedInPeriod, c.plans = hundredSeconds := by simp [refundedInPeriod, calmly]
  have hforward : LeadForward (.fixed 0) hundredSeconds := by
    rintro _ _ ⟨⟩
    exact show 0 < durationSeconds 100 by decide
  refine ⟨_, hrun, hwithin, haccounted (htimely.and (.of_forall (fun σ c hc => ?_) _))⟩
  rw [hplans c hc]
  exact hforward

lemma not_accounted {σ : Usage}
    (h : (σ.rows (.subscription id) : Option Model.UserSubscription).all (fun sub => sub.amountUsed ≠ σ.meter.net sub.periodStart) =
      true) : ¬Accounted id σ := by
  rintro ⟨sub, hsub, hused⟩
  rw [hsub] at h
  simp [hused] at h

/-- The refund of request `a`, charged in the period before, wipes out the use by request `b`. -/
theorem refundedLater_not_accounted :
    ∃ σ, runs (usageStep 3 (.fixed 0) 1) { rows := subscribedRows } refundedLater = some σ ∧
      (σ.rows (.subscription 1)).map Model.UserSubscription.amountUsed = some 0 ∧ σ.meter.net (periodOf σ.rows 1) = 50 ∧
      ¬Accounted 1 σ :=
  ⟨_, (some_get refundedLater_runs).symm, by decide, by decide, not_accounted (by decide)⟩

end StarNexus.Subscription
