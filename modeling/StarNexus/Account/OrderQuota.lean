import Mathlib.Data.Rat.Floor
import StarNexus.Account.OrderAtomic

/-!
# What a completion is worth

The quota units that an undisturbed completion adds (`Completion.quota_after_calm`), and when an administrator adds as many
of them as the provider of the order would have added (`manual_eq_callback_iff`).
-/

namespace StarNexus.Account

open Lib Lib.Tx Int

/-! ### The integer part -/

lemma intPart_of_nonneg {x : ℚ} (h : 0 ≤ x) : intPart x = ⌊x⌋ := by
  unfold intPart
  rw [tdiv_eq_ediv_of_nonneg (Rat.num_nonneg.2 h)]
  exact (Rat.floor_def x).symm

lemma intPart_neg (x : ℚ) : intPart (-x) = -intPart x := by
  unfold intPart
  simp

lemma intPart_nonneg_iff (x : ℚ) : 0 ≤ intPart x ↔ -1 < x := by
  rcases le_total 0 x with hx | hx
  · rw [intPart_of_nonneg hx]
    exact iff_of_true (floor_nonneg.2 hx) (by linarith)
  · have hneg : intPart x = -⌊-x⌋ := by
      rw [← intPart_of_nonneg (neg_nonneg.2 hx), intPart_neg, neg_neg]
    constructor
    · intro h
      have hfloor : ⌊-x⌋ < 1 := by omega
      rw [floor_lt] at hfloor
      push_cast at hfloor
      linarith
    · intro h
      have hfloor : ⌊-x⌋ < 1 := by
        rw [floor_lt]
        push_cast
        linarith
      omega

lemma max_intPart_eq_iff (x : ℚ) (n : ℤ) : max 0 (intPart x) = n ↔ 0 ≤ n ∧ (x < 1 ∧ n = 0 ∨ (n : ℚ) ≤ x ∧ x < n + 1) := by
  rcases le_total 0 x with hx | hx
  · rw [intPart_of_nonneg hx, max_eq_right (floor_nonneg.2 hx), floor_eq_iff]
    constructor
    · intro h
      have hn : -1 < (n : ℚ) := by linarith [h.2]
      exact ⟨by exact_mod_cast (by exact_mod_cast hn : (-1 : ℤ) < n), .inr h⟩
    · rintro ⟨-, ⟨h1, rfl⟩ | h⟩
      · exact ⟨by exact hx, by simpa using h1⟩
      · exact h
  · have hle : intPart x ≤ 0 := by
      have hneg := intPart_neg x
      rw [intPart_of_nonneg (neg_nonneg.2 hx)] at hneg
      have hfloor := floor_nonneg.2 (neg_nonneg.2 hx)
      omega
    rw [max_eq_left hle]
    constructor
    · rintro rfl
      exact ⟨le_rfl, .inl ⟨by linarith, rfl⟩⟩
    · rintro ⟨hn, ⟨-, rfl⟩ | ⟨h1, -⟩⟩
      · rfl
      · have hn' : (n : ℚ) ≤ 0 := h1.trans hx
        have hn'' : n ≤ 0 := by exact_mod_cast hn'
        omega

/-! ### Undisturbed completions -/

def Completion.gated (c : Completion) : Bool := c.wantsQuota || !c.transactional

def Completion.adds (c : Completion) (g : Settings) (order : TopUp) : ℤ :=
  if c.gated = true then max 0 (c.quota g order) else c.quota g order

open Completion

section calm

variable {g : Settings} {tradeNo : String} {order : TopUp} {user : User} {r : Snap schema} {c : Completion}

lemma CompletedBy.quota {quota : ℤ} {r' : Snap schema} (h : CompletedBy tradeNo order quota r r')
    (hu : r (.user order.userId) = some user) : (r' (.user order.userId)).map User.quota = some (user.quota + quota) := by
  obtain ⟨user₀, user', hu₀, hu', hquota, -⟩ := h.credited_iff.2 (by rw [hu]; rfl)
  rw [hu] at hu₀
  cases hu₀
  rw [hu']
  exact congrArg some hquota

lemma epayNotify_after_calm (z : ℤ) (paymentType : String) (hr : r (.topUp tradeNo) = some order)
    (horder : EpayOrder order) (hu : r (.user order.userId) = some user) :
    ∃ r', Commits z (epayNotify g tradeNo paymentType) r (.ok ()) r' ∧
      (r' (.user order.userId)).map User.quota = some (user.quota + max 0 (quotaOfAmount g order)) := by
  -- the balance after the order has been saved
  have hcredit : ∃ x r', Commits z (increaseUserQuotaDb (.topUp tradeNo) order.userId (quotaOfAmount g order))
      (savedRows tradeNo (epayOrder paymentType order) r) x r' ∧
      (r' (.user order.userId)).map User.quota = some (user.quota + max 0 (quotaOfAmount g order)) := by
    unfold increaseUserQuotaDb
    by_cases hq : quotaOfAmount g order < 0
    · rw [if_pos hq, max_eq_left hq.le, add_zero]
      refine ⟨_, _, .fail _, ?_⟩
      rw [savedRows_user, hu]
      rfl
    · rw [if_neg hq, max_eq_right (not_lt.1 hq)]
      have hauto := Commits.execAuto (z := z) (r := savedRows tradeNo (epayOrder paymentType order) r)
        .plain (rowWrite (.user order.userId)
          (onRow fun user => some ((id user).add (.topUp tradeNo) (quotaOfAmount g order))))
      rw [savedRows_put] at hauto
      refine ⟨_, _, .bind hauto (.pure ()), ?_⟩
      exact CompletedBy.quota ⟨epayOrder paymentType order, id, rfl, fun _ => ⟨rfl, rfl⟩, rfl⟩ hu
  obtain ⟨x, r', hx, hquota⟩ := hcredit
  refine ⟨r', .bind (.attempt (.select _ _)) ?_, hquota⟩
  simp only [hr]
  rw [if_pos horder]
  exact .bind (.attempt (.execAuto _ _)) (.bind (.attempt hx) (.pure ()))

lemma Completion.quota_after_calm (z : ℤ) (hne : tradeNo ≠ "") (hr : r (.topUp tradeNo) = some order)
    (hp : order.status = .pending) (hc : ∀ p, c.provider = some p → order.paymentProvider = p)
    (hu : r (.user order.userId) = some user) :
    ((c.after g tradeNo (.calm z) r) (.user order.userId)).map User.quota = some (user.quota + c.adds g order) := by
  have hprovider : ¬∃ p ∈ c.provider, order.paymentProvider ≠ p := by
    rintro ⟨p, hp, hno⟩
    exact hno (hc p hp)
  cases ht : c.transactional with
  | false =>
    cases c with
    | epayNotify paymentType =>
      obtain ⟨r', hr', hquota⟩ := epayNotify_after_calm z paymentType hr ⟨hc _ rfl, hp⟩ hu
      rw [after, run, hr'.exec.2]
      exact hquota
    | _ => cases ht
  | true =>
    by_cases hw : c.wantsQuota = true ∧ c.quota g order ≤ 0
    · have hadds : c.adds g order = 0 := by
        simp [adds, gated, hw.1, hw.2]
      rw [after_refused hr hp (.calm z) (.inr (.inl hw)), hu, hadds, add_zero]
      rfl
    · have hacc : ¬c.Refuses g tradeNo order := by
        rintro (h | h | h)
        · exact hprovider h
        · exact hw h
        · exact hne h.2
      have hadds : c.adds g order = c.quota g order := by
        unfold adds gated
        rw [ht]
        split
        · next hgate =>
          have hpos : ¬c.quota g order ≤ 0 := fun h => hw ⟨by simpa using hgate, h⟩
          exact max_eq_right (by omega)
        · rfl
      rw [hadds]
      exact (after_calm hr hp ht z hacc fun _ => by rw [hu]; rfl).quota hu

end calm

/-! ### The administrator and the provider -/

/-- The orders for which an administrator adds as much as the provider. -/
def SameUnits (g : Settings) (order : TopUp) : Prop :=
  match order.paymentProvider with
  | .stripe => -1 < order.money * g.quotaPerUnit
  | .creem => 0 ≤ order.amount ∧ order.amount ≤ order.amount * g.quotaPerUnit ∧
      order.amount * g.quotaPerUnit < order.amount + 1
  | _ => True

lemma adds_eq_iff {g : Settings} (hcolumn : g.column = intPart) {order : TopUp} {c : Completion}
    (hc : c.provider = some order.paymentProvider) :
    Completion.manualCompleteTopUp.adds g order = c.adds g order ↔ SameUnits g order := by
  have hmanual : Completion.manualCompleteTopUp.adds g order = max 0 (manualQuota g order) := rfl
  have hother : order.paymentProvider ≠ .stripe → manualQuota g order = quotaOfAmount g order := fun h => if_neg h
  rw [hmanual]
  unfold SameUnits
  cases c with
  | recharge customerId paymentAmount =>
    have hprovider : order.paymentProvider = .stripe := (Option.some.inj hc).symm
    have hquota : manualQuota g order = intPart (order.money * g.quotaPerUnit) := if_pos hprovider
    have hadds : (Completion.recharge customerId paymentAmount).adds g order = intPart (order.money * g.quotaPerUnit) := by
      simp [Completion.adds, Completion.gated, Completion.wantsQuota, Completion.transactional, Completion.quota, hcolumn]
    rw [hquota, hadds, hprovider]
    exact max_eq_right_iff.trans (intPart_nonneg_iff _)
  | rechargeCreem customerEmail =>
    have hprovider : order.paymentProvider = .creem := (Option.some.inj hc).symm
    have hadds : (Completion.rechargeCreem customerEmail).adds g order = order.amount := rfl
    rw [hother (by rw [hprovider]; simp), hadds, hprovider, quotaOfAmount, max_intPart_eq_iff]
    refine and_congr_right fun hn => ⟨?_, .inr⟩
    rintro (⟨-, h0⟩ | h)
    · simp [h0]
    · exact h
  | manualCompleteTopUp => cases hc
  | rechargeWaffo | rechargeWaffoPancake | rechargeEpusdt | epayNotify =>
    have hprovider := (Option.some.inj hc).symm
    rw [hother (by rw [hprovider]; simp), hprovider]
    exact iff_of_true rfl trivial

/-- **The administrator and the provider** add the same quota units exactly if the order is not one of Creem, whose amount is a
number of quota units already, and its money is not negative. -/
theorem manual_eq_callback_iff (g : Settings) (hcolumn : g.column = intPart) (c : Completion) (tradeNo : String)
    (hne : tradeNo ≠ "") (order : TopUp) (user : User) (r : Snap schema) (hr : r (.topUp tradeNo) = some order)
    (hp : order.status = .pending) (hu : r (.user order.userId) = some user)
    (hc : c.provider = some order.paymentProvider) (z z' : ℤ) :
    ((Completion.manualCompleteTopUp.after g tradeNo (.calm z) r) (.user order.userId)).map User.quota =
        ((c.after g tradeNo (.calm z') r) (.user order.userId)).map User.quota ↔ SameUnits g order := by
  have hown : ∀ p, c.provider = some p → order.paymentProvider = p := by
    intro p hp
    rw [hc] at hp
    exact Option.some.inj hp
  rw [Completion.quota_after_calm z hne hr hp (fun p hp => by cases hp) hu,
    Completion.quota_after_calm z' hne hr hp hown hu, ← adds_eq_iff hcolumn hc]
  simp

theorem manual_eq_callback_iff_waffo :
    ((Completion.manualCompleteTopUp.after { } "A" (.calm 1) (pendingAt .waffo)) (.user 1)).map User.quota =
      ((Completion.rechargeWaffo.after { } "A" (.calm 2) (pendingAt .waffo)) (.user 1)).map User.quota :=
  (manual_eq_callback_iff { } rfl .rechargeWaffo "A" (by decide) (orderAt .waffo) { } (pendingAt .waffo) rfl rfl rfl rfl 1
    2).2 trivial

/-- **A product of two quota units.**  The callback of Creem adds the two units that were bought, and an administrator
adds a million. -/
theorem manual_creem_differs :
    ((Completion.manualCompleteTopUp.after { } "A" (.calm 1) (pendingAt .creem)) (.user 1)).map User.quota = some 1000000 ∧
    (((Completion.rechargeCreem "").after { } "A" (.calm 1) (pendingAt .creem)) (.user 1)).map User.quota = some 2 ∧
    ((Completion.manualCompleteTopUp.after { } "A" (.calm 1) (pendingAt .creem)) (.user 1)).map User.quota ≠
      (((Completion.rechargeCreem "").after { } "A" (.calm 1) (pendingAt .creem)) (.user 1)).map User.quota := by
  decide +kernel

end StarNexus.Account
