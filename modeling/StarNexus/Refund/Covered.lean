import Mathlib.Algebra.Order.BigOperators.Group.Finset
import StarNexus.Refund.Aside

/-!
# What is reserved on a subscription

The quota of a row that a subscription pays for is returned by lowering `amount_used`, and this stops at 0.  It is returned in
full if `amount_used` covers what the rows that can still be applied have reserved on the subscription, all of them together.
A reset of the subscription breaks this, the coordinator does not.
-/

namespace StarNexus.Refund

open Lib Lib.Tx Model Service Ledger Finset
open Function (update update_of_ne update_self)

/-- What the application of the row can still take off the subscription `n`. -/
def heldOn (n : ℕ) (row : BillingTransaction) : ℤ :=
  if row.fundingSource = .subscription ∧ row.subscriptionID = n ∧ row.state ∉ [.settled, .refunded, .actionNeeded] then
    row.reservedQuota
  else 0

def held (n : ℕ) (s : Snap schema) (i : ℕ) : ℤ := (s (.billing i)).elim 0 (heldOn n)

def source (row : BillingTransaction) : Option ℕ :=
  match row.fundingSource with
  | .subscription => some row.subscriptionID
  | .wallet => none

/-- No quota is negative, and what is reserved on the subscription, if there is one, has been counted as used. -/
structure Covered (paid : Option ℕ) (s : Snap schema) : Prop where
  billing : ∀ i row, s (.billing i) = some row → 0 ≤ row.reservedQuota ∧ 0 ≤ row.finalQuota
  task : ∀ i task, s (.task i) = some task → 0 ≤ task.quota
  used : ∀ n ∈ paid, ∀ sub, s (.subscription n) = some sub → ∀ rows, ∑ i ∈ rows, held n s i ≤ sub.amountUsed

variable {paid : Option ℕ} {n i : ℕ} {s s' w : Snap schema} {row x y : BillingTransaction}

lemma held_of_some (h : s (.billing i) = some row) : held n s i = heldOn n row := by
  rw [held, h]
  rfl

lemma Covered.held_nonneg (h : Covered paid s) (n i : ℕ) : 0 ≤ held n s i := by
  unfold held
  cases hrow : s (.billing i) with
  | none => exact le_rfl
  | some row =>
    change 0 ≤ heldOn n row
    unfold heldOn
    split
    · exact (h.billing i row hrow).1
    · exact le_rfl

/-- The reservation of a row that is being applied can be returned in full. -/
lemma Covered.le_used (h : Covered (source row) s) (hrow : s (.billing i) = some row) (hstate : row.state = .applying)
    (hsource : row.fundingSource = .subscription) {sub : UserSubscription}
    (hsub : s (.subscription row.subscriptionID) = some sub) : row.reservedQuota ≤ sub.amountUsed := by
  have hpaid : row.subscriptionID ∈ source row := by
    rw [source, hsource]
    rfl
  have hle := h.used _ hpaid sub hsub {i}
  rwa [sum_singleton, held_of_some hrow, heldOn, if_pos ⟨hsource, rfl, by simp [hstate]⟩] at hle

/-! ### The rows change, the subscription does not -/

lemma Covered.rows (h : Covered paid s) (hsub : ∀ n, s' (.subscription n) = s (.subscription n))
    (htask : ∀ i, s' (.task i) = s (.task i)) (hrow : ∀ i y, s' (.billing i) = some y →
      0 ≤ y.reservedQuota ∧ 0 ≤ y.finalQuota ∧ ∀ n, heldOn n y ≤ held n s i) : Covered paid s' := by
  refine ⟨fun i y hy => ⟨(hrow i y hy).1, (hrow i y hy).2.1⟩, fun i => htask i ▸ h.task i, fun n hn sub hs rows => ?_⟩
  rw [hsub] at hs
  refine (sum_le_sum fun i _ => ?_).trans (h.used n hn sub hs rows)
  cases hy : s' (.billing i) with
  | none =>
    rw [held, hy]
    exact h.held_nonneg n i
  | some y =>
    rw [held_of_some hy]
    exact (hrow i y hy).2.2 n

/-- The row is rewritten by the coordinator: its reservation stays, and a row that is through is not taken up again. -/
structure Rewritten (x y : BillingTransaction) : Prop where
  reserved : y.reservedQuota = x.reservedQuota
  funding : y.fundingSource = x.fundingSource
  subscription : y.subscriptionID = x.subscriptionID
  final : 0 ≤ x.finalQuota → 0 ≤ y.finalQuota
  live : x.state ∉ [.settled, .refunded, .actionNeeded]

lemma Rewritten.heldOn_le (h : Rewritten x y) (hx : 0 ≤ x.reservedQuota) (n : ℕ) : heldOn n y ≤ heldOn n x := by
  unfold heldOn
  rw [h.reserved, h.funding, h.subscription]
  split_ifs with hy hx'
  · exact le_rfl
  · exact absurd ⟨hy.1, hy.2.1, h.live⟩ hx'
  · exact hx
  · exact le_rfl

lemma Covered.rewrite (h : Covered paid s) (hsub : ∀ n, s' (.subscription n) = s (.subscription n))
    (htask : ∀ i, s' (.task i) = s (.task i)) (hrow : ∀ i, s' (.billing i) = s (.billing i) ∨
      ∃ x y, s (.billing i) = some x ∧ s' (.billing i) = some y ∧ Rewritten x y) : Covered paid s' := by
  refine h.rows hsub htask fun i z hz => ?_
  rcases hrow i with hsame | ⟨x, y, hx, hy, hxy⟩
  · rw [hsame] at hz
    obtain ⟨hreserved, hfinal⟩ := h.billing i z hz
    exact ⟨hreserved, hfinal, fun n => (held_of_some hz).ge⟩
  · obtain ⟨⟩ := hy.symm.trans hz
    obtain ⟨hreserved, hfinal⟩ := h.billing i x hx
    refine ⟨hxy.reserved ▸ hreserved, hxy.final hfinal, fun n => ?_⟩
    rw [held_of_some hx]
    exact hxy.heldOn_le hreserved n

lemma Covered.writeBilling (h : Covered paid s) (hx : s (.billing i) = some x) (hxy : Rewritten x y) :
    Covered paid (update s (.billing i) (some y)) := by
  refine h.rewrite (fun n => update_of_ne (by simp) _ _) (fun j => update_of_ne (by simp) _ _) fun j => ?_
  by_cases hj : j = i
  · subst hj
    exact .inr ⟨x, y, hx, update_self _ _ _, hxy⟩
  · exact .inl (update_of_ne (by simpa using hj) _ _)

lemma Covered.putBilling {f : BillingTransaction → Option BillingTransaction} (h : Covered paid s)
    (hf : ∀ x y, f x = some y → Rewritten x y) :
    Covered paid (s.put ((selectBilling s fun x => (f x).isSome).map fun x => ⟨.billing x.1, f x.2⟩)) := by
  have hkeys : ∀ k, (∀ i, k ≠ .billing i) →
      s.put ((selectBilling s fun x => (f x).isSome).map fun x => ⟨.billing x.1, f x.2⟩) k = s k := fun k hk => by
    refine Snap.put_of_not_mem _ _ _ fun v hv => ?_
    obtain ⟨i, x, y, rfl, -⟩ := mem_billingWrites hv
    exact (hk i).symm
  refine h.rewrite (fun n => hkeys _ (by simp)) (fun j => hkeys _ (by simp)) fun j => ?_
  rcases s.put_cases _ (.billing j) with ⟨-, heq⟩ | ⟨v, hv, heq⟩
  · exact .inl heq
  · obtain ⟨i, x, y, hi, hx, hy⟩ := mem_billingWrites hv
    cases hi
    exact .inr ⟨x, y, hx, heq, hf x y hy⟩

end StarNexus.Refund
