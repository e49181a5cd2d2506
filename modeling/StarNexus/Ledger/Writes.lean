import StarNexus.Lib.Calm
import StarNexus.Service.DurableSession

/-!
# What the balance functions write

One lemma per function of the model that is called inside a transaction: which rows it can have changed when it
returns without an error.  `SameBooks w w'` is the frame: the balances with their ledgers, and the billing
transactions, are the same in `w` and in `w'`.
-/

namespace StarNexus.Ledger

open Lib Lib.Tx Model Service Function Option

def booksOf (x : User) : ℤ × List Entry := (x.quota, x.ledger)

structure SameBooks (w w' : Snap schema) : Prop where
  user : ∀ u, (w' (.user u)).map booksOf = (w (.user u)).map booksOf
  token : ∀ n, w' (.token n) = w (.token n)
  billing : ∀ i, w' (.billing i) = w (.billing i)
  seq : w' .billingSeq = w .billingSeq

lemma SameBooks.refl (w : Snap schema) : SameBooks w w := ⟨fun _ => rfl, fun _ => rfl, fun _ => rfl, rfl⟩

lemma SameBooks.trans {w w' w'' : Snap schema} (h : SameBooks w w') (h' : SameBooks w' w'') : SameBooks w w'' :=
  ⟨fun u => (h'.user u).trans (h.user u), fun n => (h'.token n).trans (h.token n),
    fun i => (h'.billing i).trans (h.billing i), h'.seq.trans h.seq⟩

def offBooks : Key → Bool
  | .user _ | .token _ | .billing _ | .billingSeq => false
  | _ => true

variable {w : Snap schema}

lemma SameBooks.update {k : Key} (v : Val k) (hk : offBooks k = true) :
    SameBooks w (Function.update w k v) := by
  have hne : ∀ k', offBooks k' = false → Function.update w k v k' = w k' := by
    intro k' hk'
    refine update_of_ne ?_ _ _
    rintro rfl
    rw [hk] at hk'
    cases hk'
  exact ⟨fun u => congrArg _ (hne (.user u) rfl), fun n => hne (.token n) rfl, fun i => hne (.billing i) rfl,
    hne .billingSeq rfl⟩

lemma SameBooks.put {ws : List (Write schema)} (h : ∀ x ∈ ws, offBooks x.1 = true) :
    SameBooks w (w.put ws) := by
  induction ws generalizing w with
  | nil => exact .refl w
  | cons x ws ih =>
    exact (SameBooks.update x.2 (h x (.head _))).trans (ih fun y hy => h y (.tail _ hy))

lemma ensures_offBooks {k : Key} {f : Val k → Option (Val k)} (hk : offBooks k = true) :
    Ensures (updateRow k f) w fun _ w' => SameBooks w w' := by
  refine .row (fun _ => .refl w) fun v _ => .update v hk

lemma ensures_balanceRow {k : Key} {why : Why} {f : Cause → Val k → Option (Val k)}
    {Q : ℕ → Snap schema → Prop} (hnone : f (why w) (w k) = none → Q 0 w)
    (hsome : ∀ v, f (why w) (w k) = some v → Q 1 (Function.update w k v)) : Ensures (balanceRow k why f) w Q := by
  refine .exec ?_
  cases hv : f (why w) (w k) with
  | none =>
    simp only [rowWrite, hv]
    exact hnone hv
  | some v =>
    simp only [rowWrite, hv]
    exact hsome v hv

/-! ### Balance updates -/

variable (why : Why)

lemma adjustUserQuotaTx_writes (u : ℕ) (delta : ℤ) (w : Snap schema) :
    Ensures (adjustUserQuotaTx why u delta) w fun _ w' =>
      ((u = 0 ∨ delta = 0) ∧ w' = w) ∨
      (u ≠ 0 ∧ ∃ x, w (.user u) = some x ∧ w' = Function.update w (.user u) (some (x.add (why w) delta))) := by
  refine .ite (fun h => .pure (.inl ⟨h, rfl⟩)) fun h => ?_
  refine .bind (ensures_balanceRow (fun _ => ?_) fun v hv => ?_)
  · exact .guard fun h1 => absurd (by decide) h1
  · refine .guard fun _ => .pure (.inr ⟨fun h0 => h (.inl h0), ?_⟩)
    obtain ⟨x, y, hx, hy, rfl⟩ := onRow_eq_some.1 hv
    obtain ⟨-, ⟨⟩⟩ := ite_none_left_eq_some.1 hy
    exact ⟨x, hx, rfl⟩

lemma adjustTokenQuotaTx_writes (n : ℕ) (delta : ℤ) (w : Snap schema) :
    Ensures (adjustTokenQuotaTx why n delta) w fun _ w' =>
      ((n = 0 ∨ delta = 0) ∧ w' = w) ∨
      (n ≠ 0 ∧ ∃ x z, w (.token n) = some x ∧ w' = Function.update w (.token n) (some (x.add (why w) delta z))) := by
  refine .ite (fun h => .pure (.inl ⟨h, rfl⟩)) fun h => ?_
  refine .bind (.now fun z => .bind (ensures_balanceRow (fun _ => ?_) fun v hv => ?_))
  · exact .guard fun h1 => absurd (by decide) h1
  · refine .guard fun _ => .pure (.inr ⟨fun h0 => h (.inl h0), ?_⟩)
    obtain ⟨x, y, hx, hy, rfl⟩ := onRow_eq_some.1 hv
    obtain ⟨-, ⟨⟩⟩ := ite_none_left_eq_some.1 hy
    exact ⟨x, z, hx, rfl⟩

/-! ### Subscriptions -/

lemma postConsumeUserSubscriptionDeltaTx_writes (id : ℕ) (delta : ℤ) (w : Snap schema) :
    Ensures (postConsumeUserSubscriptionDeltaTx why id delta) w fun _ w' =>
      id ≠ 0 ∧ ((delta = 0 ∧ w' = w) ∨ ∃ sub, w (.subscription id) = some sub ∧
        w' = Function.update w (.subscription id) (some (sub.setUsed (why w) (max 0 (sub.amountUsed + delta)))) ∧
        (0 < sub.amountTotal → max 0 (sub.amountUsed + delta) ≤ sub.amountTotal)) := by
  refine .guard fun hid => ?_
  refine .ite (fun h0 => .pure ⟨hid, .inl ⟨h0, rfl⟩⟩) fun _ => ?_
  refine .bind (.row_of rfl ?_)
  -- the lock writes the row back as it is
  rw [update_eq_self]
  refine .bind (.select ?_)
  split
  · exact .fail _
  · next sub hsub =>
    refine .guard fun hfits => ?_
    refine .bind (ensures_balanceRow (fun hnone => ?_) fun v hv => ?_)
    · cases hnone
    · cases hv
      exact .pure ⟨hid, .inr ⟨sub, hsub, rfl, fun hlimited => Int.not_lt.1 fun hlt => hfits ⟨hlimited, hlt⟩⟩⟩

section undisturbed

variable {z : ℤ} {w : Snap schema} {why : Why}

lemma succeeds_balanceRow {k : Key} {f : Cause → Val k → Option (Val k)} {v : Val k}
    {Q : ℕ → Snap schema → Prop} (hv : f (why w) (w k) = some v) (h : Q 1 (Function.update w k v)) :
    Succeeds z (balanceRow k why f) w Q := by
  refine .exec ?_
  simp only [rowWrite, hv]
  exact h

variable {sub : UserSubscription}

lemma postConsumeUserSubscriptionDeltaTx_succeeds {id : ℕ} {delta : ℤ} (hid : id ≠ 0) (h0 : delta ≠ 0)
    (hsub : w (.subscription id) = some sub)
    (hfits : 0 < sub.amountTotal → max 0 (sub.amountUsed + delta) ≤ sub.amountTotal) :
    Succeeds z (postConsumeUserSubscriptionDeltaTx why id delta) w fun _ _ => True := by
  unfold postConsumeUserSubscriptionDeltaTx
  rw [if_neg hid, if_neg h0]
  refine .bind (.row rfl ?_)
  rw [update_eq_self]
  refine .bind (.select ?_)
  rw [hsub]
  dsimp only
  rw [if_neg fun hover => Int.not_lt.2 (hfits hover.1) hover.2]
  exact .bind (succeeds_balanceRow rfl (.pure trivial))

lemma postConsumeUserSubscriptionDeltaTx_refused {id : ℕ} {delta : ℤ} (hid : id ≠ 0) (h0 : delta ≠ 0)
    (hsub : w (.subscription id) = some sub)
    (hover : 0 < sub.amountTotal ∧ sub.amountTotal < max 0 (sub.amountUsed + delta)) :
    ∃ e, Returns z (postConsumeUserSubscriptionDeltaTx why id delta) w (.error e) w := by
  -- the lock writes the row back as it is
  have hlock : w.put (rowWrite (.subscription id) some w) = w :=
    (Snap.put_one w (.subscription id) _).trans (update_eq_self (.subscription id) w)
  unfold postConsumeUserSubscriptionDeltaTx
  rw [if_neg hid, if_neg h0]
  let e : Err := .msg s!"subscription used exceeds total, used={max 0 (sub.amountUsed + delta)} total={sub.amountTotal}"
  refine ⟨e, .bind (.exec _ _) (.bind (.select _ _) ?_)⟩
  rw [hlock, hsub]
  dsimp only
  rw [if_pos hover]
  exact .fail e

end undisturbed

/-! ### Subscriptions do not touch the books -/

lemma postConsumeUserSubscriptionDeltaTx_sameBooks (id : ℕ) (delta : ℤ) (w : Snap schema) :
    Ensures (postConsumeUserSubscriptionDeltaTx why id delta) w fun _ w' => SameBooks w w' := by
  refine .guard fun _ => .ite (fun _ => .pure (.refl w)) fun _ => ?_
  refine .bind ((ensures_offBooks rfl).mono fun _ w₁ h₁ => .bind (.select ?_))
  split
  · exact .fail _
  · refine .guard fun _ => .bind (ensures_balanceRow (fun _ => ?_) fun v _ => ?_)
    · exact .pure h₁
    · exact .pure (h₁.trans (.update v rfl))

variable (reset : ResetRule) (why : Why) (req : String) (userId : ℕ)

lemma preConsumeFrom_sameBooks (now amount : ℤ) (subs : List (ℕ × UserSubscription)) (w : Snap schema) :
    Ensures (preConsumeFrom reset why req userId now amount subs) w fun _ w' => SameBooks w w' := by
  induction subs generalizing w with
  | nil => exact .fail _
  | cons c rest ih =>
    unfold preConsumeFrom
    split
    · exact .fail _
    · refine .bind ((ensures_offBooks rfl).mono fun _ w₁ h₁ => ?_)
      refine .ite (fun _ => (ih w₁).mono fun _ w' h => h₁.trans h) fun _ => ?_
      refine .bind ((ensures_offBooks rfl).mono fun n w₂ h₂ => ?_)
      refine .guard fun _ => .bind (ensures_balanceRow (fun _ => ?_) fun v _ => ?_)
      · exact .pure (h₁.trans h₂)
      · exact .pure ((h₁.trans h₂).trans (.update v rfl))

lemma preConsumeUserSubscriptionTx_sameBooks (amount : ℤ) (w : Snap schema) :
    Ensures (preConsumeUserSubscriptionTx reset why req userId amount) w fun _ w' => SameBooks w w' := by
  refine .guard fun _ => .bind (.now fun now => ?_)
  refine .bind (.select ?_)
  split
  · refine .guard fun _ => .bind (.select ?_)
    split
    · exact .fail _
    · exact .pure (.refl w)
  · have hput : SameBooks w (w.put ((activeSubscriptions w userId now).map fun c => ⟨.subscription c.1, some c.2⟩)) := by
      refine .put fun x hx => ?_
      obtain ⟨c, -, rfl⟩ := List.mem_map.1 hx
      rfl
    refine .bind (.exec (.bind (.select ?_)))
    refine .guard fun _ => ?_
    exact (preConsumeFrom_sameBooks reset why req userId now amount _ _).mono fun _ w' h => hput.trans h

/-! ### Billing transactions -/

lemma createReservedBillingTransactionTx_writes (row : BillingTransaction) (w : Snap schema) :
    Ensures (createReservedBillingTransactionTx row) w fun id w' => id = (w .billingSeq : ℕ) ∧ ∃ z,
      w' = update (update w (.billing id) (some { row with updatedAt := z, version := 1 })) .billingSeq (id + 1 : ℕ) := by
  refine .guard fun _ => .bind (.now fun z => .bind (.exec ?_))
  split
  · exact .guard fun h0 => absurd rfl h0
  · exact .ite (fun h0 => absurd h0 (by simp)) fun _ => .select ⟨rfl, z, rfl⟩

/-- Besides the books, the subscriptions are the same. -/
structure SameMoney (w w' : Snap schema) : Prop extends SameBooks w w' where
  subscription : ∀ n, w' (.subscription n) = w (.subscription n)

lemma SameMoney.refl (w : Snap schema) : SameMoney w w := ⟨.refl w, fun _ => rfl⟩

lemma ensures_sameMoney {k : Key} {f : Val k → Option (Val k)} (hk : offBooks k = true) (hsub : ∀ n, k ≠ .subscription n) :
    Ensures (updateRow k f) w fun _ w' => SameMoney w w' :=
  .row (fun _ => .refl w) fun v _ => ⟨.update v hk, fun n => update_of_ne (hsub n).symm _ _⟩

lemma adjustTaskUsageTx_sameMoney (billing : BillingTransaction) (task : Task) (q : ℤ) (w : Snap schema) :
    Ensures (adjustTaskUsageTx billing task q) w fun _ w' => SameMoney w w' := by
  refine .ite (fun _ => .bind (.mono (Q := fun _ w' => SameMoney w w') ?_ fun _ w₁ h₁ => ?_)) fun _ => .pure (.refl w)
  · refine .ite (fun _ => .pure (.refl w)) fun _ => .bind (.row (fun _ => .pure (.refl w)) fun v hv => .pure ?_)
    obtain ⟨x, hx, hxv⟩ := bind_eq_some_iff.1 hv
    simp only [map_some, Option.some.injEq] at hxv
    subst hxv
    refine ⟨⟨fun u => ?_, fun _ => rfl, fun _ => rfl, rfl⟩, fun _ => rfl⟩
    by_cases hu : u = billing.userID
    · subst hu
      simp [hx, booksOf]
    · simp [hu]
  · refine .ite (fun _ => .pure h₁) fun _ => .bind ((ensures_sameMoney rfl (by simp)).mono fun _ _ h₂ => .pure ?_)
    exact ⟨h₁.toSameBooks.trans h₂.toSameBooks, fun n => (h₂.subscription n).trans (h₁.subscription n)⟩

lemma createOutbox_sameMoney (e : EventID) (row : ℕ) (w : Snap schema) :
    Ensures (createOutbox e row) w fun _ w' => SameMoney w w' := by
  refine .bind (.now fun z => .bind ((ensures_sameMoney rfl (by simp)).mono fun _ _ h => ?_))
  exact .guard fun _ => .pure h

def charged (row : BillingTransaction) : ℤ := if row.targetTaskStatus = .failure then 0 else row.finalQuota

def finalState (row : BillingTransaction) : BillingState := if row.targetTaskStatus = .failure then .refunded else .settled

def finished (row : BillingTransaction) (q now : ℤ) : BillingTransaction :=
  { row with state := finalState row, finalQuota := q, leaseOwner := "", leaseUntil := 0, lastError := "", updatedAt := now }

lemma finishRow_eq {id : ℕ} {row : BillingTransaction} (hrow : w (.billing id) = some row) (hstate : row.state = .applying)
    (q now : ℤ) : onRow (finishRow (finalState row) q now) (w (.billing id)) = some (some (finished row q now)) := by
  rw [hrow]
  simp [onRow, finishRow, hstate, finished]

/-- The quota moves first.  The statements after this keep `I` until the billing transaction is written, and `J` from then on. -/
lemma applyDurableTaskBillingTx_rule {id : ℕ} {s : Snap schema} {I : BillingTransaction → Snap schema → Prop}
    {J : Snap schema → Prop}
    (hadjust : ∀ row (rest : Model.Tx Unit), s (.billing id) = some row → row.state = .applying →
      (∀ w, I row w → Ensures rest w fun _ w' => J w') → Ensures (do
        adjustDurableFundingTx (fun _ => .durable .apply id) row (charged row - row.reservedQuota)
        adjustDurableTokenTx (fun _ => .durable .apply id) row (charged row - row.reservedQuota)
        rest) s fun _ w' => J w')
    (hrow : ∀ row w, I row w → w (.billing id) = some row)
    (hI : ∀ row w w', I row w → SameMoney w w' → I row w')
    (hfinish : ∀ row w z, row.state = .applying → I row w → J (update w (.billing id) (some (finished row (charged row) z))))
    (hJ : ∀ w w', J w → SameMoney w w' → J w') : Ensures (applyDurableTaskBillingTx id) s fun _ w' => J w' := by
  have houtbox : ∀ event w, J w → Ensures (createOutbox event id) w fun _ w' => J w' := fun event w hw =>
    (createOutbox_sameMoney event id w).mono fun _ w' => hJ w w' hw
  refine .bind (.select ?_)
  split
  · exact .fail _
  next row hs =>
  refine .guard fun hstate => ?_
  have happlying : row.state = .applying := not_not.1 hstate
  refine hadjust row _ hs happlying fun w hw => .ite (fun _ => .guard fun htarget => .bind (.now fun z => ?_)) fun _ => ?_
  · have hfinal : finalState row = .refunded := if_pos (not_not.1 htarget)
    have hcharged : charged row = 0 := if_pos (not_not.1 htarget)
    rw [← hfinal, ← hcharged]
    exact .bind (.row_of (finishRow_eq (hrow row w hw) happlying _ z) (houtbox _ _ (hfinish row w z happlying hw)))
  · refine .bind (.select ?_)
    split
    · exact .fail _
    next task _ =>
    refine .bind ((adjustTaskUsageTx_sameMoney row task _ w).mono fun _ w₁ h₁ => .bind (.now fun z => ?_))
    refine .bind ((ensures_sameMoney rfl (by simp)).mono fun _ w₂ h₂ => ?_)
    have hw₂ : I row w₂ := hI row w₁ w₂ (hI row w w₁ hw h₁) h₂
    refine .bind (.row_of (finishRow_eq (hrow row w₂ hw₂) happlying _ z) ?_)
    have hdone := hfinish row w₂ z happlying hw₂
    refine .ite (fun _ => houtbox _ _ hdone) fun _ => .bind ?_
    exact (Ensures.ite (fun _ => houtbox _ _ hdone) fun _ => .pure hdone).mono fun _ w₄ h₄ => houtbox _ w₄ h₄

end StarNexus.Ledger
