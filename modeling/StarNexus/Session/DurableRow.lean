import StarNexus.Ledger.Operations
import StarNexus.Session.Plain

/-!
# Billing transactions and purses

What the durable balance functions do to the level of a session: for the session's own row they move it, and for the
row of another session they leave it as it is, provided that the other row does not draw on the session's subscription.
-/

namespace StarNexus.Session

open Lib Lib.Tx Model Service Ledger Function

/-- The row is charged to the source and the token of the purse. -/
structure Draws (p : Purse) (row : BillingTransaction) : Prop where
  source : row.fundingSource = p.source
  holder : match p.source with
    | .wallet => row.userID = p.holder ∧ p.holder ≠ 0
    | .subscription => row.subscriptionID = p.holder
  token : p.token = if row.skipTokenQuota then none else some row.tokenID
  tokenID : ∀ n, p.token = some n → n ≠ 0

/-- The row is not charged to the subscription of the purse. -/
def Apart (p : Purse) (row : BillingTransaction) : Prop :=
  p.source = .subscription → row.fundingSource = .subscription → row.subscriptionID ≠ p.holder

/-- The rewritten row is charged to what it was charged to. -/
structure SameDraw (row row' : BillingTransaction) : Prop extends SameOwner row row' where
  subscription : row'.subscriptionID = row.subscriptionID

variable {row row' : BillingTransaction}

lemma Draws.same {p : Purse} (hd : Draws p row) (h : SameDraw row row') : Draws p row' := by
  refine ⟨h.source.trans hd.source, ?_, ?_, hd.tokenID⟩
  · have hh := hd.holder
    cases hsrc : p.source with
    | wallet =>
      rw [hsrc] at hh
      exact ⟨h.user.trans hh.1, hh.2⟩
    | subscription =>
      rw [hsrc] at hh
      exact h.subscription.trans hh
  · rw [h.skip, h.token]
    exact hd.token

lemma SameDraw.apart {p : Purse} (h : SameDraw row row') (ha : Apart p row) :
    Apart p row' := by
  intro hsrc hrow
  rw [h.subscription]
  exact ha hsrc (h.source.symm.trans hrow)

section moves

variable {p : Purse} {start s : Snap schema} {used f t : ℤ} {row : BillingTransaction}

/-! ### The session's own row -/

section

variable (h : Level p start used f t s)

include h

lemma adjustDurableFundingTx_level (hf : p.floor used f = f) (hd : Draws p row)
    {why : Why} (hmine : p.mine (why s) = true) (delta : ℤ) :
    Ensures (adjustDurableFundingTx why row delta) s fun _ s' =>
      Level p start used (p.floor used (f + delta)) t s' ∧ SameRows s s' := by
  refine .ite (fun h0 => .pure ⟨?_, fun _ => rfl, rfl⟩) fun h0 => ?_
  · rw [h0, add_zero, hf]
    exact h
  have hholder := hd.holder
  rw [hd.source]
  cases hsrc : p.source with
  | wallet =>
    rw [hsrc] at hholder
    rw [hholder.1]
    refine (adjustUserQuotaTx_writes why p.holder _ s).mono fun _ s' hcase => ?_
    rcases hcase with ⟨hzero | hzero, -⟩ | ⟨-, x, hx, rfl⟩
    · exact absurd hzero hholder.2
    · omega
    · have hlevel := h.addUser hsrc hx hmine (-delta)
      rw [sub_neg_eq_add] at hlevel
      exact ⟨by simpa only [Purse.floor, hsrc] using hlevel, fun _ => rfl, rfl⟩
  | subscription =>
    rw [hsrc] at hholder
    rw [hholder]
    refine (postConsumeUserSubscriptionDeltaTx_writes why p.holder delta s).mono fun _ s' hcase => ?_
    obtain ⟨-, ⟨hzero, -⟩ | ⟨sub, hsub, rfl, -⟩⟩ := hcase
    · exact absurd hzero h0
    · exact ⟨h.consume hsrc hsub hmine delta, fun _ => rfl, rfl⟩

lemma adjustDurableTokenTx_level (hd : Draws p row) {why : Why}
    (hmine : p.mine (why s) = true) (delta : ℤ) :
    Ensures (adjustDurableTokenTx why row delta) s fun _ s' =>
      Level p start used f (t + delta) s' ∧ SameRows s s' := by
  have htoken := hd.token
  refine .ite (fun hskip => .pure ⟨?_, fun _ => rfl, rfl⟩) fun hskip => ?_
  · rw [if_pos hskip] at htoken
    exact h.anyCharge htoken _
  · rw [if_neg hskip] at htoken
    refine (adjustTokenQuotaTx_writes why row.tokenID _ s).mono fun _ s' hcase => ?_
    rcases hcase with ⟨hzero | hzero, rfl⟩ | ⟨-, x, z, hx, rfl⟩
    · exact absurd hzero (hd.tokenID _ htoken)
    · obtain rfl : delta = 0 := by omega
      rw [add_zero]
      exact ⟨h, fun _ => rfl, rfl⟩
    · have hlevel := h.addToken htoken hx hmine (-delta) z
      rw [sub_neg_eq_add] at hlevel
      exact ⟨hlevel, fun _ => rfl, rfl⟩

lemma ensures_adjust {α : Type} (hf : p.floor used f = f) (hd : Draws p row) {c : Cause}
    (hmine : p.mine c = true) (delta : ℤ) {rest : Model.Tx α} {Q : α → Snap schema → Prop}
    (hrest : ∀ s', SameRows s s' → Level p start used (p.floor used (f + delta)) (t + delta) s' → Ensures rest s' Q) :
    Ensures (do
      adjustDurableFundingTx (fun _ => c) row delta
      adjustDurableTokenTx (fun _ => c) row delta
      rest) s Q := by
  refine .bind ((adjustDurableFundingTx_level h hf hd hmine delta).mono ?_)
  rintro _ s₁ ⟨h₁, hrows₁⟩
  refine .bind ((adjustDurableTokenTx_level h₁ hd hmine delta).mono ?_)
  rintro _ s₂ ⟨h₂, hrows₂⟩
  exact hrest s₂ (hrows₁.trans hrows₂) h₂

end

/-! ### The rows of other sessions -/

/-- Every level is kept; of the billing transactions only the row `i` changes, and it draws on what it drew on before. -/
structure OtherRow (p : Purse) (start : Snap schema) (used : ℤ) (i : ℕ) (s s' : Snap schema) : Prop where
  level : ∀ f t, Level p start used f t s → Level p start used f t s'
  rows : ∀ j, s' (.billing j) = s (.billing j) ∨
    j = i ∧ ∃ row row', s (.billing j) = some row ∧ s' (.billing j) = some row' ∧ SameDraw row row'

section

variable (start : Snap schema) (used : ℤ) {s : Snap schema} {why : Why} (hother : p.mine (why s) = false) (delta : ℤ)

include hother

lemma adjustDurableFundingTx_other (hapart : Apart p row) : Ensures (adjustDurableFundingTx why row delta) s fun _ s' =>
    (∀ f t, Level p start used f t s → Level p start used f t s') ∧ SameRows s s' := by
  refine .ite (fun _ => .pure ⟨fun _ _ h => h, fun _ => rfl, rfl⟩) fun _ => ?_
  cases hsrc : row.fundingSource with
  | wallet =>
    refine (adjustUserQuotaTx_writes why row.userID _ s).mono fun _ s' hcase => ?_
    rcases hcase with ⟨-, rfl⟩ | ⟨-, x, hx, rfl⟩
    · exact ⟨fun _ _ h => h, fun _ => rfl, rfl⟩
    · exact ⟨fun _ _ h => h.userRow hx (taken_append_other hother _ _), fun _ => rfl, rfl⟩
  | subscription =>
    refine (postConsumeUserSubscriptionDeltaTx_writes why row.subscriptionID delta s).mono fun _ s' hcase => ?_
    obtain ⟨-, ⟨-, rfl⟩ | ⟨sub, hsub, rfl, -⟩⟩ := hcase
    · exact ⟨fun _ _ h => h, fun _ => rfl, rfl⟩
    · exact ⟨fun _ _ h => h.otherSubscription hsub hother (fun hp => hapart hp hsrc) _, fun _ => rfl, rfl⟩

lemma adjustDurableTokenTx_other : Ensures (adjustDurableTokenTx why row delta) s fun _ s' =>
    (∀ f t, Level p start used f t s → Level p start used f t s') ∧ SameRows s s' := by
  refine .ite (fun _ => .pure ⟨fun _ _ h => h, fun _ => rfl, rfl⟩) fun _ => ?_
  refine (adjustTokenQuotaTx_writes why row.tokenID _ s).mono fun _ s' hcase => ?_
  rcases hcase with ⟨-, rfl⟩ | ⟨-, x, z, hx, rfl⟩
  · exact ⟨fun _ _ h => h, fun _ => rfl, rfl⟩
  · exact ⟨fun _ _ h => h.otherToken hx hother _ z, fun _ => rfl, rfl⟩

end

lemma Level.sameMoney {s' : Snap schema} (h : Level p start used f t s) (hs : SameMoney s s') : Level p start used f t s' := by
  refine h.sameLedgers (fun u => ?_) hs.token hs.subscription
  have hledger := congrArg (Option.map Prod.snd) (hs.user u)
  rwa [Option.map_map, Option.map_map] at hledger

/-- **The row of another session** is applied. -/
lemma applyDurableTaskBillingTx_other (start : Snap schema) (used : ℤ) {i : ℕ} (hother : p.mine (.durable .apply i) = false)
    (hapart : ∀ row, s (.billing i) = some row → Apart p row) :
    Ensures (applyDurableTaskBillingTx i) s fun _ s' => OtherRow p start used i s s' := by
  refine applyDurableTaskBillingTx_rule (I := fun row w => s (.billing i) = some row ∧
      (∀ f t, Level p start used f t s → Level p start used f t w) ∧ SameRows s w)
    (fun row rest hrow _ hrest => ?_) (fun row w hw => (hw.2.2.1 i).trans hw.1)
    (fun row w w' hw hs => ⟨hw.1, fun f t h => (hw.2.1 f t h).sameMoney hs, hw.2.2.trans ⟨hs.billing, hs.seq⟩⟩)
    (fun row w z _ hw => ?_) fun w w' hw hs => ⟨fun f t h => (hw.level f t h).sameMoney hs, fun j => hs.billing j ▸ hw.rows j⟩
  · refine .bind ((adjustDurableFundingTx_other start used hother _ (hapart row hrow)).mono ?_)
    rintro _ s₁ ⟨h₁, hrows₁⟩
    refine .bind ((adjustDurableTokenTx_other start used hother _).mono ?_)
    rintro _ s₂ ⟨h₂, hrows₂⟩
    exact hrest s₂ ⟨hrow, fun f t h => h₂ f t (h₁ f t h), hrows₁.trans hrows₂⟩
  · obtain ⟨hrow, hlevel, hrows⟩ := hw
    refine ⟨fun f t h => (hlevel f t h).write (k := .billing i) _ rfl, fun j => ?_⟩
    by_cases hj : j = i
    · subst hj
      exact .inr ⟨rfl, row, _, hrow, update_self _ _ _, ⟨rfl, rfl, rfl, rfl⟩, rfl⟩
    · rw [update_of_ne (by simpa using hj)]
      exact .inl (hrows.1 j)

end moves

end StarNexus.Session
