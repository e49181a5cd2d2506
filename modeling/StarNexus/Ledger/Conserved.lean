import StarNexus.Ledger.Books

/-!
# Conservation, function by function

`Conserved base s`: each billing transaction of `s` holds back from its wallet and its token exactly what its state
says.  A function can keep this in two ways.  Either it moves no money and relabels rows without changing what they
hold (`Quiet`), or it moves money: then the two balance updates shift what the account holds and the row is written
last, which `Books` follows statement by statement.
-/

namespace StarNexus.Ledger

open Lib Lib.Tx Model Service
open Function (update update_eq_self update_self)

/-- What a row holds back: the reserved amount until it is settled or refunded. -/
def heldOf (row : BillingTransaction) : ℤ :=
  match row.state with
  | .settled => row.finalQuota
  | .refunded => 0
  | _ => row.reservedQuota

def heldIn (s : Snap schema) (id : ℕ) : ℤ := ((s (.billing id)).map heldOf).getD 0

structure SameOwner (row row' : BillingTransaction) : Prop where
  source : row'.fundingSource = row.fundingSource
  user : row'.userID = row.userID
  token : row'.tokenID = row.tokenID
  skip : row'.skipTokenQuota = row.skipTokenQuota

variable {row row' : BillingTransaction}

lemma SameOwner.walletShare (h : SameOwner row row') (u : ℕ) (held : ℤ) :
    walletShare (some row') u held = walletShare (some row) u held := by
  simp [Ledger.walletShare, h.source, h.user]

lemma SameOwner.tokenShare (h : SameOwner row row') (n : ℕ) (held : ℤ) :
    tokenShare (some row') n held = tokenShare (some row) n held := by
  simp [Ledger.tokenShare, h.token, h.skip]

/-- Every row holds back exactly what its state says, and ids are given out in order. -/
structure Conserved (base : Base) (s : Snap schema) : Prop where
  books : Books base (fun id => s (.billing id)) (heldIn s) (heldIn s) s
  fresh : ∀ id, (s .billingSeq : ℕ) ≤ id → s (.billing id) = none

/-- In-memory sessions know the reserved amount of their row as long as the row is reserved. -/
structure Synced (sess : ℕ → Option BillingSession) (s : Snap schema) : Prop where
  id : ∀ i ses, sess i = some ses → ses.durableTxID = i
  bound : ∀ i ses, sess i = some ses → i < (s .billingSeq : ℕ)
  amount : ∀ i ses row, sess i = some ses → s (.billing i) = some row → row.state = .reserved →
    ses.preConsumedQuota = row.reservedQuota

structure Good (base : Base) (sess : ℕ → Option BillingSession) (s : Snap schema) : Prop where
  conserved : Conserved base s
  synced : Synced sess s

/-! ### Relabelling rows -/

/-- A row is replaced by one that draws on the same balances and holds the same amount. -/
structure Relabel (row row' : BillingTransaction) : Prop where
  owner : SameOwner row row'
  held : heldOf row' = heldOf row
  reserved : row'.state = .reserved → row.state = .reserved ∧ row'.reservedQuota = row.reservedQuota

lemma Relabel.refl (row : BillingTransaction) : Relabel row row :=
  ⟨⟨rfl, rfl, rfl, rfl⟩, rfl, fun h => ⟨h, rfl⟩⟩

structure Quiet (s s' : Snap schema) : Prop where
  user : ∀ u, (s' (.user u)).map booksOf = (s (.user u)).map booksOf
  token : ∀ n, s' (.token n) = s (.token n)
  seq : s' .billingSeq = s .billingSeq
  absent : ∀ i, s (.billing i) = none → s' (.billing i) = none
  present : ∀ i row, s (.billing i) = some row → ∃ row', s' (.billing i) = some row' ∧ Relabel row row'

variable {s s' : Snap schema}

lemma SameBooks.quiet (h : SameBooks s s') : Quiet s s' :=
  ⟨h.user, h.token, h.seq, fun i hi => (h.billing i).trans hi,
    fun i row hi => ⟨row, (h.billing i).trans hi, .refl row⟩⟩

lemma Quiet.refl (s : Snap schema) : Quiet s s := (SameBooks.refl s).quiet

lemma Quiet.put {s t : Snap schema} (ht : Quiet s t) {ws : List (Write schema)}
    (h : ∀ x ∈ ws, ∃ i row row', x = ⟨.billing i, some row'⟩ ∧ s (.billing i) = some row ∧ Relabel row row') :
    Quiet s (t.put ws) := by
  induction ws generalizing t with
  | nil => exact ht
  | cons x ws ih =>
    obtain ⟨i, row, row', rfl, hrow, hrel⟩ := h x (.head _)
    refine ih ?_ fun y hy => h y (.tail _ hy)
    refine ⟨ht.user, ht.token, ht.seq, fun j hj => ?_, fun j r hj => ?_⟩
    · have hne : j ≠ i := by
        rintro rfl
        rw [hrow] at hj
        cases hj
      simpa [hne] using ht.absent j hj
    · by_cases hji : j = i
      · subst hji
        obtain rfl : row = r := by simpa [hrow] using hj
        exact ⟨row', by simp, hrel⟩
      · simpa [hji] using ht.present j r hj

lemma Quiet.updateRow {s t : Snap schema} (ht : Quiet s t) {i : ℕ}
    (hrow : s (.billing i) = some row) (hrel : Relabel row row') :
    Quiet s (update t (.billing i) (some row')) := by
  have hput : Quiet s (t.put [⟨.billing i, some row'⟩]) :=
    ht.put fun x hx => ⟨i, row, row', by simpa using hx, hrow, hrel⟩
  exact hput

lemma Quiet.heldIn (h : Quiet s s') (id : ℕ) : heldIn s' id = heldIn s id := by
  unfold Ledger.heldIn
  cases hs : s (.billing id) with
  | none => rw [h.absent id hs]
  | some row =>
    obtain ⟨row', hrow', hrel⟩ := h.present id row hs
    simp [hrow', hrel.held]

lemma Conserved.quiet {base : Base} (h : Conserved base s) (hq : Quiet s s') :
    Conserved base s' := by
  refine ⟨?_, fun id hid => hq.absent id (h.fresh id (hq.seq ▸ hid))⟩
  refine (h.books.transfer hq.user hq.token).congr (fun id u _ => ?_) fun id n _ => ?_
  all_goals
    rw [hq.heldIn id]
    cases hs : s (.billing id) with
    | none => rw [hq.absent id hs]
    | some row =>
      obtain ⟨row', hrow', hrel⟩ := hq.present id row hs
      rw [hrow']
      first
        | exact hrel.owner.walletShare u _
        | exact hrel.owner.tokenShare n _

lemma Good.quiet {base : Base} {sess : ℕ → Option BillingSession} (h : Good base sess s)
    (hq : Quiet s s') : Good base sess s' := by
  refine ⟨h.conserved.quiet hq, h.synced.id, fun i ses hi => ?_, fun i ses row' hi hrow' hres => ?_⟩
  · rw [hq.seq]
    exact h.synced.bound i ses hi
  · cases hs : s (.billing i) with
    | none => rw [hq.absent i hs] at hrow'; cases hrow'
    | some row =>
      obtain ⟨r, hr, hrel⟩ := hq.present i row hs
      obtain rfl : r = row' := by simpa [hr] using hrow'
      obtain ⟨hres₀, hamount⟩ := hrel.reserved hres
      rw [hamount]
      exact h.synced.amount i ses row hi hs hres₀

/-! ### Moving money -/

variable {base : Base} {acct : ℕ → Option BillingTransaction} {hw ht : ℕ → ℤ} {w : Snap schema}

def SameRows (w w' : Snap schema) : Prop := (∀ i, w' (.billing i) = w (.billing i)) ∧ w' .billingSeq = w .billingSeq

lemma SameRows.refl (w : Snap schema) : SameRows w w := ⟨fun _ => rfl, rfl⟩

lemma SameRows.trans {w₁ w₂ w₃ : Snap schema} (h : SameRows w₁ w₂) (h' : SameRows w₂ w₃) : SameRows w₁ w₃ :=
  ⟨fun i => (h'.1 i).trans (h.1 i), h'.2.trans h.2⟩

variable {row : BillingTransaction} {id : ℕ}

section

variable (h : Books base acct hw ht w)

include h

lemma adjustDurableFundingTx_books
    (hrow : acct id = some row) {why : Why} {op : DurableOp} (hwhy : why w = .durable op id) (delta : ℤ) :
    Ensures (adjustDurableFundingTx why row delta) w fun _ w' =>
      Books base acct (update hw id (hw id + delta)) ht w' ∧ SameRows w w' := by
  refine .ite (fun h0 => .pure ⟨?_, fun _ => rfl, rfl⟩) fun h0 => ?_
  · rw [h0, add_zero, update_eq_self]
    exact h
  cases hsrc : row.fundingSource with
  | subscription =>
    -- the wallet share of such an account is zero, whatever it holds
    refine (postConsumeUserSubscriptionDeltaTx_sameBooks why _ _ w).mono fun _ w' hs => ⟨?_, hs.billing, hs.seq⟩
    refine (h.transfer hs.user hs.token).congr (fun i u _ => ?_) fun _ _ _ => rfl
    by_cases hi : i = id
    · subst hi
      simp [hrow, walletShare, hsrc]
    · simp [hi]
  | wallet =>
    refine (adjustUserQuotaTx_writes why row.userID _ w).mono fun _ w' hcase => ?_
    rcases hcase with ⟨hzero, rfl⟩ | ⟨-, x, hx, rfl⟩
    · refine ⟨h.congr (fun i u hu => ?_) fun _ _ _ => rfl, fun _ => rfl, rfl⟩
      by_cases hi : i = id
      · subst hi
        have hne : row.userID ≠ u := by omega
        simp [hrow, walletShare, hne]
      · simp [hi]
    · rw [hwhy]
      refine ⟨?_, fun _ => rfl, rfl⟩
      have hpost := h.postUser hx hrow hsrc rfl op (-delta)
      rwa [sub_neg_eq_add] at hpost

lemma adjustDurableTokenTx_books
    (hrow : acct id = some row) {why : Why} {op : DurableOp} (hwhy : why w = .durable op id) (delta : ℤ) :
    Ensures (adjustDurableTokenTx why row delta) w fun _ w' =>
      Books base acct hw (update ht id (ht id + delta)) w' ∧ SameRows w w' := by
  refine .ite (fun hskip => .pure ⟨?_, fun _ => rfl, rfl⟩) fun hskip => ?_
  · refine h.congr (fun _ _ _ => rfl) fun i n _ => ?_
    by_cases hi : i = id
    · subst hi
      simp [hrow, tokenShare, hskip]
    · simp [hi]
  have hskip' : row.skipTokenQuota = false := by simpa using hskip
  refine (adjustTokenQuotaTx_writes why row.tokenID _ w).mono fun _ w' hcase => ?_
  rcases hcase with ⟨hzero, rfl⟩ | ⟨-, x, z, hx, rfl⟩
  · refine ⟨h.congr (fun _ _ _ => rfl) fun i n hn => ?_, fun _ => rfl, rfl⟩
    by_cases hi : i = id
    · subst hi
      rcases hzero with hown | hdelta
      · have hne : row.tokenID ≠ n := by omega
        simp [hrow, tokenShare, hne]
      · have hd : delta = 0 := by omega
        simp [hd]
    · simp [hi]
  · rw [hwhy]
    refine ⟨?_, fun _ => rfl, rfl⟩
    have hpost := h.postToken hx hrow hskip' rfl op (-delta) z
    rwa [sub_neg_eq_add] at hpost

lemma Books.writeRow
    (hacct : acct = fun i => w (.billing i)) (hrow : acct id = some row) (hown : SameOwner row row') {s : Snap schema}
    (hs : ∀ i, i ≠ id → s (.billing i) = w (.billing i))
    (hw_eq : hw = update (heldIn s) id (heldOf row')) (ht_eq : ht = hw) :
    Books base (fun i => update w (.billing id) (some row') (.billing i))
      (heldIn (update w (.billing id) (some row'))) (heldIn (update w (.billing id) (some row')))
      (update w (.billing id) (some row')) := by
  have hheld : ∀ i, hw i = heldIn (update w (.billing id) (some row')) i := by
    intro i
    by_cases hi : i = id
    · subst hi
      simp [hw_eq, heldIn]
    · simp [hw_eq, heldIn, hi, hs i hi]
  subst hacct
  have hmoved : Books base _ hw ht (update w (.billing id) (some row')) :=
    h.transfer (fun _ => rfl) fun _ => rfl
  refine hmoved.congr (fun i u _ => ?_) fun i n _ => ?_
  · rw [← hheld i]
    by_cases hi : i = id
    · subst hi
      simp only [update_self, hrow]
      exact hown.walletShare u _
    · simp [hi]
  · rw [ht_eq, ← hheld i]
    by_cases hi : i = id
    · subst hi
      simp only [update_self, hrow]
      exact hown.tokenShare n _
    · simp [hi]

end

end StarNexus.Ledger
