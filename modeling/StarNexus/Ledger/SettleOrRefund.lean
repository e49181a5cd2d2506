import StarNexus.Ledger.Bodies
import StarNexus.Ledger.SettleRace

/-!
# A reservation is settled or refunded

The functions that work on a reservation follow the protocol `settleRace`, so that in every interleaving in which the
settlement updates the row in time the wallet has been charged the actual amount when the row is settled and
nothing when it is refunded.
-/

namespace StarNexus.Ledger.SettleRace

open Lib Lib.Protocol Lib.Tx Model Service Option Sys

section code

variable {ρ : Reservation} {g : Phase} {α β : Type}

lemma goes_nothing (g : Phase) (ℓ : Label) (s : Snap schema) : Goes ρ g (.update ℓ s []) g :=
  .aside _ _ _ _ fun _ _ h => nomatch h

lemma goes_aside {ℓ : Label} {s : Snap schema} {k : Key} {v : Val k} (h : Aside ρ s k v) :
    Goes ρ g (.update ℓ s [⟨k, v⟩]) g := by
  refine .aside _ _ _ _ fun k' v' h' => ?_
  cases List.mem_singleton.1 h'
  exact h

lemma aside_of_table (s : Snap schema) {k : Key} (v : Val k)
    (hk : k ≠ ρ.outbox ∧ k ≠ .billing ρ.id ∧ k ≠ .task 0 ∧ k ≠ .user ρ.user) : Aside ρ s k v :=
  ⟨hk.1, hk.2.1, hk.2.2.1, by simp [moved, hk.2.2.2]⟩

lemma aside_user (s : Snap schema) {u : ℕ} {x : User} {c : Cause} {delta : ℤ} (hx : s (.user u) = some x)
    (h : u = ρ.user → rowOf c ≠ some ρ.id) : Aside ρ s (.user u) (some (x.add c delta)) := by
  refine ⟨by simp, by simp, by simp, ?_⟩
  by_cases hu : u = ρ.user
  · rw [hx]
    simp [moved, ledgerOf, User.add, h hu]
  · simp [moved, hu]

lemma body_updateRow {k : Key} {f : Val k → Option (Val k)}
    (hk : k ≠ ρ.outbox ∧ k ≠ .billing ρ.id ∧ k ≠ .task 0 ∧ k ≠ .user ρ.user) :
    (settleRace ρ).Body (updateRow k f) (fun _ g' => g' = g) g :=
  .row (fun s _ _ => ⟨g, goes_nothing g _ s, rfl⟩)
    fun s v _ _ => ⟨g, goes_aside (aside_of_table s v hk), rfl⟩

/-- The phase after `delta` has been added to the wallet of `u` for the billing transaction `j`. -/
def Phase.pay (ρ : Reservation) (g : Phase) (j u : ℕ) (delta : ℤ) : Phase :=
  if j = ρ.id ∧ u = ρ.user then { g with paid := g.paid + delta } else g

lemma user_body (hu : 0 < ρ.user) (op : DurableOp) (j u : ℕ) (delta : ℤ) :
    (settleRace ρ).Body (adjustUserQuotaTx (fun _ => .durable op j) u delta) (fun _ g' => g' = g.pay ρ j u delta) g := by
  refine adjustUserQuotaTx_body (fun hzero => ?_) (fun s => ⟨g, goes_nothing g _ s⟩) fun s x hx => ?_
  · unfold Phase.pay
    split
    · have hd : delta = 0 := hzero.resolve_left (by omega)
      simp [hd]
    · rfl
  · unfold Phase.pay
    split
    · next h =>
      obtain ⟨rfl, rfl⟩ := h
      refine ⟨_, .pay _ _ _ _ delta ?_, rfl⟩
      simp [moved, hx, ledgerOf, User.add, rowOf]
    · next h =>
      refine ⟨g, goes_aside (aside_user s hx fun hu' => ?_), rfl⟩
      simpa [rowOf] using fun hj => h ⟨hj, hu'⟩

lemma token_body (c : Cause) (n : ℕ) (delta : ℤ) :
    (settleRace ρ).Body (adjustTokenQuotaTx (fun _ => c) n delta) (fun _ g' => g' = g) g :=
  adjustTokenQuotaTx_body (fun _ => rfl) (fun s => ⟨g, goes_nothing g _ s⟩)
    fun s _ _ _ => ⟨g, goes_aside (aside_of_table s _ (by simp)), rfl⟩

lemma subscription_body (c : Cause) (n : ℕ) (delta : ℤ) :
    (settleRace ρ).Body (postConsumeUserSubscriptionDeltaTx (fun _ => c) n delta) (fun _ g' => g' = g) g := by
  have hk : .subscription n ≠ ρ.outbox ∧ Key.subscription n ≠ .billing ρ.id ∧ Key.subscription n ≠ .task 0 ∧
      Key.subscription n ≠ .user ρ.user := by simp
  refine .ite (fun _ => .fail _) fun _ => .ite (fun _ => .pure rfl) fun _ => ?_
  refine .bind ((body_updateRow hk).mono ?_)
  rintro _ _ rfl
  refine .bind (.select fun s _ => ⟨_, .read _ _ s, ?_⟩)
  split
  · exact .fail _
  · refine .ite (fun _ => .fail _) fun _ => .bind ?_
    exact (body_updateRow hk).mono fun _ g' h => .pure h

lemma adjustBoth_body (hu : 0 < ρ.user) (op : DurableOp) (j : ℕ) (row : BillingTransaction) (delta : ℤ)
    {rest : Model.Tx Unit} {R : Unit → Phase → Prop}
    (hrest : (settleRace ρ).Body rest R
      (if row.fundingSource = .wallet then g.pay ρ j row.userID (-delta) else g)) :
    (settleRace ρ).Body (do
      adjustDurableFundingTx (fun _ => .durable op j) row delta
      adjustDurableTokenTx (fun _ => .durable op j) row delta
      rest) R g := by
  have hfund : (settleRace ρ).Body (adjustDurableFundingTx (fun _ => .durable op j) row delta)
      (fun _ g' => g' = if row.fundingSource = .wallet then g.pay ρ j row.userID (-delta) else g) g := by
    refine .ite (fun h0 => .pure ?_) fun _ => ?_
    · simp [h0, Phase.pay]
    · cases hsrc : row.fundingSource with
      | subscription => exact subscription_body _ _ _
      | wallet => exact user_body hu op j row.userID _
  refine .bind (hfund.mono ?_)
  rintro _ _ rfl
  refine .bind (.ite (fun _ => .pure hrest) fun _ => (token_body _ _ _).mono ?_)
  rintro _ _ rfl
  exact hrest

lemma outbox_body (event : EventID) (row : ℕ) :
    (settleRace ρ).Body (createOutbox event row)
      (fun _ g' => g' = if event = .quotaCache ρ.id then { g with key := true } else g) g := by
  refine createOutbox_body (fun s => ⟨g, goes_nothing g _ s⟩) fun s x hnone => ?_
  by_cases he : event = .quotaCache ρ.id
  · subst he
    exact ⟨_, .key _ _ _ _ hnone, (if_pos rfl).symm⟩
  · exact ⟨g, goes_aside (aside_of_table s _ (by simpa using he)), (if_neg he).symm⟩

lemma usage_body (row : BillingTransaction) (task : Task) (q : ℤ) :
    (settleRace ρ).Body (adjustTaskUsageTx row task q) (fun _ g' => g' = g) g := by
  refine adjustTaskUsageTx_body row task q (fun s => goes_nothing g _ s) (fun s x x' hx hledger => ?_) fun s v => ?_
  · refine goes_aside ⟨by simp, by simp, by simp, ?_⟩
    rw [hx]
    simp [moved, ledgerOf, hledger]
  · exact goes_aside (aside_of_table s _ (by simp))

variable {row : BillingTransaction}

lemma applyBoundTaskBilling_body {j : ℕ} (hj : j ≠ ρ.id) (hrow : row.taskDBID ≠ 0) (q : ℤ) :
    (settleRace ρ).Body (applyBoundTaskBilling j row q) (fun _ g' => g' = g) g := by
  refine Ledger.applyBoundTaskBilling_body (.read _ _) (fun task => usage_body row task q)
    (fun _ _ _ => body_updateRow (by simpa using hrow)) (fun _ _ => body_updateRow (by simpa using hj))
    (outbox_body (.taskBilling j) j) ((outbox_body (.quotaCache j) j).mono ?_)
  simp [hj]

lemma finishRow_body (hdoom : g.doom = true) (hwrote : g.wrote = .nothing) (z : ℤ) :
    (settleRace ρ).Body (updateRow (.billing ρ.id) (onRow (finishRow .refunded 0 z)))
      (fun _ g' => g'.key = g.key ∧ g'.paid = g.paid ∧ g'.doom = true ∧ g'.wrote ≠ .settle) g := by
  refine .row (fun s _ _ => ⟨g, goes_nothing g _ s, rfl, rfl, hdoom, ?_⟩) fun s v hs hv => ?_
  · rw [hwrote]
    decide
  · obtain ⟨⟨row, hrow, hshape⟩, -⟩ := hs
    obtain ⟨row', hrow', rfl⟩ : ∃ row', finishRow .refunded 0 z row = some row' ∧ some row' = v := by
      simpa [onRow, hrow] using hv
    unfold finishRow at hrow'
    split at hrow'
    · next happ =>
      cases hrow'
      have htarget := hshape.target (by rw [doomed, happ]; decide)
      refine ⟨_, .finish _ _ _ _ hwrote hdoom ?_ rfl, rfl, rfl, hdoom, by simp⟩
      exact { hshape with target := fun _ => htarget }
    · cases hrow'

lemma applyDurableTaskBilling_follows (hu : 0 < ρ.user) (j : ℕ) :
    (settleRace ρ).Follows (applyDurableTaskBilling j) (fun _ g => g = {}) {} := by
  refine .ofBody (R := fun _ g' => Goes ρ g' .commit {}) rfl (.start _) ?_ (fun g' _ => ⟨_, .rollback g', rfl⟩)
    fun _ g' hg' _ => ⟨_, hg', rfl⟩
  refine .bind (.select fun s hs => ?_)
  by_cases hj : j = ρ.id
  · -- the reservation itself: it is read as doomed, refunded in full and finished
    subst hj
    obtain ⟨⟨row, hrow, hshape⟩, -⟩ := hs
    rw [hrow]
    by_cases happ : row.state = .applying
    · have hdoomed : doomed row := by
        rw [doomed, happ]
        decide
      refine ⟨_, .readDoomed _ _ _ row rfl hrow hdoomed, .ite (fun h => absurd happ h) fun _ => ?_⟩
      refine adjustBoth_body hu .apply ρ.id row _ ?_
      simp only [hshape.source, hshape.user, hshape.target hdoomed, hshape.quota, hshape.unbound, Phase.pay,
        and_self, ne_eq, not_true_eq_false, if_false]
      refine .bind (.now fun z => .bind ((finishRow_body rfl rfl z).mono ?_))
      rintro _ g' ⟨hkey, hpaid, hdoom, hwrote⟩
      refine (outbox_body (.quotaCache ρ.id) ρ.id).mono ?_
      rintro _ _ rfl
      rw [if_pos rfl]
      exact .commitRefund _ rfl hwrote hdoom (hpaid.trans (by simp))
    · exact ⟨_, .read _ _ s, .ite (fun _ => .fail _) fun h => absurd happ (by exact h)⟩
  · refine ⟨_, .read _ _ s, ?_⟩
    split
    · exact .fail _
    next row _ =>
    refine .ite (fun _ => .fail _) fun _ => adjustBoth_body hu .apply j row _ ?_
    have hpay : (if row.fundingSource = .wallet then ({} : Phase).pay ρ j row.userID
        (-((if row.targetTaskStatus = .failure then 0 else row.finalQuota) - row.reservedQuota)) else {}) = {} := by
      simp [Phase.pay, hj]
    rw [hpay]
    refine .ite (fun _ => .ite (fun _ => .fail _) fun _ => ?_) fun hbound => ?_
    · refine .bind (.now fun z => .bind ?_)
      refine (body_updateRow (by simpa using hj)).mono ?_
      rintro _ _ rfl
      refine (outbox_body (.quotaCache j) j).mono ?_
      rintro _ _ rfl
      rw [if_neg (by simpa using hj)]
      exact .commitNothing _ rfl rfl rfl
    · refine (applyBoundTaskBilling_body hj hbound _).mono ?_
      rintro _ _ rfl
      exact .commitNothing _ rfl rfl rfl

/-- **The settlement follows the protocol**, if its update finds the row still reserved. -/
lemma settleDurableRequestBilling_follows (hu : 0 < ρ.user) {ses : BillingSession} {actual : ℤ}
    (hses : ses.durableTxID = ρ.id → ses.preConsumedQuota = ρ.quota ∧ actual = ρ.actual) :
    (settleRace ρ).Follows (settleDurableRequestBilling ses actual) (fun _ g => g = {}) {} := by
  refine .ofBody (R := fun _ g' => Goes ρ g' .commit {}) rfl (.start _) ?_ (fun g' _ => ⟨_, .rollback g', rfl⟩)
    fun _ g' hg' _ => ⟨_, hg', rfl⟩
  refine .bind (.select fun s hs => ⟨_, .read _ _ s, ?_⟩)
  split
  · exact .fail _
  next row hread =>
  refine .ite (fun _ => ?_) fun _ => ?_
  · exact .ite (fun _ => .pure (.commitNothing _ rfl rfl rfl)) fun _ => .fail _
  refine adjustBoth_body hu .settle ses.durableTxID row _ (.bind (.now fun z => ?_))
  by_cases hj : ses.durableTxID = ρ.id
  · obtain ⟨hpre, rfl⟩ := hses hj
    obtain ⟨⟨row₀, hrow₀, hshape₀⟩, -⟩ := hs
    obtain rfl : row₀ = row := Option.some.inj (hrow₀.symm.trans (hj ▸ hread))
    rw [hj, hpre]
    simp only [hshape₀.source, hshape₀.user, Phase.pay, and_self, zero_add, neg_sub]
    refine .bind (.row (fun s' hs' hnone => ?_) fun s' v hs' hv => ?_)
    · -- no row matched: then no money may have been moved
      refine ⟨_, goes_nothing _ _ s', .pure (.commitNothing _ rfl rfl ?_)⟩
      by_contra hne
      have hdelta : ρ.actual - ρ.quota ≠ 0 := fun h0 => hne (by change ρ.quota - ρ.actual = 0; omega)
      obtain ⟨r, hr, hres⟩ := map_eq_some_iff.1 (hs'.2 rfl hdelta)
      simp [hr, onRow, settleRow, hres] at hnone
    · obtain ⟨⟨r, hr, hshape⟩, -⟩ := hs'
      obtain ⟨r', hr', rfl⟩ : ∃ r', settleRow ρ.actual z r = some r' ∧ some r' = v := by simpa [onRow, hr] using hv
      unfold settleRow at hr'
      split at hr'
      · next hres =>
        cases hr'
        refine ⟨_, .settle _ _ _ r _ rfl hr hres ?_ rfl, .pure (.commitSettle _ rfl rfl rfl)⟩
        exact { hshape with target := fun hd => absurd rfl hd.2 }
      · cases hr'
  · have hpay : (if row.fundingSource = .wallet then
        ({} : Phase).pay ρ ses.durableTxID row.userID (-(actual - ses.preConsumedQuota)) else {}) = {} := by
      simp [Phase.pay, hj]
    rw [hpay]
    refine .bind (.row (fun s' _ _ => ⟨_, goes_nothing _ _ s', .pure ?_⟩)
      fun s' v _ _ => ⟨_, goes_aside (aside_of_table s' v (by simpa using hj)), .pure ?_⟩)
    all_goals exact .commitNothing _ rfl rfl rfl

/-! ### Statements outside transactions -/

variable {row row' : BillingTransaction}

lemma dooms_of (hshape : Shape ρ row) (hstate : row.state ≠ .settled ∧ row.state ≠ .refunded)
    (hsame : row'.fundingSource = row.fundingSource ∧ row'.userID = row.userID ∧
      row'.reservedQuota = row.reservedQuota ∧ row'.taskDBID = row.taskDBID)
    (hstate' : doomed row' ∧ row'.state ≠ .refunded) (htarget : row'.targetTaskStatus = .failure) : Dooms ρ row row' := by
  obtain ⟨h₁, h₂, h₃, h₄⟩ := hsame
  refine ⟨hstate.1, hstate.2, hstate'.1, hstate'.2, ?_⟩
  exact ⟨h₁.trans hshape.source, h₂.trans hshape.user, h₃.trans hshape.quota, h₄.trans hshape.unbound, fun _ => htarget⟩

lemma doomed_of_due {now : ℤ} (h : row.isDue now = true) :
    row.state = .settlePending ∨ row.state = .refundPending ∨ row.state = .applying := by
  simp only [BillingTransaction.isDue, decide_eq_true_eq] at h
  tauto

lemma marks_dooms (hshape : Shape ρ row) (h : Marks (· ≠ 0) row row') :
    Dooms ρ row row' := by
  cases h with
  | claim h =>
    obtain ⟨hdue, ⟨⟩⟩ := ite_none_right_eq_some.1 h
    have hstate := doomed_of_due hdue.2
    refine dooms_of hshape ?_ ⟨rfl, rfl, rfl, rfl⟩ (by simp [doomed]) (hshape.target ?_)
    all_goals rcases hstate with hs | hs | hs <;> simp [doomed, hs]
  | release hp h =>
    obtain ⟨happ, ⟨⟩⟩ := ite_none_right_eq_some.1 h
    refine dooms_of hshape (by simp [happ]) ⟨rfl, rfl, rfl, rfl⟩ ?_ (hshape.target (by simp [doomed, happ]))
    simp only [doomed]
    split
    · simp
    · rcases hp with rfl | rfl <;> simp
  | markStale h =>
    obtain ⟨hres, ⟨⟩⟩ := ite_none_right_eq_some.1 h
    exact dooms_of hshape (by simp [hres.2.1]) ⟨rfl, rfl, rfl, rfl⟩ (by simp [doomed]) rfl
  | repair hid h => simp [repairRow, hshape.unbound, Ne.symm hid] at h
  | refund h =>
    obtain ⟨hres, ⟨⟩⟩ := ite_none_right_eq_some.1 h
    exact dooms_of hshape (by simp [hres.2]) ⟨rfl, rfl, rfl, rfl⟩ (by simp [doomed]) rfl

lemma coordinates (hu : 0 < ρ.user) : Coordinates (settleRace ρ) (· ≠ 0) where
  read _ := .read _ _ _
  log _ := .emit _ _
  tasks s id task hs htask := by
    rintro rfl
    rw [hs.2] at htask
    cases htask
  mark s ws hs hws := by
    refine .auto _ _ _ _ fun k v hkv => ?_
    obtain ⟨row, hrow, hshape⟩ := hs
    obtain ⟨j, r, row', hr, hmark, heq⟩ := hws _ hkv
    obtain ⟨rfl, hv⟩ := Sigma.mk.inj heq
    obtain rfl := eq_of_heq hv
    by_cases hj : j = ρ.id
    · subst hj
      obtain rfl : row = r := Option.some.inj (hrow.symm.trans hr)
      exact .inr ⟨row, row', hrow, rfl, marks_dooms hshape hmark⟩
    · exact .inl (aside_of_table s _ (by simpa using hj))
  apply := applyDurableTaskBilling_follows hu

end code

/-! ### All interleavings -/

/-- The programs of the clients; the session settles at the actual amount. -/
inductive Client (ρ : Reservation) : Prog schema Unit → Prop
  | settle (ses : BillingSession) (actual : ℤ)
      (h : ses.durableTxID = ρ.id → ses.preConsumedQuota = ρ.quota ∧ actual = ρ.actual) :
      Client ρ (discard (settleDurableRequestBilling ses actual))
  | refund (owner : String) (ses : BillingSession) : Client ρ (discard (refundDurableRequestBilling owner ses))
  | sweep (before : ℤ) : Client ρ (discard (markStaleUnboundBillingRefundPending before))
  | pass (owner : String) (limit : ℕ) : Client ρ (discard (processDurableBillingOnce owner limit))
  | apply (id : ℕ) : Client ρ (discard (applyDurableTaskBilling id))

lemma Client.follows {ρ : Reservation} (hu : 0 < ρ.user) {p : Prog schema Unit} (h : Client ρ p) :
    (settleRace ρ).Follows p (fun _ g => (settleRace ρ).stops g) (settleRace ρ).idle := by
  cases h with
  | settle ses actual hses => exact .discard (settleDurableRequestBilling_follows hu hses)
  | refund owner ses => exact .discard (refundDurableRequestBilling_stays (coordinates hu) owner ses)
  | sweep before => exact .discard (markStaleUnboundBillingRefundPending_stays (coordinates hu) before)
  | pass owner limit => exact .discard (processDurableBillingOnce_stays (coordinates hu) owner limit)
  | apply id => exact .discard (applyDurableTaskBilling_follows hu id)

/-- A database that holds the reservation: its row is reserved, and its quota has been taken from the wallet. -/
structure Reserved (ρ : Reservation) (r : Snap schema) : Prop where
  row : ∃ row, r (.billing ρ.id) = some row ∧ Shape ρ row ∧ row.state = .reserved
  user : 0 < ρ.user
  wallet : contribution ρ.id (userLedger r ρ.user) = -ρ.quota
  outbox : r ρ.outbox = none
  task : r (.task 0) = none

structure SettledOrRefunded (ρ : Reservation) (s : Snap schema) : Prop where
  settled : ∀ row, s (.billing ρ.id) = some row → row.state = .settled →
    contribution ρ.id (userLedger s ρ.user) = -ρ.actual
  refunded : ∀ row, s (.billing ρ.id) = some row → row.state = .refunded →
    contribution ρ.id (userLedger s ρ.user) = 0
  pending : ∀ row, s (.billing ρ.id) = some row → row.state ≠ .settled → row.state ≠ .refunded →
    contribution ρ.id (userLedger s ρ.user) = -ρ.quota ∨ contribution ρ.id (userLedger s ρ.user) = 0

lemma not_settledOrRefunded {ρ : Reservation} {s : Snap schema}
    (hstate : (s (.billing ρ.id)).map BillingTransaction.state = some .refunded)
    (hne : contribution ρ.id (userLedger s ρ.user) ≠ 0) : ¬SettledOrRefunded ρ s := by
  intro h
  obtain ⟨row, hrow, hrefunded⟩ := map_eq_some_iff.1 hstate
  exact hne (h.refunded row hrow hrefunded)

lemma moved_eq (ρ : Reservation) (s : Snap schema) :
    moved ρ (.user ρ.user) (s (.user ρ.user)) = contribution ρ.id (userLedger s ρ.user) := by
  simp [moved, ledgerOf, userLedger]

/-- **Settled or refunded.** A settled reservation has cost the actual amount and a refunded one nothing. -/
theorem settled_or_refunded {T : Type} [DecidableEq T] (ρ : Reservation) (r : Snap schema) (z : ℤ) (hr : Reserved ρ r)
    (acts : List (Act schema T)) (σ : Sys schema T)
    (hok : Along Sys.step (fun σ a => σ.Performs (fun _ _ m => InTime ρ m) a ∧ σ.Calls (fun _ p => Client ρ p) a)
      (Sys.rest r z) acts)
    (hrun : runs Sys.step (Sys.rest r z) acts = some σ) : SettledOrRefunded ρ σ.db.rows := by
  obtain ⟨row, hrow, hshape, hres⟩ := hr.row
  have hinit : Inv ρ (.rest r z : Db schema T) fun _ => {} := by
    have hfresh : ¬r ρ.outbox ≠ none := fun h => h hr.outbox
    refine ⟨?_, .rest r z, ⟨hr.task, rfl⟩, ⟨row, hrow, hshape, ?_, fun t ht => ?_, fun t v hv => ?_⟩, fun t ht => ?_⟩
    · have hidle : Phase.posted ρ ∘ (fun _ : T => ({} : Phase)) = fun _ => 0 := funext fun _ => posted_idle
      rw [hidle]
      exact .rest r z
    · refine ⟨fun h => absurd h hfresh, fun _ hs => ?_, fun _ _ => ?_, fun _ => ?_⟩
      · rw [hres] at hs
        cases hs
      · exact (moved_eq ρ r).trans hr.wallet
      · rw [hres]
        decide
    · cases ht
    · cases hv
    · exact absurd rfl ht
  obtain ⟨γ, hinv⟩ := Protocol.run_inv (settleRace_keeps ρ) (fun _ _ hp => hp.follows hr.user) hinit hok hrun
  obtain ⟨row', hrow', -, hmeaning, -, -⟩ := hinv.row
  rw [moved_eq] at hmeaning
  refine ⟨fun x hx hs => ?_, fun x hx hs => ?_, fun x hx hs hf => ?_⟩
  all_goals obtain rfl : row' = x := Option.some.inj (hrow'.symm.trans hx)
  · by_cases happ : σ.db.rows ρ.outbox ≠ none
    · exact absurd hs (hmeaning.zero happ).2.2
    · exact hmeaning.settled happ hs
  · by_cases happ : σ.db.rows ρ.outbox ≠ none
    · exact (hmeaning.zero happ).1
    · exact absurd hs (hmeaning.refunded happ)
  · by_cases happ : σ.db.rows ρ.outbox ≠ none
    · exact .inr (hmeaning.zero happ).1
    · exact .inl (hmeaning.other happ hs)

/-! ### A settlement and a sweep -/

def staleReservation : Snap schema
  | .user u => if u = 1 then some { quota := 900, ledger := [⟨.durable .reserve 1, -100⟩] } else none
  | .token n => if n = 1 then some { remainQuota := 900, ledger := [⟨.durable .reserve 1, -100⟩] } else none
  | .billing n =>
    if n = 1 then
      some { businessKey := "request:r", userID := 1, tokenID := 1, skipTokenQuota := false, fundingSource := .wallet,
             reservedQuota := 100, finalQuota := 100, state := .reserved, updatedAt := 0 }
    else none
  | .billingSeq => (2 : ℕ)
  | k => noRows k

def usedReservation : Reservation := ⟨1, 1, 100, 60⟩

lemma staleReservation_reserved : Reserved usedReservation staleReservation := by
  refine ⟨⟨_, rfl, ⟨rfl, rfl, rfl, rfl, fun h => absurd rfl h.1⟩, rfl⟩, by decide, by decide, rfl, rfl⟩

def settling : Act schema Bool :=
  .call false (discard (settleDurableRequestBilling
    { relayInfo := { requestId := "r", userId := 1, tokenId := 1 }, funding := .wallet 1 100, preConsumedQuota := 100,
      durableTxID := 1 } 60))

def passing : Act schema Bool := .call true (discard (processDurableBillingOnce "a" 0))

lemma clients_of_mem {acts : List (Act schema Bool)}
    (h : ∀ a ∈ acts, a = settling ∨ a = passing ∨ ∃ t, a = .step t) (σ : Sys schema Bool) :
    Along step (Sys.Calls fun _ p => Client usedReservation p) σ acts := by
  refine .of_forall (fun σ a ha => ?_) σ
  rcases h a ha with rfl | rfl | ⟨t, rfl⟩
  · exact .settle _ _ fun _ => ⟨rfl, rfl⟩
  · exact .pass _ _
  · trivial

def settledFirst : List (Act schema Bool) :=
  settling :: (List.replicate 8 (.step false) ++ passing :: List.replicate 7 (.step true))

lemma settledFirst_runs : (runs step (rest staleReservation 10000) settledFirst).isSome := by decide +kernel

theorem settled_or_refunded_settledFirst :
    ∃ σ, runs Sys.step (Sys.rest staleReservation 10000) settledFirst = some σ ∧
      ((σ.db.rows (.billing 1)).map BillingTransaction.state) = some .settled ∧
      SettledOrRefunded usedReservation σ.db.rows := by
  have hrun := (some_get settledFirst_runs).symm
  have hin : Along step (Sys.Performs fun _ _ m => InTime usedReservation m) (.rest staleReservation 10000)
      settledFirst := by decide +kernel
  have hcalls : Along step (Sys.Calls fun _ p => Client usedReservation p) (.rest staleReservation 10000)
      settledFirst := clients_of_mem (by simp [settledFirst]) _
  exact ⟨_, hrun, by decide +kernel, settled_or_refunded usedReservation staleReservation 10000
    staleReservation_reserved settledFirst _ (hin.and hcalls) hrun⟩

/-- The settlement has moved the money; before it updates the row, the sweep takes the row for a refund. -/
def sweptSettlement : List (Act schema Bool) :=
  settling :: (List.replicate 6 (.step false) ++ passing :: (List.replicate 3 (.step true) ++
    (List.replicate 2 (.step false) ++ List.replicate 16 (.step true))))

lemma sweptSettlement_runs : (runs step (rest staleReservation 10000) sweptSettlement).isSome := by
  decide +kernel

/-- **Settled and refunded.** The user has gained 40 by the reservation. -/
theorem sweptSettlement_not_settledOrRefunded :
    Reserved usedReservation staleReservation ∧
    Along Sys.step (Sys.Calls fun _ p => Client usedReservation p) (Sys.rest staleReservation 10000) sweptSettlement ∧
    ∃ σ, runs Sys.step (Sys.rest staleReservation 10000) sweptSettlement = some σ ∧
      (∀ t, (σ.pc t).done) ∧ ((σ.db.rows (.billing 1)).map BillingTransaction.state) = some .refunded ∧
      contribution 1 (userLedger σ.db.rows 1) = 40 ∧ ¬SettledOrRefunded usedReservation σ.db.rows := by
  refine ⟨staleReservation_reserved, clients_of_mem (by simp [sweptSettlement]) _, _,
    (some_get sweptSettlement_runs).symm, by decide +kernel, by decide +kernel, by decide +kernel, ?_⟩
  exact not_settledOrRefunded (by decide +kernel) (by decide +kernel)

end StarNexus.Ledger.SettleRace
