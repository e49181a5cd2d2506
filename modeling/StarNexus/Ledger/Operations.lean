import StarNexus.Ledger.Conserved

/-!
# The durable operations keep the books

Each function of durable billing, run as a transaction of its own, keeps `Good`.  The one exception is
`createTaskBillingIntent` for a failed task whose reservation was already settled at another amount; see `IntentOk`.
-/

namespace StarNexus.Ledger

open Lib Lib.Tx Model Service BillingSession Option
open Function (update update_idem update_of_ne update_self)

variable {base : Base} {sess sess' : ℕ → Option BillingSession} {s w : Snap schema}

/-! ### Operations that move money -/

variable {id : ℕ} {row : BillingTransaction} {α : Type}

/-- The books, where the row `id` holds `q` and the others what they hold in `s`. -/
abbrev BooksWith (base : Base) (acct : ℕ → Option BillingTransaction) (s : Snap schema) (id : ℕ) (q : ℤ) :
    Snap schema → Prop :=
  Books base acct (update (heldIn s) id q) (update (heldIn s) id q)

lemma ensures_adjustBoth (h : Conserved base s)
    (hrow : s (.billing id) = some row) (op : DurableOp) (delta : ℤ) {rest : Model.Tx α} {Q : α → Snap schema → Prop}
    (hrest : ∀ w, SameRows s w →
      BooksWith base (fun i => s (.billing i)) s id (heldOf row + delta) w → Ensures rest w Q) :
    Ensures (do
      adjustDurableFundingTx (fun _ => .durable op id) row delta
      adjustDurableTokenTx (fun _ => .durable op id) row delta
      rest) s Q := by
  have hheld : heldIn s id = heldOf row := by simp [heldIn, hrow]
  refine .bind ((adjustDurableFundingTx_books h.books hrow rfl delta).mono ?_)
  rintro _ w₁ ⟨hb₁, hr₁⟩
  refine .bind ((adjustDurableTokenTx_books hb₁ hrow rfl delta).mono ?_)
  rintro _ w₂ ⟨hb₂, hr₂⟩
  rw [hheld] at hb₂
  exact hrest w₂ (hr₁.trans hr₂) hb₂

variable {row row' : BillingTransaction}

lemma Good.writeRow (h : Good base sess s) (hrows : SameRows s w)
    (hrow : s (.billing id) = some row) (hown : SameOwner row row')
    (hbooks : BooksWith base (fun i => s (.billing i)) s id (heldOf row') w)
    (hsess : ∀ i, i ≠ id → sess' i = sess i)
    (hid : ∀ ses, sess' id = some ses → ses.durableTxID = id ∧
      (row'.state = .reserved → ses.preConsumedQuota = row'.reservedQuota)) :
    Good base sess' (update w (.billing id) (some row')) := by
  have hlt : id < (s .billingSeq : ℕ) := by
    by_contra hge
    rw [h.conserved.fresh id (Nat.le_of_not_lt hge)] at hrow
    cases hrow
  have hseq : (update w (.billing id) (some row') : Snap schema) .billingSeq = s .billingSeq := hrows.2
  have hacct : (fun i => s (.billing i)) = fun i => w (.billing i) := funext fun i => (hrows.1 i).symm
  refine ⟨⟨?_, fun i hi => ?_⟩, fun i ses hi => ?_, fun i ses hi => ?_, fun i ses r hi hr hres => ?_⟩
  · exact hbooks.writeRow hacct hrow hown (fun i _ => (hrows.1 i).symm) rfl rfl
  · rw [hseq] at hi
    have hne : i ≠ id := fun he => absurd hlt (Nat.not_lt.2 (he ▸ hi))
    simpa [hne, hrows.1 i] using h.conserved.fresh i hi
  · by_cases hii : i = id
    · subst hii
      exact (hid ses hi).1
    · exact h.synced.id i ses (hsess i hii ▸ hi)
  · rw [hseq]
    by_cases hii : i = id
    · exact hii ▸ hlt
    · exact h.synced.bound i ses (hsess i hii ▸ hi)
  · by_cases hii : i = id
    · subst hii
      simp only [update_self, Option.some.injEq] at hr
      subst hr
      exact (hid ses hi).2 hres
    · have hr' : s (.billing i) = some r := by simpa [hii, hrows.1 i] using hr
      exact h.synced.amount i ses r (hsess i hii ▸ hi) hr' hres

variable {ses : BillingSession}

lemma settleDurableRequestBilling_keeps (hses : sess id = some ses) (actual : ℤ) :
    Keeps (settleDurableRequestBilling ses actual) (Good base sess) := by
  refine .transaction fun r hr => .bind (.select ?_)
  obtain rfl : ses.durableTxID = id := hr.synced.id id ses hses
  split
  · exact .fail _
  next row hrow =>
  refine .ite (fun _ => ?_) fun hstate => ?_
  · exact .ite (fun _ => .pure hr) fun _ => .fail _
  have hres : row.state = .reserved := by simpa using hstate
  have hpre := hr.synced.amount _ ses row hses hrow hres
  refine ensures_adjustBoth hr.conserved hrow .settle _ fun w hrows hbooks => .bind (.now fun z => ?_)
  have hw : w (.billing ses.durableTxID) = some row := (hrows.1 _).trans hrow
  refine .bind (.row_of (onRow_eq_some.2 ⟨row, _, hw, if_pos hres, rfl⟩) ?_)
  have hheld : heldOf row + (actual - ses.preConsumedQuota) = actual := by
    simp only [heldOf, hres, hpre]
    ring
  rw [hheld] at hbooks
  refine .pure (hr.writeRow hrows hrow ⟨rfl, rfl, rfl, rfl⟩ hbooks (fun _ _ => rfl) fun ses' h' => ?_)
  obtain rfl : ses = ses' := by simpa [hses] using h'
  exact ⟨rfl, nofun⟩

lemma hold_id (ses : BillingSession) (target : ℤ) : (ses.hold target).durableTxID = ses.durableTxID := by
  unfold hold syncRelayInfo
  split <;> rfl

lemma hold_amount (ses : BillingSession) (target : ℤ) : (ses.hold target).preConsumedQuota = target := by
  unfold hold syncRelayInfo
  split <;> rfl

lemma adjustDurableReservation_yields (hs : Good base sess s)
    (hses : sess id = some ses) (target : ℤ) :
    Yields (adjustDurableReservation ses target) s (Good base sess) fun _ s' =>
      Good base (update sess id (some (ses.hold target))) s' := by
  obtain rfl : ses.durableTxID = id := hs.synced.id id ses hses
  refine .transaction hs (.bind (.select ?_))
  split
  · exact .fail _
  next row hrow =>
  refine .guard fun hstate => ?_
  have hres : row.state = .reserved := by simpa using hstate
  have hpre := hs.synced.amount _ ses row hses hrow hres
  refine ensures_adjustBoth hs.conserved hrow .adjust _ fun w hrows hbooks => .bind (.now fun z => ?_)
  have hw : w (.billing ses.durableTxID) = some row := (hrows.1 _).trans hrow
  refine .bind (.row_of (onRow_eq_some.2 ⟨row, _, hw, rfl, rfl⟩) ?_)
  have hheld : heldOf row + (target - ses.preConsumedQuota) =
      heldOf { row with reservedQuota := target, finalQuota := target, updatedAt := z } := by
    simp only [heldOf, hres, hpre]
    ring
  rw [hheld] at hbooks
  refine .pure (hs.writeRow hrows hrow ⟨rfl, rfl, rfl, rfl⟩ hbooks (fun i hi => ?_) fun ses' h' => ?_)
  · exact update_of_ne hi _ _
  · simp only [update_self, Option.some.injEq] at h'
    subst h'
    exact ⟨hold_id ses target, fun _ => hold_amount ses target⟩

lemma applyDurableTaskBilling_keeps (id : ℕ) : Keeps (applyDurableTaskBilling id) (Good base sess) := by
  refine .transaction fun r hr => applyDurableTaskBillingTx_rule (I := fun row w => r (.billing id) = some row ∧ SameRows r w ∧
    BooksWith base (fun i => r (.billing i)) r id (charged row) w) (fun row rest hrow happ hrest => ?_)
    (fun row w hw => (hw.2.1.1 id).trans hw.1) (fun row w w' hw hs => ?_) (fun row w z happ hw => ?_)
    fun w w' hw hs => hw.quiet hs.toSameBooks.quiet
  · refine ensures_adjustBoth hr.conserved hrow .apply _ fun w hrows hbooks => hrest w ⟨hrow, hrows, ?_⟩
    have hheld : heldOf row + (charged row - row.reservedQuota) = charged row := by
      simp only [heldOf, happ]
      ring
    rwa [hheld] at hbooks
  · exact ⟨hw.1, hw.2.1.trans ⟨hs.billing, hs.seq⟩, hw.2.2.transfer hs.user hs.token⟩
  · have hfinal : heldOf (finished row (charged row) z) = charged row ∧ (finished row (charged row) z).state ≠ .reserved := by
      by_cases htarget : row.targetTaskStatus = .failure <;> simp [heldOf, finished, finalState, charged, htarget]
    refine hr.writeRow hw.2.1 hw.1 ⟨rfl, rfl, rfl, rfl⟩ (hfinal.1.symm ▸ hw.2.2) (fun _ _ => rfl) fun ses' h' => ⟨?_, fun hc => ?_⟩
    · exact hr.synced.id id ses' h'
    · exact absurd hc hfinal.2

/-! ### Reservations -/

lemma Conserved.openAccount (h : Conserved base s) (row : BillingTransaction) :
    BooksWith base (update (fun i => s (.billing i)) (s .billingSeq) (some row)) s (s .billingSeq) 0 s := by
  have hnone := h.fresh (s .billingSeq) (Nat.le_refl _)
  refine h.books.congr (fun i u _ => ?_) fun i n _ => ?_
  · by_cases hi : i = (s .billingSeq : ℕ)
    · rw [hi, hnone]
      simp [walletShare]
    · simp [hi]
  · by_cases hi : i = (s .billingSeq : ℕ)
    · rw [hi, hnone]
      simp [tokenShare]
    · simp [hi]

lemma Good.insertRow (h : Good base sess s) (hrows : SameRows s w)
    (hown : SameOwner row row') (hheld : heldOf row' = row'.reservedQuota)
    (hbooks : BooksWith base (update (fun i => s (.billing i)) (s .billingSeq) (some row)) s (s .billingSeq) row'.reservedQuota w)
    (hid : ses.durableTxID = s .billingSeq) (hpre : ses.preConsumedQuota = row'.reservedQuota) :
    Good base (update sess (s .billingSeq) (some ses))
      (w.put [⟨.billing (w .billingSeq), some row'⟩, ⟨.billingSeq, (w .billingSeq + 1 : ℕ)⟩]) := by
  obtain ⟨n, hn⟩ : ∃ n : ℕ, s .billingSeq = n := ⟨_, rfl⟩
  have hwn : w .billingSeq = n := hrows.2.trans hn
  rw [hwn]
  rw [hn] at hbooks hid ⊢
  have hnew : ∀ i, (w.put [⟨.billing n, some row'⟩, ⟨.billingSeq, (n + 1 : ℕ)⟩]) (.billing i) =
      if i = n then some row' else s (.billing i) := by
    intro i
    by_cases hi : i = n
    · subst hi
      simp [Snap.put]
    · simp [Snap.put, hi, hrows.1 i]
  have hseq : (w.put [⟨.billing n, some row'⟩, ⟨.billingSeq, (n + 1 : ℕ)⟩]) .billingSeq = (n + 1 : ℕ) := rfl
  have hfresh : ∀ i, n ≤ i → s (.billing i) = none := fun i hi => h.conserved.fresh i (hn ▸ hi)
  refine ⟨⟨?_, fun i hi => ?_⟩, fun i ses' hi => ?_, fun i ses' hi => ?_, fun i ses' r hi hr hres => ?_⟩
  · have hmoved : Books base _ _ _ (w.put [⟨.billing n, some row'⟩, ⟨.billingSeq, (n + 1 : ℕ)⟩]) :=
      hbooks.transfer (fun _ => rfl) fun _ => rfl
    refine hmoved.congr (fun i u _ => ?_) fun i m _ => ?_
    all_goals
      rw [heldIn, hnew i]
      by_cases hi : i = n
      · subst hi
        simp only [if_true, update_self, map_some, hheld]
        first
          | exact hown.walletShare u _
          | exact hown.tokenShare m _
      · simp [hi, heldIn]
  · have hi' : n + 1 ≤ i := hi
    rw [hnew i, if_neg (by omega)]
    exact hfresh i (by omega)
  · by_cases hii : i = n
    · subst hii
      simp only [update_self, Option.some.injEq] at hi
      exact hi ▸ hid
    · exact h.synced.id i ses' (by simpa [hii] using hi)
  · rw [hseq]
    by_cases hii : i = n
    · omega
    · have hlt : i < (s .billingSeq : ℕ) := h.synced.bound i ses' (by simpa [hii] using hi)
      rw [hn] at hlt
      omega
  · rw [hnew i] at hr
    by_cases hii : i = n
    · subst hii
      simp only [update_self, Option.some.injEq, if_true] at hi hr
      rw [← hi, ← hr, hpre]
    · rw [if_neg hii] at hr
      exact h.synced.amount i ses' r (by simpa [hii] using hi) hr hres

lemma createReserved_ensures (h : Good base sess s) (hrows : SameRows s w)
    (hres : row.state = .reserved)
    (hbooks : BooksWith base (update (fun i => s (.billing i)) (s .billingSeq) (some row)) s (s .billingSeq) row.reservedQuota w) :
    Ensures (createReservedBillingTransactionTx row) w fun id w' =>
      ∀ ses : BillingSession, ses.durableTxID = id → ses.preConsumedQuota = row.reservedQuota →
        Good base (update sess id (some ses)) w' := by
  refine (createReservedBillingTransactionTx_writes row w).mono ?_
  rintro _ _ ⟨rfl, z, rfl⟩ ses hid hpre
  have hseq : w .billingSeq = s .billingSeq := hrows.2
  have hown : SameOwner row { row with updatedAt := z, version := 1 } := ⟨rfl, rfl, rfl, rfl⟩
  have hgood := h.insertRow hrows hown (by simp [heldOf, hres]) hbooks (hid.trans hseq) hpre
  rw [← hseq] at hgood
  exact hgood

/-- What a successful call of one of the two reservations leaves: a row held by the session it returns. -/
def Reserves (base : Base) (sess : ℕ → Option BillingSession) (ses : BillingSession) (s : Snap schema) : Prop :=
  Good base (update sess ses.durableTxID (some ses)) s

section

variable (info : RelayInfo) (id : ℕ) (quota : ℤ) (funding : Funding)

lemma durableSessionFromRow_id : (durableSessionFromRow info id quota funding).durableTxID = id := by
  cases funding <;> rfl

lemma durableSessionFromRow_amount : (durableSessionFromRow info id quota funding).preConsumedQuota = quota := by
  cases funding <;> rfl

end

variable {quota : ℤ}

lemma reserveWalletAndTokenTx_eq (info : RelayInfo) (key : String) (hq : 0 < quota) (why : Why) :
    reserveWalletAndTokenTx why info.userId info.tokenId quota info.isPlayground =
      (do adjustDurableFundingTx why (reservedRow info key quota .wallet 0) quota
          adjustDurableTokenTx why (reservedRow info key quota .wallet 0) quota) := by
  have h0 : quota ≠ 0 := by omega
  have hle : ¬quota ≤ 0 := by omega
  simp only [reserveWalletAndTokenTx, adjustDurableFundingTx, if_neg h0, if_neg hle]
  rfl

lemma tryDurableWallet_yields (hs : Good base sess s) (info : RelayInfo) (key : String) (hq : 0 < quota) :
    Yields (tryDurableWallet info key quota) s (Good base sess) (Reserves base sess) := by
  have hopen := hs.conserved.openAccount (reservedRow info key quota .wallet 0)
  have hself : ∀ v : ℤ, update (heldIn s) (s .billingSeq) v (s .billingSeq) = v :=
    fun v => update_self _ _ _
  refine .bind (.transaction hs (.bind ?_))
  rw [reserveWalletAndTokenTx_eq info key hq]
  refine .bind ((adjustDurableFundingTx_books hopen (update_self _ _ _) rfl quota).mono ?_)
  rintro _ w₁ ⟨hb₁, hr₁⟩
  have hwhy : reserveCause w₁ = .durable .reserve (s .billingSeq) := by rw [reserveCause, hr₁.2]
  refine (adjustDurableTokenTx_books hb₁ (update_self _ _ _) hwhy quota).mono ?_
  rintro _ w₂ ⟨hb₂, hr₂⟩
  rw [hself, update_idem, zero_add] at hb₂
  have hrows : SameRows s w₂ := (hr₁.trans hr₂)
  refine (createReserved_ensures hs hrows rfl hb₂).mono fun id w' hgood => .pure ?_
  have hres := hgood _ (durableSessionFromRow_id info id quota (.wallet info.userId quota))
    (durableSessionFromRow_amount info id quota _)
  rwa [Reserves]

lemma tryDurableSubscription_yields (hs : Good base sess s) (reset : ResetRule) (info : RelayInfo) (key req : String)
    (quota : ℤ) :
    Yields (tryDurableSubscription reset info key req quota) s (Good base sess) (Reserves base sess) := by
  have hself : ∀ v : ℤ, update (heldIn s) (s .billingSeq) v (s .billingSeq) = v :=
    fun v => update_self _ _ _
  refine .bind (.transaction hs (.bind (.bind ?_)))
  refine (preConsumeUserSubscriptionTx_sameBooks reset _ req _ quota s).mono fun result w₁ h₁ => ?_
  have hopen := (hs.conserved.openAccount
    (reservedRow info key quota .subscription result.userSubscriptionId)).transfer h₁.user h₁.token
  have hwhy : reserveCause w₁ = .durable .reserve (s .billingSeq) := by rw [reserveCause, h₁.seq]
  refine .bind ((adjustDurableTokenTx_books hopen (update_self _ _ _) hwhy quota).mono ?_)
  rintro _ w₂ ⟨hb₂, hr₂⟩
  rw [hself, update_idem, zero_add] at hb₂
  have hrows : SameRows s w₂ := ⟨fun i => (hr₂.1 i).trans (h₁.billing i), hr₂.2.trans h₁.seq⟩
  -- a subscription row draws on no wallet, so what it holds of one does not matter
  have hb : BooksWith base (update (fun i => s (.billing i)) (s .billingSeq)
        (some (reservedRow info key quota .subscription result.userSubscriptionId))) s (s .billingSeq) quota w₂ := by
    refine hb₂.congr (fun i u _ => ?_) fun _ _ _ => rfl
    by_cases hi : i = (s .billingSeq : ℕ)
    · subst hi
      simp [walletShare, reservedRow]
    · simp [hi]
  refine .pure (.bind ((createReserved_ensures hs hrows rfl hb).mono fun id w' hgood => ?_))
  refine .pure (.pure ?_)
  have hres := hgood _ (durableSessionFromRow_id info id quota
    (.subscription req info.userId quota result.userSubscriptionId result.preConsumed))
    (durableSessionFromRow_amount info id quota _)
  rwa [Reserves]

lemma orElse_yields {a b : Model.Tx α} {E : Snap schema → Prop} {Q : α → Snap schema → Prop}
    (ha : Yields a s E Q) (hb : ∀ s', E s' → Yields b s' E Q) : Yields (orElse a b) s E Q := by
  exact .bind (.attempt (ha.mono (fun s' hs' _ => hb s' hs') fun _ _ hq => .pure hq))

lemma newDurableBillingSession_yields (hs : Good base sess s) (reset : ResetRule) (info : RelayInfo)
    (key req : String) (hq : 0 < quota) (preference : BillingPreference) :
    Yields (newDurableBillingSession reset info key req quota preference) s (Good base sess) (Reserves base sess) := by
  have hwallet := fun s' (h' : Good base sess s') => tryDurableWallet_yields h' info key hq
  have hsub := fun s' (h' : Good base sess s') => tryDurableSubscription_yields h' reset info key req quota
  cases preference with
  | walletOnly => exact hwallet s hs
  | subscriptionOnly => exact hsub s hs
  | walletFirst => exact orElse_yields (hwallet s hs) hsub
  | subscriptionFirst =>
    have hkeeps : Keeps (hasActiveUserSubscription info.userId) (Good base sess) :=
      .ite (fun _ => .fail _) fun _ => .bind .now fun _ => .select _ _
    refine hkeeps.thenYields hs fun hasSub r' hr' => ?_
    split
    · exact orElse_yields (hsub r' hr') hwallet
    · exact orElse_yields (hwallet r' hr') hsub

/-! ### Operations that only relabel rows -/

variable {f : BillingTransaction → Option BillingTransaction}

lemma autoRow_keeps
    (hf : ∀ row row', f row = some row' → Relabel row row') :
    Keeps (autoRow (.billing id) (onRow f)) (Good base sess) := by
  refine .execAuto fun r hr => hr.quiet ((Quiet.refl r).put fun x hx => ?_)
  obtain ⟨v, hv, rfl⟩ := mem_rowWrite.1 hx
  obtain ⟨row, row', hrow, hrow', rfl⟩ := onRow_eq_some.1 hv
  exact ⟨id, row, row', rfl, hrow, hf row row' hrow'⟩

lemma selectBilling_put_quiet (r : Snap schema)
    (hf : ∀ row row', f row = some row' → Relabel row row') :
    Quiet r (r.put ((selectBilling r fun row => (f row).isSome).map fun x => ⟨.billing x.1, f x.2⟩)) := by
  refine (Quiet.refl r).put fun x hx => ?_
  obtain ⟨i, row, row', rfl, hrow, hrow'⟩ := mem_billingWrites hx
  exact ⟨i, row, row', rfl, hrow, hf row row' hrow'⟩

lemma claim_relabel {version : ℕ} {owner : String} {lease now : ℤ}
    (h : row.claim version owner lease now = some row') : Relabel row row' := by
  obtain ⟨⟨-, hdue⟩, ⟨⟩⟩ := ite_none_right_eq_some.1 h
  have hheld : heldOf row = row.reservedQuota := by
    simp only [BillingTransaction.isDue, decide_eq_true_eq] at hdue
    rcases hdue with ⟨hs | hs, -⟩ | ⟨hs, -⟩ <;> simp [heldOf, hs]
  exact ⟨⟨rfl, rfl, rfl, rfl⟩, hheld.symm, nofun⟩

variable {now : ℤ}

lemma release_relabel {pending : BillingState} (hp : pending = .settlePending ∨ pending = .refundPending)
    {msg : String} {attempts : ℕ}
    (h : row.release pending msg attempts now = some row') : Relabel row row' := by
  obtain ⟨happ, ⟨⟩⟩ := ite_none_right_eq_some.1 h
  refine ⟨⟨rfl, rfl, rfl, rfl⟩, ?_, fun hc => ?_⟩
  · by_cases ha : 20 ≤ attempts
    · simp [heldOf, happ, ha]
    · rcases hp with rfl | rfl <;> simp [heldOf, happ, ha]
  · split at hc
    · cases hc
    · rcases hp with rfl | rfl <;> cases hc

lemma markStale_relabel {before now : ℤ} (h : row.markStale before now = some row') :
    Relabel row row' := by
  obtain ⟨hres, ⟨⟩⟩ := ite_none_right_eq_some.1 h
  exact ⟨⟨rfl, rfl, rfl, rfl⟩, by simp [heldOf, hres.2.1], nofun⟩

lemma refundRow_relabel (h : refundRow now row = some row') :
    Relabel row row' := by
  obtain ⟨hres, ⟨⟩⟩ := ite_none_right_eq_some.1 h
  exact ⟨⟨rfl, rfl, rfl, rfl⟩, by simp [heldOf, hres.2], nofun⟩

variable {task : Task}

lemma repairRow_relabel {state : BillingState}
    (hp : state = .settlePending ∨ state = .refundPending)
    (h : repairRow id task state now row = some row') : Relabel row row' := by
  obtain ⟨hres, ⟨⟩⟩ := ite_none_right_eq_some.1 h
  refine ⟨⟨rfl, rfl, rfl, rfl⟩, ?_, fun hc => ?_⟩
  · rcases hp with rfl | rfl <;> simp [heldOf, hres.2]
  · rcases hp with rfl | rfl <;> cases hc

lemma bindRow_relabel {task : ℕ} (h : bindRow task now row = some row') :
    Relabel row row' := by
  obtain ⟨-, ⟨⟩⟩ := ite_none_right_eq_some.1 h
  exact ⟨⟨rfl, rfl, rfl, rfl⟩, rfl, fun hc => ⟨hc, rfl⟩⟩

lemma claimBillingTransaction_keeps (id version : ℕ) (owner : String) (lease : ℤ) :
    Keeps (claimBillingTransaction id version owner lease) (Good base sess) :=
  .bind .now fun _ => .bind (autoRow_keeps fun _ _ => claim_relabel) fun _ => .pure _

lemma releaseBillingTransaction_keeps (id : ℕ) (pending : BillingState) (msg : String) (attempts : ℕ) :
    Keeps (releaseBillingTransaction id pending msg attempts) (Good base sess) := by
  refine .ite (fun _ => .fail _) fun hp => .bind .now fun _ => ?_
  have hp' : pending = .settlePending ∨ pending = .refundPending := by
    by_contra hne
    exact hp (not_or.1 hne)
  exact .bind (autoRow_keeps fun _ _ => release_relabel hp') fun _ => .pure _

lemma markStaleUnboundBillingRefundPending_keeps (before : ℤ) :
    Keeps (markStaleUnboundBillingRefundPending before) (Good base sess) := by
  refine .ite (fun _ => .pure _) fun _ => .bind .now fun z => .bind ?_ fun _ => .pure _
  exact .execAuto fun r hr => hr.quiet (selectBilling_put_quiet r fun _ _ => markStale_relabel)

def repairWrites (id : ℕ) (task : Task) (state : BillingState) (now : ℤ) (r : Snap schema) : List (Write schema) :=
  (selectBilling r fun row => (repairRow id task state now row).isSome).map fun x =>
    ⟨.billing x.1, repairRow id task state now x.2⟩

section coordinator

variable {J : Snap schema → Prop}

variable (hstale : ∀ before, Keeps (markStaleUnboundBillingRefundPending before) J)
  (hrepair : ∀ id task state now r, state = .settlePending ∨ state = .refundPending → J r →
    J (r.put (repairWrites id task state now r)))
  (hclaim : ∀ id version owner, Keeps (claimBillingTransaction id version owner durableBillingLease) J)
  (happly : ∀ id, Keeps (applyDurableTaskBilling id) J)
  (hrelease : ∀ id pending msg attempts, Keeps (releaseBillingTransaction id pending msg attempts) J)

include hrepair in
lemma repairTasks_keeps (now : ℤ) (tasks : List (ℕ × Task))
    (h : ∀ x ∈ tasks, x.2.billingState = some .settlePending ∨ x.2.billingState = some .refundPending) :
    Keeps (repairTasks now tasks) J := by
  induction tasks with
  | nil => exact .pure _
  | cons x rest ih =>
    obtain ⟨id, task⟩ := x
    refine .bind (.execAuto fun r hr => ?_) fun _ => ih fun y hy => h y (.tail _ hy)
    rcases h (id, task) (.head _) with hb | hb
    all_goals
      rw [hb]
    · exact hrepair id task _ now r (.inl rfl) hr
    · exact hrepair id task _ now r (.inr rfl) hr

include hrepair in
lemma repairPendingTaskBillingIntents_keeps
    (limit : ℕ) : Keeps (repairPendingTaskBillingIntents limit) J := by
  intro r hr
  refine .bind (.select hr ?_)
  refine Keeps.bind .now (fun z => repairTasks_keeps hrepair z _ fun x hx => ?_) r hr
  obtain ⟨-, hp⟩ := mem_selectTasks (List.mem_of_mem_take hx)
  simpa using hp

include hclaim happly hrelease in
lemma processCandidates_keeps (owner : String) (rows : List (ℕ × BillingTransaction)) :
    Keeps (processCandidates owner rows) J := by
  induction rows with
  | nil => exact .pure _
  | cons x rest ih =>
    obtain ⟨id, candidate⟩ := x
    refine .bind (hclaim _ _ _).attempt fun won => ?_
    split
    · refine .bind (happly id).attempt fun applied => ?_
      split
      · exact ih
      · refine .bind (hrelease _ _ _ _).attempt fun _ => ?_
        exact .bind (.emit _) fun _ => ih
    · exact ih

include hstale hrepair hclaim happly hrelease in
lemma processDurableBillingOnce_keeps_of (owner : String) (limit : ℕ) : Keeps (processDurableBillingOnce owner limit) J :=
  .bind .now fun _ => .bind (hstale _) fun _ =>
    .bind (repairPendingTaskBillingIntents_keeps hrepair _) fun _ =>
      .bind (.bind .now fun _ => .select _ _) fun rows =>
        processCandidates_keeps hclaim happly hrelease owner rows

end coordinator

lemma processDurableBillingOnce_keeps (owner : String) (limit : ℕ) :
    Keeps (processDurableBillingOnce owner limit) (Good base sess) := by
  refine processDurableBillingOnce_keeps_of markStaleUnboundBillingRefundPending_keeps
    (fun id task state now r hstate hr => ?_) (fun _ _ _ => claimBillingTransaction_keeps _ _ _ _)
    applyDurableTaskBilling_keeps releaseBillingTransaction_keeps owner limit
  exact hr.quiet (selectBilling_put_quiet r fun _ _ => repairRow_relabel hstate)

lemma markDurableRefund_keeps (ses : BillingSession) : Keeps (markDurableRefund ses) (Good base sess) := by
  refine .bind .now fun z => .bind (autoRow_keeps fun _ _ => refundRow_relabel) fun affected => ?_
  refine .ite (fun _ => .bind (.select _ _) fun row => ?_) fun _ => .pure _
  split
  · exact .fail _
  · exact .ite (fun _ => .fail _) fun _ => .pure _

lemma refundDurableRequestBilling_keeps (owner : String) (ses : BillingSession) :
    Keeps (refundDurableRequestBilling owner ses) (Good base sess) :=
  .bind (markDurableRefund_keeps ses) fun _ =>
    .bind (processDurableBillingOnce_keeps owner 100).attempt fun _ => .pure _

lemma insertTaskWithBilling_keeps (ses : BillingSession) (task : Task) :
    Keeps (insertTaskWithBilling ses task) (Good base sess) := by
  refine .transaction fun r hr => .bind (.now fun z => .bind (.exec ?_))
  have hput : SameBooks r (r.put
      [⟨.task (r .taskSeq), some { task with updatedAt := z }⟩, ⟨.taskSeq, (r .taskSeq + 1 : ℕ)⟩]) := by
    refine .put fun x hx => ?_
    simp only [List.mem_cons, List.not_mem_nil, or_false] at hx
    rcases hx with rfl | rfl <;> rfl
  refine .bind (.select (.bind (.row (fun _ => ?_) fun v hv => ?_)))
  · exact .guard fun h0 => absurd (by decide) h0
  · refine .guard fun _ => .pure ?_
    obtain ⟨row, row', hrow, hrow', rfl⟩ := onRow_eq_some.1 hv
    have hr₀ : r (.billing ses.durableTxID) = some row := (hput.billing _).symm.trans hrow
    exact hr.quiet (hput.quiet.updateRow hr₀ (bindRow_relabel hrow'))

/-! ### The intent of a finished task -/

/-- Without it `createTaskBillingIntent` would turn a row that was settled at another amount into one to be refunded. -/
def IntentOk (s : Snap schema) (id : ℕ) (task : Task) (oldStatus : TaskStatus) : Prop :=
  task.status = .failure → (s (.task id)).map Task.status = some oldStatus →
    ∀ x ∈ firstBilling s (fun r => r.taskDBID = id), x.2.state = .settled → x.2.finalQuota = x.2.reservedQuota

instance (s : Snap schema) (id : ℕ) (task : Task) (oldStatus : TaskStatus) : Decidable (IntentOk s id task oldStatus) := by
  unfold IntentOk
  infer_instance

lemma intentRow_relabel
    (hstate : row.state = .reserved ∨ row.state = .settled ∨ row.state = intentState task)
    (hsettled : row.state = .settled → row.finalQuota = row.reservedQuota) (finalQuota : ℤ) (result : Option TaskInfo)
    (reason : String) (now : ℤ) : Relabel row (intentRow task finalQuota result reason now row) := by
  have hpending : intentState task = .refundPending ∨ intentState task = .settlePending := by
    unfold intentState
    split
    · exact .inl rfl
    · exact .inr rfl
  have hheld : heldOf (intentRow task finalQuota result reason now row) = row.reservedQuota := by
    rcases hpending with hp | hp <;> simp [heldOf, intentRow, hp]
  have hheld₀ : heldOf row = row.reservedQuota := by
    rcases hstate with h | h | h
    · simp [heldOf, h]
    · simp [heldOf, h, hsettled h]
    · rcases hpending with hp | hp <;> simp [heldOf, h, hp]
  refine ⟨⟨rfl, rfl, rfl, rfl⟩, hheld.trans hheld₀.symm, fun hc => ?_⟩
  rcases hpending with hp | hp <;> simp [intentRow, hp] at hc

lemma createTaskBillingIntent_yields (hs : Good base sess s) {oldStatus : TaskStatus}
    (hok : IntentOk s id task oldStatus) (site : CasSite) (finalQuota : ℤ) (result : Option TaskInfo)
    (reason : String) :
    Yields (createTaskBillingIntent site id task oldStatus finalQuota result reason) s (Good base sess)
      fun _ s' => Good base sess s' := by
  unfold createTaskBillingIntent
  split
  · exact .fail hs
  split
  · exact .fail hs
  refine .bind (.now fun z => .bind (.attempt ?_))
  refine .transaction (fun e => ?_) (.bind (.row (fun _ => ?_) fun v hv => ?_))
  · cases e with
    | recordNotFound => exact .pure hs
    | database | msg t => exact .fail hs
  · exact .guard fun h0 => absurd (by decide) h0
  -- the compare-and-set on the task was won
  refine .guard fun _ => .bind (.select ?_)
  have hcas : SameBooks s (update s (.task id) v) := .update (k := .task id) v rfl
  have hstatus : (s (.task id)).map Task.status = some oldStatus := by
    obtain ⟨t, t', ht, ht', -⟩ := onRow_eq_some.1 hv
    simp [ht, (ite_none_right_eq_some.1 ht').1]
  split
  · exact .fail _
  next i row hfirst =>
  have hrow := (firstBilling_eq_some hfirst).1
  refine .ite (fun _ => ?_) fun hnot => .guard fun hst => ?_
  · refine .bind ((ensures_offBooks rfl).mono fun _ w₁ h₁ => .pure (.pure ?_))
    exact hs.quiet (hcas.trans h₁).quiet
  have hstate : row.state = .reserved ∨ row.state = .settled ∨ row.state = intentState task := by
    by_contra hne
    exact hst ⟨fun h => hne (.inl h), fun h => hne (.inr (.inl h)), fun h => hne (.inr (.inr h))⟩
  have hsettled : row.state = .settled → row.finalQuota = row.reservedQuota := by
    intro hset
    have hfail : task.status = .failure := by
      by_contra hne
      exact hnot ⟨hset, if_neg hne⟩
    exact hok hfail hstatus _ hfirst hset
  have hrow₁ : update s (.task id) v (.billing i) = some row := (hcas.billing i).trans hrow
  refine .bind (.row_of (onRow_eq_some.2 ⟨row, _, hrow₁, rfl, rfl⟩) ?_)
  have hq := hcas.quiet.updateRow hrow (intentRow_relabel hstate hsettled
    (if task.status = .failure then 0 else finalQuota) result reason z)
  refine .bind ((ensures_offBooks rfl).mono fun _ w₂ h₂ => .pure (.pure ?_))
  exact (hs.quiet hq).quiet h₂.quiet

end StarNexus.Ledger
