import StarNexus.Session.DurableRow

/-!
# Sessions with a billing transaction

The methods of a durable session check the state of its row in `billing_transactions`, so they follow `Phase.next`.
`Refund` leaves the intent to refund in the row and runs a pass of the coordinator, which also works on the rows of
other sessions; these may not draw on the session's subscription.
-/

namespace StarNexus.Session

open Lib Lib.Tx Model Service Ledger BillingSession Option
open Function (update_of_ne update_self)

/-! ### A pass of the coordinator -/

structure Doomed (r : ℤ) (row : BillingTransaction) : Prop where
  amount : row.reservedQuota = r
  unbound : row.taskDBID = 0
  target : row.targetTaskStatus = .failure
  state : row.state ≠ .reserved ∧ row.state ≠ .settled ∧ row.state ≠ .refunded

def Alone (p : Purse) (id : ℕ) (s : Snap schema) : Prop := ∀ j row, j ≠ id → s (.billing j) = some row → Apart p row

structure Refunding (p : Purse) (start : Snap schema) (used : ℤ) (id : ℕ) (r : ℤ) (s : Snap schema) : Prop where
  alone : Alone p id s
  row : ∃ row, s (.billing id) = some row ∧ Draws p row ∧
    ((Doomed r row ∧ Level p start used r r s) ∨ (row.state = .refunded ∧ Level p start used 0 0 s))

section refunding

variable {p : Purse} {start s : Snap schema} {used r : ℤ} {id : ℕ}

lemma Refunding.rewrite (h : Refunding p start used id r s) {s' : Snap schema}
    (hlevel : ∀ f, Level p start used f f s → Level p start used f f s')
    (hrows : ∀ j, s' (.billing j) = s (.billing j) ∨ ∃ row row', s (.billing j) = some row ∧ s' (.billing j) = some row' ∧
      SameDraw row row' ∧ (j = id → row.state ≠ .refunded ∧ (Doomed r row → Doomed r row'))) :
    Refunding p start used id r s' := by
  obtain ⟨own, hown, hdraws, hcase⟩ := h.row
  refine ⟨fun j x hj hx => ?_, ?_⟩
  · rcases hrows j with hsame | ⟨row, row', hrow, hrow', hsame, -⟩
    · exact h.alone j x hj (hsame.symm.trans hx)
    · cases hrow'.symm.trans hx
      exact hsame.apart (h.alone j row hj hrow)
  · rcases hrows id with hsame | ⟨row, row', hrow, hrow', hsame, hid⟩
    · exact ⟨own, hsame.trans hown, hdraws, hcase.imp (fun hd => ⟨hd.1, hlevel r hd.2⟩) fun hd => ⟨hd.1, hlevel 0 hd.2⟩⟩
    · cases hrow.symm.trans hown
      obtain ⟨hopen, hdoomed⟩ := hid rfl
      refine ⟨row', hrow', hdraws.same hsame, .inl ?_⟩
      rcases hcase with ⟨hd, hl⟩ | ⟨href, -⟩
      · exact ⟨hdoomed hd, hlevel r hl⟩
      · exact absurd href hopen

lemma Refunding.put (h : Refunding p start used id r s) {ws : List (Write schema)}
    (hws : ∀ x ∈ ws, ∃ i row row', x = ⟨.billing i, some row'⟩ ∧ s (.billing i) = some row ∧ row.state = .reserved ∧
      SameDraw row row') : Refunding p start used id r (s.put ws) := by
  refine h.rewrite (fun f hf => hf.congr fun k hk => Snap.put_of_not_mem _ _ _ fun x hx => ?_) fun j => ?_
  · obtain ⟨i, row, row', rfl, -⟩ := hws x hx
    rintro rfl
    cases hk
  · rcases s.put_cases ws (.billing j) with ⟨-, heq⟩ | ⟨v, hv, heq⟩
    · exact .inl heq
    · obtain ⟨i, row, row', hi, hrow, hres, hsame⟩ := hws _ hv
      cases hi
      exact .inr ⟨row, row', hrow, heq, hsame, fun _ => ⟨by simp [hres], fun hd => absurd hres hd.state.1⟩⟩

lemma refunding_autoRow {i : ℕ} {g : BillingTransaction → Option BillingTransaction}
    (hg : ∀ row row', g row = some row' →
      SameDraw row row' ∧ (i = id → row.state ≠ .refunded ∧ (Doomed r row → Doomed r row'))) :
    Keeps (autoRow (.billing i) (onRow g)) (Refunding p start used id r) := by
  intro s h
  refine .autoRow h (fun _ => h) fun v hv => ?_
  obtain ⟨row, row', hrow, hrow', rfl⟩ := onRow_eq_some.1 hv
  refine h.rewrite (fun f hf => hf.write (k := .billing i) _ rfl) fun j => ?_
  by_cases hj : j = i
  · subst hj
    exact .inr ⟨row, row', hrow, update_self _ _ _, hg row row' hrow'⟩
  · exact .inl (update_of_ne (by simpa using hj) _ _)

lemma claimBillingTransaction_refunding (i version : ℕ) (owner : String) (lease : ℤ) :
    Keeps (claimBillingTransaction i version owner lease) (Refunding p start used id r) := by
  refine .bind .now fun now => .bind (refunding_autoRow fun row row' hrow' => ?_) fun _ => .pure _
  obtain ⟨hclaim, ⟨⟩⟩ := ite_none_right_eq_some.1 hrow'
  refine ⟨⟨⟨rfl, rfl, rfl, rfl⟩, rfl⟩, fun _ => ⟨fun href => ?_, fun hd => ?_⟩⟩
  · simp [BillingTransaction.isDue, href] at hclaim
  · exact { hd with state := by simp }

lemma releaseBillingTransaction_refunding (i : ℕ) (pending : BillingState) (message : String) (attempts : ℕ) :
    Keeps (releaseBillingTransaction i pending message attempts) (Refunding p start used id r) := by
  refine .ite (fun _ => .fail _) fun hpending => .bind .now fun now => ?_
  refine .bind (refunding_autoRow fun row row' hrow' => ?_) fun _ => .pure _
  obtain ⟨happlying, ⟨⟩⟩ := ite_none_right_eq_some.1 hrow'
  refine ⟨⟨⟨rfl, rfl, rfl, rfl⟩, rfl⟩, fun _ => ⟨by simp [happlying], fun hd => ?_⟩⟩
  refine { hd with state := ?_ }
  by_cases hmany : 20 ≤ attempts
  · simp [hmany]
  · simp only [hmany, if_false]
    refine ⟨fun hp => ?_, fun hp => ?_, fun hp => ?_⟩
    all_goals exact hpending (by simp [hp])

lemma markStaleUnboundBillingRefundPending_refunding (before : ℤ) :
    Keeps (markStaleUnboundBillingRefundPending before) (Refunding p start used id r) := by
  refine .ite (fun _ => .pure _) fun _ => .bind .now fun now => .bind ?_ fun _ => .pure _
  refine .execAuto fun s h => h.put fun x hx => ?_
  obtain ⟨i, row, row', rfl, hrow, hrow'⟩ := mem_billingWrites hx
  obtain ⟨hstale, ⟨⟩⟩ := ite_none_right_eq_some.1 hrow'
  exact ⟨i, row, _, rfl, hrow, hstale.2.1, ⟨rfl, rfl, rfl, rfl⟩, rfl⟩

lemma repairWrites_refunding (h : Refunding p start used id r s) (i : ℕ) (task : Task) (state : BillingState) (now : ℤ) :
    Refunding p start used id r (s.put (repairWrites i task state now s)) := by
  refine h.put fun x hx => ?_
  obtain ⟨j, row, row', rfl, hrow, hrow'⟩ := mem_billingWrites hx
  obtain ⟨hres, ⟨⟩⟩ := ite_none_right_eq_some.1 hrow'
  exact ⟨j, row, _, rfl, hrow, hres.2, ⟨rfl, rfl, rfl, rfl⟩, rfl⟩

def Owns (p : Purse) (id : ℕ) : Prop := ∀ c, p.mine c = true ↔ rowOf c = some id

lemma Owns.own (h : Owns p id) (op : DurableOp) : p.mine (.durable op id) = true := (h _).2 rfl

lemma Owns.other (h : Owns p id) (op : DurableOp) {i : ℕ} (hi : i ≠ id) : p.mine (.durable op i) = false := by
  cases hc : p.mine (.durable op i) with
  | false => rfl
  | true => exact absurd (Option.some.inj ((h _).1 hc)) hi

section

variable (hused : 0 ≤ used) (howns : Owns p id) (hr : 0 ≤ r)

include hused howns hr

lemma applyDurableTaskBillingTx_own (h : Refunding p start used id r s) :
    Ensures (applyDurableTaskBillingTx id) s fun _ s' => Refunding p start used id r s' := by
  obtain ⟨row, hrow, hdraws, hcase⟩ := h.row
  refine .bind (.select ?_)
  simp only [hrow]
  refine .guard fun happlying => ?_
  have hstate : row.state = .applying := not_not.1 happlying
  rcases hcase with ⟨hd, hlevel⟩ | ⟨href, -⟩
  · simp only [hd.target, hd.amount, hd.unbound, if_true]
    refine ensures_adjust hlevel (p.floor_of_nonneg hused hr) hdraws (howns.own .apply) _ fun s₁ hrows₁ h₁ => ?_
    have hzero : r + (0 - r) = 0 := by omega
    rw [hzero, p.floor_of_nonneg hused le_rfl] at h₁
    have hrow₁ : s₁ (.billing id) = some row := (hrows₁.1 id).trans hrow
    refine .ite (fun hne => absurd rfl hne) fun _ => .bind (.now fun now => ?_)
    refine .bind (.row_of (onRow_eq_some.2 ⟨row, _, hrow₁, if_pos hstate, rfl⟩) ?_)
    refine (createOutbox_sameMoney _ _ _).mono fun _ s₂ hs₂ => ?_
    refine ⟨fun j x hj hx => ?_, _, (hs₂.billing id).trans (update_self _ _ _), ?_, .inr ⟨rfl, (h₁.write _ rfl).sameMoney hs₂⟩⟩
    · rw [hs₂.billing j, update_of_ne (by simpa using hj), hrows₁.1 j] at hx
      exact h.alone j x hj hx
    · exact hdraws.same ⟨⟨rfl, rfl, rfl, rfl⟩, rfl⟩
  · rw [href] at hstate
    cases hstate

lemma applyDurableTaskBilling_refunding (i : ℕ) : Keeps (applyDurableTaskBilling i) (Refunding p start used id r) := by
  refine .transaction fun s h => ?_
  by_cases hi : i = id
  · subst hi
    exact applyDurableTaskBillingTx_own hused howns hr h
  -- the row of another session
  have hapart : ∀ row, s (.billing i) = some row → Apart p row := fun row hrow => h.alone i row hi hrow
  refine (applyDurableTaskBillingTx_other start used (howns.other .apply hi) hapart).mono fun _ s' hs' => ?_
  refine h.rewrite (fun f => hs'.level f f) fun j => (hs'.rows j).imp_right ?_
  rintro ⟨rfl, row, row', hrow, hrow', hsame⟩
  exact ⟨row, row', hrow, hrow', hsame, fun hj => absurd hj hi⟩

lemma processDurableBillingOnce_refunding (owner : String)
    (limit : ℕ) : Keeps (processDurableBillingOnce owner limit) (Refunding p start used id r) :=
  processDurableBillingOnce_keeps_of markStaleUnboundBillingRefundPending_refunding
    (fun i task state now _ _ h => repairWrites_refunding h i task state now)
    (fun i version owner => claimBillingTransaction_refunding i version owner _)
    (applyDurableTaskBilling_refunding hused howns hr) releaseBillingTransaction_refunding owner limit

end

end refunding

/-! ### The methods -/

structure Bound (p : Purse) (id : ℕ) (ses : BillingSession) : Prop where
  txID : ses.durableTxID = id
  pos : 0 < id
  owns : Owns p id
  trusted : ses.trusted = p.trusted
  fundingSettled : ses.fundingSettled = false

structure Reserved (p : Purse) (start : Snap schema) (used : ℤ) (id : ℕ) (r : ℤ) (ses : BillingSession)
    (s : Snap schema) : Prop where
  settled : ses.settled = false
  refunded : ses.refunded = false
  preConsumed : ses.preConsumedQuota = r
  tokenConsumed : ses.tokenConsumed = r
  pos : 0 < r
  level : Level p start used r r s
  row : ∃ row, s (.billing id) = some row ∧ Draws p row ∧ row.state = .reserved ∧ row.reservedQuota = r ∧
    row.taskDBID = 0

def InState (p : Purse) (id : ℕ) (state : BillingState) (s : Snap schema) : Prop :=
  ∃ row, s (.billing id) = some row ∧ Draws p row ∧ row.state = state

def DurableAt (p : Purse) (start : Snap schema) (used : ℤ) (id : ℕ) (ses : BillingSession) (s : Snap schema)
    (phase : Phase) : Prop :=
  Bound p id ses ∧ Alone p id s ∧
    match phase with
    | .opened r => Reserved p start used id r ses s
    | .settled x => ses.settled = true ∧ ses.refunded = false ∧ InState p id .settled s ∧
        Level p start used (p.floor used x) x s
    | .refunded _ => ses.settled = false ∧ ses.refunded = true ∧ InState p id .refunded s ∧ Level p start used 0 0 s

/-- What a method has to establish, unless an operation it issued has failed or a refund was not applied. -/
def DurableReaches (p : Purse) (start : Snap schema) (used : ℤ) (id : ℕ) (phase next : Phase)
    (out : BillingSession × List Err) (s : Snap schema) : Prop :=
  ((∃ r, phase = .opened r) → out.2 = []) →
    (out.1.refunded = true → (s (.billing id)).map BillingTransaction.state = some .refunded) →
    DurableAt p start used id out.1 s next

section methods

variable {p : Purse} {start s : Snap schema} {used r : ℤ} {id : ℕ} {ses : BillingSession}

lemma syncRelayInfo_eq (ses : BillingSession) : ∃ n, ses.syncRelayInfo = { ses with subscriptionId := n } := by
  unfold syncRelayInfo
  split
  · exact ⟨0, rfl⟩
  · exact ⟨_, rfl⟩

lemma Alone.ownRow (h : Alone p id s) {s' : Snap schema} (hrows : SameRows s s') (row : BillingTransaction) :
    Alone p id (Function.update s' (.billing id) (some row)) := by
  intro j x hj hx
  rw [update_of_ne (by simpa using hj), hrows.1 j] at hx
  exact h j x hj hx

lemma settleDurableRequestBilling_level (hused : 0 ≤ used) (hbound : Bound p id ses) (halone : Alone p id s)
    (h : Reserved p start used id r ses s) (a : ℤ) :
    Yields (settleDurableRequestBilling ses a) s (fun _ => True) fun _ s' =>
      Alone p id s' ∧ InState p id .settled s' ∧ Level p start used (p.floor used a) a s' := by
  obtain ⟨row, hrow, hdraws, hres, hamount, hunbound⟩ := h.row
  refine .transaction trivial (.bind (.select ?_))
  rw [hbound.txID, h.preConsumed]
  simp only [hrow]
  refine .ite (fun hne => absurd hres hne) fun _ => ?_
  refine ensures_adjust h.level (p.floor_of_nonneg hused h.pos.le) hdraws (hbound.owns.own .settle) _
    fun s₁ hrows₁ h₁ => ?_
  rw [add_sub_cancel] at h₁
  have hrow₁ : s₁ (.billing id) = some row := (hrows₁.1 id).trans hrow
  refine .bind (.now fun now => .bind (.row_of (onRow_eq_some.2 ⟨row, _, hrow₁, if_pos hres, rfl⟩) (.pure ?_)))
  refine ⟨halone.ownRow hrows₁ _, ⟨_, update_self _ _ _, ?_, rfl⟩, h₁.write _ rfl⟩
  exact hdraws.same ⟨⟨rfl, rfl, rfl, rfl⟩, rfl⟩

lemma settleDurableRequestBilling_refused (htx : ses.durableTxID = id) (h : InState p id .refunded s) (a : ℤ) :
    Yields (settleDurableRequestBilling ses a) s (fun s' => s' = s) fun _ _ => False := by
  obtain ⟨row, hrow, -, hstate⟩ := h
  refine .transaction rfl (.bind (.select ?_))
  rw [htx]
  simp only [hrow, hstate]
  refine .ite (fun _ => .ite nofun fun _ => .fail _) fun hn => absurd (by simp) hn

variable {phase : Phase}

lemma settle_durable (hused : 0 ≤ used) (h : DurableAt p start used id ses s phase) (a : ℤ) :
    Yields (ses.settle a) s (fun _ => True) (DurableReaches p start used id phase (phase.next p.trusted (.settle a))) := by
  obtain ⟨hbound, halone, hphase⟩ := h
  cases phase with
  | settled x =>
    exact .ite (fun _ => .pure fun _ _ => ⟨hbound, halone, hphase⟩) fun hn => absurd hphase.1 hn
  | refunded r =>
    obtain ⟨hns, href, hin, hlevel⟩ := hphase
    refine .ite (fun hset => absurd hset (by simp [hns])) fun _ => ?_
    refine .ite (fun _ => ?_) fun hn => absurd (by simp [hbound.txID, hbound.pos]) hn
    refine .bind (.attempt ((settleDurableRequestBilling_refused hbound.txID hin a).mono ?_ ?_))
    · rintro _ rfl e
      exact .pure fun _ _ => ⟨hbound, halone, hns, href, hin, hlevel⟩
    · simp
  | opened r =>
    refine .ite (fun hset => absurd hset (by simp [hphase.settled])) fun _ => ?_
    refine .ite (fun _ => ?_) fun hn => absurd (by simp [hbound.txID, hbound.pos]) hn
    refine .bind (.attempt ((settleDurableRequestBilling_level hused hbound halone hphase a).mono
      (fun s' _ e => ?_) fun _ s' hs' => ?_))
    · exact .pure fun herr => by cases herr ⟨r, rfl⟩
    · obtain ⟨halone', hin, hlevel⟩ := hs'
      exact .pure fun _ _ => ⟨{ hbound with },
        halone', rfl, hphase.refunded, hin, hlevel⟩

lemma markDurableRefund_level (hbound : Bound p id ses) (halone : Alone p id s)
    (h : Reserved p start used id r ses s) :
    Yields (markDurableRefund ses) s (fun _ => True) fun _ s' => Refunding p start used id r s' := by
  obtain ⟨row, hrow, hdraws, hres, hamount, hunbound⟩ := h.row
  refine .bind (.now fun now => .bind ?_)
  rw [hbound.txID]
  refine .autoRow trivial (fun hnone => ?_) fun v hv => ?_
  · simp [onRow, hrow, refundRow, hres, hunbound] at hnone
  simp only [onRow, hrow, refundRow, hres, hunbound, and_self, if_true, bind_some, map_some,
    Option.some.injEq] at hv
  subst hv
  refine .ite (fun h0 => by cases h0) fun _ => .pure ?_
  refine ⟨halone.ownRow (.refl s) _, _, update_self _ _ _, ?_, .inl ⟨⟨hamount, rfl, rfl, ?_⟩, ?_⟩⟩
  · exact hdraws.same ⟨⟨rfl, rfl, rfl, rfl⟩, rfl⟩
  · simp
  · exact h.level.write _ rfl

lemma markDurableRefund_refused (htx : ses.durableTxID = id) (h : InState p id .settled s) :
    Yields (markDurableRefund ses) s (fun s' => s' = s) fun _ _ => False := by
  obtain ⟨row, hrow, -, hstate⟩ := h
  refine .bind (.now fun now => .bind ?_)
  rw [htx]
  refine .autoRow rfl (fun _ => ?_) fun v hv => ?_
  · refine .ite (fun _ => .bind (.select rfl ?_)) fun hn => absurd rfl hn
    simp only [hrow, hstate]
    exact .guard rfl fun hn => absurd (by simp) hn
  · simp [onRow, hrow, refundRow, hstate] at hv

lemma refund_durable (hused : 0 ≤ used) (h : DurableAt p start used id ses s phase) (owner : String) :
    Yields (ses.refund owner) s (fun _ => True) (DurableReaches p start used id phase (phase.next p.trusted .refund)) := by
  obtain ⟨hbound, halone, hphase⟩ := h
  cases phase with
  | refunded r =>
    exact .ite (fun _ => .pure fun _ _ => ⟨hbound, halone, hphase⟩) fun hn => absurd (by simp [hphase.2.1]) hn
  | settled x =>
    obtain ⟨hset, hnr, hin, hlevel⟩ := hphase
    refine .ite (fun _ => .pure fun _ _ => ⟨hbound, halone, hset, hnr, hin, hlevel⟩) fun _ => ?_
    refine .ite (fun _ => ?_) fun hn => absurd (by simp [hbound.txID, hbound.pos]) hn
    refine .bind (.attempt (.bind ((markDurableRefund_refused hbound.txID hin).mono ?_ ?_)))
    · rintro _ rfl e
      exact .pure fun _ _ => ⟨{ hbound with },
        halone, hset, rfl, hin, hlevel⟩
    · simp
  | opened r =>
    have hneeds : ses.needsRefund = true := by
      simp [needsRefund, hphase.refunded, hbound.fundingSettled, hphase.settled, hphase.tokenConsumed,
        hphase.pos]
    refine .ite (fun hno => absurd hno (by simp [hphase.refunded, hneeds])) fun _ => ?_
    refine .ite (fun _ => ?_) fun hn => absurd (by simp [hbound.txID, hbound.pos]) hn
    refine .bind (.attempt (.bind ((markDurableRefund_level hbound halone hphase).mono ?_ ?_)))
    · exact fun _ _ e => .pure fun herr => by cases herr ⟨r, rfl⟩
    intro _ s₁ h₁
    refine .bind ((processDurableBillingOnce_refunding hused hbound.owns hphase.pos.le owner 100).attempt s₁ h₁
      |>.mono (fun _ _ e => ?_) fun _ s₂ h₂ => .pure (.pure fun _ hdone => ?_))
    · exact .pure fun herr => by cases herr ⟨r, rfl⟩
    · obtain ⟨row, hrow, hdraws, hcase⟩ := h₂.row
      have href : row.state = .refunded := by simpa [hrow] using hdone rfl
      rcases hcase with ⟨hd, -⟩ | ⟨-, hlevel⟩
      · exact absurd href hd.state.2.2
      · simp only [Phase.next, if_pos hphase.pos]
        exact ⟨{ hbound with }, h₂.alone, hphase.settled,
          rfl, ⟨row, hrow, hdraws, href⟩, hlevel⟩

lemma adjustDurableReservation_level (hused : 0 ≤ used) (hbound : Bound p id ses) (halone : Alone p id s)
    (h : Reserved p start used id r ses s) {target : ℤ} (ht : 0 < target) :
    Yields (adjustDurableReservation ses target) s (fun _ => True) fun _ s' =>
      Alone p id s' ∧ (∃ row, s' (.billing id) = some row ∧ Draws p row ∧ row.state = .reserved ∧
        row.reservedQuota = target ∧ row.taskDBID = 0) ∧ Level p start used target target s' := by
  obtain ⟨row, hrow, hdraws, hres, hamount, hunbound⟩ := h.row
  refine .transaction trivial (.bind (.select ?_))
  rw [hbound.txID, h.preConsumed]
  simp only [hrow]
  refine .ite (fun hne => absurd hres hne) fun _ => ?_
  refine ensures_adjust h.level (p.floor_of_nonneg hused h.pos.le) hdraws (hbound.owns.own .adjust) _
    fun s₁ hrows₁ h₁ => ?_
  rw [add_sub_cancel, p.floor_of_nonneg hused ht.le] at h₁
  have hrow₁ : s₁ (.billing id) = some row := (hrows₁.1 id).trans hrow
  refine .bind (.now fun now => .bind (.row_of (onRow_eq_some.2 ⟨row, _, hrow₁, rfl, rfl⟩) (.pure ?_)))
  refine ⟨halone.ownRow hrows₁ _, ⟨_, update_self _ _ _, ?_, hres, rfl, hunbound⟩,
    h₁.write _ rfl⟩
  exact hdraws.same ⟨⟨rfl, rfl, rfl, rfl⟩, rfl⟩

lemma reserve_durable (hused : 0 ≤ used) (h : DurableAt p start used id ses s phase) (target : ℤ) :
    Yields (ses.reserve target) s (fun _ => True)
      (DurableReaches p start used id phase (phase.next p.trusted (.reserve target))) := by
  obtain ⟨hbound, halone, hphase⟩ := h
  cases phase with
  | settled x =>
    exact .ite (fun _ => .pure fun _ _ => ⟨hbound, halone, hphase⟩) fun hn => absurd (.inl hphase.1) hn
  | refunded r =>
    exact .ite (fun _ => .pure fun _ _ => ⟨hbound, halone, hphase⟩) fun hn => absurd (.inr (.inl hphase.2.1)) hn
  | opened r =>
    refine .ite (fun hskip => .pure fun _ _ => ?_) fun hgo => ?_
    · have hskip' : p.trusted = true ∨ target ≤ r := by
        simpa [hphase.settled, hphase.refunded, hbound.trusted, hphase.preConsumed] using hskip
      simp only [Phase.next, if_pos hskip']
      exact ⟨hbound, halone, hphase⟩
    have hgo' : ¬(p.trusted = true ∨ target ≤ r) := by
      simpa [hphase.settled, hphase.refunded, hbound.trusted, hphase.preConsumed] using hgo
    have hpos := hphase.pos
    simp only [Phase.next, if_neg hgo', hphase.preConsumed]
    refine .ite (fun _ => ?_) fun hn => absurd (by simp [hbound.txID, hbound.pos]) hn
    refine .bind (.attempt ((adjustDurableReservation_level hused hbound halone hphase (by omega)).mono
      (fun s' _ e => ?_) fun _ s' hs' => ?_))
    · exact .pure fun herr => by cases herr ⟨r, rfl⟩
    · obtain ⟨halone', hrow', hlevel⟩ := hs'
      obtain ⟨n, hn⟩ := syncRelayInfo_eq
        { ses with preConsumedQuota := ses.preConsumedQuota + (target - r),
                   tokenConsumed := ses.tokenConsumed + (target - r), extraReserved := ses.extraReserved + (target - r) }
      refine .pure fun _ _ => ?_
      rw [reserved, hn]
      refine ⟨{ hbound with }, halone', ?_⟩
      refine ⟨hphase.settled, hphase.refunded, ?_, ?_, by omega, hlevel, hrow'⟩
      · simp [hphase.preConsumed]
      · simp [hphase.tokenConsumed]

end methods

end StarNexus.Session
