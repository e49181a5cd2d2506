import StarNexus.Account.AffiliateBooks
import StarNexus.Lib.Hoare

/-!
# The functions of the affiliate programme keep its books

Every function of the programme, with any of its statements failing, leaves books that are in order
(`AffiliateOp.keeps`); so do all sequences of calls (`affiliate_books_balance`).
-/

namespace StarNexus.Account

open Lib Lib.Tx List
open Function (update update_eq_self update_idem update_of_ne update_self)

/-! ### The books of a database -/

def records (s : Snap schema) (userID : ℕ) : Option UserAffiliate := s (.affiliate userID)

def InOrder (s : Snap schema) : Prop := Booked (ledgerRows s) (records s)

section rows

variable {s s' : Snap schema}

lemma mem_ledgerRows {id : ℕ} {e : UserAffiliateLedger} :
    (id, e) ∈ ledgerRows s ↔ id < (s .affLedgerSeq : ℕ) ∧ s (.affLedger id) = some e := by
  unfold ledgerRows
  rw [mem_filterMap]
  constructor
  · simp
  · simp

lemma ledgerRows_congr (hseq : (s' .affLedgerSeq : ℕ) = s .affLedgerSeq)
    (hrows : ∀ id, s' (.affLedger id) = s (.affLedger id)) : ledgerRows s' = ledgerRows s := by
  unfold ledgerRows
  rw [hseq]
  simp [hrows]

lemma InOrder.congr (h : InOrder s) (hseq : (s' .affLedgerSeq : ℕ) = s .affLedgerSeq)
    (hrows : ∀ id, s' (.affLedger id) = s (.affLedger id)) (haff : ∀ u, s' (.affiliate u) = s (.affiliate u)) :
    InOrder s' := by
  have hrecords : records s' = records s := funext haff
  rw [InOrder, ledgerRows_congr hseq hrows, hrecords]
  exact h

lemma records_update (u : ℕ) (p : UserAffiliate) :
    records (update s (.affiliate u) (some p)) = update (records s) u (some p) := by
  funext v
  unfold records
  by_cases hv : v = u
  · subst hv
    rw [update_self, update_self]
  · rw [update_of_ne hv, update_of_ne (by simpa using hv)]

lemma ledgerRows_update_affiliate (u : ℕ) (v : Option UserAffiliate) :
    ledgerRows (update s (.affiliate u) v) = ledgerRows s :=
  ledgerRows_congr (update_of_ne (by simp) _ _) fun _ => update_of_ne (by simp) _ _

def createdRows (entry : UserAffiliateLedger) (s : Snap schema) : Snap schema :=
  let id : ℕ := s .affLedgerSeq
  s.put [⟨.affLedger id, some entry⟩, ⟨.affLedgerSeq, id + 1⟩]

variable (entry : UserAffiliateLedger)

lemma ledgerRows_created :
    ledgerRows (createdRows entry s) = ledgerRows s ++ [((s .affLedgerSeq : ℕ), entry)] := by
  have hseq : (createdRows entry s .affLedgerSeq : ℕ) = (s .affLedgerSeq : ℕ) + 1 := by
    simp [createdRows, Snap.put]
  have hnew : createdRows entry s (.affLedger (s .affLedgerSeq : ℕ)) = some entry := by
    simp [createdRows, Snap.put]
  have hold : ∀ id < (s .affLedgerSeq : ℕ), createdRows entry s (.affLedger id) = s (.affLedger id) := by
    intro id hid
    simp [createdRows, Snap.put, Nat.ne_of_lt hid]
  unfold ledgerRows
  rw [hseq, range_succ, filterMap_append]
  congr 1
  · refine filterMap_congr fun id hid => ?_
    rw [hold id (mem_range.1 hid)]
  · simp [hnew]

lemma records_created : records (createdRows entry s) = records s := by
  rfl

structure Thawed (ids : List ℕ) (s s' : Snap schema) : Prop where
  ledger : ∀ id, s' (.affLedger id) =
    if id ∈ ids then (s (.affLedger id)).map (fun e => { e with frozenUntil := none }) else s (.affLedger id)
  seq : (s' .affLedgerSeq : ℕ) = s .affLedgerSeq
  affiliate : ∀ u, s' (.affiliate u) = s (.affiliate u)

lemma Thawed.records (h : Thawed ids s s') : records s' = records s := funext h.affiliate

lemma Thawed.ledgerRows {u : ℕ} {now : ℤ} (h : Thawed ((maturedEntries u now s).map Prod.fst) s s') :
    ledgerRows s' = (ledgerRows s).map (thawEntry u now) := by
  unfold Account.ledgerRows
  rw [h.seq, map_filterMap]
  refine filterMap_congr fun id hid => ?_
  rw [h.ledger id]
  cases he : s (.affLedger id) with
  | none => simp
  | some e =>
    have hmem : id ∈ (maturedEntries u now s).map Prod.fst ↔ e.matured u now = true := by
      simp only [maturedEntries, mem_map, mem_filter, Prod.exists, exists_and_right, exists_eq_right]
      constructor
      · rintro ⟨e', he', hm⟩
        rw [(mem_ledgerRows.1 he').2] at he
        cases he
        exact hm
      · intro hm
        exact ⟨e, mem_ledgerRows.2 ⟨mem_range.1 hid, he⟩, hm⟩
    by_cases hm : e.matured u now = true
    · simp [hmem.2 hm, thawEntry, hm]
    · simp [mt hmem.1 hm, thawEntry, hm]

end rows

/-! ### Statements -/

section statements

variable {s : Snap schema}

lemma thawEntries_ensures (ids : List ℕ) : Ensures (thawEntries ids) s fun _ w => Thawed ids s w := by
  induction ids generalizing s with
  | nil => exact .pure ⟨fun _ => by simp, rfl, fun _ => rfl⟩
  | cons id ids ih =>
    refine .bind (.row (fun hnone => ?_) fun v hv => ?_)
    · have hrow : s (.affLedger id) = none := Option.eq_none_iff_forall_ne_some.2 (by simpa [onRow] using hnone)
      refine ih.mono fun _ w hw => ⟨fun id' => ?_, hw.seq, hw.affiliate⟩
      rw [hw.ledger id']
      rcases eq_or_ne id' id with rfl | hne
      · simp [hrow]
      · simp [hne]
    · obtain ⟨e, _, he, ⟨⟩, rfl⟩ := onRow_eq_some.1 hv
      refine ih.mono fun _ w hw => ⟨fun id' => ?_, ?_, fun u => ?_⟩
      · rw [hw.ledger id']
        rcases eq_or_ne id' id with rfl | hne
        · simp [he]
        · simp [hne]
      · rw [hw.seq]
        simp
      · rw [hw.affiliate u]
        simp

lemma saveAffiliate_ensures (u : ℕ) (p : UserAffiliate) :
    Ensures (saveAffiliate u p) s fun _ w => w = update s (.affiliate u) (some p) := .exec rfl

lemma createLedger_ensures (entry : UserAffiliateLedger) :
    Ensures (createLedger entry) s fun _ w => w = createdRows entry s := .exec rfl

lemma firstAffiliate_ensures (u : ℕ) :
    Ensures (firstAffiliate u) s fun p w => w = s ∧ s (.affiliate u) = some p := by
  refine .bind (.select ?_)
  cases hp : s (.affiliate u) with
  | none => exact .fail _
  | some p => exact .pure ⟨rfl, rfl⟩

lemma InOrder.update_other (h : InOrder s) {k : Key} (v : Val k) (hseq : k ≠ .affLedgerSeq)
    (hledger : ∀ id, k ≠ .affLedger id) (haff : ∀ u, k ≠ .affiliate u) : InOrder (update s k v) :=
  h.congr (by rw [update_of_ne (.symm hseq)])
    (fun id => by rw [update_of_ne (.symm (hledger id))]) fun u => by rw [update_of_ne (.symm (haff u))]

lemma updateUser_ensures (h : InOrder s) (u : ℕ) (f : User → Option User) :
    Ensures (updateUser u f) s fun _ w => InOrder w :=
  .row (fun _ => h) fun v _ => h.update_other (k := .user u) v (by simp) (by simp) (by simp)

lemma saveUser_ensures (u : ℕ) (user : User) (quota : ℤ) :
    Ensures (saveUser u user quota) s fun _ w => ∃ v, w = update s (.user u) v := .exec ⟨_, rfl⟩

lemma createAudit_ensures (h : InOrder s) (topUpId : ℕ) (action : TopUpAudit) :
    Ensures (createAudit topUpId action) s fun _ w => InOrder w := by
  refine .bind (.mono (Q := fun _ w => InOrder w) ?_ fun n w hw => ?_)
  · exact .row (fun _ => h) fun v _ => h.update_other (k := .audit topUpId) v (by simp) (by simp) (by simp)
  · exact .guard fun _ => .pure hw

lemma updateAffiliate_ensures (h : InOrder s) (u : ℕ) {f : UserAffiliate → Option UserAffiliate}
    (hf : ∀ p p', f p = some p' → p'.affQuotaUSD = p.affQuotaUSD ∧ p'.affFrozenQuotaUSD = p.affFrozenQuotaUSD ∧
      p'.affHistoryQuotaUSD = p.affHistoryQuotaUSD) :
    Ensures (updateAffiliate u f) s fun _ w => InOrder w := by
  refine .row (fun _ => h) fun v hv => ?_
  obtain ⟨p, p', hp, hf', rfl⟩ := onRow_eq_some.1 hv
  obtain ⟨hquota, hfrozen, hhistory⟩ := hf p p' hf'
  rw [InOrder, records_update]
  exact .modify h hp hquota hfrozen hhistory

end statements

/-! ### Transactions -/

section transactions

variable {s : Snap schema} {g : AffiliateSettings}

lemma recountInvitees_ensures (ids : List ℕ) (h : InOrder s) : Ensures (recountInvitees g ids) s fun _ w => InOrder w := by
  induction ids generalizing s with
  | nil => exact .pure h
  | cons id ids ih =>
    refine .ite (fun _ => ih h) fun _ => .bind (.select ?_)
    refine .bind ((updateAffiliate_ensures h id fun p p' hp => ?_).mono fun _ w hw => ?_)
    · cases hp
      exact ⟨rfl, rfl, rfl⟩
    · exact .bind ((updateUser_ensures hw id _).mono fun _ w' hw' => ih hw')

section

variable (h : InOrder s)

include h

variable (userID inviterID : ℕ)

lemma bindAffiliateInviterTx_ensures :
    Ensures (bindAffiliateInviterTx userID inviterID) s fun _ w => InOrder w := by
  refine .bind ((updateAffiliate_ensures h userID fun p p' hp => ?_).mono fun _ w hw => ?_)
  · obtain ⟨-, ⟨⟩⟩ := Option.ite_none_right_eq_some.1 hp
    exact ⟨rfl, rfl, rfl⟩
  refine .bind ((updateUser_ensures hw userID _).mono fun _ w₁ hw₁ => ?_)
  refine .bind ((updateAffiliate_ensures hw₁ inviterID fun p p' hp => ?_).mono fun _ w₂ hw₂ => ?_)
  · cases hp
    exact ⟨rfl, rfl, rfl⟩
  · exact .bind ((updateUser_ensures hw₂ inviterID _).mono fun _ w₃ hw₃ => .pure hw₃)

lemma updateUserInviterTx_ensures :
    Ensures (updateUserInviterTx g userID inviterID) s fun _ w => InOrder w := by
  refine .bind ((firstAffiliate_ensures userID).mono ?_)
  rintro p _ ⟨rfl, -⟩
  refine .ite (fun _ => .pure h) fun _ => ?_
  refine .bind ((updateAffiliate_ensures h userID fun p p' hp => ?_).mono fun _ w hw => ?_)
  · cases hp
    exact ⟨rfl, rfl, rfl⟩
  · exact .bind ((updateUser_ensures hw userID _).mono fun _ w' hw' => recountInvitees_ensures _ hw')

variable {p : UserAffiliate}

lemma InOrder.of_thawed {w : Snap schema} {u : ℕ} {now : ℤ}
    (hp : s (.affiliate u) = some p) (hw : Thawed ((maturedEntries u now s).map Prod.fst) s w) :
    Booked (ledgerRows w) (update (records w) u (some (p.thaw (maturedEntries u now s)))) := by
  rw [hw.ledgerRows, hw.records]
  exact .thaw h hp now

lemma thaw_of_total_eq_zero {u : ℕ} {now : ℤ} (hp : s (.affiliate u) = some p)
    (hzero : total (maturedEntries u now s) = 0) : p.thaw (maturedEntries u now s) = p := by
  have heq := Booked.thaw_eq h hp now
  have hsum : sumBy (amountIf (·.matured u now)) (ledgerRows s) = 0 := by
    rw [← total_filter]
    exact hzero
  rw [hsum, add_zero, sub_zero] at heq
  exact heq

lemma thawAffiliateFrozenQuotaTx_ensures (u : ℕ) : Ensures (thawAffiliateFrozenQuotaTx u) s fun _ w => InOrder w := by
  refine .bind ((firstAffiliate_ensures u).mono ?_)
  rintro p _ ⟨rfl, hp⟩
  refine .bind (.now fun now => .bind (.select ?_))
  refine .bind ((thawEntries_ensures _).mono fun _ w hw => ?_)
  have hbooked := h.of_thawed hp hw
  refine .ite (fun hzero => .pure ?_) fun _ => ?_
  · -- the record stays as it is, which is what it would be saved as
    have hsame : records w u = some p := (hw.affiliate u).trans hp
    rw [thaw_of_total_eq_zero h hp hzero, ← hsame, update_eq_self] at hbooked
    exact hbooked
  · refine .bind ((saveAffiliate_ensures u _).mono ?_)
    rintro _ _ rfl
    refine .pure ?_
    rw [InOrder, records_update]
    exact hbooked

lemma transferAffiliateUSDToQuotaTx_ensures (u : ℕ) :
    Ensures (transferAffiliateUSDToQuotaTx g u) s fun _ w => InOrder w := by
  refine .bind (.mono (Q := fun _ w => w = s) ?_ ?_)
  · refine .bind (.select ?_)
    cases s (.user u) with
    | none => exact .fail _
    | some user => exact .pure rfl
  rintro user _ rfl
  refine .bind ((firstAffiliate_ensures u).mono ?_)
  rintro p _ ⟨rfl, hp⟩
  refine .bind (.now fun now => .bind (.select ?_))
  refine .bind ((thawEntries_ensures _).mono fun _ w hw => ?_)
  have hbooked := h.of_thawed hp hw
  refine .guard fun _ => .guard fun _ =>
    .guard fun _ => ?_
  refine .bind ((saveUser_ensures u _ _).mono ?_)
  rintro _ _ ⟨v, rfl⟩
  refine .bind ((saveAffiliate_ensures u _).mono ?_)
  rintro _ _ rfl
  refine .bind ((createLedger_ensures _).mono ?_)
  rintro _ _ rfl
  refine .pure ?_
  have hrows : ledgerRows (update w (.user u) v) = ledgerRows w :=
    ledgerRows_congr rfl fun _ => by simp
  have hrecords : records (update w (.user u) v) = records w := funext fun _ => by simp [records]
  have htransfer := hbooked.transfer (update_self u _ _) (w .affLedgerSeq : ℕ)
  rw [InOrder, ledgerRows_created, records_created, ledgerRows_update_affiliate, records_update, hrows, hrecords]
  simpa using htransfer

lemma skipRebate_ensures (topUpId : ℕ) : Ensures (skipRebate topUpId) s fun _ w => InOrder w :=
  .bind ((createAudit_ensures h topUpId .skipped).mono fun _ _ hw => .pure hw)

lemma bookRebate_ensures {u : ℕ} (hp : s (.affiliate u) = some p) {rebate : ℚ}
    (hrebate : 0 ≤ rebate) (topUpId userId : ℕ) :
    Ensures (bookRebate g topUpId userId u p rebate) s fun _ w => InOrder w := by
  refine .bind (.now fun now => .bind ((saveAffiliate_ensures u _).mono ?_))
  rintro _ _ rfl
  refine .bind ((createLedger_ensures _).mono ?_)
  rintro _ _ rfl
  have hfrozen : (if decide (0 < g.rebateFreezeHours) = true then some (now + g.rebateFreezeHours * 3600) else none).isSome =
      decide (0 < g.rebateFreezeHours) := by
    split <;> simp_all
  have hbooked := Booked.accrue h hp (s .affLedgerSeq : ℕ) hrebate
    { userId := u, action := .accrue, amountUSD := rebate, sourceUserId := some userId, sourceTopUpId := some topUpId
      frozenUntil := if decide (0 < g.rebateFreezeHours) = true then some (now + g.rebateFreezeHours * 3600) else none } rfl rfl rfl
  rw [hfrozen] at hbooked
  refine .bind ((createAudit_ensures ?_ topUpId .applied).mono fun _ _ hw => .pure hw)
  rw [InOrder, ledgerRows_created, records_created, ledgerRows_update_affiliate, records_update]
  exact hbooked

end

lemma cutRebate_nonneg {rebate remaining : ℚ} (h : 0 ≤ rebate) (h' : 0 ≤ remaining) : 0 ≤ cutRebate rebate remaining := by
  unfold cutRebate
  split
  · exact h'
  · exact h

lemma capRebate_ensures (h : InOrder s) {u : ℕ} {p : UserAffiliate} (hp : s (.affiliate u) = some p) (rebate : ℚ)
    (topUpId userId : ℕ) : Ensures (capRebate g topUpId userId u p rebate) s fun _ w => InOrder w := by
  refine .ite (fun _ => skipRebate_ensures h topUpId) fun hpos => ?_
  have hrebate : 0 ≤ rebate := (not_le.1 hpos).le
  refine .ite (fun _ => .bind (.select ?_)) fun _ => bookRebate_ensures h hp hrebate _ _
  refine .ite (fun _ => skipRebate_ensures h topUpId) fun hcap => ?_
  exact bookRebate_ensures h hp (cutRebate_nonneg hrebate (sub_nonneg.2 (not_le.1 hcap).le)) _ _

lemma resolveRate_ensures (u : ℕ) (p : UserAffiliate) :
    Ensures (resolveAffiliateRebateRatePercent g u p) s fun _ w => w = s := by
  unfold resolveAffiliateRebateRatePercent
  split
  · exact .pure rfl
  · intro r
    refine ⟨⟨rfl, fun _ _ => rfl⟩, ?_⟩
    dsimp only
    cases s (.user u) with
    | none | some user => exact ⟨rfl, fun _ _ => rfl⟩

lemma accrueForInvitee_ensures (h : InOrder s) (topUpId userId : ℕ) (rechargeUSD : ℚ) (invitee : UserAffiliate) :
    Ensures (accrueForInvitee g topUpId userId rechargeUSD invitee) s fun _ w => InOrder w := by
  refine .ite (fun _ => skipRebate_ensures h topUpId) fun _ => .bind (.now fun now => ?_)
  refine .ite (fun _ => skipRebate_ensures h topUpId) fun _ => ?_
  refine .bind ((firstAffiliate_ensures invitee.inviterId).mono ?_)
  rintro p _ ⟨rfl, hp⟩
  refine .bind ((resolveRate_ensures _ _).mono ?_)
  rintro rate _ rfl
  exact capRebate_ensures h hp _ _ _

end transactions

/-! ### Functions -/

lemma ensureUserAffiliateRecord_keeps (userID : ℕ) : Keeps (ensureUserAffiliateRecord userID) InOrder := by
  refine .ite (fun _ => .fail _) fun _ => ?_
  intro r h
  refine .bind (.select h ?_)
  cases hp : r (.affiliate userID) with
  | some p => exact .pure h
  | none =>
    refine .bind (.now fun now => .bind (.autoRow h (fun _ => ?_) fun v hv => ?_))
    · exact .fail h
    · have hv' : some { createdAt := now } = v := by simpa [ifAbsent, hp] using hv
      subst hv'
      refine .pure ?_
      rw [InOrder, records_update]
      exact .create h hp now

variable (g : AffiliateSettings)

lemma accrueAffiliateRebateForTopUp_keeps (topUpId userId : ℕ) (rechargeUSD : ℚ) :
    Keeps (accrueAffiliateRebateForTopUp g topUpId userId rechargeUSD) InOrder := by
  refine .ite (fun _ => .pure _) fun _ => ?_
  intro r h
  refine .transaction_starts h (.bind (.select h ?_))
  refine .ite (fun _ => .ofEnsures h (.pure h)) fun _ => .bind ?_
  refine (ensureUserAffiliateRecord_keeps userId r h).mono (fun _ h' => h') fun invitee r' h' => ?_
  exact .ofEnsures h' (accrueForInvitee_ensures h' _ _ _ _)

variable (userID inviterID : ℕ)

lemma bindAffiliateInviter_keeps :
    Keeps (bindAffiliateInviter g userID inviterID) InOrder := by
  refine .ite (fun _ => .fail _) fun _ => .ite (fun _ => .pure _) fun _ => ?_
  refine .bind (ensureUserAffiliateRecord_keeps _) fun profile => .ite (fun _ => .pure _) fun _ => ?_
  exact .transaction fun r h => bindAffiliateInviterTx_ensures h _ _

lemma updateUserInviter_keeps :
    Keeps (updateUserInviter g userID inviterID) InOrder := by
  refine .ite (fun _ => .fail _) fun _ => ?_
  have hrest : Keeps (do
      let _ ← ensureUserAffiliateRecord userID
      transaction (updateUserInviterTx g userID inviterID) : Tx Unit) InOrder :=
    .bind (ensureUserAffiliateRecord_keeps _) fun _ => .transaction fun r h => updateUserInviterTx_ensures h _ _
  exact .ite (fun _ => .bind (ensureUserAffiliateRecord_keeps _) fun _ => hrest) fun _ => hrest

inductive AffiliateOp where
  | accrue (topUpId userId : ℕ) (rechargeUSD : ℚ)
  | thaw (userID : ℕ)
  | transfer (userID : ℕ)
  | updateInviter (userID inviterID : ℕ)
  | bindInviter (userID inviterID : ℕ)

def AffiliateOp.run (g : AffiliateSettings) : AffiliateOp → Tx Unit
  | .accrue topUpId userId rechargeUSD => do
    let _ ← accrueAffiliateRebateForTopUp g topUpId userId rechargeUSD
    pure ()
  | .thaw userID => do
    let _ ← thawAffiliateFrozenQuota userID
    pure ()
  | .transfer userID => do
    let _ ← transferAffiliateUSDToQuota g userID
    pure ()
  | .updateInviter userID inviterID => updateUserInviter g userID inviterID
  | .bindInviter userID inviterID => do
    let _ ← bindAffiliateInviter g userID inviterID
    pure ()

lemma AffiliateOp.keeps (op : AffiliateOp) : Keeps (op.run g) InOrder := by
  cases op with
  | accrue topUpId userId rechargeUSD =>
    exact .bind (accrueAffiliateRebateForTopUp_keeps _ _ _ _) fun _ => .pure _
  | thaw userID =>
    exact .bind (.transaction fun r h => thawAffiliateFrozenQuotaTx_ensures h userID) fun _ => .pure _
  | transfer userID =>
    refine .bind (.ite (fun _ => .fail _) fun _ => ?_) fun _ => .pure _
    exact .transaction fun r h => transferAffiliateUSDToQuotaTx_ensures h userID
  | updateInviter userID inviterID => exact updateUserInviter_keeps _ _ _
  | bindInviter userID inviterID => exact .bind (bindAffiliateInviter_keeps _ _ _) fun _ => .pure _

/-! ### Sequences of operations -/

def affiliateRun (r : Snap schema) (ops : List (Oracle × AffiliateSettings × AffiliateOp)) : Snap schema :=
  ops.foldl (fun r op => (Prog.exec op.1 (op.2.2.run op.2.1) (Solo.init r)).2.rows) r

lemma affiliateRun_inOrder {r : Snap schema} (h : InOrder r) (ops : List (Oracle × AffiliateSettings × AffiliateOp)) :
    InOrder (affiliateRun r ops) := by
  induction ops generalizing r with
  | nil => exact h
  | cons op ops ih => exact ih ((AffiliateOp.keeps op.2.1 op.2.2).exec op.1 h)

structure EmptyLedger (r : Snap schema) : Prop where
  entries : ledgerRows r = []
  zero : ∀ u p, r (.affiliate u) = some p →
    p.affQuotaUSD = 0 ∧ p.affFrozenQuotaUSD = 0 ∧ p.affHistoryQuotaUSD = 0

lemma EmptyLedger.inOrder {r : Snap schema} (h : EmptyLedger r) : InOrder r := by
  unfold InOrder
  rw [h.entries]
  refine ⟨fun u p hp => ?_, fun u p hp => ?_, fun _ he => (nomatch he), fun _ he => (nomatch he)⟩
  · obtain ⟨hquota, hfrozen, hhistory⟩ := h.zero u p hp
    simp [hquota, hfrozen, hhistory]
  · simp [(h.zero u p hp).2.1]

def transferredOut (userID : ℕ) (s : Snap schema) : ℚ := total ((ledgerRows s).filter fun e => e.2.isTransfer userID)

def stillFrozen (userID : ℕ) (s : Snap schema) : ℚ := total ((ledgerRows s).filter fun e => e.2.isFrozen userID)

/-- **The books balance** after any operations from an empty ledger, and the frozen balance that thawing leaves at any time need
not be cut off at zero. -/
theorem affiliate_books_balance (r : Snap schema) (h : EmptyLedger r)
    (ops : List (Oracle × AffiliateSettings × AffiliateOp)) (userID : ℕ) (profile : UserAffiliate)
    (hp : affiliateRun r ops (.affiliate userID) = some profile) :
    profile.affHistoryQuotaUSD =
        profile.affQuotaUSD + profile.affFrozenQuotaUSD + transferredOut userID (affiliateRun r ops) ∧
      profile.affFrozenQuotaUSD = stillFrozen userID (affiliateRun r ops) ∧
      ∀ now, 0 ≤ profile.unclamped (maturedEntries userID now (affiliateRun r ops)) := by
  have hbooked := affiliateRun_inOrder h.inOrder ops
  unfold transferredOut stillFrozen
  rw [total_filter (UserAffiliateLedger.isTransfer userID), total_filter (UserAffiliateLedger.isFrozen userID)]
  exact ⟨hbooked.history userID profile hp, hbooked.frozen userID profile hp,
    fun now => hbooked.unclamped_nonneg hp now⟩

/-! ### An inviter with two rebates -/

def inviterRows : Snap schema
  | .user u => if u = 1 ∨ u = 2 then some { } else none
  | .affiliate u => if u = 1 then some { } else if u = 2 then some { inviterId := 1 } else none
  | k => noRows k

/-- A rebate that is frozen for an hour, one that is not, and a transfer before the first is thawed. -/
def twoRebates : List (Oracle × AffiliateSettings × AffiliateOp) :=
  [(.calm 0, { rebateRate := 10, rebateFreezeHours := 1 }, .accrue 7 2 10), (.calm 10, { rebateRate := 10 }, .accrue 8 2 20),
    (.calm 20, { }, .transfer 1)]

lemma inviterRows_emptyLedger : EmptyLedger inviterRows := by
  refine ⟨by decide, fun u p hp => ?_⟩
  unfold inviterRows at hp
  dsimp only at hp
  split_ifs at hp <;> cases hp <;> exact ⟨rfl, rfl, rfl⟩

lemma twoRebates_inviter :
    affiliateRun inviterRows twoRebates (.affiliate 1) = some { affFrozenQuotaUSD := 1, affHistoryQuotaUSD := 3 } := by
  decide +kernel

theorem affiliate_books_balance_twoRebates :
    (affiliateRun inviterRows twoRebates (.user 1)).map User.quota = some 1000000 ∧
      (3 : ℚ) = 0 + 1 + transferredOut 1 (affiliateRun inviterRows twoRebates) ∧
      (1 : ℚ) = stillFrozen 1 (affiliateRun inviterRows twoRebates) := by
  obtain ⟨hhistory, hfrozen, -⟩ :=
    affiliate_books_balance inviterRows inviterRows_emptyLedger twoRebates 1 _ twoRebates_inviter
  exact ⟨by decide +kernel, hhistory, hfrozen⟩

end StarNexus.Account
