import StarNexus.Session.Lifecycle
import StarNexus.Session.Purse

/-!
# Sessions without a billing transaction

The balance functions move the level of a session as their names say, and the methods of a session that has no row in
`billing_transactions` follow `Phase.nextUnguarded`: `Settle` does not look at `refunded`.
-/

namespace StarNexus.Session

open Lib Lib.Tx Model Service Ledger BillingSession Function Phase

/-- No record of a pre-consumption has changed. -/
def SameRecords (s s' : Snap schema) : Prop := ∀ q, s' (.preConsumeRecord q) = s (.preConsumeRecord q)

/-- Nothing but tokens has changed. -/
def OnlyTokens (s s' : Snap schema) : Prop := ∀ k, (∀ n, k ≠ .token n) → s' k = s k

lemma OnlyTokens.update (s : Snap schema) (n : ℕ) (v : Val (.token n)) :
    OnlyTokens s (update s (.token n) v) := fun _ hk => update_of_ne (hk n) _ _

variable {c : Cause} {delta : ℤ}

section moves

variable {p : Purse} {start s : Snap schema} {used f t : ℤ}

section

variable (h : Level p start used f t s)

include h

lemma addUserQuota_level (hsrc : p.source = .wallet) (hc : p.mine c = true) (delta : ℤ) :
    Yields (addUserQuota c p.holder delta) s (fun _ => True) fun _ s' =>
      Level p start used (f - delta) t s' ∧ SameRecords s s' := by
  obtain ⟨x, hx⟩ := h.backed_user hsrc
  refine .bind (.autoRow trivial (fun hnone => ?_) fun v hv => .pure ?_)
  · simp [onRow, hx] at hnone
  · obtain rfl : some (x.add c delta) = v := by simpa [onRow, hx] using hv
    exact ⟨h.addUser hsrc hx hc delta, fun _ => rfl⟩

lemma addTokenQuota_level {n : ℕ} (hn : p.token = some n) (hc : p.mine c = true) (delta : ℤ) :
    Yields (addTokenQuota c n delta) s (fun _ => True) fun _ s' =>
      Level p start used f (t - delta) s' ∧ OnlyTokens s s' := by
  obtain ⟨x, hx⟩ := h.token n hn
  refine .bind (.now fun z => .bind (.autoRow trivial (fun hnone => ?_) fun v hv => .pure ?_))
  · simp [onRow, hx] at hnone
  · obtain rfl : some (x.add c delta z) = v := by simpa [onRow, hx] using hv
    exact ⟨h.addToken hn hx hc delta z, .update s n _⟩

lemma Level.consume (hsrc : p.source = .subscription) {sub : UserSubscription}
    (hsub : s (.subscription p.holder) = some sub) (hc : p.mine c = true) (delta : ℤ) :
    Level p start used (p.floor used (f + delta)) t
      (update s (.subscription p.holder) (some (sub.setUsed c (max 0 (sub.amountUsed + delta))))) := by
  obtain ⟨sub', hsub', hused⟩ := h.backed_used hsrc
  obtain rfl : sub = sub' := by simpa [hsub] using hsub'
  have hlevel := h.setUsed hsrc hsub hc (max 0 (sub.amountUsed + delta))
  have heq : max 0 (sub.amountUsed + delta) - used = p.floor used (f + delta) := by
    simp only [Purse.floor, hsrc]
    omega
  rwa [heq] at hlevel

lemma postConsumeUserSubscriptionDelta_level (hsrc : p.source = .subscription) (hc : p.mine c = true) (hd : delta ≠ 0) :
    Yields (postConsumeUserSubscriptionDelta (fun _ => c) p.holder delta) s (fun _ => True) fun _ s' =>
      p.holder ≠ 0 ∧ Level p start used (p.floor used (f + delta)) t s' ∧ SameRecords s s' := by
  refine .guard trivial fun _ => .ite (fun h0 => absurd h0 hd) fun _ => ?_
  refine .transaction trivial ((postConsumeUserSubscriptionDeltaTx_writes _ _ delta s).mono fun _ s' hs' => ?_)
  obtain ⟨hid, ⟨h0, -⟩ | ⟨sub, hsub, rfl, -⟩⟩ := hs'
  · exact absurd h0 hd
  · exact ⟨hid, h.consume hsrc hsub hc delta, fun _ => rfl⟩

lemma adjustUser_level (hsrc : p.source = .wallet) (hc : p.mine c = true) (delta : ℤ) :
    Yields (if 0 < delta then decreaseUserQuota c p.holder delta else increaseUserQuota c p.holder (-delta)) s
      (fun _ => True) fun _ s' => Level p start used (f + delta) t s' ∧ SameRecords s s' := by
  have hadd := addUserQuota_level h hsrc hc (-delta)
  rw [sub_neg_eq_add] at hadd
  refine .ite (fun _ => .guard trivial fun _ => hadd) fun _ => ?_
  exact .guard trivial fun _ => hadd

lemma adjustToken_level {n : ℕ} (hn : p.token = some n) (hc : p.mine c = true) (delta : ℤ) :
    Yields (if 0 < delta then decreaseTokenQuota c n delta else increaseTokenQuota c n (-delta)) s
      (fun _ => True) fun _ s' => Level p start used f (t + delta) s' ∧ OnlyTokens s s' := by
  have hadd := addTokenQuota_level h hn hc (-delta)
  rw [sub_neg_eq_add] at hadd
  refine .ite (fun _ => .guard trivial fun _ => hadd) fun _ => ?_
  exact .guard trivial fun _ => hadd

lemma Level.anyCharge (hnone : p.token = none) (t' : ℤ) : Level p start used f t' s :=
  ⟨h.funding, fun hsome => by simp [hnone] at hsome, h.backed, h.token⟩

end

end moves

/-! ### What a session knows -/

/-- The session draws on the purse and has no billing transaction. -/
structure Tied (p : Purse) (ses : BillingSession) : Prop where
  plain : ses.durableTxID = 0
  mine : p.mine .session = true
  trusted : ses.trusted = p.trusted
  token : p.token = if ses.relayInfo.isPlayground then none else some ses.relayInfo.tokenId
  source : match ses.funding with
    | .wallet userId _ => p.source = .wallet ∧ p.holder = userId
    | .subscription _ _ _ subscriptionId _ => p.source = .subscription ∧ p.holder = subscriptionId

lemma Tied.funded {p : Purse} {ses : BillingSession} (h : Tied p ses) :
    (p.source = .wallet ∧ ∃ consumed, ses.funding = .wallet p.holder consumed) ∨
      (p.source = .subscription ∧
        ∃ requestId userId own preConsumed, ses.funding = .subscription requestId userId own p.holder preConsumed) := by
  have hsource := h.source
  cases hfunding : ses.funding with
  | wallet userId consumed =>
    rw [hfunding] at hsource
    exact .inl ⟨hsource.1, consumed, by rw [hsource.2]⟩
  | subscription requestId userId own subscriptionId preConsumed =>
    rw [hfunding] at hsource
    exact .inr ⟨hsource.1, requestId, userId, own, preConsumed, by rw [hsource.2]⟩

/-- What a session that holds `r` has taken from its source. -/
def Stocked (ses : BillingSession) (r : ℤ) (s : Snap schema) : Prop :=
  match ses.funding with
  | .wallet _ consumed => consumed = r
  | .subscription requestId _ _ subscriptionId preConsumed =>
    0 < preConsumed ∧ 0 ≤ ses.extraReserved ∧ r = preConsumed + ses.extraReserved ∧
      (0 < ses.extraReserved → subscriptionId ≠ 0) ∧ ses.subscriptionId = subscriptionId ∧
      ∃ record, s (.preConsumeRecord requestId) = some record ∧ record.refunded = false ∧
        record.preConsumed = preConsumed ∧ record.userSubscriptionId = subscriptionId

/-- Neither settled nor refunded: `r` is reserved, on the source and on the token. -/
structure Opened (p : Purse) (start : Snap schema) (used r : ℤ) (ses : BillingSession) (s : Snap schema) : Prop where
  tied : Tied p ses
  settled : ses.settled = false
  refunded : ses.refunded = false
  fundingSettled : ses.fundingSettled = false
  preConsumed : ses.preConsumedQuota = r
  tokenConsumed : ses.tokenConsumed = r
  nonneg : 0 ≤ r
  level : Level p start used r r s
  stocked : Stocked ses r s

/-- The session and the database agree with the phase. -/
def At (p : Purse) (start : Snap schema) (used : ℤ) (ses : BillingSession) (s : Snap schema) : Phase → Prop
  | .opened r => Opened p start used r ses s
  | .settled x => Tied p ses ∧ ses.settled = true ∧ Level p start used (p.floor used x) x s
  | .refunded r => Tied p ses ∧ ses.settled = false ∧ ses.refunded = true ∧ ses.fundingSettled = false ∧
      ses.preConsumedQuota = r ∧ Level p start used 0 0 s

/-- Without an error, the session has come to the phase. -/
def Reaches (p : Purse) (start : Snap schema) (used : ℤ) (phase : Phase) (out : BillingSession × List Err)
    (s : Snap schema) : Prop := out.2 = [] → At p start used out.1 s phase

section methods

variable {p : Purse} {start s : Snap schema} {used r f t : ℤ} {ses : BillingSession}

lemma Purse.floor_of_nonneg (p : Purse) (hused : 0 ≤ used) {x : ℤ} (hx : 0 ≤ x) : p.floor used x = x := by
  unfold Purse.floor
  split
  · rfl
  · omega

/-! ### Settle -/

lemma settleFunding_level (htied : Tied p ses) (hfree : ses.fundingSettled = false) (h : Level p start used f t s)
    (hd : delta ≠ 0) :
    Yields (ses.settleFunding delta) s (fun _ => True) fun _ s' => Level p start used (p.floor used (f + delta)) t s' := by
  refine .ite (fun hset => absurd hset (by simp [hfree])) fun _ => ?_
  rcases htied.funded with ⟨hsrc, consumed, hfunding⟩ | ⟨hsrc, requestId, userId, own, preConsumed, hfunding⟩
  · simp only [hfunding]
    refine .ite (fun h0 => absurd h0 hd) fun _ => ?_
    refine (adjustUser_level h hsrc htied.mine delta).post fun _ s' hs' => ?_
    simpa only [Purse.floor, hsrc] using hs'.1
  · simp only [hfunding]
    refine .ite (fun h0 => absurd h0 hd) fun _ => ?_
    exact (postConsumeUserSubscriptionDelta_level h hsrc htied.mine hd).post fun _ s' hs' => hs'.2.1

lemma settleToken_level (htied : Tied p ses) (h : Level p start used f t s) (delta : ℤ) :
    Yields (ses.settleToken delta) s (fun _ => True) fun _ s' => Level p start used f (t + delta) s' := by
  have htoken := htied.token
  refine .ite (fun hpg => ?_) fun hpg => ?_
  · rw [if_pos hpg] at htoken
    exact .pure (h.anyCharge htoken _)
  · rw [if_neg hpg] at htoken
    exact (adjustToken_level h htoken htied.mine delta).post fun _ s' hs' => hs'.1

lemma settle_moves (htied : Tied p ses) (hopen : ses.settled = false) (hfree : ses.fundingSettled = false)
    (hpre : ses.preConsumedQuota = r) (hf : p.floor used f = f) (h : Level p start used f t s) (a : ℤ) :
    Yields (ses.settle a) s (fun _ => True) fun out s' => out.2 = [] →
      Tied p out.1 ∧ out.1.settled = true ∧ Level p start used (p.floor used (f + (a - r))) (t + (a - r)) s' := by
  unfold settle
  rw [hpre]
  refine .ite (fun hset => absurd hset (by simp [hopen])) fun _ => ?_
  refine .ite (fun hdur => absurd hdur (by simp [htied.plain])) fun _ => .ite (fun h0 => ?_) fun hd => ?_
  · refine .pure fun _ => ⟨{ htied with }, rfl, ?_⟩
    rw [h0, add_zero, add_zero, hf]
    exact h
  refine .bind (.attempt ((settleFunding_level htied hfree h hd).mono (fun s' _ e => ?_) fun _ s' h' => ?_))
  · exact .pure nofun
  refine .bind (.attempt ((settleToken_level htied h' _).mono (fun s'' _ e => ?_) fun _ s'' h'' => ?_))
  · exact .pure nofun
  · exact .pure fun _ => ⟨{ htied with }, rfl, h''⟩

variable {phase : Phase}

/-- `Settle`, which charges a refunded session as well. -/
lemma settle_reaches (hused : 0 ≤ used) (h : At p start used ses s phase) (a : ℤ) :
    Yields (ses.settle a) s (fun _ => True) (Reaches p start used (phase.nextUnguarded p.trusted (.settle a))) := by
  cases phase with
  | settled x =>
    obtain ⟨htied, hset, hlevel⟩ := h
    exact .ite (fun _ => .pure fun _ => ⟨htied, hset, hlevel⟩) fun hns => absurd hset hns
  | opened r =>
    refine (settle_moves h.tied h.settled h.fundingSettled h.preConsumed (p.floor_of_nonneg hused h.nonneg) h.level
      a).post fun out s' hout hnil => ?_
    obtain ⟨htied, hset, hlevel⟩ := hout hnil
    rw [add_sub_cancel] at hlevel
    exact ⟨htied, hset, hlevel⟩
  | refunded r =>
    obtain ⟨htied, hns, -, hfree, hpre, hlevel⟩ := h
    refine (settle_moves htied hns hfree hpre (p.floor_of_nonneg hused le_rfl) hlevel a).post fun out s' hout hnil => ?_
    obtain ⟨htied', hset, hlevel'⟩ := hout hnil
    rw [zero_add] at hlevel'
    exact ⟨htied', hset, hlevel'⟩

/-! ### Refund -/

lemma refundWithRetry_yields {fn : Model.Tx Unit} {Q : Unit → Snap schema → Prop}
    (h : Yields fn s (fun s' => s' = s) Q) (retries : ℕ) : Yields (refundWithRetry fn retries) s (fun s' => s' = s) Q := by
  induction retries with
  | zero => exact h
  | succ retries ih =>
    refine .bind (.attempt (h.mono (fun s' hs' e => ?_) fun _ s' hs' => ?_))
    · rw [hs']
      exact ih
    · exact .pure hs'

lemma refundSubscriptionPreConsume_level (h : Level p start used f t s) (hsrc : p.source = .subscription)
    (hc : p.mine c = true) {requestId : String} {record : PreConsumeRecord}
    (hrecord : s (.preConsumeRecord requestId) = some record) (hopen : record.refunded = false)
    (hpos : 0 < record.preConsumed) (hid : record.userSubscriptionId = p.holder) :
    Yields (refundSubscriptionPreConsume (fun _ => c) requestId) s (fun s' => s' = s) fun _ s' =>
      Level p start used (p.floor used (f - record.preConsumed)) t s' := by
  refine .guard rfl fun _ => .transaction rfl ?_
  refine .bind (.row_of rfl ?_)
  rw [update_eq_self]
  refine .bind (.select ?_)
  simp only [hrecord]
  refine .ite (fun hr => absurd hr (by simp [hopen])) fun _ => .ite (fun hle => by omega) fun _ => ?_
  rw [hid]
  refine .bind ((postConsumeUserSubscriptionDeltaTx_writes _ _ _ s).mono fun _ s' hs' => ?_)
  obtain ⟨-, ⟨h0, -⟩ | ⟨sub, hsub, rfl, -⟩⟩ := hs'
  · omega
  · have hlevel := h.consume hsrc hsub hc (-record.preConsumed)
    refine .bind (.row (fun _ => .pure hlevel) fun v _ => .pure ?_)
    exact hlevel.write (k := .preConsumeRecord requestId) v rfl

/-- What remains of a session's funding after the refund of the source itself. -/
def extraPart (ses : BillingSession) : ℤ :=
  match ses.funding with
  | .wallet _ _ => 0
  | .subscription _ _ _ _ _ => ses.extraReserved

lemma refundFunding_level (hused : 0 ≤ used) (h : Opened p start used r ses s) (hr : 0 < r) :
    Yields ses.funding.refund s (fun _ => True) fun _ s' => Level p start used (extraPart ses) r s' := by
  have hstock := h.stocked
  unfold Stocked at hstock
  unfold extraPart
  rcases h.tied.funded with ⟨hsrc, consumed, hfunding⟩ | ⟨hsrc, requestId, userId, own, preConsumed, hfunding⟩
  · simp only [hfunding] at hstock ⊢
    subst hstock
    refine .ite (fun hle => by omega) fun _ => .ite (fun hneg => by omega) fun _ => ?_
    refine (addUserQuota_level h.level hsrc h.tied.mine consumed).post fun _ s' hs' => ?_
    rw [sub_self] at hs'
    exact hs'.1
  · simp only [hfunding] at hstock ⊢
    obtain ⟨hpos, hextra, hr', -, -, record, hrecord, hopen, rfl, hid⟩ := hstock
    refine .ite (fun hle => by omega) fun _ => ?_
    refine (refundWithRetry_yields (refundSubscriptionPreConsume_level h.level hsrc h.tied.mine hrecord hopen hpos hid)
      2).mono (fun _ _ => trivial) fun _ s' hs' => ?_
    have heq : p.floor used (r - record.preConsumed) = ses.extraReserved := by
      rw [hr', add_sub_cancel_left]
      exact p.floor_of_nonneg hused hextra
    rwa [heq] at hs'

lemma refundExtra_level (hused : 0 ≤ used) (h : Opened p start used r ses s) {s' : Snap schema}
    (hlevel : Level p start used (extraPart ses) t s') :
    Yields ses.refundExtra s' (fun _ => True) fun _ s'' => Level p start used 0 t s'' := by
  have hstock := h.stocked
  unfold Stocked at hstock
  unfold extraPart at hlevel
  unfold refundExtra
  rcases h.tied.funded with ⟨hsrc, consumed, hfunding⟩ | ⟨hsrc, requestId, userId, own, preConsumed, hfunding⟩
  · simp only [hfunding] at hlevel ⊢
    exact .pure hlevel
  · simp only [hfunding] at hlevel hstock ⊢
    obtain ⟨-, hextra, -, hid, hsync, -⟩ := hstock
    refine .ite (fun hpos => ?_) fun hnot => .pure ?_
    · rw [hsync]
      refine (postConsumeUserSubscriptionDelta_level hlevel hsrc h.tied.mine (by omega)).post fun _ s'' hs'' => ?_
      have hzero := hs''.2.1
      rwa [add_neg_cancel, p.floor_of_nonneg hused le_rfl] at hzero
    · have hzero : ses.extraReserved = 0 := by
        omega
      rwa [hzero] at hlevel

lemma refundToken_level (htied : Tied p ses) (hr : 0 < r) (htok : ses.tokenConsumed = r)
    (hlevel : Level p start used f r s) :
    Yields ses.refundToken s (fun _ => True) fun _ s' => Level p start used f 0 s' := by
  have htoken := htied.token
  unfold refundToken
  rw [htok]
  refine .ite (fun hpg => ?_) fun hpg => .pure ?_
  · rw [if_neg (by simp [hpg.2])] at htoken
    refine .ite (fun hneg => by omega) fun _ => ?_
    refine (addTokenQuota_level hlevel htoken htied.mine r).post fun _ s' hs' => ?_
    rw [sub_self] at hs'
    exact hs'.1
  · have hplay : ses.relayInfo.isPlayground = true := by
      cases hp : ses.relayInfo.isPlayground with
      | true => rfl
      | false => exact absurd ⟨hr, hp⟩ hpg
    rw [if_pos hplay] at htoken
    exact hlevel.anyCharge htoken 0

lemma postConsumeUserSubscriptionDelta_any (why : Why) (id : ℕ) (delta : ℤ) :
    Keeps (postConsumeUserSubscriptionDelta why id delta) fun _ => True := by
  refine .ite (fun _ => .fail _) fun _ => .ite (fun _ => .pure _) fun _ => ?_
  exact .transaction fun s' _ => (postConsumeUserSubscriptionDeltaTx_writes _ _ _ s').mono fun _ _ _ => trivial

lemma refundExtra_any (ses : BillingSession) : Keeps ses.refundExtra fun _ => True := by
  unfold refundExtra
  split
  · exact .pure _
  · exact .ite (fun _ => postConsumeUserSubscriptionDelta_any _ _ _) fun _ => .pure _

lemma rollbackReserve_any (funding : Funding) (delta : ℤ) : Keeps (funding.rollbackReserve delta) fun _ => True := by
  cases funding with
  | wallet userId consumed =>
    refine .bind (.ite (fun _ => .fail _) fun _ => ?_) fun _ => .pure _
    exact .bind (.execAuto fun _ _ => trivial) fun _ => .pure _
  | subscription requestId userId own subscriptionId preConsumed =>
    exact .bind (postConsumeUserSubscriptionDelta_any _ _ _) fun _ => .pure _

lemma refundToken_any (ses : BillingSession) : Keeps ses.refundToken fun _ => True := by
  refine .ite (fun _ => .ite (fun _ => .fail _) fun _ => ?_) fun _ => .pure _
  exact .bind .now fun _ => .bind (.execAuto fun _ _ => trivial) fun _ => .pure _

lemma Opened.needsRefund (h : Opened p start used r ses s) : ses.needsRefund = decide (0 < r) := by
  have hstock := h.stocked
  unfold Stocked at hstock
  unfold BillingSession.needsRefund
  simp only [h.refunded, h.fundingSettled, h.settled, h.tokenConsumed, Bool.false_and]
  by_cases hr : 0 < r
  · simp [hr]
  · cases hfunding : ses.funding with
    | wallet userId consumed => simp
    | subscription requestId userId own subscriptionId preConsumed =>
      rw [hfunding] at hstock
      omega

lemma refund_returns (hused : 0 ≤ used) (h : Opened p start used r ses s) (hr : 0 < r) :
    Yields (do
      let fundingErr ← attempt ses.funding.refund
      let extraErr ← attempt ses.refundExtra
      let tokenErr ← attempt ses.refundToken
      pure ({ ses with refunded := true }, errorsOf fundingErr ++ errorsOf extraErr ++ errorsOf tokenErr))
      s (fun _ => True) (Reaches p start used (.refunded r)) := by
  have hany : ∀ s', Yields (attempt ses.refundToken) s' (fun _ => True) fun _ _ => True :=
    fun s' => (refundToken_any ses).attempt s' trivial
  -- once a part has failed, its error is in the list that is returned
  refine .bind (.attempt ((refundFunding_level hused h hr).mono (fun s₁ _ e => ?_) fun _ s₁ h₁ => ?_))
  · refine .bind (((refundExtra_any ses).attempt s₁ trivial).post fun extraErr s₂ _ => ?_)
    exact .bind ((hany s₂).post fun _ _ _ => .pure fun hnil => by simp [errorsOf] at hnil)
  refine .bind (.attempt ((refundExtra_level hused h h₁).mono (fun s₂ _ e => ?_) fun _ s₂ h₂ => ?_))
  · exact .bind ((hany s₂).post fun _ _ _ => .pure fun hnil => by simp [errorsOf] at hnil)
  refine .bind (.attempt ((refundToken_level h.tied hr h.tokenConsumed h₂).mono (fun s₃ _ e => ?_)
    fun _ s₃ h₃ => ?_))
  · exact .pure fun hnil => by simp [errorsOf] at hnil
  · exact .pure fun _ => ⟨{ h.tied with }, h.settled, rfl,
      h.fundingSettled, h.preConsumed, h₃⟩

lemma refund_reaches (hused : 0 ≤ used) (h : At p start used ses s phase)
    (owner : String) :
    Yields (ses.refund owner) s (fun _ => True) (Reaches p start used (phase.nextUnguarded p.trusted .refund)) := by
  cases phase with
  | settled x =>
    have hdone : (ses.refunded || !ses.needsRefund) = true := by
      simp [BillingSession.needsRefund, h.2.1, h.1.plain]
    exact .ite (fun _ => .pure fun _ => h) fun hn => absurd hdone hn
  | refunded r =>
    exact .ite (fun _ => .pure fun _ => h) fun hn => absurd (by simp [h.2.2.1]) hn
  | opened r =>
    have hneeds := Opened.needsRefund h
    refine .ite (fun hno => .pure fun _ => ?_) fun hyes => ?_
    · have hr : ¬0 < r := by simpa [hneeds, Opened.refunded h] using hno
      simp only [nextUnguarded, next, if_neg hr]
      exact h
    · have hr : 0 < r := by simpa [hneeds, Opened.refunded h] using hyes
      refine .ite (fun hdur => absurd hdur (by simp [(Opened.tied h).plain])) fun _ => ?_
      simp only [nextUnguarded, next, if_pos hr]
      exact refund_returns hused h hr

/-! ### Reserve -/

lemma preConsumeTokenQuota_level (h : Level p start used f t s) {info : RelayInfo} {n : ℕ} (hn : p.token = some n)
    (hinfo : info.tokenId = n) (hplay : info.isPlayground = false) (hmine : p.mine .session = true) (quota : ℤ) :
    Yields (preConsumeTokenQuota info quota) s (fun _ => True) fun _ s' =>
      Level p start used f (t + quota) s' ∧ OnlyTokens s s' := by
  refine .guard trivial fun hq => .ite (fun hp => absurd hp (by simp [hplay])) fun _ => ?_
  refine .bind (.select trivial ?_)
  split
  · exact .fail trivial
  · refine .guard trivial fun _ => ?_
    unfold decreaseTokenQuota
    rw [hinfo, if_neg hq]
    have hadd := addTokenQuota_level h hn hmine (-quota)
    rwa [sub_neg_eq_add] at hadd

lemma reserveToken_level (htied : Tied p ses) (h : Level p start used f t s) (hd : 0 < delta) :
    Yields (ses.reserveToken delta) s (fun _ => True) fun _ s' =>
      Level p start used f (t + delta) s' ∧ OnlyTokens s s' := by
  have htoken := htied.token
  refine .ite (fun hskip => .pure ⟨?_, fun _ _ => rfl⟩) fun hno => ?_
  · have hplay : ses.relayInfo.isPlayground = true := hskip.resolve_left (by omega)
    rw [if_pos hplay] at htoken
    exact h.anyCharge htoken _
  · have hplay : ses.relayInfo.isPlayground = false := by simpa using (not_or.1 hno).2
    rw [if_neg (by simp [hplay])] at htoken
    exact preConsumeTokenQuota_level h htoken rfl hplay htied.mine delta

lemma reserveFunding_level (hused : 0 ≤ used) (h : Opened p start used r ses s) (hd : 0 < delta) :
    Yields (ses.funding.reserve delta) s (fun _ => True) fun funding s' =>
      Level p start used (r + delta) r s' ∧
        ∀ s'', Level p start used (r + delta) (r + delta) s'' → SameRecords s' s'' →
          Opened p start used (r + delta) (ses.reserved funding delta) s'' := by
  have htied := h.tied
  have hstock := h.stocked
  have hnonneg := h.nonneg
  have hpre : ses.preConsumedQuota + delta = r + delta := by rw [h.preConsumed]
  have htok : ses.tokenConsumed + delta = r + delta := by rw [h.tokenConsumed]
  unfold Stocked at hstock
  rcases htied.funded with ⟨hsrc, consumed, hfunding⟩ | ⟨hsrc, requestId, userId, own, preConsumed, hfunding⟩
  · simp only [hfunding] at hstock ⊢
    subst hstock
    refine .bind ?_
    refine .guard trivial fun _ => ?_
    refine (addUserQuota_level h.level hsrc htied.mine _).post fun _ s' hs' => .pure ?_
    rw [sub_neg_eq_add] at hs'
    refine ⟨hs'.1, fun s'' hlevel _ => ?_⟩
    exact ⟨{ htied with source := ⟨hsrc, rfl⟩ }, h.settled, h.refunded, h.fundingSettled,
      hpre, htok, by omega, hlevel, rfl⟩
  · simp only [hfunding] at hstock ⊢
    obtain ⟨hpos, hextra, hsum, -, -, record, hrecord, hopen, hamount, hid⟩ := hstock
    refine .bind ?_
    refine (postConsumeUserSubscriptionDelta_level h.level hsrc htied.mine (by omega)).post fun _ s' hs' => .pure ?_
    obtain ⟨hholder, hlevel', hsame⟩ := hs'
    rw [p.floor_of_nonneg hused (by omega)] at hlevel'
    refine ⟨hlevel', fun s'' hlevel hsame' => ?_⟩
    refine ⟨{ htied with source := ⟨hsrc, rfl⟩ }, h.settled, h.refunded, h.fundingSettled,
      hpre, htok, by omega, hlevel, ?_⟩
    have hsum' : r + delta = preConsumed + (ses.extraReserved + delta) := by omega
    exact ⟨hpos, add_nonneg hextra hd.le, hsum', fun _ => hholder, rfl, record,
      (hsame' requestId).trans ((hsame requestId).trans hrecord), hopen, hamount, hid⟩

lemma reserve_reaches (hused : 0 ≤ used) (h : At p start used ses s phase) (target : ℤ) :
    Yields (ses.reserve target) s (fun _ => True)
      (Reaches p start used (phase.nextUnguarded p.trusted (.reserve target))) := by
  cases phase with
  | settled x => exact .ite (fun _ => .pure fun _ => h) fun hn => absurd (.inl h.2.1) hn
  | refunded r => exact .ite (fun _ => .pure fun _ => h) fun hn => absurd (.inr (.inl h.2.2.1)) hn
  | opened r =>
    have hopen : Opened p start used r ses s := h
    have htrust := hopen.tied.trusted
    refine .ite (fun hskip => .pure fun _ => ?_) fun hgo => ?_
    · have hskip' : p.trusted = true ∨ target ≤ r := by
        simpa [hopen.settled, hopen.refunded, htrust, hopen.preConsumed] using hskip
      simp only [nextUnguarded, next, if_pos hskip']
      exact hopen
    have hgo' : ¬(p.trusted = true ∨ target ≤ r) := by
      simpa [hopen.settled, hopen.refunded, htrust, hopen.preConsumed] using hgo
    have hd : 0 < target - ses.preConsumedQuota := by
      omega
    have htarget : r + (target - ses.preConsumedQuota) = target := by
      rw [hopen.preConsumed]
      omega
    simp only [nextUnguarded, next, if_neg hgo']
    refine .ite (fun hdur => absurd hdur (by simp [hopen.tied.plain])) fun _ => ?_
    refine .bind (.attempt ((reserveFunding_level hused hopen hd).mono (fun _ _ e => ?_)
      fun funding s' hs' => ?_))
    · exact .pure fun hnil => by cases hnil
    obtain ⟨hlevel, hdone⟩ := hs'
    refine .bind (.attempt ((reserveToken_level hopen.tied hlevel hd).mono (fun s'' _ e => ?_)
      fun _ s'' hs'' => ?_))
    · -- the rollback of the funding leaves an error in the list
      refine .bind ((rollbackReserve_any funding _).attempt s'' trivial |>.post fun back _ _ => ?_)
      split <;> exact .pure fun hnil => by cases hnil
    · refine .pure fun _ => ?_
      have hfinal := hdone s'' hs''.1 fun q => hs''.2 (.preConsumeRecord q) (by simp)
      rw [htarget] at hfinal
      exact hfinal

end methods

end StarNexus.Session
