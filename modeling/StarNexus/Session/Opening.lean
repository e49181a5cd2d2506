import StarNexus.Session.Durable

/-!
# Opening a session

Every way in which `PreConsumeBilling` opens a session leaves it open with what it has pre-consumed.  The user and
the token are known (the request was authenticated), and the request's id has not been used for a subscription before.
-/

namespace StarNexus.Session

open Lib Lib.Tx Model Service Ledger BillingSession Function UserSubscription

/-! ### Pre-consuming from a subscription -/

/-- What `preConsumeUserSubscriptionTx` leaves for a request that has no record yet. -/
structure Subscribed (start : Snap schema) (c : Cause) (requestId : String) (amount : ℤ) (result : PreConsumeResult)
    (s : Snap schema) : Prop where
  amount_eq : result.preConsumed = amount
  record : ∃ record, s (.preConsumeRecord requestId) = some record ∧ record.refunded = false ∧
    record.preConsumed = amount ∧ record.userSubscriptionId = result.userSubscriptionId
  sub : ∃ sub, s (.subscription result.userSubscriptionId) = some sub ∧ amount ≤ sub.amountUsed ∧
    sub.ledger = subscriptionLedger start result.userSubscriptionId ++ [⟨c, amount⟩]

def Sound (reset : ResetRule) : Prop := ∀ sub now used last next, reset sub now = some (used, last, next) → 0 ≤ used

variable {start s : Snap schema} {reset : ResetRule} {why : Why} {c : Cause} {requestId : String} {amount : ℤ}

lemma preConsumeFrom_subscribed (hreset : Sound reset) (userId : ℕ) (now : ℤ) (subs : List (ℕ × UserSubscription))
    {w : Snap schema} (hseq : w .billingSeq = start .billingSeq)
    (hwhy : ∀ w' : Snap schema, w' .billingSeq = start .billingSeq → why w' = c)
    (hledger : ∀ n, subscriptionLedger w n = subscriptionLedger start n)
    (hsubs : ∀ x ∈ subs, x.2.ledger = subscriptionLedger start x.1) (hfree : w (.preConsumeRecord requestId) = none) :
    Ensures (preConsumeFrom reset why requestId userId now amount subs) w (Subscribed start c requestId amount) := by
  induction subs generalizing w with
  | nil => exact .fail _
  | cons x rest ih =>
    obtain ⟨id, candidate⟩ := x
    unfold preConsumeFrom
    split
    · exact .fail _
    next used last next hres =>
    refine .bind (.row_of rfl ?_)
    -- the reset changes the use, not the ledger
    have hown : candidate.ledger = subscriptionLedger start id := hsubs (id, candidate) (.head _)
    have hledger₁ : ∀ n, subscriptionLedger (update w (.subscription id) (some
        { candidate with amountUsed := used, lastResetTime := last, nextResetTime := next })) n =
          subscriptionLedger start n := by
      intro n
      by_cases hn : n = id
      · subst hn
        simpa [subscriptionLedger] using hown
      · rw [← hledger n]
        simp [subscriptionLedger, hn]
    refine .ite (fun _ => ?_) fun _ => ?_
    · exact ih hseq hledger₁ (fun y hy => hsubs y (.tail _ hy)) hfree
    · have habsent : ifAbsent { userId, userSubscriptionId := id, preConsumed := amount, refunded := false }
        (w (.preConsumeRecord requestId)) = some (some _) := congrArg _ hfree
      refine .bind (.row_of habsent ?_)
      refine .bind (ensures_balanceRow (fun hnone => by cases hnone) fun v hv => .pure ?_)
      cases hv
      refine ⟨rfl, ⟨_, update_self _ _ _, rfl, rfl, rfl⟩, ⟨_, update_self _ _ _, ?_, ?_⟩⟩
      · have hused := hreset candidate now used last next hres
        simp only [setUsed]
        omega
      · simp only [setUsed, add_sub_cancel_left, hown]
        rw [hwhy]
        exact hseq

lemma preConsumeUserSubscriptionTx_subscribed (hreset : Sound reset) (userId : ℕ)
    (hwhy : ∀ w' : Snap schema, w' .billingSeq = s .billingSeq → why w' = c)
    (hfree : s (.preConsumeRecord requestId) = none) :
    Ensures (preConsumeUserSubscriptionTx reset why requestId userId amount) s
      (Subscribed s c requestId amount) := by
  refine .guard fun _ => .bind (.now fun now => ?_)
  refine .bind (.select ?_)
  simp only [hfree]
  refine .bind (.exec ?_)
  rw [put_activeSubscriptions]
  refine .bind (.select (.guard fun _ => ?_))
  refine preConsumeFrom_subscribed hreset userId now _ rfl hwhy (fun _ => rfl) (fun x hx => ?_) hfree
  simp [subscriptionLedger, row_of_mem_activeSubscriptions hx]

/-! ### The purse of a session -/

def purseOf (ses : BillingSession) : Purse where
  mine c := if ses.durableTxID = 0 then c = .session else rowOf c = some ses.durableTxID
  source := match ses.funding with
    | .wallet _ _ => .wallet
    | .subscription _ _ _ _ _ => .subscription
  holder := match ses.funding with
    | .wallet userId _ => userId
    | .subscription _ _ _ subscriptionId _ => subscriptionId
  token := if ses.relayInfo.isPlayground then none else some ses.relayInfo.tokenId
  trusted := ses.trusted

def usedBefore (ses : BillingSession) (s : Snap schema) : ℤ :=
  match ses.funding with
  | .wallet _ _ => 0
  | .subscription _ _ _ subscriptionId _ =>
    ((s (.subscription subscriptionId)).map UserSubscription.amountUsed).getD 0 - ses.preConsumedQuota

/-- The request was authenticated, its id is new, and ids are given out from 1 on. -/
structure Known (start : Snap schema) (opening : Opening) (info : RelayInfo) : Prop where
  userId : info.userId ≠ 0
  user : ∃ x, start (.user info.userId) = some x
  token : info.isPlayground = false → info.tokenId ≠ 0 ∧ ∃ x, start (.token info.tokenId) = some x
  request : start (.preConsumeRecord info.requestId) = none
  durableRequest : start (.preConsumeRecord opening.subscriptionRequestID) = none
  seq : 0 < (start .billingSeq : ℕ)
  reset : Sound opening.reset

/-- A session that has just been opened; the rows of other sessions matter to a durable one only. -/
def Started (start : Snap schema) (ses : BillingSession) (s : Snap schema) : Prop :=
  0 ≤ usedBefore ses s ∧
    if ses.durableTxID = 0 then At (purseOf ses) start (usedBefore ses s) ses s (.opened ses.preConsumedQuota)
    else Alone (purseOf ses) ses.durableTxID s →
      DurableAt (purseOf ses) start (usedBefore ses s) ses.durableTxID ses s (.opened ses.preConsumedQuota)

section opening

variable {opening : Opening} {info : RelayInfo}

lemma Known.tokenId_ne (h : Known start opening info) {n : ℕ}
    (hn : (if info.isPlayground then none else some info.tokenId) = some n) : n ≠ 0 := by
  obtain ⟨hplay, ⟨⟩⟩ := Option.ite_none_left_eq_some.1 hn
  exact (h.token (by simpa using hplay)).1

variable {p : Purse}

lemma Known.level (h : Known start opening info) (hsrc : p.source = .wallet) (hholder : p.holder = info.userId)
    (htoken : p.token = if info.isPlayground then none else some info.tokenId) (used : ℤ) :
    Level p start used 0 0 start := by
  obtain ⟨x, hx⟩ := h.user
  refine ⟨(add_zero _).symm, fun _ => (add_zero _).symm, ?_, fun n hn => ?_⟩
  · simp only [Purse.Backed, hsrc]
    rw [hholder]
    exact ⟨x, hx⟩
  · rw [htoken] at hn
    obtain ⟨hplay, ⟨⟩⟩ := Option.ite_none_left_eq_some.1 hn
    exact (h.token (by simpa using hplay)).2

variable {quota : ℤ} (ses : BillingSession)

lemma preConsumeToken_level {used f : ℤ} (hmine : p.mine .session = true)
    (htoken : p.token = if ses.relayInfo.isPlayground then none else some ses.relayInfo.tokenId)
    (htok : ses.tokenConsumed = 0) (h : Level p start used f 0 s) (hq : 0 ≤ quota) :
    Yields (ses.preConsumeToken quota) s (fun _ => True) fun ses' s' =>
      ses' = { ses with tokenConsumed := quota } ∧ Level p start used f quota s' ∧ OnlyTokens s s' := by
  refine .ite (fun hpos => .bind ?_) fun hzero => .pure ?_
  · by_cases hplay : ses.relayInfo.isPlayground = true
    · rw [if_pos hplay] at htoken
      refine .ite (fun hneg => by omega) fun _ => .ite (fun _ => ?_) fun hn => absurd hplay hn
      exact .pure (.pure ⟨rfl, h.anyCharge htoken _, fun _ _ => rfl⟩)
    · rw [if_neg hplay] at htoken
      refine (preConsumeTokenQuota_level h htoken rfl (by simpa using hplay) hmine quota).post fun _ s' hs' => .pure ?_
      rw [zero_add] at hs'
      exact ⟨rfl, hs'.1, hs'.2⟩
  · obtain rfl : quota = 0 := by omega
    refine ⟨?_, h, fun _ _ => rfl⟩
    rw [← htok]

lemma increaseTokenQuota_any (why : Cause) (n : ℕ) (quota : ℤ) : Keeps (increaseTokenQuota why n quota) fun _ => True := by
  refine .ite (fun _ => .fail _) fun _ => .bind .now fun _ => ?_
  exact .bind (.execAuto fun _ _ => trivial) fun _ => .pure _

lemma preConsume_started {used : ℤ} {trust : Trust}
    (hmine : p.mine .session = true)
    (htoken : p.token = if ses.relayInfo.isPlayground then none else some ses.relayInfo.tokenId)
    (htok : ses.tokenConsumed = 0) (h : Level p start used 0 0 start) (hq : 0 ≤ quota) {Q : BillingSession → Snap schema → Prop}
    (hfunding : ∀ effective s₁, effective = (if ses.shouldTrust trust then 0 else quota) → 0 ≤ effective →
      Level p start used 0 effective s₁ → OnlyTokens start s₁ →
      Yields (ses.funding.preConsume reset effective) s₁ (fun _ => True) fun funding s₂ =>
        Q (syncRelayInfo { ses with
          trusted := ses.shouldTrust trust, tokenConsumed := effective, funding := funding,
          preConsumedQuota := effective }) s₂) :
    Yields (ses.preConsume reset trust quota) start (fun _ => True) Q := by
  have heff : 0 ≤ (if ses.shouldTrust trust then 0 else quota) := by
    split
    · exact le_rfl
    · exact hq
  refine .bind ((preConsumeToken_level { ses with trusted := ses.shouldTrust trust } hmine htoken htok h
    heff).post fun ses' s₁ hs₁ => ?_)
  obtain ⟨rfl, h₁, honly⟩ := hs₁
  refine .bind (.attempt ((hfunding _ s₁ rfl heff h₁ honly).mono (fun s₂ _ e => ?_) fun funding s₂ hQ => ?_))
  · refine .ite (fun _ => ?_) fun _ => .fail trivial
    exact .bind (((increaseTokenQuota_any _ _ _).attempt s₂ trivial).post fun _ _ _ => .fail trivial)
  · exact .pure hQ

def walletSession (info : RelayInfo) (trusted : Bool) : BillingSession :=
  { relayInfo := info, funding := .wallet info.userId 0, trusted := trusted }

lemma tryWallet_started (h : Known start opening info) (trustQuota tokenQuota : ℤ) (hq : 0 ≤ quota) :
    Yields (tryWallet reset trustQuota tokenQuota info quota) start (fun _ => True) fun ses s =>
      Started start ses s ∧ ses.durableTxID = 0 := by
  refine .bind (.select trivial ?_)
  refine .guard trivial fun _ => .guard trivial fun _ => ?_
  generalize ({ trustQuota, tokenQuota, userQuota := _ } : Trust) = trust
  let trusted := (walletSession info false).shouldTrust trust
  have hlevel : Level (purseOf (walletSession info trusted)) start 0 0 0 start := h.level rfl rfl rfl 0
  refine preConsume_started _ rfl rfl rfl hlevel hq fun effective s₁ _ heff h₁ _ => ?_
  -- what a wallet session looks like once `effective` has been taken
  have hdone : ∀ s₂, Level (purseOf (walletSession info trusted)) start 0 effective effective s₂ →
      Started start (.syncRelayInfo { walletSession info false with
        trusted := trusted, tokenConsumed := effective, funding := .wallet info.userId effective,
        preConsumedQuota := effective }) s₂ := fun s₂ h₂ =>
    ⟨le_rfl, ⟨rfl, rfl, rfl, rfl, rfl, rfl⟩, rfl, rfl, rfl, rfl, rfl, heff, h₂, rfl⟩
  refine .ite (fun hle => .pure ?_) fun hpos => .bind ?_
  · obtain rfl : effective = 0 := by omega
    exact ⟨hdone s₁ h₁, rfl⟩
  · refine .guard trivial fun _ => ?_
    refine (addUserQuota_level h₁ rfl rfl _).post fun _ s₂ hs₂ => .pure ?_
    rw [sub_neg_eq_add, zero_add] at hs₂
    exact ⟨hdone s₂ hs₂.1, rfl⟩

lemma Subscribed.level {p p₀ : Purse} {used₀ f t : ℤ} {s' : Snap schema} {result : PreConsumeResult}
    (hsubscribed : Subscribed s c requestId amount result s') (hbooks : SameBooks s s') (h₀ : Level p₀ start used₀ f t s)
    (hmine₀ : p₀.mine = p.mine) (htoken₀ : p₀.token = p.token) (hsrc : p.source = .subscription)
    (hholder : p.holder = result.userSubscriptionId) (hmine : p.mine c = true)
    (hledger : ∀ n, subscriptionLedger s n = subscriptionLedger start n) {sub : UserSubscription}
    (hsub : s' (.subscription p.holder) = some sub) : Level p start (sub.amountUsed - amount) amount t s' := by
  obtain ⟨sub', hsub', -, hentry⟩ := hsubscribed.sub
  rw [← hholder] at hsub' hentry
  obtain rfl : sub = sub' := by simpa [hsub] using hsub'
  have hcharge : ∀ x : Snap schema, p.charge x = p₀.charge x := by
    simp [Purse.charge, hmine₀, htoken₀]
  have htoken : ∀ x : Snap schema, (∀ n, x (.token n) = s (.token n)) → p₀.charge x = p₀.charge s := by
    intro x hx
    simp [Purse.charge, tokenLedger, hx]
  refine ⟨?_, fun hsome => ?_, ?_, fun n hn => ?_⟩
  · simp only [Purse.funding, hsrc]
    have hnew : subscriptionLedger s' p.holder = subscriptionLedger start p.holder ++ [⟨c, amount⟩] := by
      rw [← hledger, ← hentry]
      simp [subscriptionLedger, hsub]
    rw [hnew, taken_append_mine hmine]
  · rw [hcharge, hcharge, htoken s' hbooks.token]
    exact h₀.charge (by rwa [htoken₀])
  · simp only [Purse.Backed, hsrc]
    exact ⟨sub, hsub, by omega⟩
  · obtain ⟨x, hx⟩ := h₀.token n (by rwa [htoken₀])
    exact ⟨x, (hbooks.token n).trans hx⟩

lemma trySubscription_started (h : Known start opening info) (hreset : Sound reset) (trustQuota tokenQuota quota : ℤ) :
    Yields (trySubscription reset trustQuota tokenQuota info quota) start (fun _ => True) fun ses s =>
      Started start ses s ∧ ses.durableTxID = 0 := by
  unfold trySubscription
  generalize hsc : (if quota ≤ 0 then 1 else quota) = subConsume
  have hpos : 0 < subConsume := by
    rw [← hsc]
    split <;> omega
  have hlevel : Level (purseOf (walletSession info false)) start 0 0 0 start := h.level rfl rfl rfl 0
  have htrust : ∀ trust, shouldTrust
      { relayInfo := info, funding := .subscription info.requestId info.userId subConsume 0 0 } trust = false := by
    simp [shouldTrust]
  refine preConsume_started ⟨info, .subscription info.requestId info.userId subConsume 0 0, 0, 0, 0, false, false,
    false, false, 0, 0⟩ rfl rfl rfl hlevel hpos.le
    fun effective s₁ heff _ h₁ honly => ?_
  rw [htrust] at heff ⊢
  subst heff
  refine .bind (.guard trivial fun _ => .guard trivial fun _ =>
    .guard trivial fun _ => .transaction trivial ?_)
  have hfree : s₁ (.preConsumeRecord info.requestId) = none := (honly _ (by simp)).trans h.request
  have hledger : ∀ n, subscriptionLedger s₁ n = subscriptionLedger start n := fun n => by
    simp [subscriptionLedger, honly (.subscription n) (by simp)]
  refine ((preConsumeUserSubscriptionTx_subscribed hreset info.userId (fun _ _ => rfl) hfree).and
    (preConsumeUserSubscriptionTx_sameBooks reset _ info.requestId info.userId effective s₁)).mono
    fun result s₂ hs₂ => .pure ?_
  obtain ⟨hsubscribed, hbooks⟩ := hs₂
  obtain ⟨record, hrecord, hopen, hamount, hid⟩ := hsubscribed.record
  obtain ⟨sub, hsub, hused, -⟩ := hsubscribed.sub
  have hresult := hsubscribed.amount_eq
  have hbefore : ((s₂ (.subscription result.userSubscriptionId)).map amountUsed).getD 0 - effective =
      sub.amountUsed - effective := by simp [hsub]
  refine ⟨⟨?_, ⟨rfl, rfl, rfl, rfl, rfl, rfl⟩, rfl, rfl, rfl, rfl, rfl, hpos.le, ?_, ?_⟩, rfl⟩
  · exact (sub_nonneg.2 hused).trans_eq hbefore.symm
  · have hfinal := hsubscribed.level (p := purseOf ⟨info, .subscription info.requestId info.userId effective
      result.userSubscriptionId result.preConsumed, 0, 0, 0, false, false, false, false, 0, 0⟩) hbooks h₁
      rfl rfl rfl rfl rfl hledger hsub
    rw [← hbefore] at hfinal
    exact hfinal
  · refine ⟨by omega, le_rfl, by simp [syncRelayInfo, hresult], fun hlt => ?_, rfl, record, hrecord, hopen, ?_, hid⟩
    · exact absurd hlt (lt_irrefl _)
    · rw [hamount, hresult]

section

variable (h : Known start opening info)

include h

lemma durable_started {source : FundingSource} {n : ℕ} {funding : Funding} {quota z used : ℤ}
    (hq : 0 < quota) (key : String) {id : ℕ} (hid : id = (start .billingSeq : ℕ))
    (hbefore : usedBefore (durableSessionFromRow info id quota funding) s = used) (hused : 0 ≤ used)
    (hrow : s (.billing id) = some { reservedRow info key quota source n with updatedAt := z, version := 1 })
    (hdraws : Draws (purseOf (durableSessionFromRow info id quota funding)) (reservedRow info key quota source n))
    (hlevel : Level (purseOf (durableSessionFromRow info id quota funding)) start used quota quota s) :
    Started start (durableSessionFromRow info id quota funding) s := by
  have hpos : 0 < id := hid ▸ h.seq
  obtain ⟨m, hm⟩ := syncRelayInfo_eq
    { relayInfo := info, funding := funding, preConsumedQuota := quota, tokenConsumed := quota, durableTxID := id }
  have hses : durableSessionFromRow info id quota funding =
      { relayInfo := info, funding := funding, preConsumedQuota := quota, tokenConsumed := quota, durableTxID := id,
        subscriptionId := m } := hm
  have howns : Owns (purseOf (durableSessionFromRow info id quota funding)) id := by
    intro c
    simp [purseOf, hses, hpos.ne']
  rw [Started, hbefore]
  refine ⟨hused, ?_⟩
  rw [durableSessionFromRow_id, durableSessionFromRow_amount, if_neg hpos.ne']
  refine fun halone => ⟨⟨durableSessionFromRow_id .., hpos, howns, rfl, by rw [hses]⟩, halone, ?_⟩
  refine ⟨by rw [hses], by rw [hses], by rw [hses], by rw [hses], hq, hlevel, _, hrow, ?_, rfl, rfl, rfl⟩
  exact hdraws.same ⟨⟨rfl, rfl, rfl, rfl⟩, rfl⟩

lemma tryDurableWallet_started (key : String) {quota : ℤ} (hq : 0 < quota) :
    Yields (tryDurableWallet info key quota) start (fun _ => True) (Started start) := by
  let p := purseOf (durableSessionFromRow info (start .billingSeq) quota (.wallet info.userId quota))
  have hdraws : Draws p (reservedRow info key quota .wallet 0) :=
    ⟨rfl, ⟨rfl, h.userId⟩, rfl, fun n hn => h.tokenId_ne hn⟩
  have hlevel : Level p start 0 0 0 start := h.level rfl rfl rfl 0
  have hmine : ∀ w : Snap schema, w .billingSeq = start .billingSeq → p.mine (reserveCause w) = true := by
    intro w hw
    simp [p, purseOf, reserveCause, hw, durableSessionFromRow_id, h.seq.ne', rowOf]
  refine .bind (.transaction trivial ?_)
  rw [reserveWalletAndTokenTx_eq info key hq]
  refine .bind (.bind ((adjustDurableFundingTx_level hlevel rfl hdraws (hmine _ rfl) quota).mono ?_))
  rintro _ s₁ ⟨h₁, hrows₁⟩
  refine (adjustDurableTokenTx_level h₁ hdraws (hmine _ hrows₁.2) quota).mono ?_
  rintro _ s₂ ⟨h₂, hrows₂⟩
  refine (createReservedBillingTransactionTx_writes _ s₂).mono ?_
  rintro id _ ⟨hid, z, rfl⟩
  obtain rfl : id = (start .billingSeq : ℕ) := hid.trans ((hrows₁.trans hrows₂).2)
  rw [zero_add] at h₂
  exact .pure (durable_started (z := z) h hq key rfl rfl le_rfl (by simp) hdraws ((h₂.write _ rfl).write _ rfl))

lemma tryDurableSubscription_started (hreset : Sound reset) (key : String) {quota : ℤ} (hq : 0 < quota) :
    Yields (tryDurableSubscription reset info key opening.subscriptionRequestID quota) start (fun _ => True)
      (Started start) := by
  refine .bind (.transaction trivial (.bind (.bind ?_)))
  refine ((preConsumeUserSubscriptionTx_subscribed hreset info.userId
    (fun w hw => by rw [reserveCause, hw]) h.durableRequest).and
    (preConsumeUserSubscriptionTx_sameBooks reset _ _ info.userId quota start)).mono ?_
  rintro result s₁ ⟨hsubscribed, hbooks⟩
  obtain ⟨sub, hsub, hused, -⟩ := hsubscribed.sub
  let funding : Funding := .subscription opening.subscriptionRequestID info.userId quota result.userSubscriptionId
    result.preConsumed
  let p := purseOf (durableSessionFromRow info (start .billingSeq) quota funding)
  let p₀ : Purse := { p with source := .wallet, holder := info.userId }
  have hdraws : Draws p (reservedRow info key quota .subscription result.userSubscriptionId) :=
    ⟨rfl, rfl, rfl, fun n hn => h.tokenId_ne hn⟩
  have hmine : ∀ w : Snap schema, w .billingSeq = start .billingSeq → p.mine (reserveCause w) = true := by
    intro w hw
    simp [p, purseOf, reserveCause, hw, durableSessionFromRow_id, h.seq.ne', rowOf]
  have h₀ : Level p₀ start 0 0 0 start := h.level rfl rfl rfl 0
  have h₁ : Level p start (sub.amountUsed - quota) quota 0 s₁ :=
    hsubscribed.level (p := p) hbooks h₀ rfl rfl rfl rfl (hmine start rfl) (fun _ => rfl) hsub
  refine .bind ((adjustDurableTokenTx_level h₁ hdraws (hmine _ hbooks.seq) quota).mono ?_)
  rintro _ s₂ ⟨h₂, hrows₂⟩
  refine .pure (.bind ((createReservedBillingTransactionTx_writes _ s₂).mono ?_))
  rintro id _ ⟨hid, z, rfl⟩
  obtain rfl : id = (start .billingSeq : ℕ) := hid.trans (hrows₂.2.trans hbooks.seq)
  rw [zero_add] at h₂
  obtain ⟨sub', hsub', hused'⟩ := h₂.backed_used rfl
  refine .pure (.pure (durable_started (z := z) h hq key rfl ?_ (sub_nonneg.2 hused) (by simp) hdraws
    ((h₂.write _ rfl).write _ rfl)))
  have hread : s₂ (.subscription result.userSubscriptionId) = some sub' := hsub'
  simp only [usedBefore, durableSessionFromRow, syncRelayInfo]
  change ((s₂ (.subscription result.userSubscriptionId)).map _).getD 0 - _ = _
  rw [hread, Option.map_some, Option.getD_some]
  omega

lemma openSession_plain (hplain : info.forcePreConsume = false) (source : FundingSource) (quota : ℤ) :
    Yields (openSession opening info source quota) start (fun _ => True) fun ses s =>
      Started start ses s ∧ ses.durableTxID = 0 := by
  refine .guard trivial fun hneg => .ite (fun hdur => ?_) fun _ => ?_
  · exact absurd hdur.1 (by simp [hplain])
  · cases source with
    | wallet => exact tryWallet_started h opening.trustQuota opening.tokenQuota (by omega)
    | subscription => exact trySubscription_started h h.reset opening.trustQuota opening.tokenQuota quota

/-- **A session that was opened** holds what it has pre-consumed, whichever way it was opened. -/
lemma openSession_started (source : FundingSource) (quota : ℤ) :
    Yields (openSession opening info source quota) start (fun _ => True) (Started start) := by
  refine .guard trivial fun hneg => .ite (fun hdur => ?_) fun _ => ?_
  · cases source with
    | wallet => exact tryDurableWallet_started h opening.businessKey hdur.2
    | subscription => exact tryDurableSubscription_started h h.reset opening.businessKey hdur.2
  · cases source with
    | wallet =>
      exact (tryWallet_started h opening.trustQuota opening.tokenQuota (by omega)).post fun _ _ hs => hs.1
    | subscription =>
      exact (trySubscription_started h h.reset opening.trustQuota opening.tokenQuota quota).post fun _ _ hs => hs.1

end

end opening

end StarNexus.Session
