import StarNexus.Account.TopUp
import StarNexus.Lib.Calm

/-!
# Completing an order is one step, or not

What a completion leaves behind if statements of it fail.  A completion that is one transaction changes nothing, or the
order and the balance of the buyer together; only a buyer who does not exist any more is not noticed.  The
notification of Epay saves the order first and adds to the balance in a statement of its own, so that a failure
in between leaves a paid order without credit.
-/

namespace StarNexus.Account

open Lib Lib.Tx
open Function (update update_eq_self_iff update_of_ne update_self)

/-! ### Completions and what they leave behind -/

/-- The ways to complete an order, with what the notification of the provider says. -/
inductive Completion where
  | recharge (customerId : String) (paymentAmount : ℚ)
  | rechargeCreem (customerEmail : String)
  | rechargeWaffo
  | rechargeWaffoPancake
  | rechargeEpusdt
  | manualCompleteTopUp
  | epayNotify (paymentType : String)

namespace Completion

def run (g : Settings) (tradeNo : String) : Completion → Tx Unit
  | .recharge customerId paymentAmount => Account.recharge g tradeNo customerId paymentAmount
  | .rechargeCreem customerEmail => Account.rechargeCreem tradeNo customerEmail
  | .rechargeWaffo => Account.rechargeWaffo g tradeNo
  | .rechargeWaffoPancake => Account.rechargeWaffoPancake g tradeNo
  | .rechargeEpusdt => Account.rechargeEpusdt g tradeNo
  | .manualCompleteTopUp => Account.manualCompleteTopUp g tradeNo
  | .epayNotify paymentType => Account.epayNotify g tradeNo paymentType

def quota (g : Settings) (order : TopUp) : Completion → ℤ
  | .recharge _ _ => g.column (order.money * g.quotaPerUnit)
  | .rechargeCreem _ => order.amount
  | .manualCompleteTopUp => manualQuota g order
  | .rechargeWaffo | .rechargeWaffoPancake | .rechargeEpusdt | .epayNotify _ => quotaOfAmount g order

def provider : Completion → Option PaymentProvider
  | .recharge _ _ => some .stripe
  | .rechargeCreem _ => some .creem
  | .rechargeWaffo => some .waffo
  | .rechargeWaffoPancake => some .waffoPancake
  | .rechargeEpusdt => some .epusdt
  | .manualCompleteTopUp => none
  | .epayNotify _ => some .epay

def wantsQuota : Completion → Bool
  | .rechargeWaffo | .rechargeWaffoPancake | .rechargeEpusdt | .manualCompleteTopUp => true
  | _ => false

def transactional : Completion → Bool
  | .epayNotify _ => false
  | _ => true

/-- Whether a missing buyer is noticed: Creem looks at the buyer if it was given an email address. -/
def looksAtBuyer : Completion → Bool
  | .rechargeCreem customerEmail => customerEmail ≠ ""
  | _ => false

/-- The pending orders that are refused: of another provider, without quota or without a trade number. -/
def Refuses (g : Settings) (tradeNo : String) (order : TopUp) (c : Completion) : Prop :=
  (∃ p ∈ c.provider, order.paymentProvider ≠ p) ∨ (c.wantsQuota = true ∧ c.quota g order ≤ 0) ∨
    (c.transactional = true ∧ tradeNo = "")

end Completion

/-- The amount bought, as the provider of the order counts it: for Creem the amount is a number of quota units. -/
def TopUp.bought (g : Settings) (order : TopUp) : ℤ :=
  match order.paymentProvider with
  | .stripe => g.column (order.money * g.quotaPerUnit)
  | .creem => order.amount
  | _ => quotaOfAmount g order

/-- An administrator, who multiplies every amount by the quota of a unit, comes to the amount bought. -/
def TopUp.SameAmount (g : Settings) (order : TopUp) : Prop :=
  match order.paymentProvider with
  | .stripe => g.column (order.money * g.quotaPerUnit) = intPart (order.money * g.quotaPerUnit)
  | .creem => intPart (order.amount * g.quotaPerUnit) = order.amount
  | _ => True

lemma Completion.quota_eq_bought_iff {g : Settings} {tradeNo : String} {order : TopUp} {c : Completion}
    (hacc : ¬c.Refuses g tradeNo order) :
    c.quota g order = order.bought g ↔ (c.provider = none → order.SameAmount g) := by
  have hprovider : ∀ p, c.provider = some p → order.paymentProvider = p := by
    intro p hcp
    by_contra hno
    exact hacc (.inl ⟨p, hcp, hno⟩)
  cases c with
  | manualCompleteTopUp =>
    simp only [quota, provider, manualQuota, quotaOfAmount, TopUp.bought, TopUp.SameAmount, true_implies]
    cases order.paymentProvider with
    | stripe => simp [eq_comm]
    | _ => simp
  | recharge | rechargeCreem | rechargeWaffo | rechargeWaffoPancake | rechargeEpusdt | epayNotify =>
    refine iff_of_true ?_ nofun
    simp [quota, TopUp.bought, hprovider _ rfl]

def Paid (tradeNo : String) (r : Snap schema) : Prop := (r (.topUp tradeNo)).map TopUp.status = some .success

def Credited (tradeNo : String) (order : TopUp) (quota : ℤ) (r r' : Snap schema) : Prop :=
  ∃ user user', r (.user order.userId) = some user ∧ r' (.user order.userId) = some user' ∧
    user'.quota = user.quota + quota ∧ user'.ledger = user.ledger ++ [⟨.topUp tradeNo, quota⟩]

/-- The order is paid if and only if its buyer has been credited, and otherwise nothing has changed. -/
structure AllOrNothing (tradeNo : String) (order : TopUp) (quota : ℤ) (r r' : Snap schema) : Prop where
  paid_iff : Paid tradeNo r' ↔ Credited tradeNo order quota r r'
  nothing : ¬Credited tradeNo order quota r r' → r' = r

def completedRows (tradeNo : String) (order' : TopUp) (userId : ℕ) (quota : ℤ) (f : User → User) (r : Snap schema) :
    Snap schema :=
  update (update r (.topUp tradeNo) (some order')) (.user userId)
    ((r (.user userId)).map fun user => (f user).add (.topUp tradeNo) quota)

section

variable (tradeNo : String) (order' : TopUp) (userId : ℕ) (quota : ℤ) (f : User → User) (r : Snap schema)

@[simp] lemma completedRows_topUp : completedRows tradeNo order' userId quota f r (.topUp tradeNo) = some order' := by
  have hne : (.topUp tradeNo : schema.Key) ≠ .user userId := by simp
  exact (update_of_ne hne _ _).trans (update_self _ _ _)

@[simp] lemma completedRows_user : completedRows tradeNo order' userId quota f r (.user userId) =
      (r (.user userId)).map fun user => (f user).add (.topUp tradeNo) quota := update_self _ _ _

end

def CompletedBy (tradeNo : String) (order : TopUp) (quota : ℤ) (r r' : Snap schema) : Prop :=
  ∃ (order' : TopUp) (f : User → User), order'.status = .success ∧ (∀ u, (f u).quota = u.quota ∧ (f u).ledger = u.ledger) ∧
    r' = completedRows tradeNo order' order.userId quota f r

section rows

variable {tradeNo : String} {order : TopUp} {quota : ℤ} {r r' : Snap schema}

lemma not_credited_of_eq (h : r' (.user order.userId) = r (.user order.userId)) :
    ¬Credited tradeNo order quota r r' := by
  rintro ⟨user, user', hu, hu', -, hledger⟩
  rw [h, hu] at hu'
  cases hu'
  simpa using congrArg List.length hledger

lemma allOrNothing_same (hr : r (.topUp tradeNo) = some order) (hp : order.status = .pending) :
    AllOrNothing tradeNo order quota r r := by
  have hnot : ¬Credited tradeNo order quota r r := not_credited_of_eq rfl
  refine ⟨⟨fun hpaid => ?_, fun h => absurd h hnot⟩, fun _ => rfl⟩
  simp [Paid, hr, hp] at hpaid

section

variable (h : CompletedBy tradeNo order quota r r')

include h

lemma CompletedBy.paid : Paid tradeNo r' := by
  obtain ⟨order', f, hs, -, rfl⟩ := h
  simp [Paid, hs]

lemma CompletedBy.credited_iff : Credited tradeNo order quota r r' ↔ (r (.user order.userId)).isSome := by
  obtain ⟨order', f, -, hf, rfl⟩ := h
  cases hu : r (.user order.userId) with
  | none => simp [Credited, hu]
  | some user =>
    refine iff_of_true ⟨user, (f user).add (.topUp tradeNo) quota, hu, ?_, ?_, ?_⟩ rfl
    · rw [completedRows_user, hu]
      rfl
    · simp [(hf user).1]
    · simp [(hf user).2]

lemma CompletedBy.allOrNothing (hu : (r (.user order.userId)).isSome) : AllOrNothing tradeNo order quota r r' :=
  ⟨iff_of_true h.paid (h.credited_iff.2 hu), fun hnot => absurd (h.credited_iff.2 hu) hnot⟩

end

end rows

/-! ### Every execution -/

section executions

variable {g : Settings} {tradeNo : String} {order : TopUp} {r : Snap schema}
  (hr : r (.topUp tradeNo) = some order) (hp : order.status = .pending)

include hr in
lemma ensures_of_read {msg : String} {f : TopUp → Tx Unit} {Q : Unit → Snap schema → Prop} (hf : Ensures (f order) r Q) :
    Ensures (firstTopUp tradeNo msg >>= f : Tx Unit) r Q := by
  refine .bind (.bind ?_)
  intro r₀
  refine ⟨⟨rfl, fun x hx => ?_⟩, ⟨rfl, fun x hx => ?_⟩⟩
  · cases hx
    exact .fail _
  · cases hx
    simp only [hr]
    exact .pure hf

def savedRows (tradeNo : String) (order' : TopUp) (r : Snap schema) : Snap schema :=
  update r (.topUp tradeNo) (some order')

variable (order' : TopUp)

lemma saveTopUp_ensures :
    Ensures (saveTopUp tradeNo order') r fun _ w => w = savedRows tradeNo order' r := .exec rfl

variable (z : ℤ)

variable (userId : ℕ)

lemma savedRows_user : savedRows tradeNo order' r (.user userId) = r (.user userId) := by
  rfl

variable (quota : ℤ) (f : User → User)

lemma savedRows_put :
    (savedRows tradeNo order' r).put (rowWrite (S := schema) (.user userId)
      (onRow fun user => some ((f user).add (.topUp tradeNo) quota)) (savedRows tradeNo order' r)) =
    completedRows tradeNo order' userId quota f r := by
  have hrow : savedRows tradeNo order' r (.user userId) = r (.user userId) := savedRows_user _ _
  unfold rowWrite completedRows
  rw [hrow]
  cases hu : r (.user userId) with
  | none =>
    refine (update_eq_self_iff.2 ?_).symm
    exact (hrow.trans hu).symm
  | some user => rfl

lemma creditUser_ensures :
    Ensures (creditUser tradeNo userId quota f) (savedRows tradeNo order' r) fun _ w =>
      w = completedRows tradeNo order' userId quota f r := .exec (savedRows_put order' userId quota f)

include hr in
lemma succeeds_of_read {msg : String} {f : TopUp → Tx Unit} {Q : Unit → Snap schema → Prop} (hf : Succeeds z (f order) r Q) :
    Succeeds z (firstTopUp tradeNo msg >>= f : Tx Unit) r Q := by
  refine .bind ⟨order, r, Returns.bind (.attempt (.select _ _)) ?_, hf⟩
  simp only [hr]
  exact Returns.pure order

/-! ### Bodies -/

abbrev Completes (tradeNo : String) (order : TopUp) (quota : ℤ) (r : Snap schema) (body : Tx Unit) : Prop :=
  Ensures body r fun _ w => CompletedBy tradeNo order quota r w

lemma save_credit_ensures (hs : order'.status = .success)
    (hf : ∀ u, (f u).quota = u.quota ∧ (f u).ledger = u.ledger) :
    Completes tradeNo order quota r (do
      let _ ← saveTopUp tradeNo order'
      let _ ← creditUser tradeNo order.userId quota f
      pure ()) := by
  refine .bind ((saveTopUp_ensures order').mono ?_)
  rintro _ _ rfl
  refine .bind ((creditUser_ensures order' order.userId quota f).mono ?_)
  rintro _ _ rfl
  exact .pure ⟨order', f, hs, hf, rfl⟩

include hr in
lemma rechargeTx_ensures (customerId : String) (paymentAmount : ℚ) :
    Ensures (rechargeTx g tradeNo customerId paymentAmount) r fun _ w => order.paymentProvider = .stripe ∧
      CompletedBy tradeNo order (g.column (order.money * g.quotaPerUnit)) r w := by
  refine ensures_of_read hr ?_
  split
  · exact .fail _
  · next hstripe =>
    split
    · exact .fail _
    · refine .bind (.now fun now => .mono ?_ fun _ _ h => ⟨not_not.1 hstripe, h⟩)
      exact save_credit_ensures _ _ _ rfl fun _ => ⟨rfl, rfl⟩

include hr hp in
lemma rechargeTx_succeeds (customerId : String) (paymentAmount : ℚ) (hprovider : order.paymentProvider = .stripe) :
    Succeeds z (rechargeTx g tradeNo customerId paymentAmount) r fun _ _ => True := by
  refine succeeds_of_read hr z ?_
  rw [if_neg (not_not.2 hprovider), if_neg (not_not.2 hp)]
  exact .bind (.now (.bind (.exec (.bind (.exec (.pure trivial))))))

variable (customerEmail : String)

lemma creemEmail_ensures (w : Snap schema) :
    Ensures (creemEmail userId customerEmail) w fun _ w' => w' = w ∧ (customerEmail ≠ "" → (w (.user userId)).isSome) := by
  unfold creemEmail
  split
  · next h => exact .pure ⟨rfl, fun hne => absurd h hne⟩
  · refine .bind (.select ?_)
    cases hu : w (.user userId) with
    | none => exact .fail _
    | some user => exact .pure ⟨rfl, fun _ => rfl⟩

lemma creemEmail_succeeds (w : Snap schema) (h : customerEmail ≠ "" → (w (.user userId)).isSome) :
    Succeeds z (creemEmail userId customerEmail) w fun _ _ => True := by
  unfold creemEmail
  split
  · exact .pure trivial
  · next hne =>
    obtain ⟨user, hu⟩ := Option.isSome_iff_exists.1 (h hne)
    refine .bind (.select ?_)
    simp only [hu]
    exact .pure trivial

lemma setEmail_keeps (setEmail : Bool) (customerEmail : String) (user : User) :
    (if setEmail = true then { user with email := customerEmail } else user).quota = user.quota ∧
      (if setEmail = true then { user with email := customerEmail } else user).ledger = user.ledger := by
  cases setEmail <;> exact ⟨rfl, rfl⟩

lemma savedRows_topUp : savedRows tradeNo order' r (.topUp tradeNo) = some order' :=
  update_self _ _ _

include hr in
lemma rechargeCreemTx_ensures :
    Ensures (rechargeCreemTx tradeNo customerEmail) r fun _ w => order.paymentProvider = .creem ∧
      (customerEmail ≠ "" → (r (.user order.userId)).isSome) ∧ CompletedBy tradeNo order order.amount r w := by
  refine ensures_of_read hr ?_
  split
  · exact .fail _
  · next hcreem =>
    split
    · exact .fail _
    · refine .bind (.now fun now => .bind ((saveTopUp_ensures _).mono ?_))
      rintro _ _ rfl
      refine .bind ((creemEmail_ensures _ _ _).mono ?_)
      rintro setEmail _ ⟨rfl, hbuyer⟩
      refine .bind ((creditUser_ensures _ _ _ _).mono ?_)
      rintro _ _ rfl
      exact .pure ⟨not_not.1 hcreem, hbuyer, _, _, rfl, setEmail_keeps setEmail customerEmail, rfl⟩

include hr hp in
lemma rechargeCreemTx_succeeds (hprovider : order.paymentProvider = .creem)
    (hbuyer : customerEmail ≠ "" → (r (.user order.userId)).isSome) :
    Succeeds z (rechargeCreemTx tradeNo customerEmail) r fun _ _ => True := by
  refine succeeds_of_read hr z ?_
  rw [if_neg (not_not.2 hprovider), if_neg (not_not.2 hp)]
  refine .bind (.now (.bind (.exec (.bind (.mono (creemEmail_succeeds z _ _ _ ?_) fun _ _ _ => ?_)))))
  · exact hbuyer
  · exact .bind (.exec (.pure trivial))

lemma completeByQuota_ensures :
    Ensures (completeByQuota tradeNo order quota) r fun _ w => 0 < quota ∧ CompletedBy tradeNo order quota r w := by
  unfold completeByQuota
  split
  · exact .fail _
  · next hq =>
    refine .bind (.now fun now => .mono ?_ fun _ _ h => ⟨Int.not_le.1 hq, h⟩)
    exact save_credit_ensures _ _ _ rfl fun _ => ⟨rfl, rfl⟩

lemma completeByQuota_succeeds {quota : ℤ} (hq : 0 < quota) :
    Succeeds z (completeByQuota tradeNo order quota) r fun _ _ => True := by
  unfold completeByQuota
  rw [if_neg (Int.not_le.2 hq)]
  exact .bind (.now (.bind (.exec (.bind (.exec (.pure trivial))))))

include hp in
lemma not_success : ¬order.status = .success := by simp [hp]

include hr hp in
lemma rechargeByAmountTx_ensures (provider : PaymentProvider) :
    Ensures (rechargeByAmountTx g provider tradeNo) r fun _ w => order.paymentProvider = provider ∧
      0 < quotaOfAmount g order ∧ CompletedBy tradeNo order (quotaOfAmount g order) r w := by
  refine ensures_of_read hr ?_
  rw [if_neg (not_success hp), if_neg (not_not.2 hp)]
  split
  · exact .fail _
  · next hprovider => exact (completeByQuota_ensures _).mono fun _ _ h => ⟨not_not.1 hprovider, h⟩

include hr hp in
lemma rechargeByAmountTx_succeeds (hq : 0 < quotaOfAmount g order) :
    Succeeds z (rechargeByAmountTx g order.paymentProvider tradeNo) r fun _ _ => True := by
  refine succeeds_of_read hr z ?_
  rw [if_neg (not_not.2 rfl), if_neg (not_success hp), if_neg (not_not.2 hp)]
  exact completeByQuota_succeeds z hq

include hr hp in
lemma manualCompleteTopUpTx_ensures :
    Ensures (manualCompleteTopUpTx g tradeNo) r fun _ w =>
      0 < manualQuota g order ∧ CompletedBy tradeNo order (manualQuota g order) r w := by
  refine ensures_of_read hr ?_
  rw [if_neg (not_success hp), if_neg (not_not.2 hp)]
  exact completeByQuota_ensures _

include hr hp in
lemma manualCompleteTopUpTx_succeeds (hq : 0 < manualQuota g order) :
    Succeeds z (manualCompleteTopUpTx g tradeNo) r fun _ _ => True := by
  refine succeeds_of_read hr z ?_
  rw [if_neg (not_success hp), if_neg (not_not.2 hp)]
  exact completeByQuota_succeeds z hq

/-! ### Functions -/

lemma callback_yields {body : Tx Unit} {Q : Unit → Snap schema → Prop} (h : Ensures body r Q) :
    Yields (callback tradeNo body) r (fun r' => r' = r) fun a r' => tradeNo ≠ "" ∧ Q a r' := by
  unfold callback
  split
  · exact .fail rfl
  · next hne =>
    refine .bind (.attempt (.transaction (fun e => .fail rfl) (h.mono fun a r' hQ => ?_)))
    exact .pure ⟨hne, hQ⟩

lemma callback_commits {z : ℤ} {body : Tx Unit} {Q : Unit → Snap schema → Prop} (hne : tradeNo ≠ "")
    (h : Succeeds z body r Q) : ∃ r', Commits z (callback tradeNo body) r (.ok ()) r' ∧ Q () r' := by
  obtain ⟨_, r', hr', hQ⟩ := h
  refine ⟨r', ?_, hQ⟩
  unfold callback
  rw [if_neg hne]
  exact .bind (.attempt (.transaction hr')) (.pure ())

include hr hp in
/-- **A completion that is one transaction** changes nothing, or completes an order that it does not refuse. -/
lemma Completion.run_yields {c : Completion} (hc : c.transactional = true) :
    Yields (c.run g tradeNo) r (fun r' => r' = r) fun _ r' => ¬c.Refuses g tradeNo order ∧
      (c.looksAtBuyer = true → (r (.user order.userId)).isSome) ∧ CompletedBy tradeNo order (c.quota g order) r r' := by
  cases c with
  | recharge customerId paymentAmount =>
    refine (callback_yields (rechargeTx_ensures hr customerId paymentAmount)).post ?_
    rintro _ r' ⟨hne, hprovider, hdone⟩
    exact ⟨by simp [Refuses, provider, wantsQuota, hprovider, hne], fun h => (nomatch h), hdone⟩
  | rechargeCreem customerEmail =>
    refine (callback_yields (rechargeCreemTx_ensures hr customerEmail)).post ?_
    rintro _ r' ⟨hne, hprovider, hbuyer, hdone⟩
    refine ⟨by simp [Refuses, provider, wantsQuota, hprovider, hne], fun h => hbuyer ?_, hdone⟩
    simpa [looksAtBuyer] using h
  | rechargeWaffo | rechargeWaffoPancake | rechargeEpusdt =>
    refine (callback_yields (rechargeByAmountTx_ensures hr hp _)).post ?_
    rintro _ r' ⟨hne, hprovider, hq, hdone⟩
    exact ⟨by simp [Refuses, provider, quota, hprovider, hne, hq], fun h => (nomatch h), hdone⟩
  | manualCompleteTopUp =>
    change Yields (Account.manualCompleteTopUp g tradeNo) _ _ _
    unfold Account.manualCompleteTopUp
    split
    · exact .fail rfl
    · next hne =>
      refine .transaction rfl ((manualCompleteTopUpTx_ensures hr hp).mono ?_)
      rintro _ r' ⟨hq, hdone⟩
      exact ⟨by simp [Refuses, provider, quota, hne, hq], fun h => (nomatch h), hdone⟩
  | epayNotify paymentType => cases hc

include hr hp in
lemma Completion.run_commits {c : Completion} (hc : c.transactional = true) (z : ℤ) (hacc : ¬c.Refuses g tradeNo order)
    (hbuyer : c.looksAtBuyer = true → (r (.user order.userId)).isSome) :
    ∃ r', Commits z (c.run g tradeNo) r (.ok ()) r' ∧ CompletedBy tradeNo order (c.quota g order) r r' := by
  have hne : tradeNo ≠ "" := fun h => hacc (.inr (.inr ⟨hc, h⟩))
  have hprovider : ∀ p, c.provider = some p → order.paymentProvider = p := by
    intro p hcp
    by_contra hno
    exact hacc (.inl ⟨p, hcp, hno⟩)
  have hquota : c.wantsQuota = true → 0 < c.quota g order := by
    intro hw
    by_contra hno
    exact hacc (.inr (.inl ⟨hw, Int.not_lt.1 hno⟩))
  cases c with
  | recharge customerId paymentAmount =>
    obtain ⟨r', hr', -, -, hdone⟩ := callback_commits hne ((rechargeTx_succeeds hr hp z customerId paymentAmount
      (hprovider _ rfl)).ensures (rechargeTx_ensures hr _ _))
    exact ⟨r', hr', hdone⟩
  | rechargeCreem customerEmail =>
    have hbuyer' : customerEmail ≠ "" → (r (.user order.userId)).isSome := fun h => hbuyer (by simpa [looksAtBuyer] using h)
    obtain ⟨r', hr', -, -, -, hdone⟩ := callback_commits hne ((rechargeCreemTx_succeeds hr hp z customerEmail
      (hprovider _ rfl) hbuyer').ensures (rechargeCreemTx_ensures hr _))
    exact ⟨r', hr', hdone⟩
  | rechargeWaffo | rechargeWaffoPancake | rechargeEpusdt =>
    have hsucceeds := rechargeByAmountTx_succeeds hr hp z (hquota rfl)
    rw [hprovider _ rfl] at hsucceeds
    obtain ⟨r', hr', -, -, -, hdone⟩ := callback_commits hne (hsucceeds.ensures (rechargeByAmountTx_ensures hr hp _))
    exact ⟨r', hr', hdone⟩
  | manualCompleteTopUp =>
    obtain ⟨_, r', hr', -, -, hdone⟩ := (manualCompleteTopUpTx_succeeds hr hp z (hquota rfl)).ensures
      (manualCompleteTopUpTx_ensures hr hp)
    refine ⟨r', ?_, hdone⟩
    change Commits z (Account.manualCompleteTopUp g tradeNo) _ _ _
    unfold Account.manualCompleteTopUp
    rw [if_neg hne]
    exact .transaction hr'
  | epayNotify paymentType => cases hc

/-! ### Epay -/

def epayOrder (paymentType : String) (order : TopUp) : TopUp := { order with paymentMethod := paymentType, status := .success }

abbrev EpayOrder (order : TopUp) : Prop := order.paymentProvider = .epay ∧ order.status = .pending

def creditFails : Oracle := ⟨fun n => n = 2, fun _ => 0⟩

include hr in
lemma epayNotify_credit_fails (paymentType : String) (horder : EpayOrder order) :
    (Prog.exec creditFails (epayNotify g tradeNo paymentType) (Solo.init r)).2.rows =
      savedRows tradeNo (epayOrder paymentType order) r := by
  -- the first two statements, which do not fail
  have hsaved : Prog.exec creditFails (epayNotify g tradeNo paymentType) (Solo.init r) =
      Prog.exec creditFails (do
        let _ ← attempt (increaseUserQuotaDb (.topUp tradeNo) order.userId (quotaOfAmount g order))
        pure () : Tx Unit)
        ⟨savedRows tradeNo (epayOrder paymentType order) r, savedRows tradeNo (epayOrder paymentType order) r, [], 2⟩ := by
    simp [epayNotify, Tx.bind, attempt, select, Prog.bind, Prog.exec, hr, if_pos horder, creditFails]
    rfl
  rw [hsaved]
  unfold increaseUserQuotaDb
  split <;> rfl

include hr in
lemma epayNotify_refused (paymentType : String)
    (hprovider : order.paymentProvider ≠ .epay) :
    Yields (epayNotify g tradeNo paymentType) r (fun r' => r' = r) fun _ r' => r' = r := by
  refine .bind (.attempt (.select (fun e => .pure rfl) ?_))
  simp only [hr]
  rw [if_neg fun h => hprovider h.1]
  exact .pure rfl

end executions

/-! ### All or nothing -/

def Completion.after (c : Completion) (g : Settings) (tradeNo : String) (o : Oracle) (r : Snap schema) : Snap schema :=
  (Prog.exec o (c.run g tradeNo) (Solo.init r)).2.rows

open Completion

section outcomes

variable {g : Settings} {tradeNo : String} {order : TopUp} {r : Snap schema} {c : Completion}
  (hr : r (.topUp tradeNo) = some order) (hp : order.status = .pending)

include hr hp in
lemma Completion.after_cases (hc : c.transactional = true) (o : Oracle) :
    c.after g tradeNo o r = r ∨ (¬c.Refuses g tradeNo order ∧
      (c.looksAtBuyer = true → (r (.user order.userId)).isSome) ∧
      CompletedBy tradeNo order (c.quota g order) r (c.after g tradeNo o r)) := by
  obtain ⟨herr, hok⟩ := (run_yields hr hp hc).exec o
  cases hx : (Prog.exec o (c.run g tradeNo) (Solo.init r)).1 with
  | error e => exact .inl (herr e hx)
  | ok a => exact .inr (hok a hx)

include hr hp in
lemma Completion.after_refused (o : Oracle)
    (href : c.Refuses g tradeNo order) : c.after g tradeNo o r = r := by
  cases hc : c.transactional with
  | true =>
    rcases after_cases hr hp hc o with h | ⟨hacc, -⟩
    · exact h
    · exact absurd href hacc
  | false =>
    cases c with
    | epayNotify paymentType =>
      have hprovider : order.paymentProvider ≠ .epay := by
        simpa [Refuses, provider, wantsQuota, transactional] using href
      obtain ⟨herr, hok⟩ := (epayNotify_refused hr paymentType hprovider).exec o
      cases hx : (Prog.exec o ((Completion.epayNotify paymentType).run g tradeNo) (Solo.init r)).1 with
      | error e => exact herr e hx
      | ok a => exact hok a hx
    | _ => cases hc

include hr hp in
lemma Completion.after_calm (hc : c.transactional = true) (z : ℤ) (hacc : ¬c.Refuses g tradeNo order)
    (hbuyer : c.looksAtBuyer = true → (r (.user order.userId)).isSome) :
    CompletedBy tradeNo order (c.quota g order) r (c.after g tradeNo (.calm z) r) := by
  obtain ⟨r', hr', hdone⟩ := run_commits hr hp hc z hacc hbuyer
  rw [after, hr'.exec.2]
  exact hdone

end outcomes

lemma Credited.quota_eq {tradeNo : String} {order : TopUp} {quota quota' : ℤ} {r r' : Snap schema}
    (h : Credited tradeNo order quota r r') (h' : Credited tradeNo order quota' r r') : quota = quota' := by
  obtain ⟨user, user₁, hu, hu₁, hquota, -⟩ := h
  obtain ⟨user', user₂, hu', hu₂, hquota', -⟩ := h'
  cases hu.symm.trans hu'
  cases hu₁.symm.trans hu₂
  omega

/-- **All or nothing**, whatever statements of the completion of a pending order fail: exactly if the order is refused, or the
completion is one transaction, the buyer exists or is looked at, and an administrator comes to the amount bought. -/
theorem completion_allOrNothing_iff (g : Settings) (c : Completion) (tradeNo : String) (order : TopUp) (r : Snap schema)
    (hr : r (.topUp tradeNo) = some order) (hp : order.status = .pending) :
    ((∀ o, AllOrNothing tradeNo order (order.bought g) r (c.after g tradeNo o r)) ↔
      c.Refuses g tradeNo order ∨
        (c.transactional = true ∧ ((r (.user order.userId)).isSome ∨ c.looksAtBuyer = true) ∧
          (c.provider = none → order.SameAmount g))) ∧
    (¬c.Refuses g tradeNo order → c.transactional = true → (r (.user order.userId)).isSome →
      (c.provider = none → order.SameAmount g) →
        ∀ z, Credited tradeNo order (order.bought g) r (c.after g tradeNo (.calm z) r)) := by
  refine ⟨⟨fun hall => ?_, fun hcond o => ?_⟩, fun hacc hc hbuyer hsame z => ?_⟩
  · by_cases href : c.Refuses g tradeNo order
    · exact .inl href
    refine .inr ?_
    cases hc : c.transactional with
    | true =>
      by_cases hlook : c.looksAtBuyer = true
      · -- only the callback of Creem looks at the buyer
        have hcallback : c.provider ≠ none := by
          cases c with
          | rechargeCreem => simp [provider]
          | _ => cases hlook
        exact ⟨rfl, .inr hlook, fun h => absurd h hcallback⟩
      -- undisturbed, the order is saved, so that the buyer has been found and credited
      have hdone := after_calm hr hp hc 0 href fun h => absurd h hlook
      have hbought := (hall (.calm 0)).paid_iff.1 hdone.paid
      obtain ⟨user, -, hu, -⟩ := id hbought
      have hbuyer : (r (.user order.userId)).isSome := by rw [hu]; rfl
      exact ⟨rfl, .inl hbuyer, (quota_eq_bought_iff href).1 ((hdone.credited_iff.2 hbuyer).quota_eq hbought)⟩
    | false =>
      cases c with
      | epayNotify paymentType =>
        have hprovider : order.paymentProvider = .epay := by
          simpa [Completion.Refuses, provider, wantsQuota, transactional] using href
        have hsaved : (Completion.epayNotify paymentType).after g tradeNo creditFails r =
            savedRows tradeNo (epayOrder paymentType order) r := epayNotify_credit_fails hr paymentType ⟨hprovider, hp⟩
        have hatomic := hall creditFails
        rw [hsaved] at hatomic
        have hpaid : Paid tradeNo (savedRows tradeNo (epayOrder paymentType order) r) := by
          rw [Paid, savedRows_topUp]
          rfl
        exact absurd (hatomic.paid_iff.1 hpaid) (not_credited_of_eq (savedRows_user _ _))
      | _ => cases hc
  · rcases hcond with href | ⟨hc, hbuyer, hsame⟩
    · rw [after_refused hr hp o href]
      exact allOrNothing_same hr hp
    · rcases after_cases hr hp hc o with hsame | ⟨hacc, hlook, hdone⟩
      · rw [hsame]
        exact allOrNothing_same hr hp
      · rw [← (quota_eq_bought_iff hacc).2 hsame]
        exact hdone.allOrNothing (hbuyer.elim (fun h => h) hlook)
  · rw [← (quota_eq_bought_iff hacc).2 hsame]
    exact (after_calm hr hp hc z hacc fun _ => hbuyer).credited_iff.2 hbuyer

/-! ### An order of Epay -/

def orderAt (provider : PaymentProvider) : TopUp := { userId := 1, amount := 2, money := 2, paymentProvider := provider }

def pendingAt (provider : PaymentProvider) : Snap schema
  | .user u => if u = 1 then some { } else none
  | .topUp tradeNo => if tradeNo = "A" then some (orderAt provider) else none
  | k => noRows k

theorem completion_allOrNothing_iff_stripe :
    (orderAt .stripe).bought { } = 1000000 ∧
      ∀ o, AllOrNothing "A" (orderAt .stripe) ((orderAt .stripe).bought { }) (pendingAt .stripe)
        ((Completion.recharge "cus" 2).after { } "A" o (pendingAt .stripe)) :=
  ⟨by decide +kernel, (completion_allOrNothing_iff { } (.recharge "cus" 2) "A" (orderAt .stripe) (pendingAt .stripe) rfl
    rfl).1.2 (.inr ⟨rfl, .inl rfl, nofun⟩)⟩

def creditLost : Snap schema := (Completion.epayNotify "alipay").after { } "A" creditFails (pendingAt .epay)

/-- **Paid without credit.** The notification that is delivered again does nothing.  And an order of Creem over two quota units
that an administrator completes is paid with a million of them. -/
theorem creditLost_not_allOrNothing :
    (orderAt .epay).bought { } = 1000000 ∧
    Paid "A" creditLost ∧ (creditLost (.user 1)).map User.quota = some 0 ∧
      (((Completion.epayNotify "alipay").after { } "A" (.calm 1) creditLost) (.user 1)).map User.quota = some 0 ∧
      ¬AllOrNothing "A" (orderAt .epay) ((orderAt .epay).bought { }) (pendingAt .epay) creditLost ∧
    (orderAt .creem).bought { } = 2 ∧
      ((Completion.manualCompleteTopUp.after { } "A" (.calm 1) (pendingAt .creem)) (.user 1)).map User.quota =
        some 1000000 := by
  have hpaid : Paid "A" creditLost := by
    unfold Paid
    decide +kernel
  refine ⟨by decide +kernel, hpaid, by decide +kernel, by decide +kernel, fun h => ?_, by decide +kernel, by decide +kernel⟩
  have hsaved : creditLost = savedRows "A" (epayOrder "alipay" (orderAt .epay)) (pendingAt .epay) :=
    epayNotify_credit_fails rfl "alipay" ⟨rfl, rfl⟩
  exact not_credited_of_eq (by rw [hsaved, savedRows_user]) (h.paid_iff.1 hpaid)

end StarNexus.Account
