import StarNexus.Lib.Run
import StarNexus.Ledger.Operations

/-!
# Conservation along every run

A run of durable billing is a list of calls, each executed alone on the rows that the calls before it committed, with
its own clock and its own failing statements.  The sessions of the requests live in memory between the calls.
Every billing transaction has moved exactly what its state says after every call, unless a failed task meets a
reservation that its request has settled at another amount: `CreateTaskBillingIntent` declares the reserved amount to be
held although a part of it was returned.
-/

namespace StarNexus.Ledger

open Lib Lib.Tx Model Service Option

/-! ### Calls -/

/-- The calls of durable billing.  Calls on a session name it by the id of its billing transaction. -/
inductive Op where
  | reserve (reset : ResetRule) (info : RelayInfo) (businessKey subscriptionRequestID : String) (quota : ℤ)
      (preference : BillingPreference)
  | adjust (id : ℕ) (target : ℤ)
  | settle (id : ℕ) (actual : ℤ)
  | refund (id : ℕ) (owner : String)
  | bind (id : ℕ) (task : Task)
  | intent (site : CasSite) (taskID : ℕ) (task : Task) (oldStatus : TaskStatus) (finalQuota : ℤ)
      (result : Option TaskInfo) (reason : String)
  | claim (id version : ℕ) (owner : String) (lease : ℤ)
  | apply (id : ℕ)
  | release (id : ℕ) (pending : BillingState) (message : String) (attempts : ℕ)
  | sweep (before : ℤ)
  | process (owner : String) (limit : ℕ)

structure World where
  rows : Snap schema
  sessions : ℕ → Option BillingSession

namespace World

/-- Execute `p` alone; if it succeeds, the sessions become `keep` of its result. -/
def call {α : Type} (w : World) (o : Oracle) (p : Model.Tx α) (keep : α → ℕ → Option BillingSession) : World :=
  let out := Prog.exec o p (Solo.init w.rows)
  { rows := out.2.rows
    sessions := match out.1 with
      | .ok a => keep a
      | .error _ => w.sessions }

def callRows {α : Type} (w : World) (o : Oracle) (p : Model.Tx α) : World := w.call o p fun _ => w.sessions

/-- A call on the session of the billing transaction `id`; not enabled if there is no such session. -/
def onSession (w : World) (id : ℕ) (f : BillingSession → World) : Option World := (w.sessions id).map f

/-- One call.  `NewBillingSession` opens durable sessions for positive amounts only. -/
def step (w : World) : Oracle × Op → Option World
  | (o, .reserve reset info key req quota preference) =>
    if 0 < quota then
      some (w.call o (newDurableBillingSession reset info key req quota preference) fun ses =>
        Function.update w.sessions ses.durableTxID (some ses))
    else none
  | (o, .adjust id target) => w.onSession id fun ses =>
      w.call o (adjustDurableReservation ses target) fun _ => Function.update w.sessions id (some (ses.hold target))
  | (o, .settle id actual) => w.onSession id fun ses => w.callRows o (settleDurableRequestBilling ses actual)
  | (o, .refund id owner) => w.onSession id fun ses => w.callRows o (refundDurableRequestBilling owner ses)
  | (o, .bind id task) => w.onSession id fun ses => w.callRows o (insertTaskWithBilling ses task)
  | (o, .intent site taskID task oldStatus finalQuota result reason) =>
    some (w.callRows o (createTaskBillingIntent site taskID task oldStatus finalQuota result reason))
  | (o, .claim id version owner lease) => some (w.callRows o (claimBillingTransaction id version owner lease))
  | (o, .apply id) => some (w.callRows o (applyDurableTaskBilling id))
  | (o, .release id pending message attempts) =>
    some (w.callRows o (releaseBillingTransaction id pending message attempts))
  | (o, .sweep before) => some (w.callRows o (markStaleUnboundBillingRefundPending before))
  | (o, .process owner limit) => some (w.callRows o (processDurableBillingOnce owner limit))

/-- No failed task meets a reservation that was settled at another amount than the reserved one. -/
def Regular (w : World) (x : Oracle × Op) : Prop :=
  match x.2 with
  | .intent _ taskID task oldStatus _ _ _ => IntentOk w.rows taskID task oldStatus
  | _ => True

instance (w : World) (x : Oracle × Op) : Decidable (w.Regular x) := by
  unfold Regular
  split <;> infer_instance

end World

/-! ### One call keeps the books -/

variable {base : Base} {w w' : World}

open World

lemma World.call_good {α : Type} {p : Model.Tx α} {keep : α → ℕ → Option BillingSession} (o : Oracle)
    (h : Yields p w.rows (Good base w.sessions) fun a r => Good base (keep a) r) :
    Good base (w.call o p keep).sessions (w.call o p keep).rows := by
  obtain ⟨herr, hok⟩ := h.exec o
  cases hx : (Prog.exec o p (.init w.rows)).1 with
  | error e =>
    simp only [call, hx]
    exact herr e hx
  | ok a =>
    simp only [call, hx]
    exact hok a hx

lemma World.callRows_good {α : Type} {p : Model.Tx α} (o : Oracle) (hg : Good base w.sessions w.rows)
    (h : Keeps p (Good base w.sessions)) : Good base (w.callRows o p).sessions (w.callRows o p).rows :=
  call_good o (h w.rows hg)

/-- **Every regular call keeps the books.** -/
lemma World.step_good {x : Oracle × Op} (hg : Good base w.sessions w.rows) (hreg : w.Regular x)
    (hstep : w.step x = some w') : Good base w'.sessions w'.rows := by
  obtain ⟨o, op⟩ := x
  cases op with
  | reserve reset info key req quota preference =>
    obtain ⟨hq, ⟨⟩⟩ := ite_none_right_eq_some.1 hstep
    exact call_good o (newDurableBillingSession_yields hg reset info key req hq preference)
  | adjust id target =>
    obtain ⟨ses, hses, rfl⟩ := map_eq_some_iff.1 hstep
    exact call_good o (adjustDurableReservation_yields hg hses target)
  | settle id actual =>
    obtain ⟨ses, hses, rfl⟩ := map_eq_some_iff.1 hstep
    exact callRows_good o hg (settleDurableRequestBilling_keeps hses actual)
  | refund id owner =>
    obtain ⟨ses, hses, rfl⟩ := map_eq_some_iff.1 hstep
    exact callRows_good o hg (refundDurableRequestBilling_keeps owner ses)
  | bind id task =>
    obtain ⟨ses, hses, rfl⟩ := map_eq_some_iff.1 hstep
    exact callRows_good o hg (insertTaskWithBilling_keeps ses task)
  | intent site taskID task oldStatus finalQuota result reason =>
    cases hstep
    exact call_good o (createTaskBillingIntent_yields hg hreg site finalQuota result reason)
  | claim id version owner lease =>
    cases hstep
    exact callRows_good o hg (claimBillingTransaction_keeps id version owner lease)
  | apply id =>
    cases hstep
    exact callRows_good o hg (applyDurableTaskBilling_keeps id)
  | release id pending message attempts =>
    cases hstep
    exact callRows_good o hg (releaseBillingTransaction_keeps id pending message attempts)
  | sweep before =>
    cases hstep
    exact callRows_good o hg (markStaleUnboundBillingRefundPending_keeps before)
  | process owner limit =>
    cases hstep
    exact callRows_good o hg (processDurableBillingOnce_keeps owner limit)

/-! ### Runs -/

structure Unbilled (s : Snap schema) : Prop where
  rows : ∀ id, s (.billing id) = none
  users : ∀ u x, s (.user u) = some x → x.ledger = []
  tokens : ∀ n x, s (.token n) = some x → x.ledger = []

def Base.of (s : Snap schema) : Base where
  quota u := ((s (.user u)).map User.quota).getD 0
  remain n := ((s (.token n)).map Token.remainQuota).getD 0

/-- Every billing transaction has moved exactly what its state says, and nothing else has moved the balances. -/
structure Exact (base : Base) (s : Snap schema) : Prop where
  wallet : ∀ id row, s (.billing id) = some row → row.fundingSource = .wallet → 0 < row.userID →
    contribution id (userLedger s row.userID) = -heldOf row
  token : ∀ id row, s (.billing id) = some row → row.skipTokenQuota = false → 0 < row.tokenID →
    contribution id (tokenLedger s row.tokenID) = -heldOf row
  quota : ∀ u x, s (.user u) = some x → x.quota = base.quota u + total x.ledger
  remain : ∀ n x, s (.token n) = some x → x.remainQuota = base.remain n + total x.ledger

lemma Conserved.exact {s : Snap schema} (h : Conserved base s) : Exact base s := by
  refine ⟨fun id row hrow hsrc hu => ?_, fun id row hrow hskip hn => ?_, h.books.quota, h.books.remain⟩
  · rw [h.books.wallet id _ hu]
    simp [walletShare, heldIn, hrow, hsrc]
  · rw [h.books.token id _ hn]
    simp [tokenShare, heldIn, hrow, hskip]

lemma Unbilled.good {s : Snap schema} (h : Unbilled s) : Good (Base.of s) (fun _ => none) s := by
  have hledger : ∀ u, userLedger s u = [] := by
    intro u
    unfold userLedger
    cases hu : s (.user u) with
    | none => rfl
    | some x => exact h.users u x hu
  have htoken : ∀ n, tokenLedger s n = [] := by
    intro n
    unfold tokenLedger
    cases hn : s (.token n) with
    | none => rfl
    | some x => exact h.tokens n x hn
  refine ⟨⟨⟨fun id u _ => ?_, fun id n _ => ?_, fun u x hx => ?_, fun n x hx => ?_⟩, fun id _ => h.rows id⟩,
    fun _ _ hc => ?_, fun _ _ hc => ?_, fun _ _ _ hc => ?_⟩
  · simp [hledger u, h.rows id, walletShare]
  · simp [htoken n, h.rows id, tokenShare]
  · simp [Base.of, hx, h.users u x hx, total]
  · simp [Base.of, hx, h.tokens n x hx, total]
  all_goals cases hc

def openingRows : Snap schema
  | .user u => if u = 1 then some { quota := 1000 } else none
  | .token n => if n = 1 then some { remainQuota := 1000 } else none
  | k => noRows k

lemma openingRows_unbilled : Unbilled openingRows := by
  refine ⟨fun _ => rfl, fun u x hx => ?_, fun n x hx => ?_⟩
  all_goals
    simp only [openingRows, ite_none_right_eq_some, Option.some.injEq] at hx
    rw [← hx.2]

/-- A request that reserves 100 and, with `settles`, settles 60 before its task is inserted; the task fails later. -/
def failedTask (settles : List (Oracle × Op)) : List (Oracle × Op) :=
  let info : RelayInfo := { requestId := "r", userId := 1, tokenId := 1, forcePreConsume := true }
  [(.calm 1, .reserve (fun _ _ => none) info "request:r" "r" 100 .walletOnly)] ++ settles ++
    [(.calm 3, .bind 1 { userId := 1, quota := 60, status := .submitted }),
     (.calm 4, .intent .applyTaskResult 1 { userId := 1, quota := 60, status := .failure } .submitted 60 none "")]

/-- **Conservation**, from any balances. -/
theorem conserved_along_runs (s : Snap schema) (hs : Unbilled s) (calls : List (Oracle × Op)) (w : World)
    (hreg : Along World.step World.Regular ⟨s, fun _ => none⟩ calls)
    (hrun : runs World.step ⟨s, fun _ => none⟩ calls = some w) : Exact (Base.of s) w.rows := by
  have hgood : Good (.of s) w.sessions w.rows :=
    runs_inv (fun w : World => Good (.of s) w.sessions w.rows)
      (fun _ _ _ hg hok hstep => step_good hg hok hstep) hs.good hreg hrun
  exact hgood.conserved.exact

/-- A task that fails before its reservation was settled. -/
theorem conserved_along_failedTask :
    ∃ w, runs World.step ⟨openingRows, fun _ => none⟩ (failedTask []) = some w ∧
      ((w.rows (.billing 1)).map BillingTransaction.state) = some .refundPending ∧ Exact (Base.of openingRows) w.rows := by
  refine ⟨_, rfl, rfl, conserved_along_runs openingRows openingRows_unbilled (failedTask []) _ ?_ rfl⟩
  decide

/-- **A task that fails after its reservation was settled.** The row says that 100 are held, its contribution is -60. -/
theorem lateFailure_not_exact :
    ∃ w, runs World.step ⟨openingRows, fun _ => none⟩ (failedTask [(.calm 2, .settle 1 60)]) = some w ∧
      ((w.rows (.billing 1)).map fun row => (row.state, row.reservedQuota)) = some (.refundPending, 100) ∧
      contribution 1 (userLedger w.rows 1) = -60 ∧ contribution 1 (tokenLedger w.rows 1) = -60 ∧
      ¬Exact (Base.of openingRows) w.rows := by
  refine ⟨_, rfl, rfl, rfl, rfl, fun h => ?_⟩
  have hwallet := h.wallet 1 _ rfl rfl (by decide)
  revert hwallet
  decide +kernel

end StarNexus.Ledger
