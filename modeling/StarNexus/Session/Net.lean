import StarNexus.Lib.Run
import StarNexus.Session.Opening

/-!
# What a session costs in the end

A run of one session: it is opened on some rows, and then any sequence of `Reserve`, `Settle` and `Refund` is called on
it, every operation that is issued being successful.  A session without a billing transaction forgets in
`Settle` that it was refunded.
-/

namespace StarNexus.Session

open Lib Lib.Tx Model Service Ledger Option Prod

structure Account where
  rows : Snap schema
  ses : BillingSession

namespace Account

def opened (start : Snap schema) (o : Oracle) (opening : Opening) (info : RelayInfo) (source : FundingSource)
    (quota : ℤ) : Option Account :=
  let out := Prog.exec o (openSession opening info source quota) (Solo.init start)
  match out.1 with
  | .ok ses => some ⟨out.2.rows, ses⟩
  | .error _ => none

def perform (owner : String) (ses : BillingSession) : Call → Model.Tx (BillingSession × List Err)
  | .reserve target => ses.reserve target
  | .settle actual => ses.settle actual
  | .refund => ses.refund owner

/-- Some operation of the call has failed, or left a refund that was not applied. -/
def Failed (a : Account) (out : BillingSession × List Err) (rows : Snap schema) : Prop :=
  (out.2 ≠ [] ∧ (a.ses.durableTxID = 0 ∨ (a.ses.settled = false ∧ a.ses.refunded = false))) ∨
    (0 < a.ses.durableTxID ∧ out.1.refunded = true ∧
      (rows (.billing a.ses.durableTxID)).map BillingTransaction.state ≠ some .refunded)

instance (a : Account) (out : BillingSession × List Err) (rows : Snap schema) : Decidable (a.Failed out rows) := by
  unfold Failed
  infer_instance

/-- One call whose operations succeed; the oracle is the clock and the database at that call. -/
def step (owner : String) (a : Account) (x : Oracle × Call) : Option Account :=
  let out := Prog.exec x.1 (perform owner a.ses x.2) (Solo.init a.rows)
  match out.1 with
  | .ok result => if a.Failed result out.2.rows then none else some ⟨out.2.rows, result.1⟩
  | .error _ => none

end Account

open Session.Account

variable {p : Purse} {start : Snap schema} {used : ℤ} {owner : String} {a a' : Account}

variable {x : Oracle × Call}

lemma step_eq_some (h : a.step owner x = some a') :
    ∃ out, (Prog.exec x.1 (perform owner a.ses x.2) (Solo.init a.rows)).1 = .ok out ∧
      ¬a.Failed out a'.rows ∧ a'.rows = (Prog.exec x.1 (perform owner a.ses x.2) (Solo.init a.rows)).2.rows ∧
      a'.ses = out.1 := by
  simp only [Account.step] at h
  split at h
  · next out hout =>
    obtain ⟨hok, ⟨⟩⟩ := ite_none_left_eq_some.1 h
    exact ⟨out, hout, hok, rfl, rfl⟩
  · cases h

/-! ### Steps and runs -/

variable {phase : Phase} {s : Snap schema} {ses : BillingSession}

lemma At.plain (h : At p start used ses s phase) :
    ses.durableTxID = 0 := by
  cases phase with
  | opened r => exact (Opened.tied h).plain
  | settled x | refunded r => exact h.1.plain

lemma plain_step (hused : 0 ≤ used) (h : At p start used a.ses a.rows phase)
    (hstep : a.step owner x = some a') :
    At p start used a'.ses a'.rows (phase.nextUnguarded p.trusted x.2) := by
  obtain ⟨out, hout, hok, hrows, hses⟩ := step_eq_some hstep
  have hyields : Yields (perform owner a.ses x.2) a.rows (fun _ => True)
      (Reaches p start used (phase.nextUnguarded p.trusted x.2)) := by
    cases x.2 with
    | reserve target => exact reserve_reaches hused h target
    | settle actual => exact settle_reaches hused h actual
    | refund => exact refund_reaches hused h owner
  have hreach := (hyields.exec x.1).2 out hout
  rw [hrows, hses]
  refine hreach (by_contra fun hne => hok ?_)
  exact .inl ⟨hne, .inl h.plain⟩

variable {id : ℕ}

lemma durable_step (hused : 0 ≤ used) (h : DurableAt p start used id a.ses a.rows phase)
    (hstep : a.step owner x = some a') :
    DurableAt p start used id a'.ses a'.rows (phase.next p.trusted x.2) := by
  obtain ⟨out, hout, hok, hrows, hses⟩ := step_eq_some hstep
  have hyields : Yields (perform owner a.ses x.2) a.rows (fun _ => True)
      (DurableReaches p start used id phase (phase.next p.trusted x.2)) := by
    cases x.2 with
    | reserve target => exact reserve_durable hused h target
    | settle actual => exact settle_durable hused h actual
    | refund => exact refund_durable hused h owner
  have hreach := (hyields.exec x.1).2 out hout
  rw [hrows] at hok
  rw [hrows, hses]
  obtain ⟨hbound, -, hphase⟩ := h
  have htx : a.ses.durableTxID = id := hbound.txID
  refine hreach (fun hopen => by_contra fun hne => hok (.inl ⟨hne, .inr ?_⟩))
    fun href => by_contra fun hne => hok (.inr ⟨htx ▸ hbound.pos, href, by rwa [htx]⟩)
  obtain ⟨r, rfl⟩ := hopen
  exact ⟨hphase.settled, hphase.refunded⟩

variable {calls : List (Oracle × Call)}

section

variable (hused : 0 ≤ used)

include hused

lemma plain_run (h : At p start used a.ses a.rows phase)
    (hrun : runs (step owner) a calls = some a') :
    At p start used a'.ses a'.rows ((calls.map snd).foldl (Phase.nextUnguarded p.trusted) phase) := by
  induction calls generalizing a phase with
  | nil =>
    obtain rfl : a = a' := by simpa using hrun
    exact h
  | cons x calls ih =>
    obtain ⟨b, hb, hrest⟩ := runs_cons_eq_some.1 hrun
    exact ih (plain_step hused h hb) hrest

lemma durable_run (h : DurableAt p start used id a.ses a.rows phase)
    (hrun : runs (step owner) a calls = some a') :
    DurableAt p start used id a'.ses a'.rows ((calls.map snd).foldl (Phase.next p.trusted) phase) := by
  induction calls generalizing a phase with
  | nil =>
    obtain rfl : a = a' := by simpa using hrun
    exact h
  | cons x calls ih =>
    obtain ⟨b, hb, hrest⟩ := runs_cons_eq_some.1 hrun
    exact ih (durable_step hused h hb) hrest

lemma At.level (h : At p start used ses s phase) :
    Level p start used (p.floor used phase.net) phase.net s := by
  cases phase with
  | opened r =>
    rw [Phase.net, p.floor_of_nonneg hused (Opened.nonneg h)]
    exact Opened.level h
  | settled x => exact h.2.2
  | refunded r =>
    rw [Phase.net, p.floor_of_nonneg hused le_rfl]
    exact h.2.2.2.2.2

lemma DurableAt.level
    (h : DurableAt p start used id ses s phase) : Level p start used (p.floor used phase.net) phase.net s := by
  obtain ⟨-, -, hphase⟩ := h
  cases phase with
  | opened r =>
    rw [Phase.net, p.floor_of_nonneg hused hphase.pos.le]
    exact hphase.level
  | settled x => exact hphase.2.2.2
  | refunded r =>
    rw [Phase.net, p.floor_of_nonneg hused le_rfl]
    exact hphase.2.2.2

end

/-! ### The net change -/

/-- The funding source and the token (if there is one) have changed by exactly `amount`. -/
structure Exact (p : Purse) (start : Snap schema) (amount : ℤ) (s : Snap schema) : Prop where
  funding : p.funding s - p.funding start = amount
  token : p.token.isSome → p.charge s - p.charge start = amount

lemma Level.exact_iff {f t : ℤ} (h : Level p start used f t s) (amount : ℤ) :
    Exact p start amount s ↔ f = amount ∧ (p.token.isSome → t = amount) := by
  have hf := h.funding
  constructor
  · intro hex
    refine ⟨by have := hex.funding; omega, fun hsome => ?_⟩
    have ht := h.charge hsome
    have hex' := hex.token hsome
    omega
  · rintro ⟨rfl, ht⟩
    refine ⟨by omega, fun hsome => ?_⟩
    have hc := h.charge hsome
    have ht' := ht hsome
    omega

/-- A settlement at `actual` on an open charge: the use of a subscription does not stop at zero. -/
def Covered (acct : Account) (actual : ℤ) : Prop :=
  (purseOf acct.ses).source = .subscription → -usedBefore acct.ses acct.rows ≤ actual

/-- A settlement at `actual` after a refund of `returned` moves nothing. -/
def Idle (acct : Account) (returned actual : ℤ) : Prop :=
  acct.ses.durableTxID ≠ 0 ∨ actual = returned ∨
    ((purseOf acct.ses).token = none ∧ (purseOf acct.ses).source = .subscription ∧
      usedBefore acct.ses acct.rows = 0 ∧ actual < returned)

/-- The first `Settle` closes an open charge at its amount, or leaves a refunded one alone. -/
def Harmless (acct : Account) (calls : List Call) : Prop :=
  ∀ x ∈ firstSettle calls,
    match life acct.ses.trusted acct.ses.preConsumedQuota x.1 with
    | .opened _ => Covered acct x.2
    | .refunded returned => Idle acct returned x.2
    | .settled _ => True

def lifeOf (acct : Account) (calls : List Call) : Phase :=
  if acct.ses.durableTxID = 0 then lifeUnguarded acct.ses.trusted acct.ses.preConsumedQuota calls
  else life acct.ses.trusted acct.ses.preConsumedQuota calls

lemma run_level (hstarted : Started start a.ses a.rows)
    (halone : a.ses.durableTxID ≠ 0 → Alone (purseOf a.ses) a.ses.durableTxID a.rows)
    (hrun : runs (step owner) a calls = some a') :
    Level (purseOf a.ses) start (usedBefore a.ses a.rows)
      ((purseOf a.ses).floor (usedBefore a.ses a.rows) (lifeOf a (calls.map snd)).net)
      (lifeOf a (calls.map snd)).net a'.rows := by
  obtain ⟨hused, hphase⟩ := hstarted
  unfold lifeOf
  by_cases hplain : a.ses.durableTxID = 0
  · rw [if_pos hplain] at hphase ⊢
    exact (plain_run hused hphase hrun).level hused
  · rw [if_neg hplain] at hphase ⊢
    exact (durable_run hused (hphase (halone hplain)) hrun).level hused

lemma floor_eq_iff_covered (actual : ℤ) :
    (purseOf a.ses).floor (usedBefore a.ses a.rows) actual = actual ↔ Covered a actual := by
  unfold Purse.floor Covered
  cases (purseOf a.ses).source with
  | wallet | subscription => simp

lemma moves_nothing_iff_idle (hused : 0 ≤ usedBefore a.ses a.rows) (hplain : a.ses.durableTxID = 0) (returned actual : ℤ) :
    ((purseOf a.ses).floor (usedBefore a.ses a.rows) (actual - returned) = 0 ∧
      ((purseOf a.ses).token.isSome → actual - returned = 0)) ↔ Idle a returned actual := by
  unfold Purse.floor Idle
  cases (purseOf a.ses).token with
  | some n | none =>
    cases (purseOf a.ses).source with
    | wallet | subscription => simp; omega

lemma lifeOf_net_iff (hused : 0 ≤ usedBefore a.ses a.rows) (hpre : 0 ≤ a.ses.preConsumedQuota) (calls : List Call) :
    ((purseOf a.ses).floor (usedBefore a.ses a.rows) (lifeOf a calls).net =
        (life a.ses.trusted a.ses.preConsumedQuota calls).net ∧
      ((purseOf a.ses).token.isSome →
        (lifeOf a calls).net = (life a.ses.trusted a.ses.preConsumedQuota calls).net)) ↔ Harmless a calls := by
  unfold Harmless
  rcases firstSettle_cases calls with ⟨hnone, huns⟩ | ⟨pre, actual, post, hsome, rfl, hpre'⟩
  · have hsame : lifeOf a calls = life a.ses.trusted a.ses.preConsumedQuota calls := by
      unfold lifeOf
      split
      · exact (life_of_unsettled huns).2
      · rfl
    rw [hnone, hsame]
    refine ⟨fun _ x hx => ?_, fun _ => ⟨?_, fun _ => rfl⟩⟩
    · cases hx
    · exact (purseOf a.ses).floor_of_nonneg hused (life_net_nonneg huns hpre)
  · rw [hsome]
    simp only [mem_def, Option.some.injEq, forall_eq']
    rcases lives_of_first_settle hpre' actual post with
      ⟨x, hopen, hlife, hcode⟩ | ⟨x, href, hlife, hcode⟩
    · have hsame : lifeOf a (pre ++ .settle actual :: post) = .settled actual := by
        unfold lifeOf
        split
        · exact hcode
        · exact hlife
      rw [hopen, hlife, hsame]
      simp only [implies_true, and_true]
      exact floor_eq_iff_covered actual
    · rw [href, hlife]
      by_cases hplain : a.ses.durableTxID = 0
      · have hsame : lifeOf a (pre ++ .settle actual :: post) = .settled (actual - x) := by
          rw [lifeOf, if_pos hplain, hcode]
        rw [hsame]
        exact moves_nothing_iff_idle hused hplain x actual
      · have hsame : lifeOf a (pre ++ .settle actual :: post) = .refunded x := by
          rw [lifeOf, if_neg hplain, hlife]
        rw [hsame]
        refine ⟨fun _ => .inl hplain, fun _ => ⟨?_, fun _ => rfl⟩⟩
        exact (purseOf a.ses).floor_of_nonneg hused le_rfl

lemma Harmless.of_append {calls more : List Call} (h : Harmless a (calls ++ more)) : Harmless a calls :=
  fun x hx => h x (firstSettle_append hx more)

lemma Started.preConsumed_nonneg (hstarted : Started start a.ses a.rows)
    (halone : a.ses.durableTxID ≠ 0 → Alone (purseOf a.ses) a.ses.durableTxID a.rows) : 0 ≤ a.ses.preConsumedQuota := by
  obtain ⟨-, hphase⟩ := hstarted
  by_cases hplain : a.ses.durableTxID = 0
  · rw [if_pos hplain] at hphase
    exact Opened.nonneg hphase
  · rw [if_neg hplain] at hphase
    exact (hphase (halone hplain)).2.2.pos.le

def clientRows : Snap schema
  | .user u => if u = 1 then some { quota := 1000 } else none
  | .token n => if n = 1 then some { remainQuota := 1000 } else none
  | k => noRows k

def clientInfo : RelayInfo := { requestId := "r", userId := 1, tokenId := 1 }

def plainOpening : Opening where
  reset sub _ := some (max 0 sub.amountUsed, 0, 0)
  trustQuota := 5000000
  tokenQuota := 1000
  businessKey := "request:r"
  subscriptionRequestID := "durable:r"

lemma clientRows_known : Known clientRows plainOpening clientInfo where
  userId := by decide
  user := ⟨_, rfl⟩
  token _ := ⟨by decide, _, rfl⟩
  request := rfl
  durableRequest := rfl
  seq := by decide
  reset sub now used last next h := by
    obtain rfl := (mk.inj (Option.some.inj h)).1
    exact le_max_left _ _

lemma client_opens : (opened clientRows (.calm 1) plainOpening clientInfo .wallet 100).isSome := by decide

def clientAccount : Account := (opened clientRows (.calm 1) plainOpening clientInfo .wallet 100).get client_opens

/-- **The net change** is what the life of the charge says after every call, exactly if the first `Settle` is harmless. -/
theorem net_exact_iff (start : Snap schema) (o : Oracle) (opening : Opening) (info : RelayInfo) (source : FundingSource)
    (quota : ℤ) (acct : Account) (owner : String) (calls : List (Oracle × Call)) (last : Account)
    (hknown : Known start opening info) (hopen : opened start o opening info source quota = some acct)
    (halone : acct.ses.durableTxID ≠ 0 → Alone (purseOf acct.ses) acct.ses.durableTxID acct.rows)
    (hrun : runs (step owner) acct calls = some last) :
    (∀ pre acct', pre <+: calls → runs (step owner) acct pre = some acct' →
      Exact (purseOf acct.ses) start (life acct.ses.trusted acct.ses.preConsumedQuota (pre.map Prod.snd)).net
        acct'.rows) ↔ Harmless acct (calls.map Prod.snd) := by
  have hstarted : Started start acct.ses acct.rows := by
    simp only [opened] at hopen
    split at hopen
    · next ses hses =>
      cases hopen
      exact ((openSession_started hknown source quota).exec o).2 ses hses
    · cases hopen
  -- for one sequence of calls
  have hone : ∀ pre acct', runs (step owner) acct pre = some acct' →
      (Exact (purseOf acct.ses) start (life acct.ses.trusted acct.ses.preConsumedQuota (pre.map snd)).net acct'.rows ↔
        Harmless acct (pre.map snd)) := by
    intro pre acct' hpre
    rw [(run_level hstarted halone hpre).exact_iff]
    exact lifeOf_net_iff hstarted.1 (hstarted.preConsumed_nonneg halone) _
  constructor
  · intro hall
    exact (hone calls last hrun).1 (hall calls last (List.prefix_refl calls) hrun)
  · rintro hharm pre acct' ⟨more, rfl⟩ hpre
    rw [List.map_append] at hharm
    exact (hone pre acct' hpre).2 hharm.of_append

lemma raised_runs : (runs (step "node") clientAccount
    [(.calm 2, .reserve 150), (.calm 3, .settle 120), (.calm 4, .refund)]).isSome := by decide

/-- The reservation is raised to 150, settled at 120, and a refund comes too late. -/
theorem net_exact_raised :
    ∃ last, runs (step "node") clientAccount [(.calm 2, .reserve 150), (.calm 3, .settle 120), (.calm 4, .refund)] =
        some last ∧
      ∀ pre acct', pre <+: [(.calm 2, .reserve 150), (.calm 3, .settle 120), (.calm 4, .refund)] →
        runs (step "node") clientAccount pre = some acct' →
        Exact (purseOf clientAccount.ses) clientRows
          (life clientAccount.ses.trusted clientAccount.ses.preConsumedQuota (pre.map Prod.snd)).net acct'.rows := by
  have hrun := (some_get raised_runs).symm
  refine ⟨_, hrun, (net_exact_iff clientRows (.calm 1) plainOpening clientInfo .wallet 100 clientAccount "node" _ _
    clientRows_known (some_get client_opens).symm (fun h => absurd rfl h) hrun).2 ?_⟩
  intro x hx
  obtain rfl : ([.reserve 150], 120) = x := Option.some.inj hx
  intro hsrc
  cases hsrc

lemma refundedThenSettled_runs :
    (runs (step "node") clientAccount [(.calm 2, .refund), (.calm 3, .settle 60)]).isSome := by decide

/-- **A settlement after the refund** of 100 pays out another 40. -/
theorem refundedThenSettled_not_exact :
    ∃ last, runs (step "node") clientAccount [(.calm 2, .refund), (.calm 3, .settle 60)] = some last ∧
      life clientAccount.ses.trusted clientAccount.ses.preConsumedQuota [.refund, .settle 60] = .refunded 100 ∧
      (purseOf clientAccount.ses).funding last.rows - (purseOf clientAccount.ses).funding clientRows = -40 ∧
      (purseOf clientAccount.ses).charge last.rows - (purseOf clientAccount.ses).charge clientRows = -40 ∧
      ¬Exact (purseOf clientAccount.ses) clientRows
        (life clientAccount.ses.trusted clientAccount.ses.preConsumedQuota [.refund, .settle 60]).net last.rows := by
  have hnet : (purseOf clientAccount.ses).funding ((runs (step "node") clientAccount
      [(.calm 2, .refund), (.calm 3, .settle 60)]).get refundedThenSettled_runs).rows -
        (purseOf clientAccount.ses).funding clientRows = -40 := by decide
  refine ⟨_, (some_get refundedThenSettled_runs).symm, by decide, hnet, by decide, fun h => ?_⟩
  have hexact := h.funding
  cases hexact

end StarNexus.Session
