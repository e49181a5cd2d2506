import StarNexus.Polling.Pollers
import StarNexus.Polling.Refines

/-!
# A task is billed once

`ApplyTaskResult` bills a task when its compare-and-set was won.  As long as no compare-and-set finds a task that has
already come to its end, at most one call can move the task to a last status.  A task that has succeeded can be moved
once more, by an answer with other data, and is then settled again.
-/

namespace StarNexus.Polling

open Lib Lib.Tx Model Service Ledger Sys
open Function (update update_of_ne update_self)

/-! ### Calls that bill a task -/

/-- At most one settlement, refund or intent, and a finalisation only after a settlement. -/
structure BilledOnce (id : ℕ) (trace : List Event) : Prop where
  billed : trace.count (.settleTaskBilling id) + trace.count (.refundTaskQuota id) +
    trace.count (.taskBillingIntent id) ≤ 1
  finalized : trace.count (.finalizePreAuthorization id) ≤ trace.count (.settleTaskBilling id)

def Unbilled (id : ℕ) (trace : List Event) : Prop := ∀ e, billing id e = true → trace.count e = 0

variable {e : Event}

section counts

variable {id : ℕ} {trace : List Event}

lemma billing_settle : billing id (.settleTaskBilling id) = true := by simp [billing]

lemma billing_finalize : billing id (.finalizePreAuthorization id) = true := by simp [billing]

lemma billing_refund : billing id (.refundTaskQuota id) = true := by simp [billing]

lemma billing_intent : billing id (.taskBillingIntent id) = true := by simp [billing]

lemma count_append_other {e e' : Event} (he : billing id e = false) (he' : billing id e' = true) :
    (trace ++ [e]).count e' = trace.count e' := by
  have hne : e ≠ e' := by
    rintro rfl
    rw [he] at he'
    cases he'
  simp [hne]

lemma Unbilled.append (h : Unbilled id trace) (he : billing id e = false) : Unbilled id (trace ++ [e]) := by
  intro e' he'
  rw [count_append_other he he']
  exact h e' he'

lemma BilledOnce.append (h : BilledOnce id trace) (he : billing id e = false) :
    BilledOnce id (trace ++ [e]) := by
  refine ⟨?_, ?_⟩
  · rw [count_append_other he billing_settle, count_append_other he billing_refund, count_append_other he billing_intent]
    exact h.billed
  · rw [count_append_other he billing_settle, count_append_other he billing_finalize]
    exact h.finalized

lemma Unbilled.billedOnce (h : Unbilled id trace) : BilledOnce id trace := by
  refine ⟨?_, ?_⟩
  · rw [h _ billing_settle, h _ billing_refund, h _ billing_intent]
    omega
  · rw [h _ billing_finalize]
    omega

lemma not_billedOnce_of_settled_twice (h : trace.count (.settleTaskBilling id) = 2) : ¬BilledOnce id trace := by
  intro honce
  have hle := honce.billed
  omega

end counts

/-! ### The invariant -/

def Due (id : ℕ) (trace : List Event) : Right → Prop
  | .settle | .refund => Unbilled id trace
  | .intent site => refundsAfterIntent site = false ∧ Unbilled id trace
  | .finalize =>
    trace.count (.settleTaskBilling id) = 1 ∧ trace.count (.finalizePreAuthorization id) = 0 ∧
      trace.count (.refundTaskQuota id) = 0 ∧ trace.count (.taskBillingIntent id) = 0
  | _ => True

def Right.live : Right → Bool
  | .settle | .refund | .intent _ | .finalize => true
  | _ => false

variable {r : Right}

lemma due_of_not_live {id : ℕ} {trace : List Event} (h : r.live = false) : Due id trace r := by
  cases r <;> trivial

def Unfinished (status : Option TaskStatus) : Prop := ∀ s, status = some s → s.terminal = false

/-- The task is billed once: rights are unique, and there is none before the task has come to its end. -/
structure Once {T : Type} (id : ℕ) (A : Duty T) : Prop where
  billed : BilledOnce id A.trace
  due : ∀ t, Due id A.trace (A.right t)
  one : ∀ t u, (A.right t).live = true → (A.right u).live = true → t = u
  fresh : Unfinished A.status → (∀ t, (A.right t).live = false) ∧ Unbilled id A.trace

section machine

variable {T : Type} {id : ℕ} {A B : Duty T}

lemma Once.of_single (t : T) (hothers : ∀ u, u ≠ t → (B.right u).live = false) (hbilled : BilledOnce id B.trace)
    (hdue : Due id B.trace (B.right t))
    (hfresh : Unfinished B.status → (B.right t).live = false ∧ Unbilled id B.trace) : Once id B := by
  refine ⟨hbilled, fun u => ?_, fun u v hu hv => ?_, fun hs => ⟨fun u => ?_, (hfresh hs).2⟩⟩
  · by_cases hut : u = t
    · exact hut ▸ hdue
    · exact due_of_not_live (hothers u hut)
  · have hlive : ∀ w, (B.right w).live = true → w = t := fun w hw => by
      by_contra hwt
      rw [hothers w hwt] at hw
      cases hw
    rw [hlive u hu, hlive v hv]
  · by_cases hut : u = t
    · exact hut ▸ (hfresh hs).1
    · exact hothers u hut

variable {t : T}

lemma Once.others (h : Once id A) (ht : (A.right t).live = true) (u : T) (hu : u ≠ t) :
    (A.right u).live = false := by
  by_contra hlive
  exact hu (h.one u t (by simpa using hlive) ht)

lemma Once.finished (h : Once id A) (ht : (A.right t).live = true) : ¬Unfinished A.status := by
  intro hs
  rw [(h.fresh hs).1 t] at ht
  cases ht

variable [DecidableEq T]

lemma Once.grant (h : Once id A) (t : T) {src dst : TaskStatus} (hs : A.status = some src)
    (hsrc : src.terminal = false) (hdue : Unbilled id A.trace → Due id A.trace r)
    (hr : dst.terminal = false → r.live = false) :
    Once id { A with status := some dst, right := update A.right t r } := by
  have hopen : Unfinished A.status := fun s hs' => by
    rw [← Option.some.inj (hs.symm.trans hs')]
    exact hsrc
  obtain ⟨hnone, hunbilled⟩ := h.fresh hopen
  refine .of_single t (fun u hu => ?_) h.billed ?_ fun hopen' => ⟨?_, hunbilled⟩
  · simpa [update_of_ne hu] using hnone u
  · simpa using hdue hunbilled
  · simpa using hr (hopen' dst rfl)

lemma Once.use (h : Once id A) (ht : (A.right t).live = true)
    (hbilled : BilledOnce id (A.trace ++ [e])) (hdue : Due id (A.trace ++ [e]) r) :
    Once id { A with right := update A.right t r, trace := A.trace ++ [e] } := by
  refine .of_single t (fun u hu => ?_) hbilled ?_ fun hopen => absurd hopen (h.finished ht)
  · simpa [update_of_ne hu] using h.others ht u hu
  · simpa using hdue

lemma Once.release (h : Once id A) (t : T) (hr : r.live = false) {credits : FundKey → ℕ} :
    Once id { A with right := update A.right t r, credits := credits } := by
  have hright : ∀ u, (update A.right t r u).live = true → (A.right u).live = true := by
    intro u hu
    by_cases hut : u = t
    · subst hut
      rw [update_self, hr] at hu
      cases hu
    · rwa [update_of_ne hut] at hu
  refine ⟨h.billed, fun u => ?_, fun u v hu hv => h.one u v (hright u hu) (hright v hv), fun hs => ⟨fun u => ?_, (h.fresh hs).2⟩⟩
  · by_cases hut : u = t
    · subst hut
      simpa using due_of_not_live hr
    · simpa [update_of_ne hut] using h.due u
  · by_contra hlive
    have hu := hright u (by simpa using hlive)
    rw [(h.fresh hs).1 u] at hu
    cases hu

def answerScope (id : ℕ) : Scope where
  id := id
  uses site := site ∈ [.applyTaskResult, .recoveryClaim, .recoveryRestore, .recoveryDone]
  durable := True

def beforeTheEnd : Regime where
  wins _ _ src := !src.terminal

lemma granted_live_of_unfinished {site : CasSite} {dst : TaskStatus} (h : dst.terminal = false) :
    (granted site dst).live = false := by
  cases dst <;> first | rfl | (simp [granted, Right.live]; done) | cases h

lemma due_granted {trace : List Event} (site : CasSite) (dst : TaskStatus) (h : Unbilled id trace) :
    Due id trace (granted site dst) := by
  unfold granted
  split
  · exact h
  · split
    · exact h
    · trivial

lemma Once.settle (h : Once id A) (ht : A.right t = .settle) :
    Once id { A with right := update A.right t .finalize, trace := A.trace ++ [.settleTaskBilling id] } := by
  have hzero := h.due t
  rw [ht] at hzero
  refine h.use (by rw [ht]; rfl) ⟨?_, ?_⟩ ⟨?_, ?_, ?_, ?_⟩ <;>
    simp [hzero _ billing_settle, hzero _ billing_refund, hzero _ billing_intent,
      hzero _ billing_finalize]

lemma Once.finalize (h : Once id A) (ht : A.right t = .finalize) :
    Once id { A with right := update A.right t .none, trace := A.trace ++ [.finalizePreAuthorization id] } := by
  have hdue := h.due t
  rw [ht] at hdue
  obtain ⟨hs, hf, hr, hi⟩ := hdue
  refine h.use (by rw [ht]; rfl) ⟨?_, ?_⟩ trivial <;> simp [hs, hf, hr, hi]

lemma Once.refund (h : Once id A) (ht : A.right t = .refund) :
    Once id { A with right := update A.right t .credit, trace := A.trace ++ [.refundTaskQuota id] } := by
  have hzero := h.due t
  rw [ht] at hzero
  refine h.use (by rw [ht]; rfl) ⟨?_, ?_⟩ trivial <;>
    simp [hzero _ billing_settle, hzero _ billing_refund, hzero _ billing_intent,
      hzero _ billing_finalize]

lemma Once.intent (h : Once id A) {site : CasSite} (ht : A.right t = .intent site) :
    Once id { A with right := update A.right t (if refundsAfterIntent site then .refund else .none),
                     trace := A.trace ++ [.taskBillingIntent id] } := by
  have hdue := h.due t
  rw [ht] at hdue
  obtain ⟨hsite, hzero⟩ := hdue
  rw [hsite]
  refine h.use (by rw [ht]; rfl) ⟨?_, ?_⟩ trivial <;>
    simp [hzero _ billing_settle, hzero _ billing_refund, hzero _ billing_intent,
      hzero _ billing_finalize]

omit [DecidableEq T] in
lemma Once.emit (h : Once id A) (he : billing id e = false) : Once id { A with trace := A.trace ++ [e] } := by
  refine ⟨h.billed.append he, fun t => ?_, h.one, fun hs => ⟨(h.fresh hs).1, (h.fresh hs).2.append he⟩⟩
  have hdue := h.due t
  cases hr : A.right t <;> rw [hr] at hdue
  case settle | refund => exact Unbilled.append hdue he
  case intent => exact ⟨hdue.1, Unbilled.append hdue.2 he⟩
  case finalize =>
    simpa only [Due, count_append_other he billing_settle, count_append_other he billing_finalize,
      count_append_other he billing_refund, count_append_other he billing_intent] using hdue
  all_goals trivial

lemma Once.step (h : Once id A) (hstep : Duty.Step (answerScope id) beforeTheEnd A B) : Once id B := by
  have hloss : ∀ site, (answerScope id).uses site → ignoresLoss site = true → False := by
    intro site hu hi
    simp only [answerScope, List.mem_cons, List.not_mem_nil, or_false] at hu
    rcases hu with rfl | rfl | rfl | rfl <;> cases hi
  have hsrc : ∀ {trace site src dst}, beforeTheEnd.Permits (answerScope id) trace site src dst → src.terminal = false :=
    fun hp => by simpa [beforeTheEnd] using hp.wins
  cases hstep with
  | stay => exact h
  | win t hs hp => exact h.grant t hs (hsrc hp) (due_granted _ _) granted_live_of_unfinished
  | intend t hs hp =>
    obtain ⟨trace, hpermits⟩ := hp.permits
    refine h.grant t hs (hsrc hpermits) (fun hunbilled => ⟨?_, hunbilled⟩) fun hdst => ?_
    · have hu := hpermits.uses
      simp only [answerScope, List.mem_cons, List.not_mem_nil, or_false] at hu
      rcases hu with rfl | rfl | rfl | rfl <;> rfl
    · rw [hp.terminal] at hdst
      cases hdst
  | lose t hu hl hi | abandon t hu hi hd => exact absurd hi fun hi => hloss _ hu hi
  | drop t | post t a ht | credit t a ht => exact h.release t rfl
  | emit he => exact h.emit he
  | settle t ht => exact h.settle ht
  | finalize t ht => exact h.finalize ht
  | refund t ht => exact h.refund ht
  | intent t ht => exact h.intent ht

end machine

/-! ### Runs -/

/-- The calls that apply answers: of the poller, of a user, or on any copy with any answer. -/
inductive Applier : Prog schema Unit → Prop
  | apply a owner id task answer body : Applier (discard (applyTaskResult a owner id task answer body))
  | poll env a id task : Applier (discard (updateVideoSingleTask env a id task))
  | fetch env userId taskID : Applier (discard (videoFetchByID env userId taskID))

lemma Applier.follows {κ : Scope} (hu : κ.Applies) {p : Prog schema Unit} (h : Applier p) :
    (taskProtocol κ).Follows p (fun _ g => g.Quiet) {} := by
  have hidle : ({} : Phase).Quiet := ⟨rfl, nofun, rfl⟩
  cases h with
  | apply a owner id task answer body => exact (applyTaskResult_calm hu a owner id task answer body _ hidle).discard
  | poll env a id task => exact (updateVideoSingleTask_calm hu env a id task _ hidle).discard
  | fetch env userId taskID => exact (videoFetchByID_calm hu env userId taskID _ hidle).discard

/-- **A task is billed once**: it is settled, refunded or handed to the coordinator at most once, and its pre-authorisation is
finalised at most once. -/
theorem applyTaskResult_bills_once {T : Type} [DecidableEq T] (id : ℕ) (r : Snap schema) (z : ℤ)
    (acts : List (Act schema T)) (σ : Sys schema T)
    (hok : Along Sys.step (fun σ a => σ.Performs (beforeTheEnd.Ok id) a ∧ σ.Calls (fun _ p => Applier p) a)
      (Sys.rest r z) acts)
    (hrun : runs Sys.step (Sys.rest r z) acts = some σ) : BilledOnce id σ.db.trace := by
  have hunbilled : Unbilled id [] := fun _ _ => rfl
  have hinit : Once id (.rest id r : Duty T) :=
    ⟨hunbilled.billedOnce, fun _ => trivial, nofun, fun _ => ⟨fun _ => rfl, hunbilled⟩⟩
  obtain ⟨γ, ⟨-, honce⟩, -⟩ := run_duty (κ := answerScope id) (fun _ _ hA hAB => hA.step hAB)
    (fun _ _ hp => hp.follows fun _ h => h) (fun h => absurd trivial h) hinit hok hrun
  exact honce.billed

/-! ### Two answers with other data -/

def runningTask : Snap schema
  | .user u => if u = 1 then some { quota := 990, ledger := [] } else none
  | .task n =>
    if n = 1 then some { taskID := "t", userId := 1, channelId := 24, quota := 10, status := .inProgress } else none
  | .taskSeq => (2 : ℕ)
  | k => noRows k

/-- The provider answers that the task has succeeded with `tokens` tokens, each of which costs 1. -/
def succeeding (body : String) (tokens : ℤ) : Env where
  adaptor _ := some { priceOfTokens := fun _ total _ => some total }
  fetchTask _ _ := .ok { result := { status := .success, url := "u", totalTokens := tokens }, body := body }

def asking (env : Env) : Act schema Unit := .call () (discard (videoFetchByID env 1 "t"))

lemma appliers_of_mem {acts : List (Act schema Unit)} (h : ∀ a ∈ acts, (∃ env, a = asking env) ∨ a = .step ())
    (σ : Sys schema Unit) : Along step (Sys.Calls fun _ p => Applier p) σ acts := by
  refine .of_forall (fun σ a ha => ?_) σ
  rcases h a ha with ⟨env, rfl⟩ | rfl
  · exact .fetch env 1 "t"
  · trivial

def sameAnswers : List (Act schema Unit) :=
  asking (succeeding "a" 100) :: (List.replicate 12 (.step ()) ++
    asking (succeeding "a" 100) :: List.replicate 3 (.step ()))

lemma sameAnswers_runs : (runs step (rest runningTask 100) sameAnswers).isSome := by decide +kernel

theorem applyTaskResult_bills_once_sameAnswers :
    ∃ σ, runs Sys.step (Sys.rest runningTask 100) sameAnswers = some σ ∧ (σ.pc ()).done ∧
      σ.db.trace.count (.settleTaskBilling 1) = 1 ∧ BilledOnce 1 σ.db.trace := by
  have hrun := (Option.some_get sameAnswers_runs).symm
  have hin : Along step (Sys.Performs (beforeTheEnd.Ok 1)) (.rest runningTask 100) sameAnswers := by
    decide +kernel
  have hcalls : Along step (Sys.Calls fun _ p => Applier p) (.rest runningTask 100) sameAnswers :=
    appliers_of_mem (by simp [sameAnswers]) _
  exact ⟨_, hrun, by decide +kernel, by decide +kernel,
    applyTaskResult_bills_once 1 runningTask 100 sameAnswers _ (hin.and hcalls) hrun⟩

def otherAnswers : List (Act schema Unit) :=
  asking (succeeding "a" 100) :: (List.replicate 12 (.step ()) ++
    asking (succeeding "b" 300) :: List.replicate 11 (.step ()))

lemma otherAnswers_runs : (runs step (rest runningTask 100) otherAnswers).isSome := by decide +kernel

/-- **Settled twice.** The second answer finds the status that its copy has: the user pays another 200. -/
theorem otherAnswers_not_billedOnce :
    Along Sys.step (Sys.Calls fun _ p => Applier p) (Sys.rest runningTask 100) otherAnswers ∧
    ∃ σ, runs Sys.step (Sys.rest runningTask 100) otherAnswers = some σ ∧ (σ.pc ()).done ∧
      σ.db.trace.count (.settleTaskBilling 1) = 2 ∧ (σ.db.rows (.user 1)).map User.quota = some 700 ∧
      ¬BilledOnce 1 σ.db.trace := by
  have hcount : ((runs step (.rest runningTask 100) otherAnswers).get otherAnswers_runs).db.trace.count
      (.settleTaskBilling 1) = 2 := by decide +kernel
  exact ⟨appliers_of_mem (by simp [otherAnswers]) _, _, (Option.some_get otherAnswers_runs).symm, by decide +kernel,
    hcount, by decide +kernel, not_billedOnce_of_settled_twice hcount⟩

end StarNexus.Polling
