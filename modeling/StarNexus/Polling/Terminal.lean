import StarNexus.Polling.BillOnce

/-!
# Last statuses

Once a task is stored as succeeded or failed it should stay so, unless its failure is recovered before it was billed.
No function of the poller checks this when it stores a task: `ApplyTaskResult` compares the status only with that of
its own copy, so that a user who asks for a finished task gives it whatever status the provider answers.
-/

namespace StarNexus.Polling

open Lib Lib.Tx Model Service Ledger

/-! ### Answers that agree with a last status -/

/-- An answer to a finished copy is refused, or has the status of the copy and can be settled at once. -/
def agrees (task : Task) (answer : TaskInfo) : Bool :=
  !task.status.terminal || !accepted answer.status ||
    (answer.status = task.status &&
      !(answer.status = .success && isVideoTokenPreAuthorizationTask task && answer.totalTokens ≤ 0))

def failureUnbilled (id : ℕ) (trace : List Event) : Bool :=
  trace.count (.refundTaskQuota id) = 0 ∧ trace.count (.taskBillingIntent id) = 0

/-- Answers to finished copies agree with them; of finished copies only unbilled failures are recovered; and the loops over
the channels work on no copy that has succeeded, those of Suno answers on no finished one.  Of the sweeps, and of the two
last statements of a recovery, nothing is asked. -/
def steady (id : ℕ) : Regime where
  enters := agrees
  wins trace site src :=
    !src.terminal || match site with
      | .recoveryClaim => src = .failure && failureUnbilled id trace
      | .videoChannelLookup | .sunoChannelLookup => src = .failure
      | .sunoUpdate => false
      | _ => true

lemma agrees_answers {task : Task} {answer : TaskInfo} {dst : TaskStatus} (hagrees : agrees task answer = true)
    (hterminal : task.status.terminal = true) (h : Answers task answer dst) : dst = task.status := by
  simp only [agrees, hterminal, Bool.not_true, Bool.false_or, Bool.or_eq_true, Bool.not_eq_true', Bool.and_eq_true,
    decide_eq_true_eq] at hagrees
  rcases h with ⟨rfl, haccepted⟩ | ⟨-, hs, hvideo, htokens⟩
  · rcases hagrees with hrefused | ⟨hsame, -⟩
    · rw [hrefused] at haccepted
      cases haccepted
    · exact hsame
  · rcases hagrees with hrefused | ⟨-, hsettled⟩
    · rw [hs] at hrefused
      cases hrefused
    · simp [hs, hvideo, htokens] at hsettled

/-! ### One step -/

/-- A last status stays, or a failure that has not been billed is recovered. -/
def StatusStays (id : ℕ) (before after : Option TaskStatus) (trace : List Event) : Prop :=
  ∀ s, before = some s → s.terminal = true →
    after = some s ∨ (s = .failure ∧ after = some .retrying ∧ failureUnbilled id trace = true)

section machine

variable {T : Type} [DecidableEq T] {κ : Scope} {A B : Duty T}

lemma steady_permits {id : ℕ} {trace : List Event} {site : CasSite} {src dst : TaskStatus}
    (h : (steady id).Permits κ trace site src dst) (hsrc : src.terminal = true) :
    dst = src ∨ (site = .recoveryClaim ∧ src = .failure ∧ dst = .retrying ∧ failureUnbilled id trace = true) := by
  obtain ⟨-, hwins, entry, hallowed, henters⟩ := h
  simp only [steady, hsrc, Bool.not_true, Bool.false_or] at hwins henters
  cases hallowed with
  | apply hentry hanswers => exact .inl (agrees_answers (henters _ hentry) hsrc hanswers)
  | claim =>
    simp only [Bool.and_eq_true, decide_eq_true_eq] at hwins
    exact .inr ⟨rfl, hwins.1, rfl, hwins.2⟩
  | missing h | timeout h =>
    rw [h] at hsrc
    cases hsrc
  | video | suno => exact .inl (of_decide_eq_true hwins).symm
  | sunoUpdate => cases hwins
  | stale | restore | done => cases hsrc

lemma Duty.Step.statusStays {id : ℕ} (hstep : Duty.Step κ (steady id) A B) :
    StatusStays id A.status B.status A.trace := by
  intro s hs hterminal
  cases hstep with
  | win t hsrc hp =>
    obtain ⟨⟩ := hs.symm.trans hsrc
    rcases steady_permits hp hterminal with rfl | ⟨-, hfailure, rfl, hunbilled⟩
    · exact .inl rfl
    · exact .inr ⟨hfailure, rfl, hunbilled⟩
  | intend t hsrc hp =>
    obtain ⟨⟩ := hs.symm.trans hsrc
    obtain ⟨trace, hpermits⟩ := hp.permits
    rcases steady_permits hpermits hterminal with rfl | ⟨-, -, rfl, -⟩
    · exact .inl rfl
    -- an intent is recorded together with a last status
    · cases hp.terminal
  | _ => exact .inl hs

end machine

/-! ### Runs -/

/-- The calls that move tasks: iterations of the poller with their sweeps, recoveries, and answers. -/
inductive Mover : Prog schema Unit → Prop
  | iterate env : Mover (discard (runTaskPollingIteration env))
  | sweep minutes : Mover (discard (sweepTimedOutTasks minutes))
  | sweepRetrying : Mover (discard sweepStaleRetryingTasks)
  | recover a id task result body : Mover (discard (tryRecoverFailedVideoTask a id task result body))
  | apply {p} (h : Applier p) : Mover p

lemma Mover.follows {κ : Scope} (hu : ∀ site, κ.uses site) {p : Prog schema Unit} (h : Mover p) :
    (taskProtocol κ).Follows p (fun _ g => g.Quiet) {} := by
  have hidle : ({} : Phase).Quiet := ⟨rfl, nofun, rfl⟩
  have happlies : κ.Applies := fun site _ => hu site
  cases h with
  | iterate env => exact (runTaskPollingIteration_calm hu env _ hidle).discard
  | sweep minutes => exact (sweepTimedOutTasks_calm hu minutes _ hidle).discard
  | sweepRetrying => exact (sweepStaleRetryingTasks_calm hu _ hidle).discard
  | recover a id task result body =>
    exact (tryRecoverFailedVideoTask_calm happlies a id task result body _ hidle).discard
  | apply h => exact h.follows happlies

def everySite (id : ℕ) : Scope where
  id := id
  uses _ := True
  durable := True

def storedStatus (id : ℕ) (s : Snap schema) : Option TaskStatus := (s (.task id)).map Task.status

/-- **Last statuses stay**, if the answers agree with them, failed tasks are recovered only before they are billed, and the
loops of the poller have no copies that their own iteration has finished. -/
theorem terminal_status_stays {T : Type} [DecidableEq T] (id : ℕ) (r : Snap schema) (z : ℤ)
    (acts : List (Act schema T)) (a : Act schema T) (σ τ : Sys schema T)
    (hok : Along Sys.step (fun σ a => σ.Performs ((steady id).Ok id) a ∧ σ.Calls (fun _ p => Mover p) a)
      (Sys.rest r z) acts)
    (hrun : runs Sys.step (Sys.rest r z) acts = some σ)
    (ha : σ.Performs ((steady id).Ok id) a ∧ σ.Calls (fun _ p => Mover p) a) (hstep : σ.step a = some τ) :
    StatusStays id (storedStatus id σ.db.rows) (storedStatus id τ.db.rows) σ.db.trace := by
  have hcode : ∀ (t : T) p, Mover p → (taskProtocol (everySite id)).Follows p (fun _ g => g.Quiet) {} :=
    fun _ _ hp => hp.follows fun _ => trivial
  obtain ⟨γ, ⟨hbase, -⟩, hall⟩ := run_duty
    (fun _ _ _ _ => trivial) hcode (fun h => absurd trivial h) trivial hok hrun
  -- the machine is in the state that stands behind `σ`, and takes one step to the one behind `τ`
  have hnow : Protocol.Holds (taskProtocol (everySite id))
      (fun d γ' => Base (everySite id) (steady id) d γ' ∧ duty id d γ' = duty id σ.db γ) σ := ⟨γ, ⟨hbase, rfl⟩, hall⟩
  obtain ⟨γ', ⟨-, A, hA, hA'⟩, -⟩ := hnow.step
    (taskProtocol_leads (everySite id) (steady id) (· = duty id σ.db γ)) hcode ha hstep
  have hstays := hA'.statusStays
  subst hA
  simp only [duty, statusAt_task] at hstays
  exact hstays

/-! ### A late answer -/

/-- The user asks for the task, which succeeds, and asks again; the second answer is there, but not stored. -/
def askingAgain (env : Env) : List (Act schema Unit) :=
  asking (succeeding "a" 100) :: (List.replicate 12 (.step ()) ++ asking env :: List.replicate 4 (.step ()))

lemma askingAgain_movers (env : Env) (σ : Sys schema Unit) :
    Along Sys.step (Sys.Calls fun _ p => Mover p) σ (askingAgain env) := by
  refine (appliers_of_mem (fun a ha => ?_) σ).imp fun σ a h => ?_
  · simp only [askingAgain, List.mem_cons, List.mem_append, List.mem_replicate] at ha
    rcases ha with rfl | ⟨-, rfl⟩ | rfl | ⟨-, rfl⟩
    · exact .inl ⟨_, rfl⟩
    · exact .inr rfl
    · exact .inl ⟨_, rfl⟩
    · exact .inr rfl
  · cases a with
    | call t p => exact .apply h
    | _ => trivial

def beforeSecond (env : Env) (h : (runs Sys.step (Sys.rest runningTask 100) (askingAgain env)).isSome) :
    Sys schema Unit := (runs Sys.step (Sys.rest runningTask 100) (askingAgain env)).get h

lemma askingAgain_runs : (runs Sys.step (Sys.rest runningTask 100) (askingAgain (succeeding "b" 300))).isSome := by
  decide +kernel

lemma askingAgain_stores : ((beforeSecond _ askingAgain_runs).step (.step ())).isSome := by decide +kernel

theorem terminal_status_stays_askingAgain :
    ∃ σ τ, runs Sys.step (Sys.rest runningTask 100) (askingAgain (succeeding "b" 300)) = some σ ∧
      σ.step (.step ()) = some τ ∧ storedStatus 1 σ.db.rows = some .success ∧
      StatusStays 1 (storedStatus 1 σ.db.rows) (storedStatus 1 τ.db.rows) σ.db.trace := by
  have hrun : _ = some (beforeSecond _ askingAgain_runs) := (Option.some_get askingAgain_runs).symm
  have hstep := (Option.some_get askingAgain_stores).symm
  have hin : Along Sys.step (Sys.Performs ((steady 1).Ok 1)) (.rest runningTask 100)
      (askingAgain (succeeding "b" 300)) := by decide +kernel
  have hlast : (beforeSecond _ askingAgain_runs).Performs ((steady 1).Ok 1) (.step ()) := by decide +kernel
  exact ⟨_, _, hrun, hstep, by decide +kernel, terminal_status_stays 1 runningTask 100 _ (.step ()) _ _
    (hin.and (askingAgain_movers _ _)) hrun ⟨hlast, trivial⟩ hstep⟩

def late : Env where
  adaptor _ := some {}
  fetchTask _ _ := .ok { result := { status := .inProgress } }

lemma late_runs : (runs Sys.step (Sys.rest runningTask 100) (askingAgain late)).isSome := by decide +kernel

lemma late_stores : ((beforeSecond _ late_runs).step (.step ())).isSome := by decide +kernel

/-- **A success that is undone.**  A late answer puts the task that has succeeded, and was settled, back into progress. -/
theorem late_not_statusStays :
    Along Sys.step (Sys.Calls fun _ p => Mover p) (Sys.rest runningTask 100) (askingAgain late) ∧
    ∃ σ τ, runs Sys.step (Sys.rest runningTask 100) (askingAgain late) = some σ ∧ σ.step (.step ()) = some τ ∧
      storedStatus 1 σ.db.rows = some .success ∧ storedStatus 1 τ.db.rows = some .inProgress ∧
      ¬StatusStays 1 (storedStatus 1 σ.db.rows) (storedStatus 1 τ.db.rows) σ.db.trace := by
  have hrun : _ = some (beforeSecond _ late_runs) := (Option.some_get late_runs).symm
  have hbefore : storedStatus 1 (beforeSecond _ late_runs).db.rows = some .success := by decide +kernel
  have hafter : storedStatus 1 (((beforeSecond _ late_runs).step (.step ())).get late_stores).db.rows =
      some .inProgress := by decide +kernel
  refine ⟨askingAgain_movers _ _, _, _, hrun, (Option.some_get late_stores).symm, hbefore, hafter, fun hstays => ?_⟩
  rcases hstays _ hbefore rfl with h | ⟨h, -⟩
  · rw [hafter] at h
    cases h
  · cases h

end StarNexus.Polling
