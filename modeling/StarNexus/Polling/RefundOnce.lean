import StarNexus.Polling.Terminal

/-!
# A failed task is refunded once

A task without durable billing is refunded by the client whose compare-and-set has failed it.  Two loops of the poller
refund without looking at whether their compare-and-set was won, and a task that is stored as failed can be failed once
more.
-/

namespace StarNexus.Polling

open Lib Lib.Tx Model Service Ledger Sys
open Function (update update_of_ne update_self)

/-! ### The invariant -/

def Right.refunds : Right → Bool
  | .refund | .credit | .posted _ => true
  | _ => false

/-- No compare-and-set finds a failed task, and none of those whose loss is ignored is lost. -/
def failedOnce : Regime where
  wins _ _ src := src ≠ .failure
  loses site := !ignoresLoss site

def legacy (id : ℕ) : Scope where
  id := id
  uses _ := True
  durable := False

/-- The right to refund is unique, comes with the failure, and excludes an earlier refund. -/
structure RefundOnce {T : Type} (before : FundKey → ℕ) (A : Duty T) : Prop where
  added : AddedOnce before A.credits
  pending : ∀ t, (A.right t).refunds = true → A.credits = before
  one : ∀ t u, (A.right t).refunds = true → (A.right u).refunds = true → t = u
  fresh : A.status ≠ some .failure → (∀ t, (A.right t).refunds = false) ∧ A.credits = before
  intent : ∀ t site, A.right t ≠ .intent site

section machine

variable {T : Type} [DecidableEq T] {before : FundKey → ℕ} {A B : Duty T}

omit [DecidableEq T] in
lemma RefundOnce.of_single (t : T) (hothers : ∀ u, u ≠ t → (B.right u).refunds = false) (hadded : AddedOnce before B.credits)
    (hpending : (B.right t).refunds = true → B.credits = before ∧ B.status = some .failure)
    (hfresh : B.status ≠ some .failure → B.credits = before) (hintent : ∀ u site, B.right u ≠ .intent site) :
    RefundOnce before B := by
  have honly : ∀ u, (B.right u).refunds = true → u = t := by
    intro u hu
    by_contra hne
    rw [hothers u hne] at hu
    cases hu
  refine ⟨hadded, fun u hu => ?_, fun u v hu hv => (honly u hu).trans (honly v hv).symm, fun hs => ⟨fun u => ?_, hfresh hs⟩,
    hintent⟩
  · obtain rfl := honly u hu
    exact (hpending hu).1
  · by_contra hu
    have hlive : (B.right u).refunds = true := by simpa using hu
    obtain rfl := honly u hlive
    exact hs (hpending hlive).2

omit [DecidableEq T] in
lemma RefundOnce.others (h : RefundOnce before A) {t : T} (ht : (A.right t).refunds = true) (u : T) (hu : u ≠ t) :
    (A.right u).refunds = false := by
  by_contra hlive
  exact hu (h.one u t (by simpa using hlive) ht)

omit [DecidableEq T] in
lemma RefundOnce.failed (h : RefundOnce before A) {t : T} (ht : (A.right t).refunds = true) :
    A.status = some .failure := by
  by_contra hs
  rw [(h.fresh hs).1 t] at ht
  cases ht

variable {r : Right}

lemma update_ne_intent {right : T → Right} (h : ∀ t site, right t ≠ .intent site) (t : T)
    (hr : ∀ site, r ≠ .intent site) (u : T) (site : CasSite) : update right t r u ≠ .intent site := by
  by_cases hu : u = t
  · subst hu
    rw [update_self]
    exact hr site
  · rw [update_of_ne hu]
    exact h u site

lemma RefundOnce.release (h : RefundOnce before A) (t : T) (hr : r.refunds = false)
    (hi : ∀ site, r ≠ .intent site) {trace : List Event} :
    RefundOnce before { A with right := update A.right t r, trace := trace } := by
  have hright : ∀ u, (update A.right t r u).refunds = true → (A.right u).refunds = true := by
    intro u hu
    by_cases hut : u = t
    · subst hut
      rw [update_self, hr] at hu
      cases hu
    · rwa [update_of_ne hut] at hu
  refine ⟨h.added, fun u hu => h.pending u (hright u hu), fun u v hu hv => h.one u v (hright u hu) (hright v hv),
    fun hs => ⟨fun u => ?_, (h.fresh hs).2⟩, update_ne_intent h.intent t hi⟩
  by_contra hu
  have hlive := hright u (by simpa using hu)
  rw [(h.fresh hs).1 u] at hlive
  cases hlive

lemma RefundOnce.advance (h : RefundOnce before A) {t : T} (ht : (A.right t).refunds = true)
    (hi : ∀ site, r ≠ .intent site) {trace : List Event} :
    RefundOnce before { A with right := update A.right t r, trace := trace } := by
  refine .of_single t (fun u hu => ?_) h.added (fun _ => ⟨h.pending t ht, h.failed ht⟩)
    (fun hs => absurd (h.failed ht) hs) (update_ne_intent h.intent t hi)
  simpa [update_of_ne hu] using h.others ht u hu

lemma granted_ne_intent (site site' : CasSite) (dst : TaskStatus) : granted site dst ≠ .intent site' := by
  unfold granted
  split
  · exact nofun
  · split <;> exact nofun

lemma granted_refunds {site : CasSite} {dst : TaskStatus} (h : (granted site dst).refunds = true) : dst = .failure := by
  unfold granted at h
  split at h
  · assumption
  · split at h <;> cases h

lemma RefundOnce.step {id : ℕ} (h : RefundOnce before A) (hstep : Duty.Step (legacy id) failedOnce A B) :
    RefundOnce before B := by
  cases hstep with
  | stay => exact h
  | @win t site src dst hs hp =>
    have hsrc : src ≠ .failure := by simpa [failedOnce] using hp.wins
    have hopen : A.status ≠ some .failure := by
      rw [hs]
      exact fun hf => hsrc (Option.some.inj hf)
    obtain ⟨hnone, hcredits⟩ := h.fresh hopen
    refine .of_single t (fun u hu => ?_) h.added (fun ht => ⟨hcredits, ?_⟩) (fun _ => hcredits)
      (update_ne_intent h.intent t fun _ => granted_ne_intent _ _ _)
    · simpa [update_of_ne hu] using hnone u
    · dsimp only at ht
      rw [update_self] at ht
      exact congrArg some (granted_refunds ht)
  | intend t hs hp => exact absurd hp.durable fun h => h
  | lose t hu hl hi => simp [failedOnce, hi] at hl
  | abandon t hu hi hd => exact absurd hd fun h => h
  | drop t | finalize t ht => exact h.release t (r := .none) rfl nofun
  | emit he => exact { h with }
  | settle t ht => exact h.release t (r := .finalize) rfl nofun
  | refund t ht => exact h.advance (r := .credit) (by rw [ht]; rfl) nofun
  | intent t ht => exact absurd ht (h.intent t _)
  | post t a ht => exact h.advance (r := .posted a) (by rw [ht]; rfl) nofun
  | credit t a ht =>
    have hright : (A.right t).refunds = true := by
      rcases ht with ht | ht <;> rw [ht] <;> rfl
    refine .of_single t (fun u hu => ?_) (.inr ⟨a, ?_⟩) (fun ht => ?_) (fun hs => absurd (h.failed hright) hs)
      (update_ne_intent h.intent t nofun)
    · simpa [update_of_ne hu] using h.others hright u hu
    · rw [h.pending t hright]
    · dsimp only at ht
      rw [update_self] at ht
      cases ht

end machine

/-! ### Runs -/

/-- The refunds of a task in the ledgers of wallets and subscriptions. -/
def refundEntries (id : ℕ) (s : Snap schema) (a : FundKey) : ℕ := refunds id a.key (s a.key)

def NotDurable (id : ℕ) (s : Snap schema) : Prop := ∀ j row, s (.billing j) = some row → row.taskDBID ≠ id

/-- **A failed task is refunded once.** -/
theorem task_refunded_once {T : Type} [DecidableEq T] (id : ℕ) (r : Snap schema) (hr : NotDurable id r) (z : ℤ)
    (acts : List (Act schema T)) (σ : Sys schema T)
    (hok : Along Sys.step (fun σ a => σ.Performs (failedOnce.Ok id) a ∧ σ.Calls (fun _ p => Mover p) a)
      (Sys.rest r z) acts)
    (hrun : runs Sys.step (Sys.rest r z) acts = some σ) :
    AddedOnce (refundEntries id r) (refundEntries id σ.db.rows) := by
  have hinit : RefundOnce (refundEntries id r) (.rest id r : Duty T) :=
    ⟨.inl rfl, fun _ _ => rfl, nofun, fun _ => ⟨fun _ => rfl, rfl⟩, nofun⟩
  have hunbilled : ∀ j, billedAt id (.billing j) (r (.billing j)) = false := by
    intro j
    cases hrow : r (.billing j) with
    | none => rfl
    | some row => simpa [billedAt] using hr j row hrow
  obtain ⟨γ, ⟨-, honce⟩, -⟩ := run_duty (κ := legacy id) (fun _ _ hA hAB => hA.step hAB)
    (fun _ _ hp => hp.follows fun _ => trivial) (fun _ => hunbilled) hinit hok hrun
  exact honce.added

/-! ### Two pollers -/

def noChannel : Env where
  channelType _ := none
  fetchTask _ _ := .error .database

def polling (node : Bool) : Act schema Bool := .call node (discard (runTaskPollingIteration noChannel))

lemma movers_of_mem {acts : List (Act schema Bool)} (h : ∀ a ∈ acts, (∃ t, a = polling t) ∨ ∃ t, a = .step t)
    (σ : Sys schema Bool) : Along step (Sys.Calls fun _ p => Mover p) σ acts := by
  refine .of_forall (fun σ a ha => ?_) σ
  rcases h a ha with ⟨t, rfl⟩ | ⟨t, rfl⟩
  · exact .iterate noChannel
  · trivial

lemma runningTask_notDurable (id : ℕ) : NotDurable id runningTask := fun _ _ h => nomatch h

def oneAfterTheOther : List (Act schema Bool) :=
  polling false :: (List.replicate 14 (.step false) ++ polling true :: List.replicate 7 (.step true))

lemma oneAfterTheOther_runs : (runs step (rest runningTask 100) oneAfterTheOther).isSome := by decide +kernel

theorem task_refunded_once_oneAfterTheOther :
    ∃ σ, runs Sys.step (Sys.rest runningTask 100) oneAfterTheOther = some σ ∧ (∀ t, (σ.pc t).done) ∧
      (σ.db.rows (.user 1)).map User.quota = some 1000 ∧
      AddedOnce (refundEntries 1 runningTask) (refundEntries 1 σ.db.rows) := by
  have hrun := (Option.some_get oneAfterTheOther_runs).symm
  have hin : Along step (Sys.Performs (failedOnce.Ok 1)) (.rest runningTask 100) oneAfterTheOther := by
    decide +kernel
  have hcalls : Along step (Sys.Calls fun _ p => Mover p) (.rest runningTask 100) oneAfterTheOther :=
    movers_of_mem (by simp [oneAfterTheOther]) _
  exact ⟨_, hrun, by decide +kernel, by decide +kernel, task_refunded_once 1 runningTask
    (runningTask_notDurable 1) 100 oneAfterTheOther _ (hin.and hcalls) hrun⟩

def bothAtOnce : List (Act schema Bool) :=
  polling false :: polling true :: (List.replicate 7 (.step false) ++ List.replicate 7 (.step true) ++
    List.replicate 7 (.step false) ++ List.replicate 7 (.step true))

lemma bothAtOnce_runs : (runs step (rest runningTask 100) bothAtOnce).isSome := by decide +kernel

/-- **Refunded twice.** The second node loses its compare-and-set and refunds the task nevertheless. -/
theorem bothAtOnce_not_addedOnce :
    NotDurable 1 runningTask ∧
    Along Sys.step (Sys.Calls fun _ p => Mover p) (Sys.rest runningTask 100) bothAtOnce ∧
    ∃ σ, runs Sys.step (Sys.rest runningTask 100) bothAtOnce = some σ ∧ (∀ t, (σ.pc t).done) ∧
      (σ.db.rows (.user 1)).map User.quota = some 1010 ∧
      ¬AddedOnce (refundEntries 1 runningTask) (refundEntries 1 σ.db.rows) := by
  refine ⟨runningTask_notDurable 1, movers_of_mem (by simp [bothAtOnce]) _, _, (Option.some_get bothAtOnce_runs).symm,
    by decide +kernel, by decide +kernel, fun honce => absurd (honce.le (.user 1)) ?_⟩
  decide +kernel

end StarNexus.Polling
