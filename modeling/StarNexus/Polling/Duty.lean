import StarNexus.Ledger.Books
import StarNexus.Service.TaskPolling

/-!
# Who may bill a task

An abstract machine for one task and any number of clients.  A client that has moved the task to its last status has
the *right* to bill it, and every call that bills the task uses a right up.  `Duty.Step` is one step of the machine; the
functions of the poller and of the realtime fetch refine it.

Two call sites refund without looking at whether their compare-and-set was won (`ignoresLoss`), so that losing
gives them the right as well.  A `Regime` restricts the steps: on which copies and answers `ApplyTaskResult` is called,
on which stored status a compare-and-set is performed, and which ones may find another status.
-/

namespace StarNexus.Polling

open Lib Model Service Ledger
open Function (update)

inductive Right where
  | none
  | settle
  | finalize
  | refund
  | credit
  | posted (a : FundKey)
  | intent (site : CasSite)

/-- The callers that refund a failed task whether or not their compare-and-set was won. -/
def ignoresLoss : CasSite → Bool
  | .missingUpstreamID | .videoChannelLookup => true
  | _ => false

/-- The callers that go on to refund a task that they have failed, even if they have recorded its intent. -/
def refundsAfterIntent : CasSite → Bool
  | .missingUpstreamID | .timeoutSweep | .videoChannelLookup | .sunoChannelLookup | .staleRetryingSweep => true
  | _ => false

def granted (site : CasSite) (dst : TaskStatus) : Right :=
  if dst = .failure then .refund else if site = .applyTaskResult ∧ dst = .success then .settle else .none

def billing (id : ℕ) (e : Event) : Bool :=
  e = .settleTaskBilling id ∨ e = .finalizePreAuthorization id ∨ e = .refundTaskQuota id ∨ e = .taskBillingIntent id

def accepted : TaskStatus → Bool
  | .submitted | .queued | .inProgress | .success | .failure => true
  | _ => false

def Answers (task : Task) (answer : TaskInfo) (dst : TaskStatus) : Prop :=
  (dst = answer.status ∧ accepted answer.status = true) ∨
    (dst = .pendingSettlement ∧ answer.status = .success ∧ isVideoTokenPreAuthorizationTask task = true ∧
      answer.totalTokens ≤ 0)

/-- The moves of the status by the call sites; `entry` is the call of `ApplyTaskResult` that is running. -/
inductive Allowed (entry : Option (Task × TaskInfo)) : CasSite → TaskStatus → TaskStatus → Prop
  | apply {task answer dst} (h : entry = some (task, answer)) (hdst : Answers task answer dst) :
      Allowed entry .applyTaskResult task.status dst
  | missing {src} (h : src.terminal = false) : Allowed entry .missingUpstreamID src .failure
  | timeout {src} (h : src.terminal = false) : Allowed entry .timeoutSweep src .failure
  | video {src} : Allowed entry .videoChannelLookup src .failure
  | suno {src} : Allowed entry .sunoChannelLookup src .failure
  | sunoUpdate {src dst} : Allowed entry .sunoUpdate src dst
  | stale : Allowed entry .staleRetryingSweep .retrying .failure
  | claim {src} : Allowed entry .recoveryClaim src .retrying
  | restore {dst} : Allowed entry .recoveryRestore .retrying dst
  | done : Allowed entry .recoveryDone .retrying .submitted

/-- The task, the call sites in play, and whether the task may have a billing transaction. -/
structure Scope where
  id : ℕ
  uses : CasSite → Prop
  durable : Prop

/-- Restrictions on a run: the calls of `ApplyTaskResult`, and the compare-and-sets that find their status or not. -/
structure Regime where
  enters : Task → TaskInfo → Bool := fun _ _ => true
  wins : List Event → CasSite → TaskStatus → Bool := fun _ _ _ => true
  loses : CasSite → Bool := fun _ => true

/-- A move of the status that the regime permits, when `trace` has been recorded. -/
structure Regime.Permits (R : Regime) (κ : Scope) (trace : List Event) (site : CasSite) (src dst : TaskStatus) :
    Prop where
  uses : κ.uses site
  wins : R.wins trace site src = true
  allowed : ∃ entry, Allowed entry site src dst ∧ ∀ x, entry = some x → R.enters x.1 x.2 = true

/-- A move of the status that is made together with the intent to bill the task. -/
structure Regime.Intends (R : Regime) (κ : Scope) (site : CasSite) (src dst : TaskStatus) : Prop where
  durable : κ.durable
  terminal : dst.terminal = true
  permits : ∃ trace, R.Permits κ trace site src dst

/-! ### The machine -/

/-- The stored status, the rights of the clients, the calls so far, and the refunds that have reached a balance. -/
structure Duty (T : Type) where
  status : Option TaskStatus
  right : T → Right
  trace : List Event
  credits : FundKey → ℕ

namespace Duty

variable {T : Type} [DecidableEq T]

inductive Step (κ : Scope) (R : Regime) : Duty T → Duty T → Prop
  | stay A : Step κ R A A
  | win A (t : T) {site src dst} (hs : A.status = some src) (h : R.Permits κ A.trace site src dst) :
      Step κ R A { A with status := some dst, right := update A.right t (granted site dst) }
  | intend A (t : T) {site src dst} (hs : A.status = some src) (h : R.Intends κ site src dst) :
      Step κ R A { A with status := some dst, right := update A.right t (.intent site) }
  | lose A (t : T) {site} (hu : κ.uses site) (hl : R.loses site = true) (hi : ignoresLoss site = true) :
      Step κ R A { A with right := update A.right t .refund }
  | abandon A (t : T) {site} (hu : κ.uses site) (hi : ignoresLoss site = true) (hd : κ.durable) :
      Step κ R A { A with right := update A.right t .refund }
  | drop A (t : T) : Step κ R A { A with right := update A.right t .none }
  | emit A {e} (h : billing κ.id e = false) : Step κ R A { A with trace := A.trace ++ [e] }
  | settle A (t : T) (h : A.right t = .settle) :
      Step κ R A { A with right := update A.right t .finalize, trace := A.trace ++ [.settleTaskBilling κ.id] }
  | finalize A (t : T) (h : A.right t = .finalize) :
      Step κ R A { A with right := update A.right t .none,
                          trace := A.trace ++ [.finalizePreAuthorization κ.id] }
  | refund A (t : T) (h : A.right t = .refund) :
      Step κ R A { A with right := update A.right t .credit, trace := A.trace ++ [.refundTaskQuota κ.id] }
  | intent A (t : T) {site} (h : A.right t = .intent site) :
      Step κ R A { A with right := update A.right t (if refundsAfterIntent site then .refund else .none),
                          trace := A.trace ++ [.taskBillingIntent κ.id] }
  | post A (t : T) (a : FundKey) (h : A.right t = .credit) :
      Step κ R A { A with right := update A.right t (.posted a) }
  | credit A (t : T) (a : FundKey) (h : A.right t = .credit ∨ A.right t = .posted a) :
      Step κ R A { A with right := update A.right t .none,
                          credits := update A.credits a (A.credits a + 1) }

end Duty

end StarNexus.Polling
