import StarNexus.Lib.Protocol
import StarNexus.Polling.Duty

/-!
# The protocol of the poller

The statements that the functions of the poller and of the realtime fetch perform, as far as they matter to one task:
compare-and-sets on its status, the calls that bill it, and refunds that are posted to a balance; all other statements
are neutral.
-/

namespace StarNexus.Polling

open Lib Lib.Tx Model Service Ledger

/-! ### What matters to a task -/

def refunds (id : ℕ) : (k : Key) → Val k → ℕ
  | .token _, _ => 0
  | k, v => (ledgerOf k v).countP fun e => e.cause = .taskRefund id

def statusAt (id : ℕ) : (k : Key) → Val k → Option TaskStatus
  | .task j, v => if j = id then v.map Task.status else none
  | _, _ => none

def billedAt (id : ℕ) : (k : Key) → Val k → Bool
  | .billing _, some row => row.taskDBID = id
  | _, _ => false

lemma statusAt_task (id : ℕ) (v : Option Task) : statusAt id (.task id) v = v.map Task.status := if_pos rfl

lemma refunds_user_add (id u : ℕ) (x : User) (c : Cause) (delta : ℤ) :
    refunds id (.user u) (some (x.add c delta)) =
      refunds id (.user u) (some x) + if c = .taskRefund id then 1 else 0 := by
  simp [refunds, ledgerOf, User.add, List.countP_cons]

lemma refunds_subscription_setUsed (id n : ℕ) (x : UserSubscription) (c : Cause) (used : ℤ) :
    refunds id (.subscription n) (some (x.setUsed c used)) =
      refunds id (.subscription n) (some x) + if c = .taskRefund id then 1 else 0 := by
  simp [refunds, ledgerOf, UserSubscription.setUsed, List.countP_cons]

structure Harmless (id : ℕ) (k : Key) (x v : Val k) : Prop where
  refunds : refunds id k v = refunds id k x
  status : statusAt id k v = statusAt id k x
  billed : billedAt id k v = true → billedAt id k x = true

def Neutral (id : ℕ) (s : Snap schema) (ws : List (Write schema)) : Prop :=
  ∀ k v, (⟨k, v⟩ : Write schema) ∈ ws → Harmless id k (s k) v

lemma neutral_nil (id : ℕ) (s : Snap schema) : Neutral id s [] := fun _ _ h => nomatch h

lemma neutral_one {id : ℕ} {s : Snap schema} {k : Key} {v : Val k} (h : Harmless id k (s k) v) :
    Neutral id s [⟨k, v⟩] := by
  intro k' v' hmem
  cases List.mem_singleton.1 hmem
  exact h

/-! ### The protocol -/

/-- The call that is running, the status it has given to the task, its right, and the subscription it has locked. -/
structure Phase where
  entry : Option (Task × TaskInfo) := none
  moved : Option (CasSite × TaskStatus × TaskStatus) := none
  right : Right := .none
  sub : Option (ℕ × Option UserSubscription) := none

def Right.unposted : Right → Right
  | .posted _ => .none
  | r => r

def Phase.rightAfter (g : Phase) : Right :=
  match g.moved with
  | some (site, _, _) => if ignoresLoss site then .refund else g.right.unposted
  | none => g.right.unposted

lemma unposted_ne (r : Right) (a : FundKey) : r.unposted ≠ .posted a := by
  cases r <;> simp [Right.unposted]

lemma rightAfter_ne (g : Phase) (a : FundKey) : g.rightAfter ≠ .posted a := by
  unfold Phase.rightAfter
  split
  · split
    · simp
    · exact unposted_ne _ a
  · exact unposted_ne _ a

def Phase.posts (g : Phase) (k : Key) : ℕ :=
  match g.right with
  | .posted a => if k = a.key then 1 else 0
  | _ => 0

def Phase.status (g : Phase) (stored : Option TaskStatus) : Option TaskStatus :=
  match g.moved with
  | some m => some m.2.2
  | none => stored

structure Phase.Quiet (g : Phase) : Prop where
  moved : g.moved = none
  right : ∀ a, g.right ≠ .posted a
  sub : g.sub = none

inductive Goes (κ : Scope) : Phase → Move schema → Phase → Prop
  | read g ℓ s : Goes κ g (.read ℓ s) g
  | start g : Goes κ g .start g
  | emit g e (h : billing κ.id e = false) (he : ∀ task answer, e ≠ .applyTaskResult κ.id task answer) :
      Goes κ g (.emit e) g
  | enter g task answer : Goes κ g (.emit (.applyTaskResult κ.id task answer)) { g with entry := some (task, answer) }
  | settle g (h : g.right = .settle) : Goes κ g (.emit (.settleTaskBilling κ.id)) { g with right := .finalize }
  | finalize g (h : g.right = .finalize) :
      Goes κ g (.emit (.finalizePreAuthorization κ.id)) { g with right := .none }
  | refund g (h : g.right = .refund) : Goes κ g (.emit (.refundTaskQuota κ.id)) { g with right := .credit }
  | intent g site (h : g.right = .intent site) :
      Goes κ g (.emit (.taskBillingIntent κ.id)) { g with right := if refundsAfterIntent site then .refund else .none }
  | neutral g ℓ s ws (h : Neutral κ.id s ws) : Goes κ g (.update ℓ s ws) { g with sub := none }
  | auto g ℓ s ws (h : Neutral κ.id s ws) : Goes κ g (.auto ℓ s ws) g
  | lock g ℓ s n : Goes κ g (.update ℓ s [⟨.subscription n, s (.subscription n)⟩])
      { g with sub := some (n, s (.subscription n)) }
  | credit g ℓ s (a : FundKey) v (hg : g.right = .credit)
      (hv : refunds κ.id a.key v = refunds κ.id a.key (s a.key) + 1) :
      Goes κ g (.auto ℓ s [⟨a.key, v⟩]) { g with right := .none }
  | post g ℓ s (a : FundKey) v (hg : g.right = .credit)
      (hv : refunds κ.id a.key v = refunds κ.id a.key (s a.key) + 1) :
      Goes κ g (.update ℓ s [⟨a.key, v⟩]) { g with right := .posted a, sub := none }
  | win g site s x y (hu : κ.uses site) (hr : ∀ a, g.right ≠ .posted a) (hx : s (.task κ.id) = some x)
      (ha : Allowed g.entry site x.status y.status) :
      Goes κ g (.auto (.taskCas site κ.id x.status) s [⟨.task κ.id, some y⟩]) { g with right := granted site y.status }
  | move g site s x y (hu : κ.uses site) (hd : κ.durable) (hg : g.moved = none) (hx : s (.task κ.id) = some x)
      (ha : Allowed g.entry site x.status y.status) (ht : y.status.terminal = true) :
      Goes κ g (.update (.taskCas site κ.id x.status) s [⟨.task κ.id, some y⟩])
        { g with moved := some (site, x.status, y.status), sub := none }
  | lose g site src s (hu : κ.uses site) (hi : ignoresLoss site = true) (hr : ∀ a, g.right ≠ .posted a)
      (hx : (s (.task κ.id)).map Task.status ≠ some src) :
      Goes κ g (.auto (.taskCas site κ.id src) s []) { g with right := .refund }
  | loseTx g site src s (hu : κ.uses site) (hi : ignoresLoss site = true) (hr : ∀ a, g.right ≠ .posted a)
      (hx : (s (.task κ.id)).map Task.status ≠ some src) :
      Goes κ g (.update (.taskCas site κ.id src) s []) { g with right := .refund, sub := none }
  | commit g (hm : g.moved = none) (hr : ∀ a, g.right ≠ .posted a) : Goes κ g .commit { g with sub := none }
  | commitMoved g site src dst (hm : g.moved = some (site, src, dst)) (hr : ∀ a, g.right ≠ .posted a) :
      Goes κ g .commit { entry := g.entry, right := .intent site }
  | commitPosted g a (hm : g.moved = none) (hr : g.right = .posted a) : Goes κ g .commit { entry := g.entry }
  | rollback g : Goes κ g .rollback { entry := g.entry, right := g.rightAfter }

/-- What a client sees: the subscription that it has locked, and no billing transaction of a task without one. -/
def Sees (κ : Scope) (g : Phase) : Move schema → Prop
  | .read _ s =>
    (∀ n v, g.sub = some (n, v) → s (.subscription n) = v) ∧ (¬κ.durable → ∀ j, billedAt κ.id (.billing j) (s (.billing j)) = false)
  | .update _ s _ => ∀ n v, g.sub = some (n, v) → s (.subscription n) = v
  | _ => True

def taskProtocol (κ : Scope) : Protocol schema Phase where
  idle := {}
  sees := Sees κ
  goes := Goes κ
  stops := Phase.Quiet
  stops_idle := ⟨rfl, (fun _ h => nomatch h), rfl⟩

def Regime.Ok {T : Type} (R : Regime) (id : ℕ) (σ : Sys schema T) (_ : T) : Move schema → Prop
  | .emit (.applyTaskResult j task answer) => j = id → R.enters task answer = true
  | .auto (.taskCas site j src) s _ | .update (.taskCas site j src) s _ =>
    j = id → if (s (.task id)).map Task.status = some src then R.wins σ.db.trace site src = true else R.loses site = true
  | _ => True

instance {T : Type} (R : Regime) (id : ℕ) (σ : Sys schema T) (t : T) (m : Move schema) : Decidable (R.Ok id σ t m) :=
  match m with
  | .emit (.applyTaskResult j task answer) => inferInstanceAs (Decidable (j = id → R.enters task answer = true))
  | .auto (.taskCas site j src) s _ | .update (.taskCas site j src) s _ => inferInstanceAs (Decidable (j = id →
      if (s (.task id)).map Task.status = some src then R.wins σ.db.trace site src = true else R.loses site = true))
  | .emit (.settleTaskBilling _) | .emit (.finalizePreAuthorization _) | .emit (.refundTaskQuota _)
  | .emit (.taskBillingIntent _) | .emit (.sysLog _) | .auto .plain _ _ | .auto (.settleState _ _) _ _
  | .update .plain _ _ | .update (.settleState _ _) _ _ | .read _ _ | .start | .commit | .rollback => isTrue trivial
  | .lock m | .unlock m => m.elim

end StarNexus.Polling
