import StarNexus.Ledger.Bodies
import StarNexus.Ledger.Books
import StarNexus.Service.TaskBilling

/-!
# Routine bookkeeping

Most of what the coordinator and the billing of tasks do is of no consequence to the question who may bill a task: rows
of tasks keep their status, billing transactions stay with their task, and the entries that funding balances receive
are made for known reasons.  `clerk C` is the protocol of such functions, where `C` are the reasons; a function that
follows it can be used inside any other protocol that allows these statements.
-/

namespace StarNexus.Ledger

open Lib Lib.Protocol Lib.Tx Model Service

namespace Clerk

def fundLedger : (k : Key) → Val k → List Entry
  | .token _, _ => []
  | k, v => ledgerOf k v

def statusOf : (k : Key) → Val k → Option TaskStatus
  | .task _, v => v.map Task.status
  | _, _ => none

def taskOf : (k : Key) → Val k → Option ℕ
  | .billing _, v => v.map BillingTransaction.taskDBID
  | _, _ => none

structure Routine (C : Cause → Prop) (k : Key) (x v : Val k) : Prop where
  ledger : fundLedger k v = fundLedger k x ∨ ∃ c delta, C c ∧ fundLedger k v = fundLedger k x ++ [⟨c, delta⟩]
  status : statusOf k v = statusOf k x
  task : taskOf k v = taskOf k x

abbrev Phase := Option (ℕ × Option UserSubscription)

inductive Goes (C : Cause → Prop) : Phase → Move schema → Phase → Prop
  | read g ℓ s : Goes C g (.read ℓ s) g
  | start g : Goes C g .start g
  | log g text : Goes C g (.emit (.sysLog text)) g
  | update g s ws (h : ∀ k v, (⟨k, v⟩ : Write schema) ∈ ws → Routine C k (s k) v) : Goes C g (.update .plain s ws) none
  | auto g s ws (h : ∀ k v, (⟨k, v⟩ : Write schema) ∈ ws → Routine C k (s k) v) : Goes C g (.auto .plain s ws) g
  | lock g s n : Goes C g (.update .plain s [⟨.subscription n, s (.subscription n)⟩]) (some (n, s (.subscription n)))
  | commit g : Goes C g .commit none
  | rollback g : Goes C g .rollback none

def Sees (g : Phase) : Move schema → Prop
  | .read _ s | .update _ s _ => ∀ n v, g = some (n, v) → s (.subscription n) = v
  | _ => True

end Clerk

/-- The protocol of routine bookkeeping for the reasons `C`. -/
def clerk (C : Cause → Prop) : Protocol schema Clerk.Phase where
  idle := none
  sees := Clerk.Sees
  goes := Clerk.Goes C
  stops g := g = none
  stops_idle := rfl

namespace Clerk

variable {C : Cause → Prop} {α β : Type}

/-! ### Statements -/

lemma routine_one {s : Snap schema} {k : Key} {v : Val k} (h : Routine C k (s k) v) :
    ∀ k' v', (⟨k', v'⟩ : Write schema) ∈ [(⟨k, v⟩ : Write schema)] → Routine C k' (s k') v' := by
  intro k' v' hmem
  cases List.mem_singleton.1 hmem
  exact h

lemma goes_nothing (s : Snap schema) : Goes C none (.update .plain s []) none := .update _ _ _ fun _ _ h => nomatch h

lemma body_updateRow {k : Key} {f : Val k → Option (Val k)} (hf : ∀ x v, f x = some v → Routine C k x v) :
    (clerk C).Body (updateRow k f) (fun _ g => g = none) none :=
  .row (fun s _ _ => ⟨none, goes_nothing s, rfl⟩)
    fun _ _ _ hv => ⟨none, .update _ _ _ (routine_one (hf _ _ hv)), rfl⟩

abbrev Stays (C : Cause → Prop) (p : Model.Tx α) : Prop := (clerk C).Stays p

lemma stays_transaction {body : Model.Tx α} (h : (clerk C).Body body (fun _ _ => True) none) :
    Stays C (transaction body) :=
  .ofBody rfl (.start _) h (fun g _ => ⟨none, .rollback g, rfl⟩) fun _ g _ _ => ⟨none, .commit g, rfl⟩

lemma stays_execAuto {f : Snap schema → List (Write schema)}
    (hf : ∀ s k v, (⟨k, v⟩ : Write schema) ∈ f s → Routine C k (s k) v) :
    Stays C (execAuto (S := schema) Label.plain f) :=
  ⟨rfl, fun s _ => ⟨_, .auto _ _ _ (hf s), rfl⟩⟩

lemma stays_autoRow {k : Key} {f : Val k → Option (Val k)} (hf : ∀ x v, f x = some v → Routine C k x v) :
    Stays C (autoRow k f) := by
  refine stays_execAuto fun s k' v hmem => ?_
  obtain ⟨w, hw, heq⟩ := mem_rowWrite.1 hmem
  exact routine_one (hf _ _ hw) k' v (List.mem_singleton.2 heq)

/-! ### Rows -/

variable {c : Cause}

lemma routine_user {u : ℕ} {x : User} (hc : C c) (delta : ℤ) :
    Routine C (.user u) (some x) (some (x.add c delta)) := ⟨.inr ⟨c, delta, hc, rfl⟩, rfl, rfl⟩

lemma routine_token {n : ℕ} (x v : Option Token) : Routine C (.token n) x v := ⟨.inl rfl, rfl, rfl⟩

lemma routine_billing {j : ℕ} {f : BillingTransaction → Option BillingTransaction}
    (hf : ∀ row row', f row = some row' → row'.taskDBID = row.taskDBID) (x v : Option BillingTransaction)
    (h : onRow f x = some v) : Routine C (.billing j) x v := by
  obtain ⟨row, row', rfl, hrow', rfl⟩ := onRow_eq_some.1 h
  exact ⟨.inl rfl, rfl, congrArg some (hf row row' hrow')⟩

lemma routine_task {j : ℕ} {f : Task → Option Task} (hf : ∀ task task', f task = some task' → task'.status = task.status)
    (x v : Option Task) (h : onRow f x = some v) : Routine C (.task j) x v := by
  obtain ⟨task, task', rfl, htask', rfl⟩ := onRow_eq_some.1 h
  exact ⟨.inl rfl, congrArg some (hf task task' htask'), rfl⟩

/-! ### Balances -/

lemma adjustUserQuotaTx_body (hc : C c) (u : ℕ) (delta : ℤ) :
    (clerk C).Body (adjustUserQuotaTx (fun _ => c) u delta) (fun _ g => g = none) none := by
  refine Ledger.adjustUserQuotaTx_body (fun _ => rfl) (fun s => ⟨_, goes_nothing s⟩) fun s x hx => ?_
  have hroutine : Routine C (.user u) (s (.user u)) (some (x.add c delta)) := hx ▸ routine_user hc delta
  exact ⟨none, .update _ _ _ (routine_one hroutine), rfl⟩

lemma adjustTokenQuotaTx_body (c : Cause) (n : ℕ) (delta : ℤ) :
    (clerk C).Body (adjustTokenQuotaTx (fun _ => c) n delta) (fun _ g => g = none) none :=
  Ledger.adjustTokenQuotaTx_body (fun _ => rfl) (fun s => ⟨_, goes_nothing s⟩) fun _ _ _ _ =>
    ⟨none, .update _ _ _ (routine_one (routine_token _ _)), rfl⟩

lemma postConsumeUserSubscriptionDeltaTx_body (hc : C c) (n : ℕ) (delta : ℤ) :
    (clerk C).Body (postConsumeUserSubscriptionDeltaTx (fun _ => c) n delta) (fun _ g => g = none) none := by
  refine Ledger.postConsumeUserSubscriptionDeltaTx_body (fun v => some _) rfl (fun s => .lock _ s n)
    (fun v s hs => ⟨hs n v rfl, .read _ _ s⟩) (fun v s _ hs => hs n v rfl) fun s sub hsub => ?_
  refine ⟨none, .update _ _ _ (routine_one ?_), rfl⟩
  rw [hsub]
  exact ⟨.inr ⟨c, _, hc, rfl⟩, rfl, rfl⟩

/-! ### The coordinator -/

lemma createOutbox_body (event : EventID) (row : ℕ) :
    (clerk C).Body (createOutbox event row) (fun _ g => g = none) none :=
  Ledger.createOutbox_body (fun s => ⟨_, goes_nothing s⟩) fun _ _ _ =>
    ⟨none, .update _ _ _ (routine_one ⟨.inl rfl, rfl, rfl⟩), rfl⟩

lemma adjustTaskUsageTx_body (row : BillingTransaction) (task : Task) (q : ℤ) :
    (clerk C).Body (adjustTaskUsageTx row task q) (fun _ g => g = none) none := by
  refine Ledger.adjustTaskUsageTx_body row task q goes_nothing (fun s x x' hx hledger => ?_) fun s v => ?_
  · have hroutine : Routine C (.user row.userID) (s (.user row.userID)) (some x') := by
      rw [hx]
      exact ⟨.inl hledger, rfl, rfl⟩
    exact .update _ _ _ (routine_one hroutine)
  · exact .update _ _ _ (routine_one ⟨.inl rfl, rfl, rfl⟩)

lemma finishRow_task {finalState : BillingState} {finalQuota now : ℤ} (row row' : BillingTransaction)
    (h : finishRow finalState finalQuota now row = some row') : row'.taskDBID = row.taskDBID := by
  obtain ⟨-, ⟨⟩⟩ := Option.ite_none_right_eq_some.1 h
  rfl

lemma applyBoundTaskBilling_body (id : ℕ) (row : BillingTransaction) (q : ℤ) :
    (clerk C).Body (applyBoundTaskBilling id row q) (fun _ g => g = none) none := by
  exact Ledger.applyBoundTaskBilling_body (.read _ _) (fun task => adjustTaskUsageTx_body row task q)
    (fun _ _ _ => body_updateRow (routine_task fun _ _ h => by cases h; rfl))
    (fun _ _ => body_updateRow (routine_billing finishRow_task)) (createOutbox_body _ _) (createOutbox_body _ _)

lemma applyDurableTaskBilling_stays (hC : ∀ i, C (.durable .apply i)) (id : ℕ) :
    Stays C (applyDurableTaskBilling id) := by
  refine stays_transaction (.bind (.select fun s _ => ⟨none, .read _ _ s, ?_⟩))
  split
  · exact .fail _
  next row _ =>
  refine .ite (fun _ => .fail _) fun _ => .bind ?_
  have hfund : (clerk C).Body (adjustDurableFundingTx (fun _ => .durable .apply id) row
      ((if row.targetTaskStatus = .failure then 0 else row.finalQuota) - row.reservedQuota)) (fun _ g => g = none) none := by
    refine .ite (fun _ => .pure rfl) fun _ => ?_
    split
    · exact postConsumeUserSubscriptionDeltaTx_body (hC id) _ _
    · exact adjustUserQuotaTx_body (hC id) _ _
  refine hfund.mono ?_
  rintro _ _ rfl
  refine .bind (.mono (R := fun _ g => g = none) ?_ ?_)
  · exact .ite (fun _ => .pure rfl) fun _ => adjustTokenQuotaTx_body _ _ _
  rintro _ _ rfl
  refine .ite (fun _ => .ite (fun _ => .fail _) fun _ => ?_) fun _ => ?_
  · refine .bind (.now fun z => .bind ?_)
    refine (body_updateRow (routine_billing finishRow_task)).mono ?_
    rintro _ _ rfl
    exact (createOutbox_body _ _).mono fun _ _ _ => trivial
  · exact (applyBoundTaskBilling_body _ _ _).mono fun _ _ _ => trivial

lemma marks_taskDBID {T : ℕ → Prop} {row row' : BillingTransaction} (h : Marks T row row') :
    row'.taskDBID = row.taskDBID := by
  cases h with
  | claim h | release _ h | markStale h | repair _ h | refund h =>
    obtain ⟨-, ⟨⟩⟩ := Option.ite_none_right_eq_some.1 h
    rfl

lemma coordinates (hC : ∀ i, C (.durable .apply i)) : Coordinates (clerk C) fun _ => True where
  read _ := .read _ _ _
  log _ := .log _ _
  tasks _ _ _ _ _ := trivial
  mark s ws _ hws := by
    refine .auto _ _ _ fun k v hkv => ?_
    obtain ⟨j, row, row', hrow, hmark, heq⟩ := hws _ hkv
    obtain ⟨rfl, hv⟩ := Sigma.mk.inj heq
    obtain rfl := eq_of_heq hv
    rw [hrow]
    exact ⟨.inl rfl, rfl, congrArg some (marks_taskDBID hmark)⟩
  apply := applyDurableTaskBilling_stays hC

/-! ### Billing of tasks -/

lemma addUserQuota_stays (hc : C c) (u : ℕ) (delta : ℤ) : Stays C (addUserQuota c u delta) := by
  refine stays_bind (stays_autoRow fun x v h => ?_) fun _ => rfl
  obtain ⟨user, rfl, h'⟩ := Option.bind_eq_some_iff.1 h
  cases h'
  exact routine_user hc delta

lemma addTokenQuota_stays (c : Cause) (n : ℕ) (delta : ℤ) : Stays C (addTokenQuota c n delta) :=
  stays_bind stays_now fun _ => stays_bind (stays_autoRow fun x v _ => routine_token x v) fun _ => rfl

lemma taskAdjustFunding_stays (hc : C c) (task : Task) (delta : ℤ) :
    Stays C (taskAdjustFunding c task delta) := by
  refine .ite (fun _ => ?_) fun _ => .ite (fun _ => ?_) fun _ => ?_
  · refine .ite (fun _ => rfl) fun _ => .ite (fun _ => rfl) fun _ => ?_
    exact stays_transaction ((postConsumeUserSubscriptionDeltaTx_body hc _ _).mono fun _ _ _ => trivial)
  all_goals exact .ite (fun _ => rfl) fun _ => addUserQuota_stays hc _ _

lemma taskAdjustTokenQuota_stays (c : Cause) (task : Task) (delta : ℤ) :
    Stays C (taskAdjustTokenQuota c task delta) := by
  refine .ite (fun _ => rfl) fun _ =>
    stays_bind (stays_bind (stays_attempt (stays_select fun s => .read _ _ s)) fun x => ?_) fun b => ?_
  · split <;> exact rfl
  · refine .ite (fun _ => stays_bind (stays_attempt (.ite (fun _ => ?_) fun _ => ?_)) fun _ => rfl)
      fun _ => rfl
    all_goals exact .ite (fun _ => rfl) fun _ => addTokenQuota_stays _ _ _

lemma updateBillingSnapshot_stays (id : ℕ) (task : Task) : Stays C (updateBillingSnapshot id task) :=
  stays_bind stays_now fun _ => stays_bind (stays_autoRow (routine_task fun _ _ h => by cases h; rfl)) fun _ => rfl

lemma addTaskUsage_stays (task : Task) (quota count : ℤ) : Stays C (addTaskUsage task quota count) := by
  refine stays_bind (stays_attempt (stays_bind (stays_autoRow fun x v h => ?_) fun _ => rfl)) fun _ => ?_
  · obtain ⟨user, rfl, h'⟩ := Option.bind_eq_some_iff.1 h
    cases h'
    exact ⟨.inl rfl, rfl, rfl⟩
  · exact stays_bind (stays_attempt (stays_bind (stays_autoRow fun x v _ => ⟨.inl rfl, rfl, rfl⟩) fun _ => rfl)) fun _ => rfl

lemma recalculateTaskQuota_stays {id : ℕ} (hc : C (.taskRecalculate id)) (task : Task) (actualQuota : ℤ) :
    Stays C (recalculateTaskQuota id task actualQuota) := by
  refine .ite (fun _ => rfl) fun _ => stays_bind (stays_attempt (taskAdjustFunding_stays hc _ _)) fun x => ?_
  split
  · exact rfl
  · refine stays_bind (taskAdjustTokenQuota_stays _ _ _) fun _ =>
      stays_bind (stays_attempt (updateBillingSnapshot_stays _ _)) fun _ => ?_
    exact .ite (fun _ => stays_bind (addTaskUsage_stays _ _ _) fun _ => rfl) fun _ => rfl

end Clerk

end StarNexus.Ledger
