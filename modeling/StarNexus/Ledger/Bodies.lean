import StarNexus.Lib.Protocol
import StarNexus.Service.DurableSession

/-!
# The balance functions under any protocol

What a protocol has to allow so that the functions of durable billing follow it: each lemma names the statements that
the function can perform.
-/

namespace StarNexus.Ledger

open Lib Lib.Protocol Lib.Tx Model Service Label

variable {G : Type} {π : Protocol schema G} {g : G} {R : Unit → G → Prop} {why : Why}

lemma guardedRow_body {k : Key} {f : Cause → Val k → Option (Val k)} {e : Err}
    (hmiss : ∀ s, ∃ g', π.goes g (.update plain s []) g')
    (hpost : ∀ s v, f (why s) (s k) = some v → ∃ g', π.goes g (.update plain s [⟨k, v⟩]) g' ∧ R () g') :
    π.Body (balanceRow k why f >>= fun affected => if affected ≠ 1 then Tx.fail e else pure ()) R g := by
  refine .bind ⟨fun b hb => ?_, fun s _ => ?_⟩
  · cases hb
  cases hv : f (why s) (s k) with
  | none =>
    obtain ⟨g', hgo⟩ := hmiss s
    refine ⟨g', by simpa [rowWrite, hv] using hgo, fun b hb => ?_⟩
    obtain rfl : 0 = b := by simpa [rowWrite, hv] using hb
    exact .ite (fun _ => .fail _) fun h => absurd (by decide) h
  | some v =>
    obtain ⟨g', hgo, hR⟩ := hpost s v hv
    refine ⟨g', by simpa [rowWrite, hv] using hgo, fun b hb => ?_⟩
    obtain rfl : 1 = b := by simpa [rowWrite, hv] using hb
    exact .ite (fun h => absurd rfl h) fun _ => .pure hR

variable {delta : ℤ}

lemma adjustUserQuotaTx_body {u : ℕ} (hzero : u = 0 ∨ delta = 0 → R () g)
    (hmiss : ∀ s, ∃ g', π.goes g (.update plain s []) g')
    (hpost : ∀ (s : Snap schema) (x : User), s (.user u) = some x →
      ∃ g', π.goes g (.update plain s [⟨.user u, some (x.add (why s) delta)⟩]) g' ∧ R () g') :
    π.Body (adjustUserQuotaTx why u delta) R g := by
  refine .ite (fun h => .pure (hzero h)) fun _ => guardedRow_body hmiss fun s v hv => ?_
  obtain ⟨x, y, hx, hy, rfl⟩ := onRow_eq_some.1 hv
  obtain ⟨-, ⟨⟩⟩ := Option.ite_none_left_eq_some.1 hy
  exact hpost s x hx

lemma adjustTokenQuotaTx_body {n : ℕ} (hzero : n = 0 ∨ delta = 0 → R () g)
    (hmiss : ∀ s, ∃ g', π.goes g (.update plain s []) g')
    (hpost : ∀ (s : Snap schema) (x : Token) (z : ℤ), s (.token n) = some x →
      ∃ g', π.goes g (.update plain s [⟨.token n, some (x.add (why s) delta z)⟩]) g' ∧ R () g') :
    π.Body (adjustTokenQuotaTx why n delta) R g := by
  refine .ite (fun h => .pure (hzero h)) fun _ => .bind (.now fun z => guardedRow_body hmiss fun s v hv => ?_)
  obtain ⟨x, y, hx, hy, rfl⟩ := onRow_eq_some.1 hv
  obtain ⟨-, ⟨⟩⟩ := Option.ite_none_left_eq_some.1 hy
  exact hpost s x z hx

/-- The first statement locks the subscription, so the copy read by the second is still what the third overwrites. -/
lemma postConsumeUserSubscriptionDeltaTx_body {c : Cause} {n : ℕ} (locked : Option UserSubscription → G)
    (hzero : R () g)
    (hlock : ∀ s, π.goes g (.update plain s [⟨.subscription n, s (.subscription n)⟩]) (locked (s (.subscription n))))
    (hread : ∀ v s, π.sees (locked v) (.read plain s) →
      s (.subscription n) = v ∧ π.goes (locked v) (.read plain s) (locked v))
    (hsees : ∀ v s ws, π.sees (locked v) (.update plain s ws) → s (.subscription n) = v)
    (hpost : ∀ (s : Snap schema) (sub : UserSubscription), s (.subscription n) = some sub → ∃ g', π.goes (locked (some sub))
      (.update plain s [⟨.subscription n, some (sub.setUsed c (max 0 (sub.amountUsed + delta)))⟩]) g' ∧ R () g') :
    π.Body (postConsumeUserSubscriptionDeltaTx (fun _ => c) n delta) R g := by
  refine .ite (fun _ => .fail _) fun _ => .ite (fun _ => .pure hzero) fun _ => ?_
  refine .bind (.row nofun fun s v _ hv => ?_)
  obtain rfl : s (.subscription n) = v := Option.some.inj hv
  refine ⟨_, hlock s, .bind (.select fun s₁ hs₁ => ?_)⟩
  obtain ⟨heq, hgo⟩ := hread _ s₁ hs₁
  refine ⟨_, hgo, ?_⟩
  rw [heq]
  cases hsub : s (.subscription n) with
  | none => exact .fail _
  | some sub =>
    refine .ite (fun _ => .fail _) fun _ => .bind (.row nofun ?_)
    intro s₂ v hs₂ hv
    cases hv
    obtain ⟨g', hgo', hR⟩ := hpost s₂ sub (hsees _ _ _ hs₂)
    exact ⟨g', hgo', .pure hR⟩

lemma createOutbox_body {event : EventID} {row : ℕ} (hmiss : ∀ s, ∃ g', π.goes g (.update plain s []) g')
    (hnew : ∀ (s : Snap schema) (x : BillingOutbox), s (.outbox event) = none →
      ∃ g', π.goes g (.update plain s [⟨.outbox event, some x⟩]) g' ∧ R () g') :
    π.Body (createOutbox event row) R g := by
  refine .bind (.now fun z => .bind (.row ?_ ?_))
  · intro s _ _
    obtain ⟨g', hgo⟩ := hmiss s
    exact ⟨g', hgo, .ite (fun _ => .fail _) fun h => absurd rfl h⟩
  · intro s v _ hv
    obtain ⟨hnone, rfl⟩ : s (.outbox event) = none ∧ some { billingTransactionID := row, nextRetryAt := z } = v := by
      cases h : s (.outbox event) with
      | none => simpa [h, ifAbsent] using hv
      | some x => simp [h, ifAbsent] at hv
    obtain ⟨g', hgo, hR⟩ := hnew s _ hnone
    exact ⟨g', hgo, .ite (fun h => absurd h (by decide)) fun _ => .pure hR⟩

lemma adjustTaskUsageTx_body (row : BillingTransaction) (task : Task) (q : ℤ)
    (hmiss : ∀ s, π.goes g (.update plain s []) g)
    (huser : ∀ (s : Snap schema) (x x' : User), s (.user row.userID) = some x → x'.ledger = x.ledger →
      π.goes g (.update plain s [⟨.user row.userID, some x'⟩]) g)
    (hchannel : ∀ (s : Snap schema) (v : ℤ), π.goes g (.update plain s [⟨.channelUsed task.channelId, v⟩]) g) :
    π.Body (adjustTaskUsageTx row task q) (fun _ g' => g' = g) g := by
  have hch : π.Body (adjustChannelUsageTx task.channelId q) (fun _ g' => g' = g) g := by
    refine .ite (fun _ => .pure rfl) fun _ => .bind (.row ?_ ?_)
    · simp
    · exact fun s v _ _ => ⟨g, hchannel s v, .pure rfl⟩
  refine .ite (fun _ => .bind ?_) fun _ => .pure rfl
  refine .ite (fun _ => .pure hch) fun _ => .bind (.row ?_ ?_)
  · exact fun s _ _ => ⟨g, hmiss s, .pure hch⟩
  · intro s v _ hv
    obtain ⟨x, x', hx, hx', rfl⟩ := onRow_eq_some.1 hv
    refine ⟨g, huser s x x' hx ?_, .pure hch⟩
    rw [← Option.some.inj hx']

/-- The phase stays the same until the quota cache is told. -/
lemma applyBoundTaskBilling_body {id : ℕ} {row : BillingTransaction} {q : ℤ} (hread : ∀ s, π.goes g (.read plain s) g)
    (husage : ∀ task, π.Body (adjustTaskUsageTx row task q) (fun _ g' => g' = g) g)
    (htask : ∀ (state : Option BillingState) (data : TaskPrivateData) (z : ℤ), π.Body (updateRow (.task row.taskDBID) (onRow fun t =>
      some { t with quota := q, billingState := state, privateData := data, updatedAt := z })) (fun _ g' => g' = g) g)
    (hbilling : ∀ state z, π.Body (updateRow (.billing id) (onRow (finishRow state q z))) (fun _ g' => g' = g) g)
    (hlog : π.Body (createOutbox (.taskBilling id) id) (fun _ g' => g' = g) g)
    (hcache : π.Body (enqueueQuotaCacheOutbox id) R g) : π.Body (applyBoundTaskBilling id row q) R g := by
  refine .bind (.select fun s _ => ⟨g, hread s, ?_⟩)
  split
  · exact .fail _
  refine .bind ((husage _).mono ?_)
  rintro _ _ rfl
  refine .bind (.now fun z => .bind ((htask _ _ z).mono ?_))
  rintro _ _ rfl
  refine .bind ((hbilling _ z).mono ?_)
  rintro _ _ rfl
  refine .ite (fun _ => hcache) fun _ => .bind (.ite (fun _ => hlog.mono ?_) fun _ => .pure hcache)
  rintro _ _ rfl
  exact hcache

/-! ### The coordinator -/

/-- What is written to a billing transaction outside of transactions; `T` are the tasks whose intent is repaired. -/
inductive Marks (T : ℕ → Prop) (row row' : BillingTransaction) : Prop
  | claim {version : ℕ} {owner : String} {lease now : ℤ} (h : row.claim version owner lease now = some row')
  | release {pending : BillingState} {msg : String} {attempts : ℕ} {now : ℤ}
      (hp : pending = .settlePending ∨ pending = .refundPending) (h : row.release pending msg attempts now = some row')
  | markStale {before now : ℤ} (h : row.markStale before now = some row')
  | repair {id : ℕ} {task : Task} {state : BillingState} {now : ℤ} (hid : T id)
      (h : repairRow id task state now row = some row')
  | refund {now : ℤ} (h : refundRow now row = some row')

def MarksRows (T : ℕ → Prop) (s : Snap schema) (ws : List (Write schema)) : Prop :=
  ∀ x ∈ ws, ∃ j row row', s (.billing j) = some row ∧ Marks T row row' ∧ x = ⟨.billing j, some row'⟩

/-- What a coordinator needs: in the idle phase it may read, log and mark rows, and an application ends there. -/
structure Coordinates (π : Protocol schema G) (T : ℕ → Prop) : Prop where
  read : ∀ s, π.goes π.idle (.read Label.plain s) π.idle
  log : ∀ text, π.goes π.idle (.emit (.sysLog text)) π.idle
  tasks : ∀ s id task, π.sees π.idle (.read Label.plain s) → s (.task id) = some task → T id
  mark : ∀ s ws, π.sees π.idle (.auto Label.plain s ws) → MarksRows T s ws →
    π.goes π.idle (.auto Label.plain s ws) π.idle
  apply : ∀ id, π.Stays (applyDurableTaskBilling id)

section coordinator

variable {T : ℕ → Prop} (hπ : Coordinates π T)

include hπ

lemma stays_mark {f : Snap schema → List (Write schema)} (hf : ∀ s, MarksRows T s (f s)) :
    π.Stays (execAuto (S := schema) plain f) := ⟨rfl, fun s hs => ⟨_, hπ.mark s _ hs (hf s), rfl⟩⟩

variable {f : BillingTransaction → Option BillingTransaction}

section

variable (hf : ∀ row row', f row = some row' → Marks T row row')

include hf

lemma stays_markRow {j : ℕ} : π.Stays (autoRow (.billing j) (onRow f)) := by
  refine stays_mark hπ fun s x hx => ?_
  obtain ⟨v, hv, rfl⟩ := mem_rowWrite.1 hx
  obtain ⟨row, row', hrow, hrow', rfl⟩ := onRow_eq_some.1 hv
  exact ⟨j, row, row', hrow, hf row row' hrow', rfl⟩

lemma stays_markSelected :
    π.Stays (execAuto (S := schema) plain fun s =>
      (selectBilling s fun row => (f row).isSome).map fun r => ⟨.billing r.1, f r.2⟩) := by
  refine stays_mark hπ fun s x hx => ?_
  obtain ⟨j, row, row', rfl, hrow, hrow'⟩ := mem_billingWrites hx
  exact ⟨j, row, row', hrow, hf row row' hrow', rfl⟩

end

lemma repairTasks_stays (now : ℤ) (tasks : List (ℕ × Task)) (h : ∀ x ∈ tasks, T x.1) :
    π.Stays (repairTasks now tasks) := by
  induction tasks with
  | nil => exact rfl
  | cons x rest ih =>
    obtain ⟨id, task⟩ := x
    refine stays_bind ?_ fun _ => ih fun y hy => h y (.tail _ hy)
    cases hstate : task.billingState with
    | none => exact stays_mark hπ fun s x hx => by simp at hx
    | some state =>
      have hrepair := stays_markSelected hπ (f := repairRow id task state now) fun _ _ =>
        .repair (h (id, task) (.head _))
      exact hrepair

lemma repairPendingTaskBillingIntents_stays (limit : ℕ) : π.Stays (repairPendingTaskBillingIntents limit) := by
  refine .tx_bind ⟨⟨fun _ _ => rfl, nofun⟩,
    fun s hs => ⟨_, hπ.read s, fun _ _ => rfl, ?_⟩⟩
  intro tasks htasks
  cases htasks
  refine stays_bind stays_now fun z => repairTasks_stays hπ z _ fun x hx => ?_
  exact hπ.tasks s x.1 x.2 hs (mem_selectTasks (List.mem_of_mem_take hx)).1

lemma releaseBillingTransaction_stays (id : ℕ) (pending : BillingState) (msg : String) (attempts : ℕ) :
    π.Stays (releaseBillingTransaction id pending msg attempts) := by
  refine .ite (fun _ => rfl) fun hp => stays_bind stays_now fun z => stays_bind ?_ fun _ => rfl
  refine stays_markRow hπ fun _ _ => .release ?_
  by_contra hne
  exact hp (not_or.1 hne)

lemma markStaleUnboundBillingRefundPending_stays (before : ℤ) : π.Stays (markStaleUnboundBillingRefundPending before) :=
  .ite (fun _ => rfl) fun _ => stays_bind stays_now fun _ =>
    stays_bind (stays_markSelected hπ fun _ _ => .markStale) fun _ => rfl

variable (owner : String)

lemma processCandidates_stays (rows : List (ℕ × BillingTransaction)) :
    π.Stays (processCandidates owner rows) := by
  induction rows with
  | nil => exact rfl
  | cons x rest ih =>
    obtain ⟨id, candidate⟩ := x
    refine stays_bind (stays_attempt (stays_bind stays_now fun _ =>
      stays_bind (stays_markRow hπ fun _ _ => .claim) fun _ => rfl)) fun won => ?_
    split
    · refine stays_bind (stays_attempt (hπ.apply id)) fun applied => ?_
      split
      · exact ih
      · refine stays_bind (stays_attempt (releaseBillingTransaction_stays hπ _ _ _ _)) fun _ => ?_
        exact stays_bind (fun _ => ⟨_, hπ.log _, rfl⟩) fun _ => ih
    · exact ih

lemma processDurableBillingOnce_stays (limit : ℕ) :
    π.Stays (processDurableBillingOnce owner limit) := by
  refine stays_bind stays_now fun z => stays_bind (markStaleUnboundBillingRefundPending_stays hπ _) fun _ => ?_
  refine stays_bind (repairPendingTaskBillingIntents_stays hπ limit) fun _ => ?_
  exact stays_bind (stays_bind stays_now fun _ => stays_select hπ.read) fun _ => processCandidates_stays hπ owner _

lemma refundDurableRequestBilling_stays (ses : BillingSession) :
    π.Stays (refundDurableRequestBilling owner ses) := by
  refine stays_bind (stays_bind stays_now fun z => stays_bind (stays_markRow hπ fun _ _ => .refund) fun affected => ?_)
    fun _ => stays_bind (stays_attempt (processDurableBillingOnce_stays hπ owner 100)) fun _ => rfl
  refine .ite (fun _ => stays_bind (stays_select hπ.read) fun row => ?_) fun _ => rfl
  split
  · exact rfl
  · exact .ite (fun _ => rfl) fun _ => rfl

end coordinator

end StarNexus.Ledger
