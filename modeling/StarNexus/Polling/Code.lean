import StarNexus.Ledger.Clerk
import StarNexus.Polling.Protocol

/-!
# Compare-and-sets and billing follow the protocol

One lemma per function: from a client without an open transaction, the function performs only statements that
`taskProtocol` allows, and leaves no transaction open.  Functions that need a right say so, and functions that try to
move the task say which right they end with.
-/

namespace StarNexus.Polling

open Lib Lib.Protocol Lib.Tx Model Service Ledger Clerk

variable {κ : Scope} {g : Phase} {α β : Type}

/-- From a quiet phase, the program leaves the phase as it was. -/
abbrev Aside (κ : Scope) (p : Model.Tx α) : Prop :=
  ∀ g : Phase, g.Quiet → (taskProtocol κ).Follows p (fun _ g' => g' = g) g

/-- From a quiet phase, the program ends in a quiet one. -/
abbrev Calm (κ : Scope) (p : Model.Tx α) : Prop :=
  ∀ g : Phase, g.Quiet → (taskProtocol κ).Follows p (fun _ g' => g'.Quiet) g

variable {p : Model.Tx α}

lemma Aside.calm (h : Aside κ p) : Calm κ p := by
  intro g hg
  refine (h g hg).mono ?_
  rintro _ _ rfl
  exact hg

variable {f : α → Model.Tx β}

lemma calm_bind (hp : (taskProtocol κ).Follows p (fun _ g' => g'.Quiet) g)
    (hf : ∀ a, Calm κ (f a)) : (taskProtocol κ).Follows (p >>= f : Model.Tx β) (fun _ g' => g'.Quiet) g := by
  refine .tx_bind (hp.mono fun x g' hg' => ⟨fun _ _ => hg', fun a _ => hf a g' hg'⟩)

lemma aside_bind {Q : Except Err β → Phase → Prop} (hp : Aside κ p)
    (hg : g.Quiet) (herr : ∀ e, Q (.error e) g) (hf : ∀ a, (taskProtocol κ).Follows (f a) Q g) :
    (taskProtocol κ).Follows (p >>= f : Model.Tx β) Q g := .seq (hp g hg) herr hf

lemma aside_attempt (hp : Aside κ p) : Aside κ (attempt p) :=
  fun g hg => .attempt (hp g hg)

lemma aside_select {ℓ : Label} {q : Snap schema → α} : Aside κ (select (S := schema) ℓ q) :=
  fun _ _ => ⟨rfl, fun s _ => ⟨_, .read _ _ s, rfl⟩⟩

/-! ### Routine bookkeeping -/

lemma refunds_eq (id : ℕ) (k : Key) (v : Val k) :
    refunds id k v = (fundLedger k v).countP fun e => e.cause = .taskRefund id := by
  cases k <;> rfl

variable {id : ℕ}

lemma harmless_of_routine {C : Cause → Prop} (hC : ¬C (.taskRefund id)) {k : Key} {x v : Val k}
    (h : Clerk.Routine C k x v) : Harmless id k x v := by
  refine ⟨?_, ?_, ?_⟩
  · rw [refunds_eq, refunds_eq]
    rcases h.ledger with heq | ⟨c, delta, hc, heq⟩
    · rw [heq]
    · have hne : c ≠ .taskRefund id := fun hcc => hC (hcc ▸ hc)
      simp [heq, hne]
  · have hs := h.status
    cases k <;> simp_all [statusAt, statusOf]
  · have ht := h.task
    cases k with
    | billing j =>
      intro hb
      cases v with
      | none => cases hb
      | some row =>
        have hrow : some row.taskDBID = x.map BillingTransaction.taskDBID := ht
        cases x with
        | none => cases hrow
        | some row' =>
          have hid : row.taskDBID = id := by simpa [billedAt] using hb
          have hsame : row'.taskDBID = row.taskDBID := (Option.some.inj hrow).symm
          simp [billedAt, hsame, hid]
    | _ => exact fun hb => hb

lemma rightAfter_of_quiet (hg : g.Quiet) : g.rightAfter = g.right := by
  unfold Phase.rightAfter
  rw [hg.moved]
  have hr := hg.right
  cases h : g.right with
  | posted a => exact absurd h (hr a)
  | _ => rfl

lemma Phase.forget {g : Phase} (hg : g.sub = none) : { g with sub := none } = g := by
  obtain ⟨e, m, r, s⟩ := g
  subst hg
  rfl

/-- **Routine bookkeeping leaves the phase alone.** -/
lemma aside_of_clerk {C : Cause → Prop} (hC : ¬C (.taskRefund κ.id)) (hp : Clerk.Stays C p) :
    Aside κ p := by
  intro g hg
  have hback : ({ entry := g.entry, right := g.rightAfter } : Phase) = g := by
    rw [rightAfter_of_quiet hg]
    obtain ⟨hm, -, hs⟩ := hg
    obtain ⟨e, m, r, s⟩ := g
    subst hm hs
    rfl
  have hmap := Follows.map (ρ := taskProtocol κ) (fun sub => { g with sub := sub }) (fun sub m hs => ?_)
    (fun sub m sub' hgo => ?_) hp
  · have hidle : { g with sub := (clerk C).idle } = g := Phase.forget hg.sub
    rw [hidle] at hmap
    refine hmap.mono ?_
    rintro _ _ ⟨_, rfl, rfl⟩
    exact hidle
  · cases m with
    | read ℓ s => exact hs.1
    | update ℓ s ws => exact hs
    | _ => trivial
  · cases hgo with
    | read ℓ s => exact .read _ ℓ s
    | start => exact .start _
    | log text => exact .emit _ _ (by simp [billing]) fun _ _ h => nomatch h
    | update s ws h => exact .neutral _ _ s ws fun k v hv => harmless_of_routine hC (h k v hv)
    | auto s ws h => exact .auto _ _ s ws fun k v hv => harmless_of_routine hC (h k v hv)
    | lock s n => exact .lock _ _ s n
    | commit => exact .commit _ hg.moved hg.right
    | rollback =>
      have hgo : Goes κ { g with sub := sub } .rollback { entry := g.entry, right := g.rightAfter } := .rollback _
      rw [hback] at hgo
      rwa [Phase.forget hg.sub]

lemma processDurableBillingOnce_aside (owner : String) (limit : ℕ) : Aside κ (processDurableBillingOnce owner limit) :=
  aside_of_clerk (C := fun c => ∃ i, c = .durable .apply i) nofun
    (processDurableBillingOnce_stays (coordinates fun i => ⟨i, rfl⟩) owner limit)

/-- The answer `true` comes from a row that is bound to the task. -/
lemma taskHasDurableBilling_follows (id : ℕ) (g : Phase) :
    (taskProtocol κ).Follows (taskHasDurableBilling id)
      (fun x g' => g' = g ∧ (x = .ok true → id = κ.id → κ.durable)) g := by
  refine .ite (fun _ => ⟨rfl, nofun⟩) fun _ => ?_
  refine .tx_bind (.attempt ⟨?_, fun s hs => ⟨g, .read _ _ s, ?_⟩⟩)
  · refine ⟨nofun, fun a ha => ?_⟩
    cases ha
    exact ⟨rfl, nofun⟩
  · refine ⟨nofun, fun a ha => ?_⟩
    cases ha
    refine ⟨rfl, fun h hid => ?_⟩
    by_contra hd
    obtain ⟨⟨j, row⟩, hfirst⟩ := Option.isSome_iff_exists.1 (Except.ok.inj h)
    obtain ⟨hrow, hbound⟩ := firstBilling_eq_some hfirst
    have hnot := hs.2 hd j
    rw [hrow] at hnot
    simp only [decide_eq_true_eq] at hbound
    simp [billedAt, hbound, hid] at hnot

/-! ### Moving the status -/

variable {src : TaskStatus} {task : Task}

lemma casTask_some {now : ℤ} {x v : Option Task}
    (h : onRow (casTask src task now) x = some v) :
    ∃ row, x = some row ∧ row.status = src ∧ v = some { task with updatedAt := now } := by
  obtain ⟨row, row', rfl, hrow', rfl⟩ := onRow_eq_some.1 h
  unfold casTask at hrow'
  split at hrow'
  · next hsrc => exact ⟨row, rfl, hsrc, by rw [← Option.some.inj hrow']⟩
  · cases hrow'

lemma casTask_none {now : ℤ} {x : Option Task}
    (h : onRow (casTask src task now) x = none) : x.map Task.status ≠ some src := by
  rintro hx
  obtain ⟨row, rfl, hrow⟩ := Option.map_eq_some_iff.1 hx
  simp [onRow, casTask, hrow] at h

variable {id j : ℕ}

lemma harmless_task (hne : j ≠ id) (x v : Option Task) : Harmless id (.task j) x v :=
  ⟨rfl, by simp [statusAt, hne], fun h => h⟩

/-- After an attempt to move the status: who has won a failure, or ignores that it has lost, may refund. -/
structure Tried (κ : Scope) (site : CasSite) (id : ℕ) (dst : TaskStatus) (x : Except Err Bool) (g : Phase) : Prop where
  quiet : g.Quiet
  won : x = .ok true → id = κ.id → refundsAfterIntent site = true → dst = .failure → g.right = .refund
  lost : x = .ok false → id = κ.id → ignoresLoss site = true → g.right = .refund

lemma Phase.Quiet.withRight {r : Right} (hg : g.Quiet) (hr : ∀ a, r ≠ .posted a) : { g with right := r }.Quiet :=
  ⟨hg.moved, hr, hg.sub⟩

lemma granted_ne_posted (site : CasSite) (dst : TaskStatus) (a : FundKey) : granted site dst ≠ .posted a := by
  unfold granted
  split
  · exact nofun
  · split <;> exact nofun

lemma granted_failure (site : CasSite) : granted site .failure = .refund := rfl

variable {site : CasSite}

/-- Outside of a transaction, the winner is granted what its site bills. -/
lemma updateWithStatus_follows (hg : g.Quiet)
    (hu : id = κ.id → κ.uses site) (ha : id = κ.id → Allowed g.entry site src task.status) :
    (taskProtocol κ).Follows (updateWithStatus site id task src)
      (fun x g' => Tried κ site id task.status x g' ∧
        (x = .ok true → id = κ.id → g'.right = granted site task.status)) g := by
  have herr : ∀ e, Tried κ site id task.status (.error e) g := fun e =>
    ⟨hg, nofun, nofun⟩
  refine fun now => .tx_bind ⟨⟨fun e _ => ⟨herr e, nofun⟩, nofun⟩, ?_⟩
  intro s _
  unfold rowWrite
  cases hv : onRow (casTask src task now) (s (.task id)) with
  | none =>
    have hx := casTask_none hv
    by_cases hlost : id = κ.id ∧ ignoresLoss site = true
    · obtain ⟨rfl, hi⟩ := hlost
      refine ⟨_, .lose _ site src s (hu rfl) hi hg.right hx, nofun, ?_⟩
      rintro n ⟨⟩
      exact ⟨⟨hg.withRight nofun, nofun, fun _ _ _ => rfl⟩, nofun⟩
    · refine ⟨g, .auto _ _ s _ (neutral_nil _ _), nofun, ?_⟩
      rintro n ⟨⟩
      exact ⟨⟨hg, nofun, fun _ hid hi => absurd ⟨hid, hi⟩ hlost⟩, nofun⟩
  | some v =>
    obtain ⟨row, hrow, hsrc, rfl⟩ := casTask_some hv
    by_cases hid : id = κ.id
    · subst hid hsrc
      refine ⟨_, .win _ site s row _ (hu rfl) hg.right hrow (ha rfl), nofun, ?_⟩
      rintro n ⟨⟩
      refine ⟨⟨hg.withRight (granted_ne_posted _ _), fun _ _ _ hdst => ?_, nofun⟩, fun _ _ => rfl⟩
      simp [hdst, granted_failure]
    · refine ⟨g, .auto _ _ s _ (neutral_one (harmless_task hid _ _)), nofun, ?_⟩
      rintro n ⟨⟩
      exact ⟨⟨hg, fun _ h => absurd h hid, nofun⟩, fun _ h => absurd h hid⟩

/-! ### The intent of a finished task -/

lemma body_neutral (hs : g.sub = none) {k : Key} {f : Val k → Option (Val k)}
    (hf : ∀ x v, f x = some v → Harmless κ.id k x v) :
    (taskProtocol κ).Follows (updateRow k f) (fun _ g' => g' = g) g := by
  refine ⟨rfl, fun s _ => ⟨{ g with sub := none }, .neutral _ _ s _ ?_, Phase.forget hs⟩⟩
  unfold rowWrite
  cases hv : f (s k) with
  | none => exact neutral_nil _ _
  | some v => exact neutral_one (hf _ _ hv)

lemma harmless_keepTask {f : Task → Option Task}
    (hf : ∀ task task', f task = some task' → task'.status = task.status) (x v : Option Task)
    (h : onRow f x = some v) : Harmless id (.task j) x v :=
  harmless_of_routine (C := fun _ => False) (fun h => h) (routine_task hf x v h)

lemma harmless_keepBilling {f : BillingTransaction → Option BillingTransaction}
    (hf : ∀ row row', f row = some row' → row'.taskDBID = row.taskDBID) (x v : Option BillingTransaction)
    (h : onRow f x = some v) : Harmless id (.billing j) x v :=
  harmless_of_routine (C := fun _ => False) (fun h => h) (routine_billing hf x v h)

lemma writeTaskBillingIntentTx_follows (hs : g.sub = none) (id : ℕ) (task : Task) (q : ℤ) (result : Option TaskInfo)
    (reason : String) (now : ℤ) (row : ℕ) (billing : BillingTransaction) :
    (taskProtocol κ).Follows (writeTaskBillingIntentTx id task q result reason now row billing)
      (fun _ g' => g' = g) g := by
  have htask : ∀ state, (taskProtocol κ).Follows
      (updateRow (.task id) (onRow fun t => some { t with billingState := some state, updatedAt := now }))
      (fun _ g' => g' = g) g := fun state =>
    body_neutral hs (harmless_keepTask fun _ _ h => by cases h; rfl)
  refine .ite (fun _ => ?_) fun _ => .ite (fun _ => rfl) fun _ => ?_
  · exact (htask _).seq (fun _ => rfl) fun _ => rfl
  · refine .seq (body_neutral hs (harmless_keepBilling fun _ _ h => by cases h; rfl)) (fun _ => rfl)
      fun _ => ?_
    exact (htask _).seq (fun _ => rfl) fun _ => rfl

/-- At the end of the body of the transaction that moves the task and writes its intent. -/
structure Intending (κ : Scope) (site : CasSite) (id : ℕ) (x : Except Err Unit) (g : Phase) : Prop where
  unposted : ∀ a, g.right ≠ .posted a
  moved : x = .ok () → id = κ.id → ∃ src dst, g.moved = some (site, src, dst)
  other : id ≠ κ.id → g.moved = none
  lost : x = .error .recordNotFound → id = κ.id → ignoresLoss site = true → g.rightAfter = .refund

/-- After that transaction. -/
structure Intended (κ : Scope) (site : CasSite) (id : ℕ) (x : Except Err Unit) (g : Phase) : Prop where
  quiet : g.Quiet
  won : x = .ok () → id = κ.id → g.right = .intent site
  lost : x = .error .recordNotFound → id = κ.id → ignoresLoss site = true → g.right = .refund

/-- A loser is rolled back with the right that the loss has given it. -/
lemma intentTransaction_follows (hg : g.Quiet) {body : Model.Tx Unit}
    (hbody : (taskProtocol κ).Follows body (Intending κ site id) g) :
    (taskProtocol κ).Follows (transaction body) (Intended κ site id) g := by
  refine .transaction ⟨hg, nofun, nofun⟩
    ⟨g, .start g, hbody.mono fun x g₁ h₁ => ?_⟩
  have hquiet : ({ entry := g₁.entry, right := g₁.rightAfter } : Phase).Quiet := ⟨rfl, rightAfter_ne g₁, rfl⟩
  refine ⟨fun e hx => ⟨_, .rollback g₁, hquiet, nofun, fun he => h₁.lost (hx.trans he)⟩, fun u hx => ?_⟩
  refine ⟨⟨_, .rollback g₁, hquiet, nofun, nofun⟩, fun _ => ?_⟩
  subst hx
  by_cases hid : id = κ.id
  · obtain ⟨src, dst, hm⟩ := h₁.moved rfl hid
    exact ⟨_, .commitMoved _ _ _ _ hm h₁.unposted, ⟨rfl, nofun, rfl⟩, fun _ _ => rfl,
      nofun⟩
  · exact ⟨_, .commit _ (h₁.other hid) h₁.unposted, ⟨h₁.other hid, h₁.unposted, rfl⟩, fun _ h => absurd h hid,
      nofun⟩

section

variable (hg : g.Quiet) (hu : id = κ.id → κ.uses site) (hd : id = κ.id → κ.durable)
  (ha : id = κ.id → Allowed g.entry site src task.status) (ht : task.status.terminal = true) (q : ℤ)
  (result : Option TaskInfo) (reason : String)

include hg hu hd ha ht

lemma createTaskBillingIntentTx_follows (now : ℤ) :
    (taskProtocol κ).Follows (createTaskBillingIntentTx site id task src q result reason now)
      (Intending κ site id) g := by
  refine .tx_bind ⟨⟨fun e he => ?_, fun a h => by cases h⟩, fun s _ => ?_⟩
  · cases he
    exact ⟨hg.right, (fun h => by cases h), fun _ => hg.moved, fun h => by cases h⟩
  unfold rowWrite
  cases hv : onRow (casTask src task now) (s (.task id)) with
  | none =>
    have hx := casTask_none hv
    by_cases hlost : id = κ.id ∧ ignoresLoss site = true
    · obtain ⟨rfl, hi⟩ := hlost
      refine ⟨_, .loseTx _ site src s (hu rfl) hi hg.right hx, (fun e h => by cases h), ?_⟩
      rintro n ⟨⟩
      refine ⟨(fun _ h => by cases h), (fun h => by cases h), fun h => absurd rfl h, fun _ _ _ => ?_⟩
      simp [Phase.rightAfter, hg.moved, Right.unposted]
    · refine ⟨g, ?_, (fun e h => by cases h), ?_⟩
      · have hgo : Goes κ g (.update (.taskCas site id src) s []) { g with sub := none } :=
          .neutral _ _ _ _ (neutral_nil _ _)
        rwa [Phase.forget hg.sub] at hgo
      rintro n ⟨⟩
      exact ⟨hg.right, (fun h => by cases h), fun _ => hg.moved, fun _ hid hi => absurd ⟨hid, hi⟩ hlost⟩
  | some v =>
    obtain ⟨row, hrow, hsrc, rfl⟩ := casTask_some hv
    -- the phase after the compare-and-set was won, in which the rest of the transaction stays
    obtain ⟨g₁, hgo, hsub, hright, hmoved, hother⟩ : ∃ g₁, Goes κ g (.update (.taskCas site id src) s
        [⟨.task id, some { task with updatedAt := now }⟩]) g₁ ∧ g₁.sub = none ∧ g₁.right = g.right ∧
          (id = κ.id → ∃ src dst, g₁.moved = some (site, src, dst)) ∧ (id ≠ κ.id → g₁.moved = none) := by
      by_cases hid : id = κ.id
      · subst hid hsrc
        exact ⟨_, .move _ site s row _ (hu rfl) (hd rfl) hg.moved hrow (ha rfl) ht, rfl, rfl, fun _ => ⟨_, _, rfl⟩,
          fun h => absurd rfl h⟩
      · exact ⟨_, .neutral _ _ s _ (neutral_one (harmless_task hid _ _)), rfl, rfl, fun h => absurd h hid,
          fun _ => hg.moved⟩
    have hstays : ∀ x, Intending κ site id x g₁ := by
      refine fun x => ⟨hright ▸ hg.right, fun _ hid => hmoved hid, hother, fun _ hid hi => ?_⟩
      obtain ⟨src', dst', hm⟩ := hmoved hid
      simp [Phase.rightAfter, hm, hi]
    refine ⟨g₁, hgo, (fun e h => by cases h), ?_⟩
    rintro n ⟨⟩
    refine .seq ⟨rfl, fun s' _ => ⟨g₁, .read _ _ s', rfl⟩⟩ (fun _ => hstays _) fun first => ?_
    cases first with
    | none => exact hstays _
    | some r =>
      refine (writeTaskBillingIntentTx_follows hsub id task q result reason now r.1 r.2).mono ?_
      rintro x _ rfl
      exact hstays x

lemma createTaskBillingIntent_follows :
    (taskProtocol κ).Follows (createTaskBillingIntent site id task src q result reason)
      (Tried κ site id task.status) g := by
  have herr : ∀ e {g' : Phase}, g'.Quiet → Tried κ site id task.status (.error e) g' := fun e g' hg' =>
    ⟨hg', nofun, nofun⟩
  refine .ite (fun _ => herr _ hg) fun _ => .ite (fun _ => herr _ hg) fun _ now => ?_
  refine .attempt_bind ((intentTransaction_follows hg
    (createTaskBillingIntentTx_follows hg hu hd ha ht _ result reason now)).mono fun x g₁ h₁ => ?_)
  match x, h₁ with
  | .error .recordNotFound, h₁ => exact ⟨h₁.quiet, nofun, fun _ => h₁.lost rfl⟩
  | .error .database, h₁ | .error (.msg _), h₁ => exact herr _ h₁.quiet
  | .ok _, h₁ =>
    intro _
    by_cases hid : id = κ.id
    · subst hid
      refine ⟨_, .intent _ site (h₁.won rfl rfl), h₁.quiet.withRight fun a => ?_, fun _ _ hsite _ => if_pos hsite,
        nofun⟩
      split <;> exact nofun
    · refine ⟨_, .emit _ _ ?_ (fun _ _ h => nomatch h), h₁.quiet, fun _ h => absurd h hid, nofun⟩
      simp [billing, hid]

end

/-! ### Refunds and settlements -/

/-- A transaction that does not move the task ends quietly. -/
lemma calm_transaction {body : Model.Tx α} (hg : g.Quiet)
    (hbody : (taskProtocol κ).Body body (fun _ g' => g'.moved = none) g) :
    (taskProtocol κ).Follows (transaction body) (fun _ g' => g'.Quiet) g := by
  refine .ofBody hg (.start g) hbody (fun g' _ => ⟨_, .rollback g', rfl, rightAfter_ne g', rfl⟩)
    fun _ g' hm _ => ?_
  by_cases hr : ∃ a, g'.right = .posted a
  · obtain ⟨a, ha⟩ := hr
    exact ⟨_, .commitPosted _ a hm ha, rfl, nofun, rfl⟩
  · have hr' : ∀ a, g'.right ≠ .posted a := fun a ha => hr ⟨a, ha⟩
    exact ⟨_, .commit _ hm hr', hm, hr', rfl⟩

lemma postRefund_body (hg : g.Quiet) (hr : g.right = .credit) (n : ℕ) (delta : ℤ) :
    (taskProtocol κ).Body (postConsumeUserSubscriptionDeltaTx (fun _ => .taskRefund κ.id) n delta)
      (fun _ g' => g'.moved = none) g := by
  refine Ledger.postConsumeUserSubscriptionDeltaTx_body (fun v => { g with sub := some _ }) hg.moved
    (fun s => .lock _ _ s n) (fun v s hs => ⟨hs.1 n v rfl, .read _ _ s⟩) (fun v s _ hs => hs n v rfl) fun s sub hsub => ?_
  refine ⟨_, .post _ _ s (.subscription n) _ hr ?_, hg.moved⟩
  change refunds κ.id (.subscription n) _ = refunds κ.id (.subscription n) (s (.subscription n)) + 1
  rw [hsub, refunds_subscription_setUsed, if_pos rfl]

lemma creditUser_follows (hg : g.Quiet) (hr : g.right = .credit) (u : ℕ) (delta : ℤ) :
    (taskProtocol κ).Follows (addUserQuota (.taskRefund κ.id) u delta) (fun _ g' => g'.Quiet) g := by
  refine .tx_bind ⟨⟨fun _ _ => hg, nofun⟩, fun s _ => ?_⟩
  unfold rowWrite
  cases hv : s (.user u) with
  | none => exact ⟨g, .auto _ _ _ _ (neutral_nil _ _), nofun, fun _ _ => hg⟩
  | some x =>
    refine ⟨_, .credit _ _ s (.user u) _ hr ?_, nofun,
      fun _ _ => hg.withRight nofun⟩
    change refunds κ.id (.user u) _ = refunds κ.id (.user u) (s (.user u)) + 1
    rw [hv, refunds_user_add, if_pos rfl]

lemma refundFunding_calm (hg : g.Quiet) (hr : id = κ.id → g.right = .credit) (task : Task) (delta : ℤ) :
    (taskProtocol κ).Follows (taskAdjustFunding (.taskRefund id) task delta) (fun _ g' => g'.Quiet) g := by
  by_cases hid : id = κ.id
  · subst hid
    refine .ite (fun _ => ?_) fun _ => .ite (fun _ => ?_) fun _ => ?_
    · refine .ite (fun _ => hg) fun _ => .ite (fun _ => hg) fun _ => ?_
      exact calm_transaction hg (postRefund_body hg (hr rfl) _ _)
    all_goals exact .ite (fun _ => hg) fun _ => creditUser_follows hg (hr rfl) _ _
  · have hother : ¬(Cause.taskRefund id = .taskRefund κ.id) := fun h => hid (Cause.taskRefund.inj h)
    exact (aside_of_clerk hother (taskAdjustFunding_stays rfl task delta)).calm g hg

lemma taskAdjustTokenQuota_aside (c : Cause) (task : Task) (delta : ℤ) : Aside κ (taskAdjustTokenQuota c task delta) :=
  aside_of_clerk (C := fun _ => False) (fun h => h) (taskAdjustTokenQuota_stays c task delta)

lemma updateBillingSnapshot_aside (id : ℕ) (task : Task) : Aside κ (updateBillingSnapshot id task) :=
  aside_of_clerk (C := fun _ => False) (fun h => h) (updateBillingSnapshot_stays id task)

lemma addTaskUsage_aside (task : Task) (quota count : ℤ) : Aside κ (addTaskUsage task quota count) :=
  aside_of_clerk (C := fun _ => False) (fun h => h) (addTaskUsage_stays task quota count)

lemma recalculateTaskQuota_aside (id : ℕ) (task : Task) (quota : ℤ) : Aside κ (recalculateTaskQuota id task quota) :=
  aside_of_clerk nofun
    (recalculateTaskQuota_stays rfl task quota)

/-- The refund uses up the right to it, whichever of its statements fail. -/
lemma refundTaskQuota_calm (hg : g.Quiet) (hr : id = κ.id → g.right = .refund) (task : Task) :
    (taskProtocol κ).Follows (refundTaskQuota id task) (fun _ g' => g'.Quiet) g := by
  refine .ite (fun _ => hg) fun _ => fun _ => ?_
  -- the call is recorded, and its right becomes the one to post the refund
  obtain ⟨g₁, hgo, hg₁, hr₁⟩ : ∃ g₁, Goes κ g (.emit (.refundTaskQuota id)) g₁ ∧ g₁.Quiet ∧
      (id = κ.id → g₁.right = .credit) := by
    by_cases hid : id = κ.id
    · subst hid
      exact ⟨_, .refund _ (hr rfl), hg.withRight nofun, fun _ => rfl⟩
    · exact ⟨g, .emit _ _ (by simp [billing, hid]) (fun _ _ h => nomatch h), hg, fun h => absurd h hid⟩
  refine ⟨g₁, hgo, calm_bind (.attempt (refundFunding_calm hg₁ hr₁ task _)) fun x g₂ hg₂ => ?_⟩
  cases x with
  | error e => exact hg₂
  | ok _ =>
    refine aside_bind (taskAdjustTokenQuota_aside _ _ _) hg₂ (fun _ => hg₂) fun _ => ?_
    refine .ite (fun _ => ?_) fun _ => hg₂
    exact aside_bind (aside_attempt (updateBillingSnapshot_aside _ _)) hg₂ (fun _ => hg₂) fun _ => hg₂

lemma recalculateTaskQuotaByTokenDetails_aside (a : Adaptor) (id : ℕ) (task : Task) (total completion : ℤ) :
    Aside κ (recalculateTaskQuotaByTokenDetails a id task total completion) := by
  intro g hg
  refine .ite (fun _ => rfl) fun _ => ?_
  split
  · exact rfl
  · exact recalculateTaskQuota_aside _ _ _ g hg

/-- The settlement leaves only the right to finalize the reservation. -/
lemma settleTaskBillingOnComplete_follows (hg : g.Quiet) (hr : id = κ.id → g.right = .settle) (a : Adaptor)
    (task : Task) (result : TaskInfo) :
    (taskProtocol κ).Follows (settleTaskBillingOnComplete a id task result)
      (fun _ g' => g'.Quiet ∧ (id = κ.id → g'.right = .finalize)) g := by
  intro _
  obtain ⟨g₁, hgo, hg₁⟩ : ∃ g₁, Goes κ g (.emit (.settleTaskBilling id)) g₁ ∧ g₁.Quiet ∧
      (id = κ.id → g₁.right = .finalize) := by
    by_cases hid : id = κ.id
    · subst hid
      exact ⟨_, .settle _ (hr rfl), hg.withRight nofun, fun _ => rfl⟩
    · exact ⟨g, .emit _ _ (by simp [billing, hid]) (fun _ _ h => nomatch h), hg, fun h => absurd h hid⟩
  have haside : ∀ {p : Model.Tx Task}, Aside κ p →
      (taskProtocol κ).Follows p (fun _ g' => g'.Quiet ∧ (id = κ.id → g'.right = .finalize)) g₁ := by
    intro p hp
    refine (hp g₁ hg₁.1).mono ?_
    rintro _ _ rfl
    exact hg₁
  refine ⟨g₁, hgo, .ite (fun _ => haside (recalculateTaskQuotaByTokenDetails_aside _ _ _ _ _)) fun _ => ?_⟩
  refine .ite (fun _ => hg₁) fun _ => .ite (fun _ => haside (recalculateTaskQuota_aside _ _ _))
    fun _ => ?_
  exact .ite (fun _ => haside (recalculateTaskQuotaByTokenDetails_aside _ _ _ _ _)) fun _ => hg₁

lemma finalizeTaskPreAuthorization_calm (hg : g.Quiet) (hr : id = κ.id → g.right = .finalize) (a : Adaptor)
    (task : Task) :
    (taskProtocol κ).Follows (finalizeTaskPreAuthorization a id task) (fun _ g' => g'.Quiet) g := by
  refine .ite (fun _ => fun _ => ?_) fun _ => hg
  obtain ⟨g₁, hgo, hg₁⟩ : ∃ g₁, Goes κ g (.emit (.finalizePreAuthorization id)) g₁ ∧ g₁.Quiet := by
    by_cases hid : id = κ.id
    · subst hid
      exact ⟨_, .finalize _ (hr rfl), hg.withRight nofun⟩
    · exact ⟨g, .emit _ _ (by simp [billing, hid]) (fun _ _ h => nomatch h), hg⟩
  refine ⟨g₁, hgo, .ite (fun _ => ?_) fun _ => hg₁⟩
  exact aside_bind (aside_attempt (updateBillingSnapshot_aside _ _)) hg₁ (fun _ => hg₁) fun _ =>
    (addTaskUsage_aside _ _ _).calm g₁ hg₁

end StarNexus.Polling
