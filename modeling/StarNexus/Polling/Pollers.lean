import StarNexus.Polling.Code

/-!
# The poller and the realtime fetch follow the protocol

`ApplyTaskResult`, the recovery of rejected tasks, the sweeps, the loops of the poller and the realtime fetch leave no
transaction open and bill a task only with a right that they have.
-/

namespace StarNexus.Polling

open Lib Lib.Protocol Lib.Tx Model Service Ledger Prod

variable {κ : Scope} {g : Phase}

def Scope.Applies (κ : Scope) : Prop :=
  ∀ site ∈ [CasSite.applyTaskResult, .recoveryClaim, .recoveryRestore, .recoveryDone], κ.uses site

/-! ### Applying an answer -/

lemma prepareVideoTaskSettlement_answer (a : Adaptor) (task : Task) (bc : TaskBillingContext) (result : TaskInfo)
    (now : ℤ) :
    (prepareVideoTaskSettlement a task bc result now).2.1.status = result.status ∧
      ((prepareVideoTaskSettlement a task bc result now).2.2 = true → result.totalTokens ≤ 0) := by
  unfold prepareVideoTaskSettlement
  split
  · split <;> exact ⟨rfl, nofun⟩
  · next hpos =>
    split
    · exact ⟨rfl, nofun⟩
    · dsimp only
      generalize (if bc.settlementStartedAt = 0 then now else bc.settlementStartedAt) = startedAt
      split
      · exact ⟨rfl, fun _ => not_lt.1 hpos⟩
      · exact ⟨rfl, nofun⟩

lemma prepareSettlement_answer (a : Adaptor) (task : Task) (result : TaskInfo) (now : ℤ) :
    (prepareSettlement a task result now).2.1.status = result.status ∧
      ((prepareSettlement a task result now).2.2 = true →
        isVideoTokenPreAuthorizationTask task = true ∧ result.totalTokens ≤ 0) := by
  unfold prepareSettlement
  split
  · next bc _ =>
    split
    · next h =>
      have hprepared := prepareVideoTaskSettlement_answer a task bc result now
      exact ⟨hprepared.1, fun hp => ⟨h.2, hprepared.2 hp⟩⟩
    · exact ⟨rfl, nofun⟩
  · exact ⟨rfl, nofun⟩

lemma applyStatus_status {a : Adaptor} {task task' : Task} {result result' : TaskInfo} {pending : Bool} {now : ℤ}
    (h : applyStatus a task result pending now = some (task', result')) :
    (task'.status = result.status ∧ accepted result.status = true) ∨
      (pending = true ∧ result.status = .success ∧ task'.status = .pendingSettlement) := by
  unfold applyStatus at h
  cases hs : result.status <;> rw [hs] at h <;> dsimp only at h
  case success =>
    cases pending <;> (obtain ⟨rfl, -⟩ := mk.inj (Option.some.inj h))
    · exact .inl ⟨rfl, rfl⟩
    · simp
  case notStart | unknown | pendingSettlement | retrying | other => cases h
  all_goals
    obtain ⟨rfl, -⟩ := mk.inj (Option.some.inj h)
    exact .inl ⟨rfl, rfl⟩

variable {o : Outcome}

lemma transition_answers {a : Adaptor} {task changed : Task} {answer : TaskInfo} {body : String} {now : ℤ}
    (h : transition a task answer body now = (changed, .ok o)) : Answers task answer o.task.status := by
  simp only [transition] at h
  split at h
  · cases (mk.inj h).2
  have hprepared := prepareSettlement_answer a { task with data := a.redact body } answer now
  split at h
  · cases (mk.inj h).2
  · next task' result' happly =>
    have hstatus := applyStatus_status happly
    obtain rfl := Except.ok.inj (mk.inj h).2
    have hkeep : (if result'.progress ≠ "" ∧ (prepareSettlement a { task with data := a.redact body } answer now).2.2 = false
        then { task' with progress := result'.progress } else task').status = task'.status := by split <;> rfl
    rw [hkeep]
    rw [hprepared.1] at hstatus
    rcases hstatus with hs | ⟨hp, hs, hdst⟩
    · exact .inl hs
    · exact .inr ⟨hdst, hs, hprepared.2 hp⟩

lemma reloadAfterLoss_aside (id : ℕ) (task : Task) (what : String) (answer : Task → Bool) :
    Aside κ (reloadAfterLoss id task what answer) := by
  intro g hg
  refine aside_bind (aside_attempt fun g hg => aside_bind aside_select hg (fun _ => rfl) fun row => ?_) hg (fun _ => rfl)
    fun stored => ?_
  · cases row <;> exact rfl
  · cases stored <;> exact rfl

variable {id : ℕ}

lemma billOutcome_calm (hg : g.Quiet) (a : Adaptor) (o : Outcome)
    (hr : id = κ.id → g.right = granted .applyTaskResult o.task.status) :
    (taskProtocol κ).Follows (billOutcome a id o) (fun _ g' => g'.Quiet) g := by
  refine .ite (fun hs => ?_) fun _ => .ite (fun hf => ?_) fun _ => hg
  · have hsettle : id = κ.id → g.right = .settle := fun hid => by rw [hr hid, hs]; rfl
    refine .tx_bind ((settleTaskBillingOnComplete_follows hg hsettle a _ _).mono fun x g₁ h₁ => ?_)
    refine ⟨fun _ _ => h₁.1, fun settled _ => ?_⟩
    exact calm_bind (finalizeTaskPreAuthorization_calm h₁.1 h₁.2 a settled) fun _ _ hg₂ => hg₂
  · exact refundTaskQuota_calm hg (fun hid => by rw [hr hid, hf]; rfl) _

variable {src : TaskStatus}

lemma storeOutcome_calm (hg : g.Quiet) (hu : κ.uses .applyTaskResult)
    (ha : id = κ.id → Allowed g.entry .applyTaskResult src o.task.status) (a : Adaptor) (what : String) :
    (taskProtocol κ).Follows (storeOutcome a id src o what) (fun _ g' => g'.Quiet) g := by
  refine .attempt_bind ((updateWithStatus_follows hg (fun _ => hu) ha).mono ?_)
  rintro x g₁ ⟨h₁, hwon⟩
  match x with
  | .error e => exact h₁.quiet
  | .ok false => exact (reloadAfterLoss_aside _ _ _ _).calm g₁ h₁.quiet
  | .ok true => exact calm_bind (billOutcome_calm h₁.quiet a o (hwon rfl)) fun _ _ hg₂ => hg₂

lemma withResolution_status (task : Task) (result : TaskInfo) : (withResolution task result).status = task.status := by
  unfold withResolution
  split <;> rfl

lemma storeDurableOutcome_calm (hg : g.Quiet) (hu : κ.uses .applyTaskResult)
    (hd : id = κ.id → κ.durable) (ha : id = κ.id → Allowed g.entry .applyTaskResult src o.task.status)
    (ht : o.task.status.terminal = true) (a : Adaptor) (owner : String) :
    (taskProtocol κ).Follows (storeDurableOutcome a owner id src o) (fun _ g' => g'.Quiet) g := by
  have hstatus : (if o.task.status = .success then withResolution o.task o.result else o.task).status = o.task.status := by
    split
    · exact withResolution_status _ _
    · rfl
  refine .attempt_bind ((createTaskBillingIntent_follows hg (fun _ => hu) hd (fun hid => hstatus.symm ▸ ha hid)
    (hstatus.symm ▸ ht) _ _ _).mono ?_)
  rintro x g₁ h₁
  match x with
  | .error e => exact h₁.quiet
  | .ok false => exact (reloadAfterLoss_aside _ _ _ _).calm g₁ h₁.quiet
  | .ok true =>
    exact aside_bind (aside_attempt (processDurableBillingOnce_aside owner 1)) h₁.quiet (fun _ => h₁.quiet) fun _ =>
      h₁.quiet

/-- **`ApplyTaskResult` follows the protocol.** -/
lemma applyTaskResult_calm (hu : κ.Applies) (a : Adaptor) (owner : String) (id : ℕ) (task : Task) (answer : TaskInfo)
    (body : String) : Calm κ (applyTaskResult a owner id task answer body) := by
  have hsite : κ.uses .applyTaskResult := hu _ (by simp)
  intro g hg
  -- the call is recorded, so that its compare-and-set is known to be made for this copy and this answer
  obtain ⟨g₁, hgo, hg₁, hentry⟩ : ∃ g₁, Goes κ g (.emit (.applyTaskResult id task answer)) g₁ ∧ g₁.Quiet ∧
      (id = κ.id → g₁.entry = some (task, answer)) := by
    by_cases hid : id = κ.id
    · subst hid
      exact ⟨_, .enter _ task answer, ⟨hg.moved, hg.right, hg.sub⟩, fun _ => rfl⟩
    · refine ⟨g, .emit _ _ (by simp [billing]) fun _ _ h => ?_, hg, fun h => absurd h hid⟩
      exact hid (Event.applyTaskResult.inj h).1
  refine .tx_bind fun _ => ⟨g₁, hgo, (fun _ h => by cases h), fun _ _ => ?_⟩
  refine .tx_bind fun now => ⟨(fun _ h => by cases h), fun _ _ => ?_⟩
  split
  · exact hg₁
  · next changed o htransition =>
    have ha : id = κ.id → Allowed g₁.entry .applyTaskResult task.status o.task.status := fun hid =>
      .apply (hentry hid) (transition_answers htransition)
    refine .ite (fun hlast => ?_) fun _ => .ite (fun _ => storeOutcome_calm hg₁ hsite ha a _)
      fun _ => hg₁
    refine .tx_bind ((taskHasDurableBilling_follows id g₁).mono ?_)
    rintro x _ ⟨rfl, hdurable⟩
    refine ⟨fun _ _ => hg₁, fun durable hx => .ite (fun hd => ?_) fun _ => storeOutcome_calm hg₁ hsite ha a _⟩
    subst hd
    exact storeDurableOutcome_calm hg₁ hsite (hdurable hx) ha hlast.1 a owner

/-! ### Recovery of rejected tasks -/

lemma claimedTask_status (task : Task) (now : ℤ) : (claimedTask task now).status = .retrying :=
  setRetry_status { task with status := .retrying } _

section

variable (hu : κ.Applies)

include hu

lemma restoreTask_calm (id : ℕ) (task claimed : Task) (count : ℕ) (answer : Except Err Bool) :
    Calm κ (restoreTask id task claimed count answer) := by
  intro g hg
  refine .attempt_bind ((updateWithStatus_follows hg (fun _ => hu _ (by simp)) fun _ => .restore).mono ?_)
  rintro x g₁ ⟨h₁, -⟩
  cases x <;> exact h₁.quiet

lemma resubmitTask_calm (id : ℕ) (claimed : Task) (upstreamTaskID taskData : String) :
    Calm κ (resubmitTask id claimed upstreamTaskID taskData) := by
  intro g hg
  refine .attempt_bind ((updateWithStatus_follows hg (fun _ => hu _ (by simp)) fun _ => .done).mono ?_)
  rintro x g₁ ⟨h₁, -⟩
  match x with
  | .error e => exact h₁.quiet
  | .ok false => exact (reloadAfterLoss_aside _ _ _ _).calm g₁ h₁.quiet
  | .ok true => exact h₁.quiet

lemma finishRecovery_calm (id : ℕ) (task claimed : Task) (r : Recovery) :
    Calm κ (finishRecovery id task claimed r) := by
  intro g hg
  cases r with
  | temporary reason | failed reason | empty => exact restoreTask_calm hu _ _ _ _ _ g hg
  | resubmitted upstreamTaskID taskData =>
    exact .ite (fun _ => restoreTask_calm hu _ _ _ _ _ g hg) fun _ => resubmitTask_calm hu _ _ _ _ g hg

lemma tryRecoverFailedVideoTask_calm (a : Adaptor) (id : ℕ) (task : Task) (result : TaskInfo)
    (body : String) : Calm κ (tryRecoverFailedVideoTask a id task result body) := by
  intro g hg
  refine .ite (fun _ => hg) fun _ now =>
    .attempt_bind ((updateWithStatus_follows hg (fun _ => hu _ (by simp)) fun _ => ?_).mono ?_)
  · rw [claimedTask_status]
    exact .claim
  rintro x g₁ ⟨h₁, -⟩
  match x with
  | .error e => exact h₁.quiet
  | .ok false => exact (reloadAfterLoss_aside _ _ _ _).calm g₁ h₁.quiet
  | .ok true => exact finishRecovery_calm hu _ _ _ _ g₁ h₁.quiet

end

/-! ### Failing a task -/

/-- What is known when a function has answered with a task and whether its compare-and-set was won. -/
structure Stored (κ : Scope) (site : CasSite) (id : ℕ) (dst : TaskStatus) (x : Except Err (Task × Except Err Bool))
    (g : Phase) : Prop where
  quiet : g.Quiet
  tried : ∀ task r, x = .ok (task, r) → task.status = dst ∧ Tried κ site id dst r g

variable {site : CasSite}

lemma Stored.right {x : Except Err (Task × Except Err Bool)} {task : Task} {won : Bool}
    (h : Stored κ site id .failure x g) (hx : x = .ok (task, .ok won)) (hsite : refundsAfterIntent site = true)
    (hwon : won = true ∨ ignoresLoss site = true) (hid : id = κ.id) : g.right = .refund := by
  have htried := (h.tried _ _ hx).2
  cases won with
  | true => exact htried.won rfl hid hsite rfl
  | false => exact htried.lost rfl hid (hwon.resolve_left nofun)

lemma storeFinished_follows (hg : g.Quiet) {task : Task} {durable : Bool}
    (hu : κ.uses site) (hd : durable = true → id = κ.id → κ.durable) (ha : ∀ entry, Allowed entry site src task.status)
    (ht : task.status.terminal = true) (q : ℤ) (result : Option TaskInfo) (reason : String) :
    (taskProtocol κ).Follows (storeFinished site id task src q result reason durable)
      (fun x g' => Stored κ site id task.status x g' ∧ (durable = false → ∀ task', x = .ok (task', .ok true) →
        id = κ.id → g'.right = granted site task.status)) g := by
  have hstored : ∀ {r : Except Err Bool} {g' : Phase} {task' : Task}, task'.status = task.status →
      Tried κ site id task.status r g' → Stored κ site id task.status (.ok (task', r)) g' := by
    intro r g' task' hs h
    refine ⟨h.quiet, fun t r' hx => ?_⟩
    cases hx
    exact ⟨hs, h⟩
  refine .ite (fun hdurable => ?_) fun _ => ?_
  · have hplain : ¬(durable = false) := fun h => nomatch h.symm.trans hdurable
    refine .attempt_bind
      ((createTaskBillingIntent_follows hg (fun _ => hu) (hd hdurable) (fun _ => ha _) ht q result reason).mono ?_)
    intro x g₁ h₁
    match x with
    | .ok true | .ok false | .error e => exact ⟨hstored rfl h₁, fun h => absurd h hplain⟩
  · refine .attempt_bind ((updateWithStatus_follows hg (fun _ => hu) fun _ => ha _).mono ?_)
    rintro x g₁ ⟨h₁, hwon⟩
    exact ⟨hstored rfl h₁, fun _ task' hx' => hwon (mk.inj (Except.ok.inj hx')).2⟩

lemma failTaskWithDurableBilling_follows (hg : g.Quiet) (hu : κ.uses site)
    (ha : ∀ entry, Allowed entry site src .failure) (owner : String) (id : ℕ) (task : Task) (reason : String) :
    (taskProtocol κ).Follows (failTaskWithDurableBilling site owner id task src reason)
      (Stored κ site id .failure) g := by
  have herr : ∀ {g' : Phase} e, g'.Quiet → Stored κ site id .failure (.error e) g' := fun e hg' =>
    ⟨hg', fun _ _ h => nomatch h⟩
  refine fun now => .tx_bind ((taskHasDurableBilling_follows id g).mono ?_)
  rintro x _ ⟨rfl, hd⟩
  refine ⟨fun e _ => herr e hg, fun durable hx => .tx_bind
    ((storeFinished_follows hg hu (fun h => hd (h ▸ hx)) ha rfl 0 none reason).mono ?_)⟩
  rintro y g₁ ⟨h₁, -⟩
  refine ⟨fun e _ => herr e h₁.quiet, fun stored hy => ?_⟩
  subst hy
  obtain ⟨task', r⟩ := stored
  match r with
  | .ok true =>
    refine .ite (fun _ => ?_) fun _ => h₁
    exact aside_bind (aside_attempt (processDurableBillingOnce_aside owner 1)) h₁.quiet (fun e => herr e h₁.quiet)
      fun _ => h₁
  | .ok false | .error e => exact h₁

lemma refundUnlessDurable_calm (hg : g.Quiet) (hr : id = κ.id → g.right = .refund) (task : Task) :
    (taskProtocol κ).Follows (refundUnlessDurable id task) (fun _ g' => g'.Quiet) g := by
  refine .tx_bind ((taskHasDurableBilling_follows id g).mono ?_)
  rintro x _ ⟨rfl, -⟩
  exact ⟨fun _ _ => hg, fun _ _ => .ite (fun _ => hg) fun _ => refundTaskQuota_calm hg hr task⟩

/-! ### Sweeps -/

section

variable (hu : ∀ site, κ.uses site)

include hu

lemma failTimedOutTasks_calm (minutes now : ℤ) (tasks : List (ℕ × Task))
    (hnew : ∀ x ∈ tasks, x.2.status.terminal = false) : Calm κ (failTimedOutTasks minutes now tasks) := by
  induction tasks with
  | nil => exact fun _ hg => hg
  | cons x rest ih =>
    obtain ⟨id, task⟩ := x
    have hrest : Calm κ (failTimedOutTasks minutes now rest) := ih fun y hy => hnew y (.tail _ hy)
    intro g hg
    refine .tx_bind ((taskHasDurableBilling_follows id g).mono ?_)
    rintro y _ ⟨rfl, hd⟩
    refine ⟨fun _ _ => hg, fun durable hy => .tx_bind ((storeFinished_follows hg (hu _)
      (fun h => hd (h ▸ hy)) (fun _ => .timeout (hnew _ (.head _))) rfl 0 none _).mono ?_)⟩
    rintro z g₁ ⟨h₁, -⟩
    refine ⟨fun _ _ => h₁.quiet, fun stored hz => ?_⟩
    obtain ⟨task', r⟩ := stored
    match r with
    | .ok true =>
      refine .ite (fun _ => ?_) fun _ => ?_
      · refine .tx_bind ((taskHasDurableBilling_follows id g₁).mono ?_)
        rintro w _ ⟨rfl, -⟩
        exact ⟨fun _ _ => h₁.quiet, fun _ _ => hrest _ h₁.quiet⟩
      · exact calm_bind (refundUnlessDurable_calm h₁.quiet (h₁.right hz rfl (.inl rfl)) _) fun _ => hrest
    | .ok false | .error e => exact hrest _ h₁.quiet

lemma sweepTimedOutTasks_calm (minutes : ℤ) : Calm κ (sweepTimedOutTasks minutes) := by
  intro g hg
  refine .ite (fun _ => hg) fun _ start => .tx_bind ⟨⟨fun _ _ => hg, nofun⟩,
    fun s _ => ⟨g, .read _ _ s, fun _ _ => hg, fun tasks htasks => ?_⟩⟩
  refine fun now => failTimedOutTasks_calm hu _ _ _ (fun x hx => ?_) g hg
  cases htasks
  have hmem := List.mem_of_mem_take hx
  rw [List.mem_insertionSort] at hmem
  have hrow := (mem_selectTasks hmem).2
  simp only [decide_eq_true_eq] at hrow
  simp [TaskStatus.terminal, hrow]

lemma failStaleRetryingTasks_calm (now : ℤ) (tasks : List (ℕ × Task)) : Calm κ (failStaleRetryingTasks now tasks) := by
  induction tasks with
  | nil => exact fun _ hg => hg
  | cons x rest hrest =>
    obtain ⟨id, task⟩ := x
    intro g hg
    refine .tx_bind ((taskHasDurableBilling_follows id g).mono ?_)
    rintro y _ ⟨rfl, hd⟩
    refine ⟨fun _ _ => hg, fun durable hy => .tx_bind ((storeFinished_follows hg (hu _)
      (fun h => hd (h ▸ hy)) (fun _ => .stale) rfl 0 none _).mono ?_)⟩
    rintro z g₁ ⟨h₁, -⟩
    refine ⟨fun _ _ => h₁.quiet, fun stored hz => ?_⟩
    obtain ⟨task', r⟩ := stored
    match r with
    | .ok true => exact calm_bind (refundUnlessDurable_calm h₁.quiet (h₁.right hz rfl (.inl rfl)) _) fun _ => hrest
    | .ok false | .error e => exact hrest _ h₁.quiet

lemma sweepStaleRetryingTasks_calm : Calm κ sweepStaleRetryingTasks := fun _ hg _ =>
  aside_bind aside_select hg (fun _ => hg) fun _ _ => failStaleRetryingTasks_calm hu _ _ _ hg

end

/-! ### Video tasks -/

lemma updateVideoSingleTask_calm (hu : κ.Applies) (env : Env) (a : Adaptor) (id : ℕ) (task : Task) :
    Calm κ (updateVideoSingleTask env a id task) := by
  intro g hg
  unfold updateVideoSingleTask
  split
  · exact hg
  · refine calm_bind (tryRecoverFailedVideoTask_calm hu a id task _ _ g hg) fun recovered g₁ hg₁ => ?_
    split
    · exact hg₁
    · split
      · exact hg₁
      · exact applyTaskResult_calm hu _ _ _ _ _ _ g₁ hg₁

lemma updateVideoTaskIds_calm (hu : κ.Applies) (env : Env) (a : Adaptor) (ids : List String) (copies : Copies) :
    Calm κ (updateVideoTaskIds env a ids copies) := by
  induction ids generalizing copies with
  | nil => exact fun _ hg => hg
  | cons upstreamID rest ih =>
    intro g hg
    unfold updateVideoTaskIds
    split
    · exact ih _ g hg
    · exact calm_bind (updateVideoSingleTask_calm hu env a _ _ g hg) fun _ => ih _

lemma failVideoTasks_calm (hu : ∀ site, κ.uses site) (owner reason : String) (ids : List String) (copies : Copies) :
    Calm κ (failVideoTasks owner reason ids copies) := by
  induction ids generalizing copies with
  | nil => exact fun _ hg => hg
  | cons upstreamID rest ih =>
    intro g hg
    unfold failVideoTasks
    split
    · exact ih _ g hg
    · refine .tx_bind ((failTaskWithDurableBilling_follows hg (hu _) (fun _ => .video) _ _ _ _).mono
        fun x g₁ h₁ => ⟨fun _ _ => h₁.quiet, fun stored hx => ?_⟩)
      obtain ⟨task', r⟩ := stored
      match r with
      | .error e => exact ih _ _ h₁.quiet
      | .ok _ => exact calm_bind (refundUnlessDurable_calm h₁.quiet (h₁.right hx rfl (.inr rfl)) _) fun _ => ih _

lemma updateVideoTasks_calm (hu : ∀ site, κ.uses site) (env : Env) (platform : TaskPlatform) (channelId : ℕ)
    (ids : List String) (copies : Copies) : Calm κ (updateVideoTasks env platform channelId ids copies) := by
  intro g hg
  refine .ite (fun _ => hg) fun _ => ?_
  split
  · exact failVideoTasks_calm hu _ _ _ _ g hg
  · split
    · exact hg
    · exact updateVideoTaskIds_calm (fun site _ => hu site) _ _ _ _ g hg

/-! ### Suno tasks -/

section

variable (hu : ∀ site, κ.uses site)

include hu

lemma updateSunoTask_calm (owner : String) (id : ℕ) (src : TaskStatus) (task : Task) :
    Calm κ (updateSunoTask owner id src task) := by
  intro g hg
  refine .ite (fun ht => ?_) fun _ => ?_
  · refine .tx_bind ((taskHasDurableBilling_follows id g).mono ?_)
    rintro y _ ⟨rfl, hd⟩
    refine ⟨fun _ _ => hg, fun durable hy => .tx_bind ((storeFinished_follows hg (hu _)
      (fun h => hd (h ▸ hy)) (fun _ => .sunoUpdate) ht _ none _).mono ?_)⟩
    rintro z g₁ ⟨h₁, hwon⟩
    refine ⟨fun _ _ => h₁.quiet, fun stored hz => ?_⟩
    obtain ⟨task', r⟩ := stored
    obtain ⟨hstatus, -⟩ := h₁.tried _ _ hz
    match r with
    | .ok true =>
      refine .ite (fun _ => ?_) fun hplain => .ite (fun hf => ?_) fun _ => h₁.quiet
      · exact aside_bind (aside_attempt (processDurableBillingOnce_aside owner 1)) h₁.quiet (fun _ => h₁.quiet)
          fun _ => h₁.quiet
      · refine refundTaskQuota_calm h₁.quiet (fun hid => ?_) _
        rw [hwon (Bool.not_eq_true _ ▸ hplain) task' hz hid, ← hstatus, hf, granted_failure]
    | .ok false | .error e => exact h₁.quiet
  · refine .tx_bind (.attempt
      ((updateWithStatus_follows hg (fun _ => hu _) fun _ => .sunoUpdate).mono ?_))
    rintro x g₁ ⟨h₁, -⟩
    exact ⟨fun _ _ => h₁.quiet, fun _ _ => h₁.quiet⟩

lemma updateSunoItems_calm (owner : String) (items : List SunoDataResponse)
    (copies : Copies) : Calm κ (updateSunoItems owner items copies) := by
  induction items generalizing copies with
  | nil => exact fun _ hg => hg
  | cons item rest ih =>
    intro g hg
    unfold updateSunoItems
    split
    · exact hg
    · exact .ite (fun _ => calm_bind (updateSunoTask_calm hu owner _ _ _ g hg) fun _ => ih _)
        fun _ => ih _ g hg

lemma failSunoTasks_calm (owner reason : String) (ids : List String) (copies : Copies) :
    Calm κ (failSunoTasks owner reason ids copies) := by
  induction ids generalizing copies with
  | nil => exact fun _ hg => hg
  | cons upstreamID rest ih =>
    intro g hg
    unfold failSunoTasks
    split
    · exact ih _ g hg
    · refine .tx_bind ((failTaskWithDurableBilling_follows hg (hu _) (fun _ => .suno) _ _ _ _).mono
        fun x g₁ h₁ => ⟨fun _ _ => h₁.quiet, fun stored hx => ?_⟩)
      obtain ⟨task', r⟩ := stored
      match r with
      | .error e | .ok false => exact ih _ _ h₁.quiet
      | .ok true => exact calm_bind (refundUnlessDurable_calm h₁.quiet (h₁.right hx rfl (.inl rfl)) _) fun _ => ih _

lemma updateSunoTasks_calm (env : Env) (channelId : ℕ) (ids : List String)
    (copies : Copies) : Calm κ (updateSunoTasks env channelId ids copies) := by
  intro g hg
  refine .ite (fun _ => hg) fun _ => ?_
  split
  · exact failSunoTasks_calm hu _ _ _ _ g hg
  · split
    · exact hg
    · split
      · exact hg
      · exact updateSunoItems_calm hu _ _ _ g hg

end

/-! ### The iteration and the realtime fetch -/

section

variable (hu : ∀ site, κ.uses site)

include hu

variable (env : Env)

lemma dispatchPlatformUpdate_calm (platform : TaskPlatform)
    (tasks : List (ℕ × Task)) (channels : List ℕ) (copies : Copies) :
    Calm κ (dispatchPlatformUpdate env platform tasks channels copies) := by
  induction channels generalizing copies with
  | nil => exact fun _ hg => hg
  | cons channelId rest ih =>
    intro g hg
    unfold dispatchPlatformUpdate
    split
    · exact hg
    · exact calm_bind (updateSunoTasks_calm hu _ _ _ _ g hg) ih
    · exact calm_bind (updateVideoTasks_calm hu _ _ _ _ _ g hg) ih

lemma failTasksWithoutUpstreamID_calm (owner : String) (tasks : List (ℕ × Task))
    (hnew : ∀ x ∈ tasks, x.2.status.terminal = false) : Calm κ (failTasksWithoutUpstreamID owner tasks) := by
  induction tasks with
  | nil => exact fun _ hg => hg
  | cons x rest ih =>
    have hrest : Calm κ (failTasksWithoutUpstreamID owner rest) := ih fun y hy => hnew y (.tail _ hy)
    intro g hg
    refine .tx_bind ((failTaskWithDurableBilling_follows hg (hu _)
      (fun _ => .missing (hnew _ (.head _))) _ _ _ _).mono
        fun x g₁ h₁ => ⟨fun _ _ => h₁.quiet, fun stored hx => ?_⟩)
    obtain ⟨task', r⟩ := stored
    match r with
    | .error e => exact h₁.quiet
    | .ok _ => exact calm_bind (refundUnlessDurable_calm h₁.quiet (h₁.right hx rfl (.inr rfl)) _) fun _ => hrest

lemma pollPlatforms_calm (all : List (ℕ × Task))
    (hnew : ∀ x ∈ all, x.2.status.terminal = false) (platforms : List TaskPlatform) :
    Calm κ (pollPlatforms env all platforms) := by
  induction platforms with
  | nil => exact fun _ hg => hg
  | cons platform rest ih =>
    intro g hg
    have hmissing := failTasksWithoutUpstreamID_calm hu env.owner
      ((all.filter fun x => x.2.platform = platform).filter fun x => x.2.upstreamTaskID = "")
      fun x hx => hnew x (List.mem_of_mem_filter (List.mem_of_mem_filter hx))
    exact calm_bind (hmissing g hg) fun _ g₁ hg₁ =>
      calm_bind (dispatchPlatformUpdate_calm hu _ _ _ _ _ g₁ hg₁) fun _ => ih

/-- **An iteration of the poller follows the protocol.** -/
lemma runTaskPollingIteration_calm : Calm κ (runTaskPollingIteration env) := by
  intro g hg
  refine calm_bind (sweepStaleRetryingTasks_calm hu g hg) fun _ g₁ hg₁ => ?_
  refine calm_bind (sweepTimedOutTasks_calm hu _ g₁ hg₁) fun _ g₂ hg₂ => ?_
  refine .tx_bind ⟨⟨fun _ _ => hg₂, nofun⟩,
    fun s _ => ⟨g₂, .read _ _ s, fun _ _ => hg₂, fun all hall => pollPlatforms_calm hu _ _ (fun x hx => ?_) _ g₂ hg₂⟩⟩
  cases hall
  have hrow := (mem_selectTasks (List.mem_of_mem_take hx)).2
  simp only [decide_eq_true_eq] at hrow
  simp [TaskStatus.terminal, hrow]

end

lemma applyRealtimeResponse_calm (hu : κ.Applies) (a : Adaptor) (owner : String) (id : ℕ) (task : Task)
    (response : Response) : Calm κ (applyRealtimeResponse a owner id task response) := by
  intro g hg
  refine calm_bind (tryRecoverFailedVideoTask_calm hu _ _ _ _ _ g hg) fun recovered g₁ hg₁ => ?_
  split
  · exact hg₁
  · exact hg₁
  · refine calm_bind (applyTaskResult_calm hu _ _ _ _ _ _ g₁ hg₁) fun applied g₂ hg₂ => ?_
    split <;> exact hg₂

lemma tryRealtimeFetch_calm (hu : κ.Applies) (env : Env) (id : ℕ) (task : Task) :
    Calm κ (tryRealtimeFetch env id task) := by
  intro g hg
  unfold tryRealtimeFetch
  split
  · exact hg
  · split
    · split
      · exact .ite (fun _ => hg) fun _ => applyRealtimeResponse_calm hu _ _ _ _ _ g hg
      · exact hg
    · exact hg

/-- **The realtime fetch follows the protocol.** -/
lemma videoFetchByID_calm (hu : κ.Applies) (env : Env) (userId : ℕ) (taskID : String) :
    Calm κ (videoFetchByID env userId taskID) := by
  have hquery : Aside κ (getByTaskId userId taskID) := fun g hg =>
    .ite (fun _ => rfl) fun _ => aside_select g hg
  intro g hg
  refine aside_bind hquery hg (fun _ => hg) fun found => ?_
  match found with
  | none => exact hg
  | some (id, task) => exact tryRealtimeFetch_calm hu env id task g hg

end StarNexus.Polling
