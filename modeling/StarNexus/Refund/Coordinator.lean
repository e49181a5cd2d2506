import Mathlib.Algebra.BigOperators.Group.Finset.Piecewise
import StarNexus.Refund.Apply

/-!
# A refund in the passes of the coordinator

The coordinator runs undisturbed, pass after pass, with any number of other rows beside the row `id`, which waits for its
refund.  If something that the refund needs is missing, no pass will make it; the API token is one of these things.  If nothing
is missing, the quota goes back in full as long as `amount_used` covers it.
-/

namespace StarNexus.Refund

open Lib Lib.Tx Model Service Ledger BillingTransaction List Option Prod Refundable
open Function (update update_self)

/-! ### Passes -/

structure Pass where
  owner : String
  limit : ℕ
  time : ℤ

def Pass.run (p : Pass) (r : Snap schema) : Snap schema :=
  (Prog.exec (.calm p.time) (processDurableBillingOnce p.owner p.limit) (Solo.init r)).2.rows

def selectCandidates (limit : ℕ) : Model.Tx (List (ℕ × BillingTransaction)) := do
  let now ← now
  markStaleUnboundBillingRefundPending (now - 3600)
  repairPendingTaskBillingIntents limit
  getDueBillingTransactions limit

def Pass.candidates (p : Pass) (r : Snap schema) : List (ℕ × BillingTransaction) :=
  match (Prog.exec (.calm p.time) (selectCandidates p.limit) (Solo.init r)).1 with
  | .ok rows => rows
  | .error _ => []

def afterPasses (r : Snap schema) (passes : List Pass) : Snap schema := passes.foldl (fun r p => p.run r) r

def Serves (id : ℕ) : Snap schema → List Pass → Prop
  | _, [] => False
  | r, p :: passes => id ∈ (p.candidates r).map Prod.fst ∨ Serves id (p.run r) passes

def RefundedWith (id : ℕ) (row : BillingTransaction) (s : Snap schema) : Prop :=
  (∃ row', s (.billing id) = some row' ∧ row'.state = .refunded) ∧ Returned id row s

/-- **Some passes refund the row, and as soon as a pass has selected it, it is refunded.** -/
def EndsRefunded (id : ℕ) (row : BillingTransaction) (r : Snap schema) : Prop :=
  (∃ passes, RefundedWith id row (afterPasses r passes)) ∧
    ∀ passes, Serves id r passes → RefundedWith id row (afterPasses r passes)

/-! ### Choosing the rows -/

variable {id : ℕ} {row : BillingTransaction} {r s : Snap schema} {z : ℤ}

variable {f : BillingTransaction → Option BillingTransaction}

def limitOf (limit : ℕ) : ℕ := if limit = 0 then 100 else limit

section

variable (hrow : r (.billing id) = some row) (hstate : row.state ≠ .reserved)

include hrow hstate

lemma Aside.reserved (hf : ∀ x, (f x).isSome → x.state = .reserved) :
    Aside id r (r.put ((selectBilling r fun x => (f x).isSome).map fun x => ⟨.billing x.1, f x.2⟩)) := by
  refine .put fun y hy => ?_
  obtain ⟨x, hx, rfl⟩ := mem_map.1 hy
  obtain ⟨-, hxrow, hfx⟩ := mem_selectBilling.1 hx
  have hne : x.1 ≠ id := by
    rintro heq
    rw [heq, hrow] at hxrow
    cases hxrow
    exact hstate (hf _ hfx)
  simpa [concerns] using hne

lemma markStale_commits (before : ℤ) :
    ∃ r', Commits z (markStaleUnboundBillingRefundPending before) r (.ok ()) r' ∧ Aside id r r' := by
  unfold markStaleUnboundBillingRefundPending
  split
  · exact ⟨r, .pure (), .refl r⟩
  · refine ⟨_, Commits.now.bind ((Commits.execAuto _ _).bind (.pure ())), .reserved hrow hstate fun x hx => ?_⟩
    exact (isSome_ite.1 hx).2.1

lemma repairTasks_commits (now : ℤ) (tasks : List (ℕ × Task)) :
    ∃ r', Commits z (repairTasks now tasks) r (.ok ()) r' ∧ Aside id r r' := by
  induction tasks generalizing r with
  | nil => exact ⟨r, .pure (), .refl r⟩
  | cons x rest ih =>
    obtain ⟨i, task⟩ := x
    have hstep : ∀ f : Snap schema → List (Write schema), Aside id r (r.put (f r)) → ∃ r', Commits z (do
        let _ ← execAuto Label.plain f
        repairTasks now rest) r (.ok ()) r' ∧ Aside id r r' := by
      intro f hfirst
      obtain ⟨r', hrest, haside⟩ := ih (hfirst.billing.trans hrow)
      exact ⟨r', (Commits.execAuto _ _).bind hrest, hfirst.trans haside⟩
    refine hstep _ ?_
    cases task.billingState with
    | none => exact .refl r
    | some state =>
      refine .reserved hrow hstate fun x hx => ?_
      exact (isSome_ite.1 hx).2

/-- **The beginning of a pass**, which then works on the first due rows and has left the row `id` alone. -/
lemma Pass.begins (p : Pass) :
    ∃ r₁, Aside id r r₁ ∧ p.candidates r = (selectBilling r₁ fun row => row.isDue p.time).take (limitOf p.limit) ∧
      (∀ I, Keeps (selectCandidates p.limit) I → I r → I r₁) ∧
      ∀ x r', Commits p.time (processCandidates p.owner (p.candidates r)) r₁ x r' → p.run r = r' := by
  obtain ⟨r₁, hmark, ha₁⟩ := markStale_commits hrow hstate (p.time - 3600)
  have hrow₁ := ha₁.billing.trans hrow
  obtain ⟨r₂, hrepair, ha₂⟩ := repairTasks_commits hrow₁ hstate p.time
    ((selectTasks r₁ fun t => t.billingState = some .settlePending ∨ t.billingState = some .refundPending).take
      (if p.limit = 0 then 100 else p.limit))
  have hrepair' : Commits p.time (repairPendingTaskBillingIntents p.limit) r₁ (.ok ()) r₂ :=
    (Commits.select _ _).bind (Commits.now.bind hrepair)
  have hdue : Commits p.time (getDueBillingTransactions p.limit) r₂
      (.ok ((selectBilling r₂ fun row => row.isDue p.time).take (limitOf p.limit))) r₂ :=
    Commits.now.bind (.select _ _)
  have hselect : Commits p.time (selectCandidates p.limit) r
      (.ok ((selectBilling r₂ fun row => row.isDue p.time).take (limitOf p.limit))) r₂ :=
    Commits.now.bind (hmark.bind (hrepair'.bind hdue))
  have hcandidates : p.candidates r = (selectBilling r₂ fun row => row.isDue p.time).take (limitOf p.limit) := by
    rw [Pass.candidates, hselect.exec.1]
  refine ⟨r₂, ha₁.trans ha₂, hcandidates, fun I hI hr => hselect.yields (hI r hr), fun x r' hwork => ?_⟩
  rw [hcandidates] at hwork
  have hrun : Commits p.time (processDurableBillingOnce p.owner p.limit) r x r' :=
    Commits.now.bind (hmark.bind (hrepair'.bind (hdue.bind hwork)))
  exact hrun.exec.2

end

lemma markStale_rewritten {before now : ℤ} {x y : BillingTransaction} (h : x.markStale before now = some y) :
    Rewritten x y := by
  obtain ⟨⟨-, hstate, -⟩, ⟨⟩⟩ := Option.ite_none_right_eq_some.1 h
  exact ⟨rfl, rfl, rfl, fun _ => le_rfl, by simp [hstate]⟩

lemma repairRow_rewritten {i : ℕ} {task : Task} {state : BillingState} {now : ℤ} {x y : BillingTransaction}
    (htask : 0 ≤ task.quota) (h : repairRow i task state now x = some y) : Rewritten x y := by
  obtain ⟨⟨-, hstate⟩, ⟨⟩⟩ := Option.ite_none_right_eq_some.1 h
  refine ⟨rfl, rfl, rfl, fun _ => ?_, by simp [hstate]⟩
  dsimp only
  split
  · exact le_rfl
  · exact htask

variable {paid : Option ℕ}

lemma repairTasks_covered (now : ℤ) (tasks : List (ℕ × Task)) (htasks : ∀ x ∈ tasks, 0 ≤ x.2.quota) :
    Keeps (repairTasks now tasks) (Covered paid) := by
  induction tasks with
  | nil => exact .pure _
  | cons x rest ih =>
    obtain ⟨i, task⟩ := x
    refine .bind (.execAuto fun r hr => ?_) fun _ => ih fun x hx => htasks x (.tail _ hx)
    cases task.billingState with
    | none => exact hr
    | some state => exact hr.putBilling fun x y hy => repairRow_rewritten (htasks _ (.head _)) hy

lemma selectCandidates_covered (limit : ℕ) : Keeps (selectCandidates limit) (Covered paid) := by
  refine .bind .now fun now => .bind ?_ fun _ => .bind ?_ fun _ => .bind .now fun _ => .select _ _
  · refine .ite (fun _ => .pure _) fun _ => .bind .now fun now => .bind (.execAuto fun r hr => ?_) fun _ => .pure _
    exact hr.putBilling fun x y hy => markStale_rewritten hy
  · refine fun r hr => .bind (.select hr (.bind (.now fun now => repairTasks_covered now _ (fun x hx => ?_) r hr)))
    exact hr.task _ _ (mem_selectTasks (mem_of_mem_take hx)).1

/-! ### Working on the rows -/

structure KeepsFor (i : ℕ) (I : Snap schema → Prop) : Prop where
  claim : ∀ version owner lease, Keeps (claimBillingTransaction i version owner lease) I
  apply : Keeps (applyDurableTaskBilling i) I
  release : ∀ state message attempts, Keeps (releaseBillingTransaction i state message attempts) I

variable {I J : Snap schema → Prop} {i : ℕ}

lemma KeepsFor.and (h : KeepsFor i I) (h' : KeepsFor i J) : KeepsFor i fun s => I s ∧ J s :=
  ⟨fun v o l => (h.claim v o l).and (h'.claim v o l), h.apply.and h'.apply, fun st m a => (h.release st m a).and (h'.release st m a)⟩

lemma processCandidates_head (h : KeepsFor i I) (owner : String)
    (candidate : BillingTransaction) (rest : List (ℕ × BillingTransaction)) (hr : I r) :
    ∃ r₁, I r₁ ∧ ∀ x r', Commits z (processCandidates owner rest) r₁ x r' →
      Commits z (processCandidates owner ((i, candidate) :: rest)) r x r' := by
  obtain ⟨won, r₁, hclaim, hr₁⟩ := (h.claim candidate.version owner durableBillingLease).commits hr z
  obtain ⟨applied, r₂, happly, hr₂⟩ := h.apply.commits hr₁ z
  rcases won with e | _ | _
  · exact ⟨r₁, hr₁, fun x r' hrest => hclaim.attempt.bind hrest⟩
  · exact ⟨r₁, hr₁, fun x r' hrest => hclaim.attempt.bind hrest⟩
  rcases applied with e | u
  · obtain ⟨released, r₃, hrelease, hr₃⟩ :=
      (h.release (pendingStateOf candidate) e.text (candidate.attempts + 1)).commits hr₂ z
    exact ⟨r₃, hr₃, fun x r' hrest =>
      hclaim.attempt.bind (happly.attempt.bind (hrelease.attempt.bind ((Commits.emit _).bind hrest)))⟩
  · exact ⟨r₂, hr₂, fun x r' hrest => hclaim.attempt.bind (happly.attempt.bind hrest)⟩

lemma processCandidates_keeps (owner : String) (rows : List (ℕ × BillingTransaction))
    (h : ∀ i ∈ rows.map fst, KeepsFor i I) (hr : I r) :
    ∃ x r', Commits z (processCandidates owner rows) r x r' ∧ I r' := by
  induction rows generalizing r with
  | nil => exact ⟨_, r, .pure (), hr⟩
  | cons x rest ih =>
    obtain ⟨r₁, hr₁, hhead⟩ := processCandidates_head (h x.1 (.head _)) owner x.2 rest hr
    obtain ⟨y, r', hrest, hr'⟩ := ih (fun i hi => h i (.tail _ hi)) hr₁
    exact ⟨y, r', hhead y r' hrest, hr'⟩

lemma Pass.run_keeps (p : Pass) (h : ∀ i ∈ (p.candidates r).map fst, KeepsFor i I)
    (hrow : r (.billing id) = some row) (hstate : row.state ≠ .reserved)
    (hbegins : ∀ r', Aside id r r' → (∀ J, Keeps (selectCandidates p.limit) J → J r → J r') → I r') : I (p.run r) := by
  obtain ⟨r₁, ha, -, hkeeps, hrun⟩ := p.begins hrow hstate
  obtain ⟨x, r', hwork, hr'⟩ := processCandidates_keeps p.owner (p.candidates r) h (hbegins r₁ ha hkeeps)
  rw [hrun x r' hwork]
  exact hr'

/-! #### Other rows -/

lemma aside_autoRow (hi : i ≠ id) (f : BillingTransaction → Option BillingTransaction) (s : Snap schema) :
    Keeps (autoRow (.billing i) (onRow f)) (Aside id s) := fun r hr =>
  .autoRow hr (fun _ => hr) fun v _ => hr.trans (.other (k := .billing i) v (by simpa [concerns] using hi))

lemma keepsFor_other (hi : i ≠ id) (s : Snap schema) : KeepsFor i (Aside id s) where
  claim _ _ _ := .bind .now fun _ => .bind (aside_autoRow hi _ s) fun _ => .pure _
  apply := .transaction fun _ hr => applyDurableTaskBillingTx_applied.mono fun _ _ ⟨_, _, hw⟩ => hr.trans (hw.closed.aside hi)
  release state message attempts := by
    exact .ite (fun _ => .fail _) fun _ =>
      .bind .now fun _ => .bind (aside_autoRow hi _ s) fun _ => .pure _

lemma KeepsFor.of_aside (hi : i ≠ id) (hI : ∀ s s', Aside id s s' → I s → I s') :
    KeepsFor i I := by
  have hlift : ∀ {α : Type} {p : Model.Tx α}, (∀ s, Keeps p (Aside id s)) → Keeps p I := by
    intro α p hp r hr
    exact (hp r r (.refl r)).mono (fun r' h => hI r r' h hr) fun _ r' h => hI r r' h hr
  exact ⟨fun v o l => hlift fun s => (keepsFor_other hi s).claim v o l, hlift fun s => (keepsFor_other hi s).apply,
    fun st m a => hlift fun s => (keepsFor_other hi s).release st m a⟩

/-! #### The row itself -/

structure Ready (id : ℕ) (row : BillingTransaction) (s : Snap schema) : Prop where
  waits : s (.billing id) = some row
  refundable : Refundable id row s
  user : (s (.user row.userID)).isSome
  fits : ∀ sub, s (.subscription row.subscriptionID) = some sub → Fits sub

lemma Ready.aside (h : Ready id row s) (ha : Aside id s r) : Ready id row r := by
  refine ⟨ha.billing.trans h.waits, (aside_iff ha).2 h.refundable, ?_, fun sub hsub => ?_⟩
  · obtain ⟨x, hx⟩ := isSome_iff_exists.1 h.user
    obtain ⟨x', hx', -⟩ := ha.user _ x hx
    rw [hx']
    rfl
  · cases hs : s (.subscription row.subscriptionID) with
    | none =>
      rw [ha.noSub _ hs] at hsub
      cases hsub
    | some x =>
      obtain ⟨x', hx', -, hfits⟩ := ha.sub _ x hs
      rw [hx'] at hsub
      cases hsub
      exact hfits (h.fits x hs)

def claimed (row : BillingTransaction) (owner : String) (z : ℤ) : BillingTransaction :=
  { row with state := .applying, leaseOwner := owner, leaseUntil := z + durableBillingLease, version := row.version + 1
             updatedAt := z }

lemma Ready.claim (h : Ready id row s) (owner : String) (z : ℤ) :
    Ready id (claimed row owner z) (update s (.billing id) (some (claimed row owner z))) := by
  refine ⟨update_self _ _ _, update_iff.2 { h.refundable with }, ?_, fun sub hsub => h.fits sub ?_⟩
  · simpa [claimed] using h.user
  · simpa [claimed] using hsub

lemma live_of_isDue (hdue : row.isDue z = true) : row.state ∉ [.settled, .refunded, .actionNeeded] := by
  intro hmem
  simp only [mem_cons, not_mem_nil, or_false] at hmem
  rcases hmem with hstate | hstate | hstate <;> simp [BillingTransaction.isDue, hstate] at hdue

lemma claim_commits (hrow : r (.billing id) = some row) (hdue : row.isDue z = true) (owner : String) :
    Commits z (claimBillingTransaction id row.version owner durableBillingLease) r (.ok true)
      (update r (.billing id) (some (claimed row owner z))) := by
  have hwrite : rowWrite (S := schema) (.billing id)
      (onRow (claim row.version owner durableBillingLease z)) r =
      [⟨.billing id, some (claimed row owner z)⟩] := by
    simp [rowWrite, onRow, hrow, claim, hdue, claimed]
  have hauto := Commits.execAuto (z := z) (r := r) .plain (rowWrite (.billing id)
    (onRow (claim row.version owner durableBillingLease z)))
  rw [hwrite] at hauto
  exact Commits.now.bind (hauto.bind (.pure _))

/-- **The pass that reaches the row** refunds it. -/
lemma processCandidates_own (h : Ready id row r) (hcovered : Covered (source row) r) (huser : row.userID ≠ 0)
    (hdue : row.isDue z = true) (owner : String) (rest : List (ℕ × BillingTransaction)) :
    ∃ r₁, RefundedWith id row r₁ ∧ ∀ x r', Commits z (processCandidates owner rest) r₁ x r' →
      Commits z (processCandidates owner ((id, row) :: rest)) r x r' := by
  have hclaimed := h.claim owner z
  have hpos : 0 ≤ row.reservedQuota := (hcovered.billing id row h.waits).1
  have hlive : row.state ∉ [.settled, .refunded, .actionNeeded] := live_of_isDue hdue
  have hcovered' : Covered (source row) (update r (.billing id) (some (claimed row owner z))) :=
    hcovered.writeBilling h.waits ⟨rfl, rfl, rfl, fun h => h, hlive⟩
  obtain ⟨u, r₁, hreturns, -, row', hrow', happlied⟩ := (applyDurableTaskBillingTx_succeeds hclaimed.waits rfl
    hclaimed.refundable hpos huser hclaimed.user hclaimed.fits).ensures applyDurableTaskBillingTx_applied
  cases hclaimed.waits.symm.trans hrow'
  obtain ⟨now, hfinished⟩ := happlied.closed.billing
  have htarget := hclaimed.refundable.target
  refine ⟨r₁, ⟨⟨_, hfinished, if_pos htarget⟩, happlied.closed.returned huser (if_pos htarget) hcovered'⟩, fun x r' hrest => ?_⟩
  have happly : Commits z (applyDurableTaskBilling id) _ (.ok u) r₁ := .transaction hreturns
  exact (claim_commits h.waits hdue owner).attempt.bind (happly.attempt.bind hrest)

lemma keeps_autoRow
    (h : ∀ s x y, I s → s (.billing id) = some x → f x = some y → I (update s (.billing id) (some y))) :
    Keeps (autoRow (.billing id) (onRow f)) I := by
  intro s hs
  refine .autoRow hs (fun _ => hs) fun v hv => ?_
  obtain ⟨x, y, hx, hy, rfl⟩ := onRow_eq_some.1 hv
  exact h s x y hs hx hy

lemma KeepsFor.of_own
    (hclaim : ∀ s x version owner lease now, I s → s (.billing id) = some x → x.isDue now = true →
      I (update s (.billing id) (some { x with
        state := .applying, leaseOwner := owner, leaseUntil := now + lease, version := version + 1, updatedAt := now })))
    (happly : ∀ s, I s → Ensures (applyDurableTaskBillingTx id) s fun _ w => I w)
    (hrelease : ∀ s x y state message attempts now, I s → s (.billing id) = some x → x.state = .applying →
      state = .settlePending ∨ state = .refundPending → BillingTransaction.release state message attempts now x = some y →
      I (update s (.billing id) (some y))) : KeepsFor id I where
  claim version owner lease := by
    refine .bind .now fun now => .bind (keeps_autoRow fun s x y hs hx hy => ?_) fun _ => .pure _
    obtain ⟨⟨rfl, hdue⟩, ⟨⟩⟩ := Option.ite_none_right_eq_some.1 hy
    exact hclaim s x x.version owner lease now hs hx hdue
  apply := .transaction happly
  release state message attempts := by
    refine .ite (fun _ => .fail _) fun hpending => ?_
    refine .bind .now fun now => .bind (keeps_autoRow fun s x y hs hx hy => ?_) fun _ => .pure _
    exact hrelease s x y state message attempts now hs hx (Option.ite_none_right_eq_some.1 hy).1 (by tauto) hy

lemma covered_keepsFor (i : ℕ) : KeepsFor i (Covered paid) := by
  refine .of_own (fun s x version owner lease now hs hx hdue => hs.writeBilling hx ⟨rfl, rfl, rfl, fun h => h,
    live_of_isDue hdue⟩) (fun s hs => applyDurableTaskBillingTx_applied.mono ?_)
    fun s x y state message attempts now hs hx happlying _ hy => ?_
  · rintro _ w ⟨row, hrow, happlied⟩
    exact happlied.covered hrow hs
  · obtain ⟨-, ⟨⟩⟩ := Option.ite_none_right_eq_some.1 hy
    exact hs.writeBilling hx ⟨rfl, rfl, rfl, fun h => h, by simp [happlying]⟩

/-! ### Refunded rows stay refunded -/

lemma RefundedWith.aside {s' : Snap schema} (h : RefundedWith id row s) (ha : Aside id s s') : RefundedWith id row s' := by
  obtain ⟨⟨row', hrow', hstate⟩, hreturned⟩ := h
  exact ⟨⟨row', ha.billing.trans hrow', hstate⟩, hreturned.aside ha⟩

lemma refundedWith_keepsFor (i : ℕ) : KeepsFor i (RefundedWith id row) := by
  by_cases hi : i = id
  · subst hi
    refine .of_own (fun s x version owner lease now hs hx hdue => ?_) (fun s hs => ?_)
      fun s x y state message attempts now hs hx happlying => ?_
    · obtain ⟨⟨row', hrow', hstate⟩, -⟩ := hs
      obtain ⟨⟩ := hrow'.symm.trans hx
      simp [BillingTransaction.isDue, hstate] at hdue
    · obtain ⟨⟨row', hrow', hstate⟩, -⟩ := hs
      refine .bind (.select ?_)
      rw [hrow']
      exact .guard fun h => absurd (by simp [hstate]) h
    · obtain ⟨⟨row', hrow', hstate⟩, -⟩ := hs
      obtain ⟨⟩ := hrow'.symm.trans hx
      rw [hstate] at happlying
      cases happlying
  · exact .of_aside hi fun s s' ha h => h.aside ha

lemma RefundedWith.run (h : RefundedWith id row r) (p : Pass) : RefundedWith id row (p.run r) := by
  have ⟨⟨row', hrow', hstate⟩, _⟩ := h
  exact p.run_keeps (fun i _ => refundedWith_keepsFor i) hrow' (by simp [hstate]) fun r' ha _ => h.aside ha

/-! ### Rows that cannot be refunded -/

def Blocked (id : ℕ) (s : Snap schema) : Prop :=
  ∃ row, s (.billing id) = some row ∧ row.state ≠ .refunded ∧ row.state ≠ .reserved ∧ row.userID ≠ 0 ∧ ¬Refundable id row s

lemma Blocked.aside {s' : Snap schema} (h : Blocked id s) (ha : Aside id s s') : Blocked id s' := by
  obtain ⟨row, hrow, hrefunded, hreserved, huser, hmissing⟩ := h
  exact ⟨row, ha.billing.trans hrow, hrefunded, hreserved, huser, fun h => hmissing ((aside_iff ha).1 h)⟩

lemma Blocked.update {y : BillingTransaction} (h : Blocked id s) (hrow : s (.billing id) = some row)
    (hrefunded : y.state ≠ .refunded) (hreserved : y.state ≠ .reserved) (huser : y.userID = row.userID)
    (hsame : ∀ s', Refundable id y s' → Refundable id row s') : Blocked id (update s (.billing id) (some y)) := by
  obtain ⟨row', hrow', -, -, huser', hmissing⟩ := h
  obtain ⟨⟩ := hrow'.symm.trans hrow
  refine ⟨y, update_self _ _ _, hrefunded, hreserved, by rwa [huser], fun hy => hmissing ?_⟩
  exact hsame _ (update_iff.1 hy)

lemma blocked_keepsFor (i : ℕ) : KeepsFor i (Blocked id) := by
  by_cases hi : i = id
  · subst hi
    refine .of_own (fun s x version owner lease now hs hx _ => ?_) (fun s hs => ?_)
      fun s x y state message attempts now hs hx happlying hpending hy => ?_
    · exact hs.update hx (by simp) (by simp) rfl fun _ h => { h with }
    · obtain ⟨row, hrow, -, -, huser, hmissing⟩ := hs
      refine applyDurableTaskBillingTx_applied.mono ?_
      rintro _ w ⟨row', hrow', happlied⟩
      cases hrow.symm.trans hrow'
      obtain ⟨now, hfinished⟩ := happlied.closed.billing
      have htarget : row.targetTaskStatus ≠ .failure := fun h => hmissing (happlied.refundable h)
      have hsettled : finalState row = .settled := if_neg htarget
      exact ⟨_, hfinished, by simp [finished, hsettled], by simp [finished, hsettled], huser, fun h => htarget h.target⟩
    · obtain ⟨-, ⟨⟩⟩ := Option.ite_none_right_eq_some.1 hy
      refine hs.update hx ?_ ?_ rfl fun _ h => { h with }
      all_goals
        split
        · simp
        · rcases hpending with rfl | rfl <;> simp
  · exact .of_aside hi fun s s' ha h => h.aside ha

variable (passes : List Pass)

lemma Blocked.afterPasses (h : Blocked id r) : Blocked id (afterPasses r passes) := by
  induction passes generalizing r with
  | nil => exact h
  | cons p passes ih =>
    have ⟨row, hrow, _, hreserved, _⟩ := h
    exact ih (p.run_keeps (fun i _ => blocked_keepsFor i) hrow hreserved fun r' ha _ => h.aside ha)

lemma Blocked.not_refundedWith (h : Blocked id s) : ¬RefundedWith id row s := by
  rintro ⟨⟨row', hrow', hstate⟩, -⟩
  obtain ⟨row'', hrow'', hrefunded, -⟩ := h
  obtain ⟨⟩ := hrow'.symm.trans hrow''
  exact hrefunded hstate

/-! ### Rows that can be refunded -/

/-- Ready, and what the refund returns is covered. -/
def ReadyCovered (id : ℕ) (row : BillingTransaction) (s : Snap schema) : Prop := Ready id row s ∧ Covered (source row) s

lemma readyCovered_keepsFor (hi : i ≠ id) : KeepsFor i (ReadyCovered id row) :=
  (KeepsFor.of_aside hi fun _ _ ha hs => Ready.aside hs ha).and (covered_keepsFor i)

lemma ReadyCovered.begins (h : ReadyCovered id row r) {p : Pass} {r' : Snap schema} (ha : Aside id r r')
    (hkeeps : ∀ J, Keeps (selectCandidates p.limit) J → J r → J r') : ReadyCovered id row r' :=
  ⟨h.1.aside ha, hkeeps _ (selectCandidates_covered p.limit) h.2⟩

lemma ReadyCovered.skipped (h : ReadyCovered id row r) (hstate : row.state ≠ .reserved) (p : Pass)
    (hmem : id ∉ (p.candidates r).map fst) : ReadyCovered id row (p.run r) := by
  refine p.run_keeps (fun i hi => readyCovered_keepsFor ?_) h.1.waits hstate fun r' ha hkeeps => h.begins ha hkeeps
  rintro rfl
  exact hmem hi

section

variable (h : ReadyCovered id row r) (huser : row.userID ≠ 0)

include h huser

lemma processCandidates_served (owner : String) (rows : List (ℕ × BillingTransaction)) (hmem : id ∈ rows.map fst)
    (hrows : ∀ c ∈ rows, c.1 = id → c.2 = row ∧ row.isDue z = true) :
    ∃ x r', Commits z (processCandidates owner rows) r x r' ∧ RefundedWith id row r' := by
  -- the rows before the first occurrence of `id` keep it ready, those after it keep it refunded
  induction rows generalizing r with
  | nil => cases hmem
  | cons c rest ih =>
    obtain ⟨i, x⟩ := c
    by_cases hi : i = id
    · obtain ⟨hx, hdue⟩ := hrows _ (.head _) hi
      subst hi hx
      obtain ⟨r₁, hr₁, hhead⟩ := processCandidates_own h.1 h.2 huser hdue owner rest
      obtain ⟨y, r', hrest, hr'⟩ :=
        processCandidates_keeps owner rest (fun i _ => refundedWith_keepsFor i) hr₁
      exact ⟨y, r', hhead y r' hrest, hr'⟩
    · obtain ⟨r₁, hr₁, hhead⟩ := processCandidates_head (readyCovered_keepsFor hi) owner x rest h
      have hmem' := (mem_cons.1 hmem).resolve_left (Ne.symm hi)
      obtain ⟨y, r', hrest, hr'⟩ := ih hr₁ hmem' fun c hc => hrows c (.tail _ hc)
      exact ⟨y, r', hhead y r' hrest, hr'⟩

lemma ReadyCovered.served (hstate : row.state ≠ .reserved) (p : Pass) (hmem : id ∈ (p.candidates r).map fst) :
    RefundedWith id row (p.run r) := by
  obtain ⟨r₁, ha, hcandidates, hkeeps, hrun⟩ := p.begins h.1.waits hstate
  have hrows : ∀ c ∈ p.candidates r, c.1 = id → c.2 = row ∧ row.isDue p.time = true := by
    rintro ⟨i, x⟩ hc rfl
    rw [hcandidates] at hc
    obtain ⟨-, hx, hdue⟩ := mem_selectBilling.1 (mem_of_mem_take hc)
    obtain ⟨⟩ := (ha.billing.trans h.1.waits).symm.trans hx
    exact ⟨rfl, hdue⟩
  obtain ⟨y, r', hwork, hr'⟩ := processCandidates_served (h.begins ha hkeeps) huser p.owner (p.candidates r) hmem hrows
  rw [hrun y r' hwork]
  exact hr'

end

lemma RefundedWith.afterPasses (h : RefundedWith id row r) :
    RefundedWith id row (afterPasses r passes) := by
  induction passes generalizing r with
  | nil => exact h
  | cons p passes ih => exact ih (h.run p)

lemma ReadyCovered.afterPasses (h : ReadyCovered id row r) (huser : row.userID ≠ 0) (hstate : row.state ≠ .reserved)
    (hserves : Serves id r passes) : RefundedWith id row (afterPasses r passes) := by
  induction passes generalizing r with
  | nil => cases hserves
  | cons p passes ih =>
    by_cases hmem : id ∈ (p.candidates r).map fst
    · exact (h.served huser hstate p hmem).afterPasses passes
    · exact ih (h.skipped hstate p hmem) (hserves.resolve_left hmem)

lemma exists_serves (hrow : r (.billing id) = some row) (hstate : row.state = .refundPending)
    (hid : id < (r .billingSeq : ℕ)) : ∃ p : Pass, id ∈ (p.candidates r).map fst := by
  let p : Pass := ⟨"", (r .billingSeq : ℕ) + 1, row.nextRetryAt⟩
  obtain ⟨r₁, ha, hcandidates, -⟩ := p.begins hrow (by simp [hstate])
  refine ⟨p, mem_map.2 ⟨(id, row), ?_, rfl⟩⟩
  have hmem : (id, row) ∈ selectBilling r₁ fun row => row.isDue p.time := by
    refine mem_selectBilling.2 ⟨?_, ha.billing.trans hrow, ?_⟩
    · rw [ha.seq]
      exact hid
    · simp [BillingTransaction.isDue, hstate, p]
  have hlength : (selectBilling r₁ fun row => row.isDue p.time).length ≤ limitOf p.limit := by
    calc (selectBilling r₁ fun row => row.isDue p.time).length
        ≤ (range (r₁ .billingSeq : ℕ)).length := length_filterMap_le _ _
      _ = (r .billingSeq : ℕ) := by rw [length_range, ha.seq]
      _ ≤ limitOf p.limit := by simp [limitOf, p]
  rw [hcandidates, take_of_length_le hlength]
  exact hmem

/-! ### The refund of a row -/

/-- A row in `refund_pending` whose user exists, in a database as the other functions leave it: quotas are not negative, a
subscription is not used beyond its total, and it counts as used what is reserved on it. -/
structure Pending (id : ℕ) (row : BillingTransaction) (r : Snap schema) : Prop where
  waits : r (.billing id) = some row
  state : row.state = .refundPending
  created : id < (r .billingSeq : ℕ)
  owned : row.userID ≠ 0
  user : (r (.user row.userID)).isSome
  fits : ∀ sub, r (.subscription row.subscriptionID) = some sub → Fits sub
  covered : Covered (source row) r

lemma Pending.blocked (h : Pending id row r) (hmissing : ¬Refundable id row r) : Blocked id r :=
  ⟨row, h.waits, by simp [h.state], by simp [h.state], h.owned, hmissing⟩

/-- **A row in `refund_pending` ends refunded exactly if what its refund needs is still there**, the API token among it. -/
theorem refunded_iff (h : Pending id row r) : EndsRefunded id row r ↔ Refundable id row r := by
  constructor
  · rintro ⟨⟨passes, hrefunded⟩, -⟩
    by_contra hmissing
    exact ((h.blocked hmissing).afterPasses passes).not_refundedWith hrefunded
  · intro hrefundable
    have hready : ReadyCovered id row r := ⟨⟨h.waits, hrefundable, h.user, h.fits⟩, h.covered⟩
    have hstate : row.state ≠ .reserved := by simp [h.state]
    obtain ⟨p, hp⟩ := exists_serves h.waits h.state h.created
    refine ⟨⟨[p], hready.served h.owned hstate p hp⟩, fun passes hserves => ?_⟩
    exact hready.afterPasses passes h.owned hstate hserves

def failed (source : FundingSource) : BillingTransaction where
  businessKey := "request:1"
  userID := 1
  tokenID := 1
  skipTokenQuota := false
  subscriptionID := 1
  fundingSource := source
  reservedQuota := 100
  finalQuota := 100
  targetTaskStatus := .failure
  state := .refundPending
  updatedAt := 0

def database (source : FundingSource) (token : Option Token) (used : ℤ) : Snap schema
  | .user u => if u = 1 then some { quota := 900 } else none
  | .token t => if t = 1 then token else none
  | .subscription n =>
    if n = 1 then some { userId := 1, planId := 1, amountTotal := 1000, amountUsed := used, endTime := 86400, active := true }
    else none
  | .subscriptionSeq => (2 : ℕ)
  | .preConsumeRecord _ => none
  | .billing i => if i = 1 then some (failed source) else none
  | .billingSeq => (2 : ℕ)
  | .task _ => none
  | .taskSeq => (1 : ℕ)
  | .channelUsed _ => (0 : ℤ)
  | .outbox _ => none

lemma database_covered (source : FundingSource) (token : Option Token) (used : ℤ)
    (hused : source = .subscription → 100 ≤ used) : Covered (Refund.source (failed source)) (database source token used) := by
  refine ⟨fun i row hrow => ?_, fun i task htask => ?_, fun n hn sub hsub rows => ?_⟩
  · obtain ⟨-, ⟨⟩⟩ := Option.ite_none_right_eq_some.1 hrow
    exact ⟨by simp [failed], by simp [failed]⟩
  · cases htask
  · obtain ⟨rfl, ⟨⟩⟩ := Option.ite_none_right_eq_some.1 hsub
    cases source with
    | wallet => cases hn
    | subscription =>
      have hheld : ∀ i, held 1 (database .subscription token used) i = if i = 1 then 100 else 0 := fun i => by
        by_cases hi : i = 1 <;> simp [held, database, hi, heldOn, failed]
      have hle := hused rfl
      simp only [hheld, Finset.sum_ite_eq']
      split <;> omega

lemma database_pending (source : FundingSource) (token : Option Token) (used : ℤ)
    (hused : source = .subscription → 100 ≤ used) (htotal : used ≤ 1000) :
    Pending 1 (failed source) (database source token used) where
  waits := rfl
  state := rfl
  created := show 1 < 2 by decide
  owned := by simp [failed]
  user := rfl
  fits sub h := by
    change (if 1 = 1 then _ else none) = some sub at h
    obtain ⟨-, ⟨⟩⟩ := Option.ite_none_right_eq_some.1 h
    exact fun _ => htotal
  covered := database_covered source token used hused

theorem refunded_iff_tokenPresent :
    EndsRefunded 1 (failed .wallet) (database .wallet (some { remainQuota := 0, usedQuota := 100 }) 0) ∧
      EndsRefunded 1 (failed .subscription) (database .subscription (some { remainQuota := 0, usedQuota := 100 }) 300) := by
  constructor
  · refine (refunded_iff (database_pending .wallet _ 0 (fun h => nomatch h) (by decide))).2 ⟨rfl, fun h => ?_, fun _ _ _ => rfl,
      fun h => absurd rfl h, rfl, fun h => absurd rfl h⟩
    cases h
  · exact (refunded_iff (database_pending _ _ 300 (fun _ => by decide) (by decide))).2 ⟨rfl, fun _ _ => ⟨by simp [failed], rfl⟩,
      fun _ _ _ => rfl, fun h => absurd rfl h, rfl, fun h => absurd rfl h⟩

def hourly (n : ℕ) : List Pass := (List.range n).map fun i => ⟨"worker", 100, 3600 * i⟩

/-- The token has been deleted: the first pass takes up the row, after twenty it is given up, and no passes refund it.  If the
subscription has been reset instead, the first pass marks the row as refunded, and nothing has been returned. -/
theorem tokenDeleted_not_refunded :
    (Pending 1 (failed .wallet) (database .wallet none 0) ∧ Serves 1 (database .wallet none 0) (hourly 20) ∧
      ((afterPasses (database .wallet none 0) (hourly 20)) (.billing 1)).map (·.state) = some .actionNeeded ∧
      ∀ passes, ¬RefundedWith 1 (failed .wallet) (afterPasses (database .wallet none 0) passes)) ∧
    ((afterPasses (database .subscription (some { remainQuota := 0, usedQuota := 100 }) 0) (hourly 1)) (.billing 1)).map
        (·.state) = some .refunded ∧
      ¬RefundedWith 1 (failed .subscription)
        (afterPasses (database .subscription (some { remainQuota := 0, usedQuota := 100 }) 0) (hourly 1)) := by
  have hpending := database_pending .wallet none 0 (fun h => nomatch h) (by decide)
  refine ⟨⟨hpending, .inl (by decide +kernel), by decide +kernel, fun passes => ?_⟩, by decide +kernel, ?_⟩
  · refine ((hpending.blocked fun h => ?_).afterPasses passes).not_refundedWith
    have htoken := h.token rfl (by simp [failed]) (by simp [failed])
    cases htoken
  · have hledger : ((afterPasses (database .subscription (some { remainQuota := 0, usedQuota := 100 }) 0) (hourly 1))
        (.subscription (failed .subscription).subscriptionID)).map (fun x => x.ledger.map (·.delta)) = some [0] := by decide +kernel
    rintro ⟨-, h0 | ⟨x, hx, hmem⟩⟩
    · cases h0
    · rw [hx] at hledger
      have hdeltas : x.ledger.map Entry.delta = [0] := Option.some.inj hledger
      have hzero := mem_map_of_mem (f := Entry.delta) hmem
      rw [hdeltas] at hzero
      revert hzero
      decide

end StarNexus.Refund
