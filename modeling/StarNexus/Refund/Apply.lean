import StarNexus.Refund.Covered

/-!
# The application of a refund

`applyDurableTaskBilling` for the row `id`, whose intent is a refund: it can only succeed if everything it touches is still
there (`Refundable`), it then succeeds if nothing disturbs it, and it leaves the row refunded and the reserved quota
returned, to a subscription as far as its `amount_used` covers it.
-/

namespace StarNexus.Refund

open Lib Lib.Tx Model Service Ledger Function List Option
open Function (update_eq_self update_of_ne update_self)

/-- What the refund of the row needs: its subscription, token and task, and an outbox without its events. -/
@[mk_iff]
structure Refundable (id : ℕ) (row : BillingTransaction) (s : Snap schema) : Prop where
  target : row.targetTaskStatus = .failure
  funding : row.fundingSource = .subscription → row.reservedQuota ≠ 0 →
    row.subscriptionID ≠ 0 ∧ (s (.subscription row.subscriptionID)).isSome
  token : row.skipTokenQuota = false → row.tokenID ≠ 0 → row.reservedQuota ≠ 0 → (s (.token row.tokenID)).isSome
  task : row.taskDBID ≠ 0 → (s (.task row.taskDBID)).isSome
  quotaCache : s (.outbox (.quotaCache id)) = none
  taskBilling : row.taskDBID ≠ 0 → (s (.task row.taskDBID)).any (fun task => !taskUsesPreAuthorization task) →
    s (.outbox (.taskBilling id)) = none

/-- The reserved quota went back in one entry: onto the wallet, or off the `amount_used` of the subscription. -/
def Returned (id : ℕ) (row : BillingTransaction) (s : Snap schema) : Prop :=
  row.reservedQuota = 0 ∨
    match row.fundingSource with
    | .wallet => ∃ x, s (.user row.userID) = some x ∧ ⟨.durable .apply id, row.reservedQuota⟩ ∈ x.ledger
    | .subscription => ∃ x, s (.subscription row.subscriptionID) = some x ∧
        ⟨.durable .apply id, -row.reservedQuota⟩ ∈ x.ledger

variable {id : ℕ} {row : BillingTransaction} {s s' : Snap schema}

section

variable (h : Aside id s s')

include h

lemma Aside.sub_isSome (n : ℕ) : (s' (.subscription n)).isSome = (s (.subscription n)).isSome := by
  cases hs : s (.subscription n) with
  | none => rw [h.noSub _ hs]
  | some x =>
    obtain ⟨x', hx', -⟩ := h.sub _ x hs
    rw [hx']
    rfl

lemma Aside.task_isSome (n : ℕ) : (s' (.task n)).isSome = (s (.task n)).isSome := by
  rw [← isSome_map, h.task, isSome_map]

lemma Aside.task_any (n : ℕ) : (s' (.task n)).any (fun task => !taskUsesPreAuthorization task) =
    (s (.task n)).any (fun task => !taskUsesPreAuthorization task) := by
  have htask := h.task n
  cases hs : s (.task n) with
  | none =>
    rw [hs, map_none, map_eq_none_iff] at htask
    rw [htask]
  | some x =>
    rw [hs] at htask
    obtain ⟨x', hx', hdata⟩ := map_eq_some_iff.1 htask
    rw [hx']
    simp [taskUsesPreAuthorization, hdata]

lemma Refundable.aside_iff : Refundable id row s' ↔ Refundable id row s := by
  rw [refundable_iff, refundable_iff, h.sub_isSome, h.token, h.task_isSome, h.quotaCache, h.task_any, h.taskBilling]

end

lemma Refundable.update_iff {v : Option BillingTransaction} :
    Refundable id row (update s (.billing id) v) ↔ Refundable id row s := by
  simp [refundable_iff]

lemma Returned.mono (h : Returned id row s)
    (huser : ∀ u x, s (.user u) = some x → ∃ x', s' (.user u) = some x' ∧ x.ledger <+: x'.ledger)
    (hsub : ∀ n x, s (.subscription n) = some x → ∃ x', s' (.subscription n) = some x' ∧ x.ledger <+: x'.ledger) :
    Returned id row s' := by
  rcases h with h0 | h
  · exact .inl h0
  · right
    cases hsource : row.fundingSource with
    | wallet =>
      rw [hsource] at h
      obtain ⟨x, hx, hmem⟩ := h
      obtain ⟨x', hx', hpre⟩ := huser _ x hx
      exact ⟨x', hx', hpre.subset hmem⟩
    | subscription =>
      rw [hsource] at h
      obtain ⟨x, hx, hmem⟩ := h
      obtain ⟨x', hx', hpre⟩ := hsub _ x hx
      exact ⟨x', hx', hpre.subset hmem⟩

lemma Returned.aside (h : Returned id row s) (ha : Aside id s s') : Returned id row s' :=
  h.mono ha.user fun n x hx =>
    let ⟨x', hx', hpre, _⟩ := ha.sub n x hx
    ⟨x', hx', hpre⟩

/-! ### In the middle of the application -/

def whyApply (id : ℕ) : Why := fun _ => .durable .apply id

/-- The row `id` is being applied at the quota `q`: the quota is charged, and the row and the outbox are as they were in `s`. -/
structure Taken (id : ℕ) (row : BillingTransaction) (q : ℤ) (s w : Snap schema) : Prop where
  aside : ∀ i, Aside i s w
  task : ∀ n t, w (.task n) = some t → t.quota = q ∨ ∃ t', s (.task n) = some t' ∧ t'.quota = t.quota
  used : ∀ n sub', w (.subscription n) = some sub' → ∃ sub, s (.subscription n) = some sub ∧
    (sub'.amountUsed = sub.amountUsed ∨ row.fundingSource = .subscription ∧ row.subscriptionID = n ∧
      sub.amountUsed + (q - row.reservedQuota) ≤ sub'.amountUsed)
  funding : row.fundingSource = .subscription → row.reservedQuota ≠ q →
    row.subscriptionID ≠ 0 ∧ (s (.subscription row.subscriptionID)).isSome
  returned : row.userID ≠ 0 → q = 0 → Covered (source row) s → Returned id row w

variable {q : ℤ} {w : Snap schema}

lemma Taken.write (h : Taken id row q s w) {k : Key} {v : Val k} (haside : ∀ i, Aside i w (update w k v))
    (htask : ∀ n t, update w k v (.task n) = some t → t.quota = q ∨ w (.task n) = some t) (hsub : ∀ n, k ≠ .subscription n) :
    Taken id row q s (update w k v) := by
  refine ⟨fun i => (h.aside i).trans (haside i), fun n t ht => ?_, fun n => ?_, h.funding,
    fun huser hq hcovered => (h.returned huser hq hcovered).aside (haside id)⟩
  · exact (htask n t ht).elim .inl (h.task n t)
  · rw [update_of_ne (hsub n).symm]
    exact h.used n

lemma Taken.writeUser (h : Taken id row q s w) {u : ℕ} {x x' : User} (hx : w (.user u) = some x)
    (hpre : x.ledger <+: x'.ledger) : Taken id row q s (update w (.user u) (some x')) :=
  h.write (fun _ => .writeUser hx hpre) (fun _ _ ht => .inr ht) (by simp)

section

variable (hrow : s (.billing id) = some row) (hstate : row.state = .applying) (q)

include hrow hstate

lemma adjustDurableFundingTx_taken :
    Ensures (adjustDurableFundingTx (whyApply id) row (q - row.reservedQuota)) s fun _ w => Taken id row q s w := by
  have hsame : ∀ w : Snap schema, (∀ n, w (.task n) = s (.task n)) → ∀ n t, w (.task n) = some t →
      t.quota = q ∨ ∃ t', s (.task n) = some t' ∧ t'.quota = t.quota :=
    fun w hw n t ht => .inr ⟨t, (hw n).symm.trans ht, rfl⟩
  refine .ite (fun h0 => .pure ?_) fun h0 => ?_
  · exact ⟨fun _ => .refl s, hsame s fun _ => rfl, fun _ sub hsub => ⟨sub, hsub, .inl rfl⟩,
      fun _ hne => absurd (by omega) hne, fun _ _ _ => .inl (by omega)⟩
  cases hsource : row.fundingSource with
  | subscription =>
    refine (postConsumeUserSubscriptionDeltaTx_writes _ row.subscriptionID _ s).mono ?_
    rintro _ w ⟨hid, ⟨hzero, -⟩ | ⟨sub, hsub, rfl, hfits⟩⟩
    · exact absurd hzero h0
    refine ⟨fun _ => .writeSub hsub (prefix_append _ _) fun _ => hfits, hsame _ fun _ => rfl, fun n sub' hsub' => ?_,
      fun _ _ => ⟨hid, by rw [hsub]; rfl⟩, fun _ hq hcovered => .inr ?_⟩
    · by_cases hn : n = row.subscriptionID
      · subst hn
        rw [update_self] at hsub'
        cases hsub'
        exact ⟨sub, hsub, .inr ⟨hsource, rfl, le_max_right _ _⟩⟩
      · rw [update_of_ne (by simpa using hn)] at hsub'
        exact ⟨sub', hsub', .inl rfl⟩
    · have hle := hcovered.le_used hrow hstate hsource hsub
      have hamount : max 0 (sub.amountUsed + (q - row.reservedQuota)) - sub.amountUsed = -row.reservedQuota := by omega
      rw [hsource]
      refine ⟨_, update_self _ _ _, mem_append_right _ ?_⟩
      rw [hamount]
      exact mem_singleton.2 rfl
  | wallet =>
    refine (adjustUserQuotaTx_writes _ row.userID _ s).mono ?_
    rintro _ w (⟨hzero, rfl⟩ | ⟨-, x, hx, rfl⟩)
    · exact ⟨fun _ => .refl w, hsame w fun _ => rfl, fun _ sub hsub => ⟨sub, hsub, .inl rfl⟩,
        fun h => (nomatch hsource.symm.trans h), fun huser _ _ => absurd hzero (by omega)⟩
    refine ⟨fun _ => .writeUser hx (prefix_append _ _), hsame _ fun _ => rfl, fun _ sub hsub => ⟨sub, hsub, .inl rfl⟩,
      fun h => (nomatch hsource.symm.trans h), fun _ hq _ => .inr ?_⟩
    rw [hsource]
    refine ⟨_, update_self _ _ _, mem_append_right _ ?_⟩
    rw [hq, Int.zero_sub, Int.neg_neg]
    exact mem_singleton.2 rfl

end

lemma adjustDurableTokenTx_taken (h : Taken id row q s w) :
    Ensures (adjustDurableTokenTx (whyApply id) row (q - row.reservedQuota)) w fun _ w' => Taken id row q s w' ∧
      (row.skipTokenQuota = false → row.tokenID ≠ 0 → row.reservedQuota ≠ q → (s (.token row.tokenID)).isSome) := by
  unfold adjustDurableTokenTx adjustTokenUnless
  split
  · next hskip => exact .pure ⟨h, fun hnot => by simp [hskip] at hnot⟩
  · refine (adjustTokenQuotaTx_writes _ row.tokenID _ w).mono ?_
    rintro _ w' (⟨hzero, rfl⟩ | ⟨-, x, z, hx, rfl⟩)
    · exact ⟨h, fun _ hid hne => by omega⟩
    · refine ⟨h.write (fun _ => .writeToken hx) (fun _ _ ht => .inr ht) (by simp), fun _ _ _ => ?_⟩
      rw [← (h.aside id).token, hx]
      rfl

lemma adjustTaskUsageTx_taken (h : Taken id row q s w) (task : Task) :
    Ensures (adjustTaskUsageTx row task q) w fun _ w' => Taken id row q s w' := by
  refine .ite (fun _ => .bind (.mono (Q := fun _ w' => Taken id row q s w') ?_ fun _ w' h' => ?_)) fun _ => .pure h
  · refine .ite (fun _ => .pure h) fun _ => .bind (.row (fun _ => .pure h) fun v hv => .pure ?_)
    obtain ⟨x, hx, hxv⟩ := bind_eq_some_iff.1 hv
    simp only [map_some, Option.some.injEq] at hxv
    subst hxv
    exact h.writeUser hx (prefix_refl _)
  · refine .ite (fun _ => .pure h') fun _ => .bind (.row (fun _ => .pure h') fun v _ => .pure ?_)
    exact h'.write (fun _ => .other (k := .channelUsed _) v rfl) (fun _ _ ht => .inr ht) (by simp)

/-! ### The end of the application -/

/-- The keys under which only the row `id` is written. -/
def own (id : ℕ) : Key → Bool
  | .billing i => i = id
  | .outbox (.quotaCache i) => i = id
  | .outbox (.taskBilling i) => i = id
  | _ => false

/-- The application is through: the row is finished and its events are in the outbox. -/
structure Closed (id : ℕ) (row : BillingTransaction) (q : ℤ) (s w : Snap schema) : Prop where
  billing : ∃ now, w (.billing id) = some (finished row q now)
  other : ∃ m, Taken id row q s m ∧ ∀ k, own id k = false → w k = m k
  quotaCache : s (.outbox (.quotaCache id)) = none
  task : row.taskDBID ≠ 0 → (s (.task row.taskDBID)).isSome
  taskBilling : row.taskDBID ≠ 0 → (s (.task row.taskDBID)).any (fun task => !taskUsesPreAuthorization task) →
    s (.outbox (.taskBilling id)) = none

lemma createOutbox_writes (event : EventID) (row : ℕ) :
    Ensures (createOutbox event row) s fun _ w => s (.outbox event) = none ∧ ∃ v, w = update s (.outbox event) v := by
  refine .bind (.now fun now => .bind (.row (fun _ => ?_) fun v hv => ?_))
  · exact .guard fun h0 => absurd rfl h0
  · refine .guard fun _ => .pure ⟨?_, v, rfl⟩
    cases hnone : s (.outbox event) with
    | none => rfl
    | some x =>
      have hv' : ifAbsent _ (s (.outbox event)) = some v := hv
      rw [hnone] at hv'
      cases hv'

lemma enqueueTaskBillingOutbox_writes (row : BillingTransaction) (task : Task) :
    Ensures (enqueueTaskBillingOutbox id row task) s fun _ w =>
      (taskUsesPreAuthorization task = false → s (.outbox (.taskBilling id)) = none) ∧
        ∃ v, w = update s (.outbox (.taskBilling id)) v := by
  refine .ite (fun _ => ?_) fun hnot => .pure ⟨fun hpre => absurd (.inr (by simp [hpre])) hnot,
    s (.outbox (.taskBilling id)), (update_eq_self _ _).symm⟩
  exact (createOutbox_writes (.taskBilling id) id).mono fun _ _ h => ⟨fun _ => h.1, h.2⟩

lemma createOutbox_quotaCache_closed {m : Snap schema} (hm : Taken id row q s m) {now : ℤ}
    (hrow : w (.billing id) = some (finished row q now)) (hother : ∀ k, own id k = false → w k = m k)
    (hcache : w (.outbox (.quotaCache id)) = m (.outbox (.quotaCache id)))
    (htask : row.taskDBID ≠ 0 → (s (.task row.taskDBID)).isSome)
    (hlog : row.taskDBID ≠ 0 → (s (.task row.taskDBID)).any (fun task => !taskUsesPreAuthorization task) →
      s (.outbox (.taskBilling id)) = none) :
    Ensures (enqueueQuotaCacheOutbox id) w fun _ w' => Closed id row q s w' := by
  refine (createOutbox_writes (.quotaCache id) id).mono ?_
  rintro _ _ ⟨hfree, v, rfl⟩
  refine ⟨⟨now, hrow⟩, ⟨m, hm, fun k hk => ?_⟩, ?_, htask, hlog⟩
  · rw [update_of_ne (by rintro rfl; simp [own] at hk)]
    exact hother k hk
  · rw [← (hm.aside id).quotaCache, ← hcache]
    exact hfree

lemma update_of_own {m : Snap schema} {k : Key} (hk : own id k = true) (v : Val k) {k' : Key} (hk' : own id k' = false) :
    update m k v k' = m k' := by
  refine update_of_ne ?_ _ _
  rintro rfl
  rw [hk] at hk'
  cases hk'

section closing

variable (h : Taken id row q s w) (hrow : s (.billing id) = some row) (hstate : row.state = .applying)

include h hrow hstate

lemma applyBoundTaskBilling_closed : Ensures (applyBoundTaskBilling id row q) w fun _ w' => Closed id row q s w' := by
  refine .bind (.select ?_)
  cases htask : w (.task row.taskDBID) with
  | none => exact .fail _
  | some task =>
  have hfound : (s (.task row.taskDBID)).isSome := by
    rw [← (h.aside id).task_isSome, htask]
    rfl
  have hany : (s (.task row.taskDBID)).any (fun task => !taskUsesPreAuthorization task) = !taskUsesPreAuthorization task := by
    rw [← (h.aside id).task_any, htask]
    rfl
  refine .bind ((adjustTaskUsageTx_taken h task).mono fun _ w₁ h₁ => .bind (.now fun now => ?_))
  refine .bind (.mono (Q := fun _ m => Taken id row q s m) (.row (fun _ => h₁) fun v hv => ?_) fun _ m hm => ?_)
  · obtain ⟨x, y, hx, ⟨⟩, rfl⟩ := onRow_eq_some.1 hv
    have hdata := ((h₁.aside id).task row.taskDBID).trans ((h.aside id).task row.taskDBID).symm
    rw [hx, htask] at hdata
    refine h₁.write (fun _ => .writeTask hx (Option.some.inj hdata).symm) (fun n t ht => ?_) (by simp)
    by_cases hn : n = row.taskDBID
    · subst hn
      rw [update_self] at ht
      cases ht
      exact .inl rfl
    · rw [update_of_ne (by simpa using hn)] at ht
      exact .inr ht
  refine .bind (.row_of (finishRow_eq ((hm.aside id).billing.trans hrow) hstate q now) ?_)
  have hother : ∀ k, own id k = false → update m (.billing id) (some (finished row q now)) k = m k := fun k =>
    update_of_own (by simp [own]) _
  refine .ite (fun hpre => ?_) fun hpre => .bind ((enqueueTaskBillingOutbox_writes row task).mono ?_)
  · refine createOutbox_quotaCache_closed hm (update_self _ _ _) hother rfl (fun _ => hfound) fun _ hplain => ?_
    rw [hany, hpre.1] at hplain
    cases hplain
  · rintro _ _ ⟨hlog, v, rfl⟩
    refine createOutbox_quotaCache_closed hm (update_self _ _ _) (fun k hk => ?_) rfl (fun _ => hfound) fun _ hplain => ?_
    · rw [update_of_own (by simp [own]) _ hk]
      exact hother k hk
    · rw [← (hm.aside id).taskBilling]
      exact hlog (by simpa [hany] using hplain)

end closing

section closed

variable (h : Closed id row q s w)

include h

lemma Closed.aside {i : ℕ} (hi : id ≠ i) : Aside i s w := by
  obtain ⟨m, hm, hother⟩ := h.other
  refine (hm.aside i).trans (.of_eq fun k hk => hother k ?_)
  cases k with
  | billing j => simpa [own, (of_decide_eq_true hk : j = i)] using hi.symm
  | outbox event =>
    cases event with
    | quotaCache j | taskBilling j => simpa [own, (of_decide_eq_true hk : j = i)] using hi.symm
  | _ => rfl

lemma Closed.returned (huser : row.userID ≠ 0) (hq : q = 0) (hcovered : Covered (source row) s) : Returned id row w := by
  obtain ⟨m, hm, hother⟩ := h.other
  refine (hm.returned huser hq hcovered).mono (fun u x hx => ⟨x, ?_, prefix_refl _⟩) fun n x hx => ⟨x, ?_, prefix_refl _⟩
  · rw [hother _ rfl, hx]
  · rw [hother _ rfl, hx]

/-- What the other rows hold on the subscription is covered with row `id` before, and without it now. -/
lemma Closed.covered (hrow : s (.billing id) = some row) (hstate : row.state = .applying) (hq : 0 ≤ q) {paid : Option ℕ}
    (hs : Covered paid s) : Covered paid w := by
  obtain ⟨now, hfinished⟩ := h.billing
  obtain ⟨m, hm, hother⟩ := h.other
  have hrest : ∀ j, j ≠ id → w (.billing j) = s (.billing j) := fun j hj =>
    (hother _ (by simpa [own] using hj)).trans (hm.aside j).billing
  refine ⟨fun j y hy => ?_, fun j t ht => ?_, fun n hn sub' hsub' rows => ?_⟩
  · by_cases hj : j = id
    · subst hj
      cases hfinished.symm.trans hy
      exact ⟨(hs.billing j row hrow).1, hq⟩
    · rw [hrest j hj] at hy
      exact hs.billing j y hy
  · rw [hother _ rfl] at ht
    rcases hm.task j t ht with rfl | ⟨t', ht', heq⟩
    · exact hq
    · exact heq ▸ hs.task j t' ht'
  · rw [hother _ rfl] at hsub'
    obtain ⟨sub, hsub, hused⟩ := hm.used n sub' hsub'
    have hdone : held n w id = 0 := by
      rw [held_of_some hfinished, heldOn, if_neg]
      rintro ⟨-, -, hlive⟩
      unfold finished finalState at hlive
      split at hlive <;> simp at hlive
    have hsum : ∑ j ∈ rows, held n w j ≤ ∑ j ∈ rows.erase id, held n s j := by
      rw [← Finset.sum_erase rows hdone]
      refine Finset.sum_le_sum fun j hj => ?_
      rw [held, hrest j (Finset.ne_of_mem_erase hj), held]
    have hall := hs.used n hn sub hsub (insert id (rows.erase id))
    rw [Finset.sum_insert (Finset.notMem_erase id rows)] at hall
    rcases hused with hsame | ⟨hsource, rfl, hcharged⟩
    · have hheld := hs.held_nonneg n id
      omega
    · rw [held_of_some hrow, heldOn, if_pos ⟨hsource, rfl, by simp [hstate]⟩] at hall
      omega

end closed

/-! ### The transaction -/

/-- **What an application that succeeds** has found and done. -/
structure Applied (id : ℕ) (row : BillingTransaction) (s w : Snap schema) : Prop where
  state : row.state = .applying
  closed : Closed id row (charged row) s w
  refundable : row.targetTaskStatus = .failure → Refundable id row s

lemma Applied.covered {paid : Option ℕ} (h : Applied id row s w) (hrow : s (.billing id) = some row) (hs : Covered paid s) :
    Covered paid w := by
  refine h.closed.covered hrow h.state ?_ hs
  unfold charged
  split
  · exact le_rfl
  · exact (hs.billing id row hrow).2

lemma applyDurableTaskBillingTx_applied :
    Ensures (applyDurableTaskBillingTx id) s fun _ w => ∃ row, s (.billing id) = some row ∧ Applied id row s w := by
  refine .bind (.select ?_)
  cases hrow : s (.billing id) with
  | none => exact .fail _
  | some row =>
  refine .guard fun hstate => ?_
  have hstate' : row.state = .applying := not_not.1 hstate
  refine .bind ((adjustDurableFundingTx_taken (charged row) hrow hstate').mono fun _ w hw => ?_)
  refine .bind ((adjustDurableTokenTx_taken hw).mono ?_)
  rintro _ w₁ ⟨hw₁, htoken⟩
  refine .mono (Q := fun _ w => Closed id row (charged row) s w) ?_ fun _ w₂ hclosed =>
    ⟨row, rfl, hstate', hclosed, fun htarget => ?_⟩
  · refine .ite (fun hunbound => .guard fun htarget => .bind (.now fun now => ?_)) fun _ =>
      applyBoundTaskBilling_closed hw₁ hrow hstate'
    have hfinal : finalState row = .refunded := if_pos (not_not.1 htarget)
    have hcharged : charged row = 0 := if_pos (not_not.1 htarget)
    rw [hcharged] at hw₁ ⊢
    rw [← hfinal]
    refine .bind (.row_of (finishRow_eq ((hw₁.aside id).billing.trans hrow) hstate' 0 now) ?_)
    exact createOutbox_quotaCache_closed hw₁ (update_self _ _ _) (fun k => update_of_own (by simp [own]) _) rfl
      (fun h => absurd hunbound h) fun h => absurd hunbound h
  · have hcharged : charged row = 0 := if_pos htarget
    rw [hcharged] at hw htoken
    exact ⟨htarget, hw.funding, htoken, hclosed.task, hclosed.quotaCache, hclosed.taskBilling⟩

/-! ### Undisturbed, the refund succeeds -/

section succeeds

variable {z : ℤ}

lemma adjustDurableFundingTx_succeeds (h : Refundable id row s) (hpos : 0 ≤ row.reservedQuota) (huser : row.userID ≠ 0)
    (hexists : (s (.user row.userID)).isSome) (hfits : ∀ sub, s (.subscription row.subscriptionID) = some sub → Fits sub) :
    Succeeds z (adjustDurableFundingTx (whyApply id) row (0 - row.reservedQuota)) s fun _ _ => True := by
  unfold adjustDurableFundingTx
  split
  · exact .pure trivial
  next h0 =>
  cases hsource : row.fundingSource with
  | subscription =>
    obtain ⟨hid, hsub⟩ := h.funding hsource (by omega)
    obtain ⟨sub, hsub⟩ := isSome_iff_exists.1 hsub
    refine postConsumeUserSubscriptionDeltaTx_succeeds hid h0 hsub fun htotal => ?_
    have hle := hfits sub hsub htotal
    omega
  | wallet =>
    obtain ⟨x, hx⟩ := isSome_iff_exists.1 hexists
    unfold adjustUserQuotaTx
    rw [if_neg (by omega)]
    refine .bind (succeeds_balanceRow (v := some (x.add (whyApply id s) (-(0 - row.reservedQuota)))) ?_ ?_)
    · rw [hx]
      simp only [onRow, User.adjust, bind_some]
      rw [if_neg (by omega), map_some]
    · exact .pure trivial

lemma adjustDurableTokenTx_succeeds (h : Refundable id row s) (hpos : 0 ≤ row.reservedQuota) :
    Succeeds z (adjustDurableTokenTx (whyApply id) row (0 - row.reservedQuota)) s fun _ _ => True := by
  unfold adjustDurableTokenTx adjustTokenUnless
  split
  · exact .pure trivial
  next hskip =>
  unfold adjustTokenQuotaTx
  split
  · exact .pure trivial
  obtain ⟨x, hx⟩ := isSome_iff_exists.1 (h.token (by simpa using hskip) (by omega) (by omega))
  refine .bind (.now ?_)
  refine .bind (succeeds_balanceRow (v := some (x.add (whyApply id s) (-(0 - row.reservedQuota)) z)) ?_ ?_)
  · rw [hx]
    simp only [onRow, Token.adjust, bind_some]
    rw [if_neg (by omega), map_some]
  · exact .pure trivial

lemma createOutbox_succeeds {event : EventID} (hfree : s (.outbox event) = none) (i : ℕ) :
    Succeeds z (createOutbox event i) s fun _ _ => True := by
  refine .bind (.now (.bind (.row (v := some ⟨i, z⟩) ?_ ?_)))
  · rw [hfree]
    rfl
  · exact .pure trivial

section

variable (hrow : s (.billing id) = some row) (hstate : row.state = .applying) (h : Refundable id row s)

include hrow hstate h

lemma applyBoundTaskBilling_succeeds (hbound : row.taskDBID ≠ 0) :
    Succeeds z (applyBoundTaskBilling id row 0) s fun _ _ => True := by
  obtain ⟨task, htask⟩ := isSome_iff_exists.1 (h.task hbound)
  have htarget := h.target
  refine .bind (.select ?_)
  rw [htask]
  dsimp only
  have husage : adjustTaskUsageTx row task 0 = pure () := by
    rw [adjustTaskUsageTx, if_neg (by simp [htarget])]
  rw [husage]
  refine .bind (.pure (.bind (.now (.bind ?_))))
  refine .row (by rw [htask]; rfl) (.bind ?_)
  generalize hv : (some _ : Option Task) = v
  have hrow₁ : update s (.task row.taskDBID) v (.billing id) = some row := by
    rw [update_of_ne (by simp), hrow]
  refine .row (finishRow_eq hrow₁ hstate 0 z) ?_
  split
  · exact createOutbox_succeeds (by exact h.quotaCache) id
  next hpre =>
  have hplain : taskUsesPreAuthorization task = false := by
    simpa [htarget] using hpre
  have hlog : s (.outbox (.taskBilling id)) = none := h.taskBilling hbound (by simp [htask, hplain])
  unfold enqueueTaskBillingOutbox
  rw [if_pos (.inr (by simp [hplain]))]
  refine .bind (((createOutbox_succeeds (by exact hlog) id).ensures (createOutbox_writes _ id)).mono ?_)
  rintro _ _ ⟨-, -, v', rfl⟩
  exact createOutbox_succeeds (by exact h.quotaCache) id

/-- **The refund goes through** if everything is there. -/
lemma applyDurableTaskBillingTx_succeeds (hpos : 0 ≤ row.reservedQuota) (huser : row.userID ≠ 0)
    (hexists : (s (.user row.userID)).isSome) (hfits : ∀ sub, s (.subscription row.subscriptionID) = some sub → Fits sub) :
    Succeeds z (applyDurableTaskBillingTx id) s fun _ _ => True := by
  have htarget := h.target
  refine .bind (.select ?_)
  rw [hrow]
  dsimp only
  rw [if_neg (by simp [hstate]), if_pos htarget]
  refine .bind (((adjustDurableFundingTx_succeeds h hpos huser hexists hfits).ensures
    (adjustDurableFundingTx_taken 0 hrow hstate)).mono ?_)
  rintro _ w ⟨-, hw⟩
  have h' := (Refundable.aside_iff (hw.aside id)).2 h
  refine .bind (((adjustDurableTokenTx_succeeds h' hpos).ensures (adjustDurableTokenTx_taken hw)).mono ?_)
  rintro _ w₁ ⟨-, hw₁, -⟩
  have h'' := (Refundable.aside_iff (hw₁.aside id)).2 h
  have hrow₁ : w₁ (.billing id) = some row := (hw₁.aside id).billing.trans hrow
  split
  · rw [if_neg (by simp [htarget])]
    have hfinal : finalState row = .refunded := if_pos htarget
    rw [← hfinal]
    refine .bind (.now (.bind (.row (finishRow_eq hrow₁ hstate 0 z) ?_)))
    exact createOutbox_succeeds (by exact h''.quotaCache) id
  · next hbound => exact applyBoundTaskBilling_succeeds hrow₁ hstate h'' hbound

end

end succeeds

end StarNexus.Refund
