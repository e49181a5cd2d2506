import StarNexus.Ledger.ApplyOnce
import StarNexus.Ledger.Bodies

/-!
# Coordinators apply at most once

The functions that a coordinator calls follow the protocol `applyOnce`, so that no interleaving of any number of
coordinators commits the application of a billing transaction twice.
-/

namespace StarNexus.Ledger.ApplyOnce

open Lib Lib.Protocol Lib.Tx Model Service

section code

variable {i : ℕ} {g : Phase} {α β : Type}

lemma Phase.forget (hg : g.sub = none) : { g with sub := none } = g := by
  obtain ⟨f, t, k, s⟩ := g
  subst hg
  rfl

lemma goes_nothing (hg : g.sub = none) (ℓ : Label) (s : Snap schema) : Goes i g (.update ℓ s []) g := by
  have hgo : Goes i g (.update ℓ s []) { g with sub := none } := .neutral g ℓ s [] fun _ _ h => nomatch h
  rwa [Phase.forget hg] at hgo

lemma body_updateRow {k : Key} {f : Val k → Option (Val k)} (hg : g.sub = none) (hk : k ≠ outboxKey i)
    (hf : ∀ x v, f x = some v → applies i k v = applies i k x) :
    (applyOnce i).Body (updateRow k f) (fun _ g' => g' = g) g := by
  refine .row (fun s _ _ => ⟨g, goes_nothing hg _ s, rfl⟩)
    fun s v _ hv => ⟨_, .neutral _ _ _ _ (neutral_one hk (hf _ _ hv)), Phase.forget hg⟩

structure Posts (i : ℕ) (c : Cause) (g g' : Phase) : Prop where
  sub : g'.sub = none
  key : g'.key = g.key
  other : c ≠ .durable .apply i → g'.fund = g.fund ∧ g'.token = g.token

lemma goes_fund (hg : g.fund = none) {ℓ : Label} {s : Snap schema} (a : FundKey) {v : Val a.key} {c : Cause}
    (hv : applies i a.key v = applies i a.key (s a.key) + if c = .durable .apply i then 1 else 0) :
    ∃ g', Goes i g (.update ℓ s [⟨a.key, v⟩]) g' ∧ Posts i c g g' ∧ g'.token = g.token := by
  by_cases hc : c = .durable .apply i
  · rw [if_pos hc] at hv
    exact ⟨_, .fund _ _ _ a v hg hv, ⟨rfl, rfl, fun hne => absurd hc hne⟩, rfl⟩
  · rw [if_neg hc] at hv
    have hne : a.key ≠ outboxKey i := by cases a <;> simp [FundKey.key]
    exact ⟨_, .neutral _ _ _ _ (neutral_one hne hv), ⟨rfl, rfl, fun _ => ⟨rfl, rfl⟩⟩, rfl⟩

lemma Posts.refl (hg : g.sub = none) (c : Cause) : Posts i c g g := ⟨hg, rfl, fun _ => ⟨rfl, rfl⟩⟩

section

variable (hs : g.sub = none)

include hs

lemma user_body (hg : g.fund = none) (c : Cause) (u : ℕ) (delta : ℤ) :
    (applyOnce i).Body (adjustUserQuotaTx (fun _ => c) u delta)
      (fun _ g' => Posts i c g g' ∧ g'.token = g.token) g := by
  refine adjustUserQuotaTx_body (fun _ => ⟨.refl hs c, rfl⟩) (fun s => ⟨g, goes_nothing hs _ s⟩) fun s x hx => ?_
  have hcount : applies i (.user u) (some (x.add c delta)) =
      applies i (.user u) (s (.user u)) + if c = .durable .apply i then 1 else 0 := by
    rw [hx, applies_user_add]
  exact goes_fund hg (.user u) hcount

lemma token_body (hg : g.token = none) (c : Cause) (n : ℕ) (delta : ℤ) :
    (applyOnce i).Body (adjustTokenQuotaTx (fun _ => c) n delta) (fun _ g' => Posts i c g g') g := by
  refine adjustTokenQuotaTx_body (fun _ => .refl hs c) (fun s => ⟨g, goes_nothing hs _ s⟩) fun s x z hx => ?_
  have hcount : applies i (.token n) (some (x.add c delta z)) =
      applies i (.token n) (s (.token n)) + if c = .durable .apply i then 1 else 0 := by
    rw [hx, applies_token_add]
  by_cases hc : c = .durable .apply i
  · rw [if_pos hc] at hcount
    exact ⟨_, .token _ _ _ n _ hg hs hcount, hs, rfl, fun hne => absurd hc hne⟩
  · rw [if_neg hc] at hcount
    refine ⟨_, .neutral _ _ _ _ (neutral_one (by simp) hcount), rfl, rfl, fun _ => ⟨rfl, rfl⟩⟩

lemma subscription_body (hg : g.fund = none) (c : Cause) (n : ℕ) (delta : ℤ) :
    (applyOnce i).Body (postConsumeUserSubscriptionDeltaTx (fun _ => c) n delta)
      (fun _ g' => Posts i c g g' ∧ g'.token = g.token) g := by
  refine postConsumeUserSubscriptionDeltaTx_body (fun v => { g with sub := some _ }) ⟨.refl hs c, rfl⟩
    (fun s => .lock _ _ s n) (fun v s hs => ⟨hs n v rfl, .read _ _ s⟩) (fun v s _ hs => hs n v rfl) fun s sub hsub => ?_
  have hcount := applies_subscription_setUsed i c (max 0 (sub.amountUsed + delta)) n sub
  rw [← hsub] at hcount
  obtain ⟨g', hgo, hposts⟩ := goes_fund (g := { g with sub := some (n, some sub) }) hg (.subscription n) hcount
  exact ⟨g', hgo, ⟨hposts.1.sub, hposts.1.key, hposts.1.other⟩, hposts.2⟩

lemma adjustDurableFundingTx_body (hg : g.fund = none) (c : Cause) (row : BillingTransaction) (delta : ℤ) :
    (applyOnce i).Body (adjustDurableFundingTx (fun _ => c) row delta)
      (fun _ g' => Posts i c g g' ∧ g'.token = g.token) g := by
  refine .ite (fun _ => .pure ⟨.refl hs c, rfl⟩) fun _ => ?_
  split
  · exact subscription_body hs hg c _ _
  · exact user_body hs hg c _ _

lemma adjustDurableTokenTx_body (hg : g.token = none) (c : Cause) (row : BillingTransaction)
    (delta : ℤ) : (applyOnce i).Body (adjustDurableTokenTx (fun _ => c) row delta) (fun _ g' => Posts i c g g') g :=
  .ite (fun _ => .pure (.refl hs c)) fun _ => token_body hs hg c _ _

lemma outbox_body (event : EventID) (row : ℕ) : (applyOnce i).Body (createOutbox event row)
      (fun _ g' => g' = if event = .quotaCache i then { g with key := true } else g) g := by
  refine createOutbox_body (fun s => ⟨g, goes_nothing hs _ s⟩) fun s x hnone => ?_
  by_cases he : event = .quotaCache i
  · subst he
    exact ⟨_, .key _ _ _ _ hs hnone, (if_pos rfl).symm⟩
  · refine ⟨_, .neutral _ _ _ _ (neutral_one (by simpa using he) rfl), ?_⟩
    rw [if_neg he, Phase.forget hs]

lemma usage_body (row : BillingTransaction) (task : Task) (q : ℤ) :
    (applyOnce i).Body (adjustTaskUsageTx row task q) (fun _ g' => g' = g) g := by
  have hone : ∀ (s : Snap schema) (k : Key) (v : Val k), k ≠ outboxKey i → applies i k v = applies i k (s k) →
      Goes i g (.update .plain s [⟨k, v⟩]) g := by
    intro s k v hk hv
    have hgo : Goes i g (.update .plain s [⟨k, v⟩]) { g with sub := none } := .neutral _ _ _ _ (neutral_one hk hv)
    rwa [Phase.forget hs] at hgo
  refine adjustTaskUsageTx_body row task q (fun s => goes_nothing hs _ s) (fun s x x' hx hledger => ?_) fun s v => ?_
  · refine hone s _ _ (by simp) ?_
    rw [hx]
    simp [applies, ledgerOf, hledger]
  · exact hone s _ _ (by simp) rfl

end

/-- A transaction that may be committed: nothing was posted for `i`, or the outbox row was inserted. -/
def Committable (g : Phase) : Prop := g.key = true ∨ g.fund = none ∧ g.token = none

lemma enqueueQuotaCacheOutbox_body (hs : g.sub = none) {id : ℕ} (hg : id ≠ i → g.fund = none ∧ g.token = none) :
    (applyOnce i).Body (enqueueQuotaCacheOutbox id) (fun _ g' => Committable g') g := by
  refine (outbox_body hs (.quotaCache id) id).mono ?_
  rintro _ _ rfl
  by_cases hid : id = i
  · simp [hid, Committable]
  · simp only [EventID.quotaCache.injEq, hid]
    exact .inr (hg hid)

lemma applyBoundTaskBilling_body (hs : g.sub = none) {id : ℕ} (hg : id ≠ i → g.fund = none ∧ g.token = none)
    (row : BillingTransaction) (q : ℤ) :
    (applyOnce i).Body (applyBoundTaskBilling id row q) (fun _ g' => Committable g') g := by
  refine Ledger.applyBoundTaskBilling_body (.read _ _) (fun task => usage_body hs row task q)
    (fun _ _ _ => body_updateRow hs (by simp) fun _ _ _ => rfl) (fun _ _ => body_updateRow hs (by simp) fun _ _ _ => rfl) ?_
    (enqueueQuotaCacheOutbox_body hs hg)
  exact outbox_body hs (.taskBilling id) id

lemma applyDurableTaskBilling_follows (i id : ℕ) :
    (applyOnce i).Follows (applyDurableTaskBilling id) (fun _ g => g = {}) {} := by
  refine .ofBody rfl (.start _) ?_
    (fun g' _ => ⟨_, .rollback g', rfl⟩) fun _ g' hg' _ => ⟨_, .commit g' hg', rfl⟩
  refine .bind (.select fun s _ => ⟨_, .read _ _ s, ?_⟩)
  split
  · exact .fail _
  next row _ =>
  refine .ite (fun _ => .fail _) fun _ => .bind ?_
  refine (adjustDurableFundingTx_body rfl rfl _ row _).mono ?_
  rintro _ g₁ ⟨h₁, htok⟩
  refine .bind ((adjustDurableTokenTx_body h₁.sub htok _ row _).mono ?_)
  intro _ g₂ h₂
  have hother : id ≠ i → g₂.fund = none ∧ g₂.token = none := by
    intro hne
    have hc : Cause.durable .apply id ≠ .durable .apply i := by simpa using hne
    obtain ⟨hf₁, ht₁⟩ := h₁.other hc
    obtain ⟨hf₂, ht₂⟩ := h₂.other hc
    exact ⟨hf₂.trans hf₁, ht₂.trans ht₁⟩
  refine .ite (fun _ => .ite (fun _ => .fail _) fun _ => ?_) fun _ => ?_
  · refine .bind (.now fun z => .bind ?_)
    refine (body_updateRow h₂.sub (by simp) fun _ _ _ => rfl).mono ?_
    rintro _ _ rfl
    exact enqueueQuotaCacheOutbox_body h₂.sub hother
  · exact applyBoundTaskBilling_body h₂.sub hother row _

lemma coordinates (i : ℕ) : Coordinates (applyOnce i) fun _ => True where
  read _ := .read _ _ _
  log _ := .emit _ _
  tasks _ _ _ _ _ := trivial
  mark s ws _ hws := by
    refine .auto _ _ _ _ fun k v hkv => ?_
    obtain ⟨j, row, row', -, -, heq⟩ := hws _ hkv
    obtain ⟨rfl, -⟩ := Sigma.mk.inj heq
    exact ⟨by simp, rfl⟩
  apply := applyDurableTaskBilling_follows i

end code

/-! ### All interleavings -/

/-- What a coordinator runs: a pass over the due billing transactions, or the application of one of them. -/
inductive Coordinator : Prog schema Unit → Prop
  | pass (owner : String) (limit : ℕ) : Coordinator (discard (processDurableBillingOnce owner limit))
  | apply (id : ℕ) : Coordinator (discard (applyDurableTaskBilling id))

lemma Coordinator.follows (i : ℕ) {p : Prog schema Unit} (h : Coordinator p) :
    (applyOnce i).Follows p (fun _ g => (applyOnce i).stops g) (applyOnce i).idle := by
  cases h with
  | pass owner limit => exact .discard (processDurableBillingOnce_stays (coordinates i) owner limit)
  | apply id => exact .discard (applyDurableTaskBilling_follows i id)

lemma inv_of_run {T : Type} [DecidableEq T] {i : ℕ} {r : Snap schema} {z : ℤ} {acts : List (Act schema T)} {σ : Sys schema T}
    (hr : ∀ k, applies i k (r k) = 0)
    (hcalls : Along Sys.step (Sys.Calls fun _ p => Coordinator p) (Sys.rest r z) acts)
    (hrun : runs Sys.step (Sys.rest r z) acts = some σ) : ∃ γ, Inv i σ.db γ := by
  have hinit : Inv i (.rest r z : Db schema T) fun _ => {} := by
    refine ⟨?_, .rest r z, nofun, .of_posted {} fun k => ?_, fun _ => hr⟩
    · have hidle : Phase.posted ∘ (fun _ : T => ({} : Phase)) = fun _ => 0 := funext fun _ => Phase.posted_idle
      rw [hidle]
      exact .rest r z
    · rw [Phase.posted_idle]
      exact hr k
  exact Protocol.run_inv (applyOnce_keeps i) (fun _ _ hp => hp.follows i) hinit (Protocol.performs_of_calls hcalls) hrun

/-- **At most once**, with any clock, failing statements and dying clients. -/
theorem applied_at_most_once {T : Type} [DecidableEq T] (i : ℕ) (r : Snap schema) (z : ℤ)
    (hr : ∀ k, applies i k (r k) = 0) (acts : List (Act schema T)) (σ : Sys schema T)
    (hcalls : Along Sys.step (Sys.Calls fun _ p => Coordinator p) (Sys.rest r z) acts)
    (hrun : runs Sys.step (Sys.rest r z) acts = some σ) : AppliedOnce i σ.db.rows := by
  obtain ⟨γ, hinv⟩ := inv_of_run hr hcalls hrun
  exact hinv.once

/-- **No money without its outbox row**, which drops the cached balances. -/
theorem applied_with_outbox {T : Type} [DecidableEq T] (i : ℕ) (r : Snap schema) (z : ℤ)
    (hr : ∀ k, applies i k (r k) = 0) (acts : List (Act schema T)) (σ : Sys schema T)
    (hcalls : Along Sys.step (Sys.Calls fun _ p => Coordinator p) (Sys.rest r z) acts)
    (hrun : runs Sys.step (Sys.rest r z) acts = some σ) :
    (∀ k, applies i k (σ.db.rows k) = 0) ∨ (σ.db.rows (.outbox (.quotaCache i))).isSome := by
  obtain ⟨γ, hinv⟩ := inv_of_run hr hcalls hrun
  cases hrow : σ.db.rows (.outbox (.quotaCache i)) with
  | none => exact .inl (hinv.unused hrow)
  | some => exact .inr rfl

def refundPendingRows : Snap schema
  | .user u => if u = 1 then some { quota := 900 } else none
  | .token n => if n = 1 then some { remainQuota := 900 } else none
  | .billing n =>
    if n = 1 then
      some { businessKey := "request:r", userID := 1, tokenID := 1, skipTokenQuota := false, fundingSource := .wallet,
             reservedQuota := 100, finalQuota := 0, targetTaskStatus := .failure, state := .refundPending,
             updatedAt := 0 }
    else none
  | .billingSeq => (2 : ℕ)
  | k => noRows k

/-- The lease of the first coordinator expires after it has read the row, and the second one applies the row. -/
def stolenLease : List (Act schema Bool) :=
  [.call false (discard (processDurableBillingOnce "a" 0))] ++ List.replicate 9 (.step false) ++
    [.tick 100, .call true (discard (processDurableBillingOnce "b" 0))] ++ List.replicate 17 (.step true) ++
    List.replicate 11 (.step false)

lemma stolenLease_runs : (runs Sys.step (Sys.rest refundPendingRows 10) stolenLease).isSome := by decide +kernel

lemma stolenLease_calls :
    Along Sys.step (Sys.Calls fun _ p => Coordinator p) (.rest refundPendingRows 10) stolenLease := by
  refine .of_forall (fun _ => ?_) _
  simp [stolenLease, Sys.Calls, or_imp, forall_and, Coordinator.pass]

lemma refundPendingRows_unapplied : ∀ k, applies 1 k (refundPendingRows k) = 0 := by
  intro k
  cases k with
  | user u => by_cases hu : u = 1 <;> simp [applies, ledgerOf, refundPendingRows, hu]
  | token n => by_cases hn : n = 1 <;> simp [applies, ledgerOf, refundPendingRows, hn]
  | _ => rfl

theorem applied_at_most_once_stolenLease :
    ∃ σ, runs Sys.step (Sys.rest refundPendingRows 10) stolenLease = some σ ∧ AppliedOnce 1 σ.db.rows ∧
      applies 1 (.user 1) (σ.db.rows (.user 1)) = 1 ∧ applies 1 (.token 1) (σ.db.rows (.token 1)) = 1 := by
  have hrun := (Option.some_get stolenLease_runs).symm
  exact ⟨_, hrun, applied_at_most_once 1 _ 10 refundPendingRows_unapplied _ _ stolenLease_calls hrun, by decide +kernel,
    by decide +kernel⟩

theorem applied_with_outbox_stolenLease :
    ∃ σ, runs Sys.step (Sys.rest refundPendingRows 10) stolenLease = some σ ∧
      applies 1 (.user 1) (σ.db.rows (.user 1)) = 1 ∧ (σ.db.rows (.outbox (.quotaCache 1))).isSome := by
  have hrun := (Option.some_get stolenLease_runs).symm
  have happlied : applies 1 (.user 1) (((runs _ _ _).get stolenLease_runs).db.rows (.user 1)) = 1 := by decide +kernel
  refine ⟨_, hrun, happlied,
    (applied_with_outbox 1 _ 10 refundPendingRows_unapplied _ _ stolenLease_calls hrun).resolve_left fun h => ?_⟩
  rw [h] at happlied
  cases happlied

end StarNexus.Ledger.ApplyOnce
