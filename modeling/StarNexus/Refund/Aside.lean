import StarNexus.Ledger.Writes

/-!
# What the coordinator does besides a billing transaction

While the coordinator works on other rows of `billing_transactions`, the row `id` stays as it is; users, tokens,
subscriptions and tasks neither appear nor disappear, ledgers only grow, and nothing is put into the outbox for the row
(`Aside`).
-/

namespace StarNexus.Refund

open Lib Lib.Tx Model Service Ledger Option
open Function (update update_of_ne update_self)

def Fits (sub : UserSubscription) : Prop := 0 < sub.amountTotal → sub.amountUsed ≤ sub.amountTotal

/-- The rows `s` become `s'`, and the billing transaction `id` is not concerned. -/
structure Aside (id : ℕ) (s s' : Snap schema) : Prop where
  billing : s' (.billing id) = s (.billing id)
  user : ∀ u x, s (.user u) = some x → ∃ x', s' (.user u) = some x' ∧ x.ledger <+: x'.ledger
  token : ∀ n, (s' (.token n)).isSome = (s (.token n)).isSome
  noSub : ∀ n, s (.subscription n) = none → s' (.subscription n) = none
  sub : ∀ n x, s (.subscription n) = some x → ∃ x', s' (.subscription n) = some x' ∧ x.ledger <+: x'.ledger ∧
    (Fits x → Fits x')
  task : ∀ n, (s' (.task n)).map Task.privateData = (s (.task n)).map Task.privateData
  quotaCache : s' (.outbox (.quotaCache id)) = s (.outbox (.quotaCache id))
  taskBilling : s' (.outbox (.taskBilling id)) = s (.outbox (.taskBilling id))
  seq : s' .billingSeq = s .billingSeq

variable {id : ℕ} {s s' s'' w : Snap schema}

lemma Aside.trans (h : Aside id s s') (h' : Aside id s' s'') : Aside id s s'' := by
  refine ⟨h'.billing.trans h.billing, fun u x hx => ?_, fun n => (h'.token n).trans (h.token n),
    fun n hn => h'.noSub n (h.noSub n hn), fun n x hx => ?_, fun n => (h'.task n).trans (h.task n),
    h'.quotaCache.trans h.quotaCache, h'.taskBilling.trans h.taskBilling, h'.seq.trans h.seq⟩
  · obtain ⟨x', hx', hpre⟩ := h.user u x hx
    obtain ⟨x'', hx'', hpre'⟩ := h'.user u x' hx'
    exact ⟨x'', hx'', hpre.trans hpre'⟩
  · obtain ⟨x', hx', hpre, hfits⟩ := h.sub n x hx
    obtain ⟨x'', hx'', hpre', hfits'⟩ := h'.sub n x' hx'
    exact ⟨x'', hx'', hpre.trans hpre', fun hx => hfits' (hfits hx)⟩

/-! ### One row is written -/

def concerns (id : ℕ) : Key → Bool
  | .user _ | .token _ | .subscription _ | .task _ | .billingSeq => true
  | .billing i => i = id
  | .outbox (.quotaCache i) => i = id
  | .outbox (.taskBilling i) => i = id
  | _ => false

def RowAside (id : ℕ) : (k : Key) → Val k → Val k → Prop
  | .user _, x, x' => ∀ y, x = some y → ∃ y', x' = some y' ∧ y.ledger <+: y'.ledger
  | .token _, x, x' => x'.isSome = x.isSome
  | .subscription _, x, x' =>
    (x = none → x' = none) ∧ ∀ y, x = some y → ∃ y', x' = some y' ∧ y.ledger <+: y'.ledger ∧ (Fits y → Fits y')
  | .task _, x, x' => x'.map Task.privateData = x.map Task.privateData
  | k, x, x' => concerns id k = true → x' = x

lemma RowAside.refl (k : Key) (x : Val k) : RowAside id k x x := by
  cases k with
  | user u => exact fun y hy => ⟨y, hy, List.prefix_refl _⟩
  | subscription n => exact ⟨fun h => h, fun y hy => ⟨y, hy, List.prefix_refl _, fun h => h⟩⟩
  | token n | task n => rfl
  | _ => exact fun _ => rfl

lemma Aside.of_rows (h : ∀ k, RowAside id k (s k) (s' k)) : Aside id s s' :=
  ⟨h (.billing id) (by simp [concerns]), fun u => h (.user u), fun n => h (.token n), fun n => (h (.subscription n)).1,
    fun n => (h (.subscription n)).2, fun n => h (.task n), h (.outbox (.quotaCache id)) (by simp [concerns]),
    h (.outbox (.taskBilling id)) (by simp [concerns]), h .billingSeq rfl⟩

lemma Aside.refl (s : Snap schema) : Aside id s s := .of_rows fun k => .refl k (s k)

lemma Aside.write {k : Key} {v : Val k} (h : RowAside id k (s k) v) : Aside id s (update s k v) := by
  refine .of_rows fun k' => ?_
  by_cases hk : k' = k
  · subst hk
    rwa [update_self]
  · rw [update_of_ne hk]
    exact .refl k' _

lemma Aside.of_eq (h : ∀ k, concerns id k = true → s' k = s k) : Aside id s s' := by
  refine .of_rows fun k => ?_
  by_cases hk : concerns id k = true
  · rw [h k hk]
    exact .refl k _
  · cases k with
    | user u | token n | subscription n | task n => exact absurd rfl hk
    | _ => exact fun hc => absurd hc hk

lemma Aside.other {k : Key} (v : Val k) (hk : concerns id k = false) : Aside id s (update s k v) := by
  refine .of_eq fun k' hk' => update_of_ne ?_ _ _
  rintro rfl
  rw [hk] at hk'
  cases hk'

lemma Aside.put {ws : List (Write schema)} (h : ∀ x ∈ ws, concerns id x.1 = false) : Aside id s (s.put ws) := by
  induction ws generalizing s with
  | nil => exact .refl s
  | cons x ws ih =>
    exact (Aside.other x.2 (h x (.head _))).trans (ih fun y hy => h y (.tail _ hy))

lemma Aside.writeUser {u : ℕ} {x x' : User} (hx : s (.user u) = some x) (hpre : x.ledger <+: x'.ledger) :
    Aside id s (update s (.user u) (some x')) := by
  refine .write fun y hy => ⟨x', rfl, ?_⟩
  cases hx.symm.trans hy
  exact hpre

lemma Aside.writeToken {n : ℕ} {x x' : Token} (hx : s (.token n) = some x) : Aside id s (update s (.token n) (some x')) :=
  .write (congrArg isSome hx).symm

lemma Aside.writeSub {n : ℕ} {x x' : UserSubscription} (hx : s (.subscription n) = some x)
    (hpre : x.ledger <+: x'.ledger) (hfits : Fits x → Fits x') :
    Aside id s (update s (.subscription n) (some x')) := by
  refine .write ⟨fun hnone => absurd (hx.symm.trans hnone) (some_ne_none x), fun y hy => ⟨x', rfl, ?_⟩⟩
  cases hx.symm.trans hy
  exact ⟨hpre, hfits⟩

lemma Aside.writeTask {n : ℕ} {x x' : Task} (hx : s (.task n) = some x) (hdata : x'.privateData = x.privateData) :
    Aside id s (update s (.task n) (some x')) := by
  refine .write ?_
  rw [hx]
  exact congrArg some hdata

end StarNexus.Refund
