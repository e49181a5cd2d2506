import StarNexus.Lib.Tally
import StarNexus.Lib.Unique
import StarNexus.Ledger.Books

/-!
# Applying a billing transaction once

Leases expire, so two coordinators can be applying the same billing transaction at the same time: both have read it
as `applying`, and neither has locked it.  Both then move the money, and what keeps one of them from committing is
that each inserts the row `quota-cache:<id>` into `billing_outboxes`, whose `event_id` is unique, before it commits.

The argument follows one billing transaction `i`.  A client's phase is what its open transaction has done about `i`
so far, and the protocol allows a commit only if nothing was posted for `i` or the outbox row was inserted.
-/

namespace StarNexus.Ledger.ApplyOnce

open Lib Lib.Tx Model Service Protocol
open Function (comp_update forall_update_iff update_eq_self update_of_ne update_self)

/-! ### Entries of applications -/

def applies (i : ℕ) (k : Key) (v : Val k) : ℕ := (ledgerOf k v).countP fun e => e.cause = .durable .apply i

/-- `i` has been applied at most once to the funding balances, and at most once to the tokens. -/
structure AppliedOnce (i : ℕ) (s : Snap schema) : Prop where
  le_one : ∀ k, applies i k (s k) ≤ 1
  fund : ∀ a b : FundKey, 0 < applies i a.key (s a.key) → 0 < applies i b.key (s b.key) → a = b
  token : ∀ m n : ℕ, 0 < applies i (.token m) (s (.token m)) → 0 < applies i (.token n) (s (.token n)) → m = n

section entries

variable (i : ℕ) (c : Cause) (delta z : ℤ)

lemma applies_user_add (u : ℕ) (x : User) :
    applies i (.user u) (some (x.add c delta)) =
      applies i (.user u) (some x) + if c = .durable .apply i then 1 else 0 := by
  simp [applies, ledgerOf, User.add, List.countP_cons]

lemma applies_token_add (n : ℕ) (x : Token) :
    applies i (.token n) (some (x.add c delta z)) =
      applies i (.token n) (some x) + if c = .durable .apply i then 1 else 0 := by
  simp [applies, ledgerOf, Token.add, List.countP_cons]

lemma applies_subscription_setUsed (n : ℕ) (x : UserSubscription) :
    applies i (.subscription n) (some (x.setUsed c delta)) =
      applies i (.subscription n) (some x) + if c = .durable .apply i then 1 else 0 := by
  simp [applies, ledgerOf, UserSubscription.setUsed, List.countP_cons]

end entries

/-! ### The protocol -/

/-- What the open transaction of a client has posted for `i`, its outbox row, and the subscription it has locked. -/
structure Phase where
  fund : Option FundKey := none
  token : Option ℕ := none
  key : Bool := false
  sub : Option (ℕ × Option UserSubscription) := none

def Phase.posted (g : Phase) : Key → ℕ
  | .user u => if g.fund = some (.user u) then 1 else 0
  | .subscription n => if g.fund = some (.subscription n) then 1 else 0
  | .token n => if g.token = some n then 1 else 0
  | _ => 0

lemma Phase.posted_idle : ({} : Phase).posted = 0 := by
  funext k
  cases k <;> rfl

lemma Phase.posted_fundKey (g : Phase) (a : FundKey) : g.posted a.key = if g.fund = some a then 1 else 0 := by
  cases a <;> rfl

variable {g : Phase}

lemma Phase.posted_fund (hg : g.fund = none) (a : FundKey) :
    ({ g with fund := some a, sub := none } : Phase).posted = g.posted + fun k => if k = a.key then 1 else 0 := by
  funext k
  cases a <;> cases k <;> simp [posted, hg, FundKey.key, eq_comm]

lemma Phase.posted_token (hg : g.token = none) (n : ℕ) :
    ({ g with token := some n } : Phase).posted = g.posted + fun k => if k = .token n then 1 else 0 := by
  funext k
  cases k <;> simp [posted, hg, eq_comm]

open Phase

lemma AppliedOnce.of_posted {i : ℕ} {s : Snap schema} (g : Phase) (h : ∀ k, applies i k (s k) = g.posted k) :
    AppliedOnce i s := by
  have hfund : ∀ a : FundKey, 0 < applies i a.key (s a.key) → g.fund = some a := by
    intro a ha
    rw [h, g.posted_fundKey] at ha
    by_contra hne
    simp [hne] at ha
  have htoken : ∀ n : ℕ, 0 < applies i (.token n) (s (.token n)) → g.token = some n := by
    intro n hn
    rw [h, posted] at hn
    by_contra hne
    simp [hne] at hn
  refine ⟨fun k => ?_, fun a b ha hb => ?_, fun m n hm hn => ?_⟩
  · rw [h]
    unfold posted
    split <;> first | (split <;> decide) | decide
  · exact Option.some.inj ((hfund a ha).symm.trans (hfund b hb))
  · exact Option.some.inj ((htoken m hm).symm.trans (htoken n hn))

lemma AppliedOnce.congr {i : ℕ} {s s' : Snap schema} (h : AppliedOnce i s)
    (heq : ∀ k, applies i k (s' k) = applies i k (s k)) : AppliedOnce i s' := by
  refine ⟨fun k => ?_, fun a b ha hb => ?_, fun m n hm hn => ?_⟩
  · rw [heq]
    exact h.le_one k
  · rw [heq] at ha hb
    exact h.fund a b ha hb
  · rw [heq] at hm hn
    exact h.token m n hm hn

abbrev outboxKey (i : ℕ) : Key := .outbox (.quotaCache i)

def Neutral (i : ℕ) (s : Snap schema) (ws : List (Write schema)) : Prop :=
  ∀ k v, (⟨k, v⟩ : Write schema) ∈ ws → k ≠ outboxKey i ∧ applies i k v = applies i k (s k)

lemma neutral_one {i : ℕ} {k : Key} {v : Val k} {s : Snap schema} (hk : k ≠ outboxKey i)
    (hv : applies i k v = applies i k (s k)) : Neutral i s [⟨k, v⟩] := by
  intro k' v' h
  cases List.mem_singleton.1 h
  exact ⟨hk, hv⟩

inductive Goes (i : ℕ) : Phase → Move schema → Phase → Prop
  | read g ℓ s : Goes i g (.read ℓ s) g
  | start g : Goes i g .start g
  | emit g e : Goes i g (.emit e) g
  | neutral g ℓ s ws (h : Neutral i s ws) : Goes i g (.update ℓ s ws) { g with sub := none }
  | auto g ℓ s ws (h : Neutral i s ws) : Goes i g (.auto ℓ s ws) g
  | lock g ℓ s id : Goes i g (.update ℓ s [⟨.subscription id, s (.subscription id)⟩])
      { g with sub := some (id, s (.subscription id)) }
  | fund g ℓ s (a : FundKey) v (hg : g.fund = none) (h : applies i a.key v = applies i a.key (s a.key) + 1) :
      Goes i g (.update ℓ s [⟨a.key, v⟩]) { g with fund := some a, sub := none }
  | token g ℓ s n v (hg : g.token = none) (hs : g.sub = none)
      (h : applies i (.token n) v = applies i (.token n) (s (.token n)) + 1) :
      Goes i g (.update ℓ s [⟨.token n, v⟩]) { g with token := some n }
  | key g ℓ s x (hs : g.sub = none) (h : s (outboxKey i) = none) :
      Goes i g (.update ℓ s [⟨outboxKey i, some x⟩]) { g with key := true }
  | commit g (h : g.key = true ∨ g.fund = none ∧ g.token = none) : Goes i g .commit {}
  | rollback g : Goes i g .rollback {}

def Sees (g : Phase) : Move schema → Prop
  | .read _ s | .update _ s _ => ∀ id v, g.sub = some (id, v) → s (.subscription id) = v
  | _ => True

def applyOnce (i : ℕ) : Protocol schema Phase where
  idle := {}
  sees := Sees
  goes := Goes i
  stops g := g = {}
  stops_idle := rfl

/-! ### The invariant -/

section invariant

variable {T : Type} [DecidableEq T] {i : ℕ} {d : Db schema T} {γ : T → Phase} {t : T}

/-- The outbox row of `i` is committed together with the entries of `i`, and by one client only. -/
structure Inv (i : ℕ) (d : Db schema T) (γ : T → Phase) : Prop where
  tally : Tally (applies i) d (Phase.posted ∘ γ)
  unique : Unique (outboxKey i) (· = none) d (Phase.key ∘ γ)
  sub : ∀ t id v, (γ t).sub = some (id, v) → d.dirty (.subscription id) = some (t, v)
  once : AppliedOnce i d.rows
  unused : d.rows (outboxKey i) = none → ∀ k, applies i k (d.rows k) = 0

omit [DecidableEq T] in
lemma Inv.congr (h : Inv i d γ) {d' : Db schema T} (hrows : d'.rows = d.rows) (hdirty : d'.dirty = d.dirty) :
    Inv i d' γ := by
  refine ⟨h.tally.congr hrows hdirty, h.unique.congr (by rw [hrows]) (by rw [hdirty]), fun t id v hv => ?_, ?_, ?_⟩
  · rw [hdirty]
    exact h.sub t id v hv
  · rw [hrows]
    exact h.once
  · rw [hrows]
    exact h.unused

variable {ws : List (Write schema)}

section

variable (h : Inv i d γ)

include h

lemma Inv.write (hfree : d.free t ws)
    (htally : Tally (applies i) (d.write t ws) (Function.update (posted ∘ γ) t g.posted))
    (hunique : Unique (outboxKey i) (· = none) (d.write t ws) (Function.update (key ∘ γ) t g.key))
    (hsub : ∀ id v, g.sub = some (id, v) → ws = [⟨.subscription id, v⟩]) :
    Inv i (d.write t ws) (Function.update γ t g) := by
  refine ⟨?_, ?_, fun u id v hu => ?_, h.once, h.unused⟩
  · rwa [comp_update]
  · rwa [comp_update]
  · by_cases hut : u = t
    · subst hut
      rw [update_self] at hu
      rw [hsub id v hu]
      exact update_self _ _ _
    · rw [update_of_ne hut] at hu
      exact Db.dirty_write_of_other hfree hut (h.sub u id v hu)

lemma Inv.write_neutral (hfree : d.free t ws)
    (hws : Neutral i (d.view t) ws) (hposted : g.posted = (γ t).posted) (hkey : g.key = (γ t).key)
    (hsub : ∀ id v, g.sub = some (id, v) → ws = [⟨.subscription id, v⟩]) :
    Inv i (d.write t ws) (Function.update γ t g) := by
  refine h.write hfree ?_ ?_ hsub
  · rw [← comp_update, comp_update_of_eq hposted]
    exact h.tally.update_neutral hfree fun k v hv => (hws k v hv).2
  · rw [← comp_update, comp_update_of_eq hkey]
    exact h.unique.write_other fun w hw => (hws w.1 w.2 hw).1

lemma Inv.post {k : Key} {v : Val k} (hfree : d.free t [(⟨k, v⟩ : Write schema)])
    (hk : k ≠ outboxKey i) (hv : applies i k v = applies i k (d.view t k) + 1)
    (hposted : g.posted = (γ t).posted + fun k' => if k' = k then 1 else 0) (hkey : g.key = (γ t).key)
    (hsub : g.sub = none) : Inv i (d.write t [⟨k, v⟩]) (Function.update γ t g) := by
  refine h.write hfree ?_ ?_ fun id v hs => ?_
  · rw [hposted]
    exact h.tally.post hfree hv
  · rw [← comp_update, comp_update_of_eq hkey]
    exact h.unique.write_other (by simpa using hk)
  · rw [hsub] at hs
    cases hs

lemma Inv.update {ℓ : Label} (hfree : d.free t ws)
    (hgo : Goes i (γ t) (.update ℓ (d.view t) ws) g) : Inv i (d.write t ws) (Function.update γ t g) := by
  cases hgo with
  | neutral _ _ _ hn =>
    refine h.write_neutral hfree hn rfl rfl fun id v hv => ?_
    cases hv
  | lock _ _ id =>
    refine h.write_neutral hfree (neutral_one (by simp) rfl) rfl rfl fun id' v hv => ?_
    cases hv
    rfl
  | fund _ _ a v hg hv =>
    have hne : a.key ≠ outboxKey i := by cases a <;> simp [FundKey.key]
    exact h.post hfree hne hv (posted_fund hg a) rfl rfl
  | token _ _ n v hg hs hv => exact h.post hfree (by simp) hv (posted_token hg n) rfl hs
  | key _ _ x hs hnone =>
    refine h.write hfree ?_ (h.unique.insert hfree hnone (by simp)) fun id v hv => ?_
    · have hposted : ({ γ t with key := true } : Phase).posted = (γ t).posted := rfl
      rw [← comp_update, comp_update_of_eq hposted]
      exact h.tally.update_one hfree rfl
    · rw [hs] at hv
      cases hv

lemma Inv.rollback (t : T) : Inv i (d.rollback t) (Function.update γ t {}) := by
  refine ⟨?_, ?_, ?_, h.once, h.unused⟩
  · rw [comp_update, posted_idle]
    exact h.tally.rollback t
  · rw [comp_update]
    exact h.unique.rollback t
  · exact (forall_update_iff γ fun u g => ∀ id v, g.sub = some (id, v) → d.release t (.subscription id) = some (u, v)).2
      ⟨nofun, fun u hut id v hu => (d.release_eq_some).2 ⟨h.sub u id v hu, hut⟩⟩

lemma Inv.commit (hg : (γ t).key = true ∨ (γ t).fund = none ∧ (γ t).token = none) :
    Inv i (d.commit t) (Function.update γ t {}) := by
  have hview := h.tally.view t
  have hcount : AppliedOnce i (d.view t) ∧
      (d.view t (outboxKey i) = none → ∀ k, applies i k (d.view t k) = 0) := by
    cases hkey : (γ t).key with
    | true =>
      obtain ⟨hrow, hpresent⟩ := h.unique.absent_of_held hkey
      have hzero := h.unused hrow
      refine ⟨.of_posted (γ t) fun k => ?_, fun hnone => absurd hnone hpresent⟩
      rw [hview, hzero, zero_add]
      rfl
    | false =>
      obtain ⟨hf, htok⟩ : (γ t).fund = none ∧ (γ t).token = none := by simpa [hkey] using hg
      have hposted : (γ t).posted = 0 := by
        funext k
        cases k <;> simp [posted, hf, htok]
      have hsame : ∀ k, applies i k (d.view t k) = applies i k (d.rows k) := by
        intro k
        rw [hview, Function.comp_apply, hposted, Pi.zero_apply, add_zero]
      refine ⟨h.once.congr hsame, fun hnone k => ?_⟩
      rw [h.unique.view_of_not hkey] at hnone
      rw [hsame, h.unused hnone]
  refine ⟨?_, ?_, (h.rollback t).sub, hcount.1, hcount.2⟩
  · rw [comp_update, posted_idle]
    exact h.tally.commit t
  · rw [comp_update]
    exact h.unique.commit t

end

omit [DecidableEq T] in
lemma Inv.auto (h : Inv i d γ) (hclear : d.clear ws) (hws : Neutral i d.rows ws) :
    Inv i { d with rows := d.rows.put ws } γ := by
  have hne : ∀ w ∈ ws, w.1 ≠ outboxKey i := fun w hw => (hws w.1 w.2 hw).1
  have hsame : ∀ k, applies i k (d.rows.put ws k) = applies i k (d.rows k) :=
    fun k => Snap.count_put (fun k v hv => (hws k v hv).2) k
  refine ⟨h.tally.auto hclear, h.unique.auto hne, h.sub, h.once.congr hsame, fun hnone k => ?_⟩
  have hkey : d.rows.put ws (outboxKey i) = d.rows (outboxKey i) := d.rows.put_of_not_mem ws _ hne
  rw [hsame]
  exact h.unused (hkey.symm.trans hnone) k

/-- **The protocol keeps the invariant**, in every interleaving. -/
lemma applyOnce_keeps (i : ℕ) : (applyOnce i).Keeps (fun _ _ _ => True) (Inv (T := T) i) where
  sees σ γ t m hI _ hm := by
    have hview : ∀ id v, (γ t).sub = some (id, v) → σ.db.view t (.subscription id) = v :=
      fun id v hv => σ.db.view_of_self (hI.sub t id v hv)
    generalize σ.pc t = p at hm
    cases p with
    | read ℓ n | update ℓ f n =>
      cases hm
      exact hview
    | pure a | now n => cases hm
    | _ =>
      cases hm
      trivial
  stay _ _ hI := hI
  tick _ _ _ hI := hI.congr rfl rfl
  read σ γ t ℓ g hI _ hgo := by
    cases hgo
    rwa [update_eq_self]
  update _ _ _ _ _ _ hI _ hfree hgo := hI.update hfree hgo
  auto σ γ t ℓ ws g hI _ hclear hgo := by
    cases hgo with
    | auto _ _ _ h =>
      rw [update_eq_self]
      exact hI.auto hclear h
  start d γ t g hI hgo := by
    cases hgo
    rw [update_eq_self]
    exact hI.congr rfl rfl
  commit σ γ t g hI _ hgo := by
    cases hgo with
    | commit h => exact hI.commit h
  rollback d γ t g hI hgo := by
    cases hgo
    exact hI.rollback t
  emit σ γ t e g hI _ hgo := by
    cases hgo
    rw [update_eq_self]
    exact hI.congr rfl rfl
  lock _ _ _ m := nomatch m
  unlock _ _ _ m := nomatch m
  stop d γ t hI hstop := by
    have hidle : (applyOnce i).idle = γ t := .symm hstop
    rw [hidle, update_eq_self]
    exact hI
  die d γ t hI := (hI.rollback t).congr rfl rfl

end invariant

end StarNexus.Ledger.ApplyOnce
