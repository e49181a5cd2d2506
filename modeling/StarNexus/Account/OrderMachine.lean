import StarNexus.Account.TopUp
import StarNexus.Lib.Tally

/-!
# One order

An abstract order is pending until it is completed or has expired, and it is credited when it is completed.  If all
calls on an order run in one process, the lock of the order makes every completion one such step, although its read
of the order and its writes are separate statements (`orderProtocol_keeps`).
-/

namespace StarNexus.Account

open Lib Lib.Tx Function
open Function (update update_eq_self update_of_ne update_self)

/-! ### The machine -/

/-- The status of an order, and how often it has been credited to each user. -/
structure Order where
  status : Option TopUpStatus
  credits : ℕ → ℕ

/-- The life of an order; one that is completed after its buyer was deleted is not credited. -/
inductive Order.Step : Order → Order → Prop
  | stay A : Step A A
  | expire A (h : A.status = some .pending) : Step A { A with status := some .expired }
  | complete A (h : A.status = some .pending) : Step A { A with status := some .success }
  | credit A (u : ℕ) (h : A.status = some .pending) :
      Step A { status := some .success, credits := update A.credits u (A.credits u + 1) }

structure Order.Once (before : ℕ → ℕ) (A : Order) : Prop where
  added : AddedOnce before A.credits
  uncredited : A.status ≠ some .success → A.credits = before

lemma Order.Once.step {before : ℕ → ℕ} {A B : Order} (h : A.Once before) (hstep : Order.Step A B) : B.Once before := by
  have hpending : A.status = some .pending → A.credits = before := fun hp => h.uncredited (by rw [hp]; simp)
  cases hstep with
  | stay => exact h
  | expire hp => exact ⟨h.added, fun _ => hpending hp⟩
  | complete hp => exact ⟨h.added, fun hne => absurd rfl hne⟩
  | credit u hp => exact ⟨.inr ⟨u, by rw [hpending hp]⟩, fun hne => absurd rfl hne⟩

lemma Order.Step.of_not_pending {A B : Order} (hstep : Order.Step A B) (h : A.status ≠ some .pending) : B = A := by
  cases hstep with
  | stay => rfl
  | expire hp | complete hp | credit u hp => exact absurd hp h

/-! ### The protocol -/

def creditsAt (tradeNo : String) : (k : Key) → Val k → ℕ
  | .user _, some user => user.ledger.countP fun e => e.cause = .topUp tradeNo
  | _, _ => 0

def orderOf (tradeNo : String) (s : Snap schema) : Order where
  status := (s (.topUp tradeNo)).map TopUp.status
  credits u := creditsAt tradeNo (.user u) (s (.user u))

/-- How far a client is with the order, of which it has the lock or not. -/
inductive Phase where
  | out
  | inside
  | seen (row : TopUp)
  | saved (row : TopUp)
  | posted (row : TopUp) (u : ℕ)

def Phase.ended : Phase → Phase
  | .out => .out
  | _ => .inside

def Phase.written : Phase → Option TopUp
  | .saved row | .posted row _ => some row
  | _ => none

def Phase.posts : Phase → Key → ℕ
  | .posted _ u => fun k => if k = .user u then 1 else 0
  | _ => 0

def Phase.claims : Phase → Prop
  | .out | .inside => False
  | _ => True

/-- An order is saved as completed or expired, and credited only if it was completed. -/
def Phase.fine : Phase → Prop
  | .saved row => row.status = .success ∨ row.status = .expired
  | .posted row _ => row.status = .success
  | _ => True

def Neutral (tradeNo : String) (s : Snap schema) (ws : List (Write schema)) : Prop :=
  ∀ k v, (⟨k, v⟩ : Write schema) ∈ ws → k ≠ .topUp tradeNo ∧ creditsAt tradeNo k v = creditsAt tradeNo k (s k)

inductive Goes (node : ℕ) (tradeNo : String) : Phase → Move schema → Phase → Prop
  | read g ℓ s : Goes node tradeNo g (.read ℓ s) g
  | see ℓ s row (h : s (.topUp tradeNo) = some row) (hp : row.status = .pending) :
      Goes node tradeNo .inside (.read ℓ s) (.seen row)
  | start g : Goes node tradeNo g .start g
  | neutral g ℓ s ws (h : Neutral tradeNo s ws) : Goes node tradeNo g (.update ℓ s ws) g
  | save ℓ s row row' (h : row'.status = .success ∨ row'.status = .expired) :
      Goes node tradeNo (.seen row) (.update ℓ s [⟨.topUp tradeNo, some row'⟩]) (.saved row')
  | post ℓ s row u v (hs : row.status = .success)
      (hv : creditsAt tradeNo (.user u) v = creditsAt tradeNo (.user u) (s (.user u)) + 1) :
      Goes node tradeNo (.saved row) (.update ℓ s [⟨.user u, v⟩]) (.posted row u)
  | commit g : Goes node tradeNo g .commit g.ended
  | rollback g : Goes node tradeNo g .rollback g.ended
  | lock : Goes node tradeNo .out (.lock (node, tradeNo)) .inside
  | lockOther g m (h : m.2 ≠ tradeNo) : Goes node tradeNo g (.lock m) g
  | unlock : Goes node tradeNo .inside (.unlock (node, tradeNo)) .out
  | unlockOther g m (h : m.2 ≠ tradeNo) : Goes node tradeNo g (.unlock m) g

/-- The protocol of all calls on orders, if those on this order run in the process `node`. -/
def orderProtocol (node : ℕ) (tradeNo : String) : Protocol schema Phase where
  idle := .out
  sees _ _ := True
  goes := Goes node tradeNo
  stops g := g = .out
  stops_idle := rfl

/-! ### The machine behind a run -/

open Phase

section refinement

variable {T : Type} [DecidableEq T] {node : ℕ} {tradeNo : String} {d : Db schema T} {γ : T → Phase} {t : T}

structure Base (node : ℕ) (tradeNo : String) (d : Db schema T) (γ : T → Phase) : Prop where
  mutex : ∀ t, γ t ≠ .out → d.held (node, tradeNo) = some t
  tally : Tally (creditsAt tradeNo) d (Phase.posts ∘ γ)
  dirty : ∀ t v, d.dirty (.topUp tradeNo) = some (t, v) ↔ ∃ row, (γ t).written = some row ∧ v = some row
  fine : ∀ t, (γ t).fine
  pending : ∀ t, (γ t).claims → (orderOf tradeNo d.rows).status = some .pending

omit [DecidableEq T] in
lemma Base.others (h : Base node tradeNo d γ) (ht : γ t ≠ .out) (u : T) (hu : u ≠ t) : γ u = .out := by
  by_contra hne
  exact hu (Option.some.inj ((h.mutex u hne).symm.trans (h.mutex t ht)))

omit [DecidableEq T] in
lemma Base.congr (h : Base node tradeNo d γ) {d' : Db schema T} (hrows : d'.rows = d.rows) (hdirty : d'.dirty = d.dirty)
    (hheld : d'.held (node, tradeNo) = d.held (node, tradeNo)) : Base node tradeNo d' γ := by
  exact ⟨hheld ▸ h.mutex, h.tally.congr hrows hdirty, hdirty ▸ h.dirty, h.fine, hrows ▸ h.pending⟩

structure Client (node : ℕ) (tradeNo : String) (d : Db schema T) (t : T) (g : Phase) : Prop where
  mutex : g ≠ .out → d.held (node, tradeNo) = some t
  dirty : ∀ v, d.dirty (.topUp tradeNo) = some (t, v) ↔ ∃ row, g.written = some row ∧ v = some row
  fine : g.fine
  pending : g.claims → (orderOf tradeNo d.rows).status = some .pending

omit [DecidableEq T] in
lemma Base.client (h : Base node tradeNo d γ) (t : T) : Client node tradeNo d t (γ t) :=
  ⟨h.mutex t, h.dirty t, h.fine t, h.pending t⟩

lemma Base.of_client {g : Phase} (htally : Tally (creditsAt tradeNo) d (update (posts ∘ γ) t g.posts))
    (hg : Client node tradeNo d t g) (hrest : ∀ u, u ≠ t → Client node tradeNo d u (γ u)) :
    Base node tradeNo d (update γ t g) := by
  have hall := (forall_update_iff γ fun u g => Client node tradeNo d u g).2 ⟨hg, hrest⟩
  refine ⟨fun u => (hall u).mutex, ?_, fun u => (hall u).dirty, fun u => (hall u).fine, fun u => (hall u).pending⟩
  rwa [comp_update]

lemma Base.view_order (h : Base node tradeNo d γ) (t : T) :
    d.view t (.topUp tradeNo) = ((γ t).written.map some).getD (d.rows (.topUp tradeNo)) := by
  cases hw : (γ t).written with
  | none =>
    refine d.view_of_not_holder fun v hv => ?_
    obtain ⟨row, hrow, -⟩ := (h.dirty t v).1 hv
    rw [hw] at hrow
    cases hrow
  | some row => exact d.view_of_self ((h.dirty t _).2 ⟨row, hw, rfl⟩)

lemma Base.hold (h : Base node tradeNo d γ) {g : Phase} {held : ℕ × String → Option T} (hposts : g.posts = (γ t).posts)
    (hwritten : g.written = (γ t).written) (hfine : g.fine)
    (hclaims : g.claims → (orderOf tradeNo d.rows).status = some .pending)
    (hself : g ≠ .out → held (node, tradeNo) = some t) (hrest : ∀ u, u ≠ t → γ u ≠ .out → held (node, tradeNo) = some u) :
    Base node tradeNo { d with held } (update γ t g) := by
  refine .of_client ?_ ⟨hself, hwritten ▸ h.dirty t, hfine, hclaims⟩ fun u hu => { h.client u with mutex := hrest u hu }
  rw [← comp_update, Protocol.comp_update_of_eq hposts]
  exact h.tally.congr rfl rfl

/-! ### Statements -/

section

variable (h : Base node tradeNo d γ)

include h

lemma Base.write_neutral {ws : List (Write schema)} (hfree : d.free t ws)
    (hws : Neutral tradeNo (d.view t) ws) : Base node tradeNo (d.write t ws) γ := by
  refine { h with tally := h.tally.update_neutral hfree fun k v hv => (hws k v hv).2, dirty := fun u v => ?_ }
  rw [Db.dirty_write_of_not_mem fun w hw => (hws w.1 w.2 hw).1]
  exact h.dirty u v

lemma Base.save {row row' : TopUp} (hg : γ t = .seen row)
    (hfree : d.free t [(⟨.topUp tradeNo, some row'⟩ : Write schema)])
    (hrow : row'.status = .success ∨ row'.status = .expired) :
    Base node tradeNo (d.write t [⟨.topUp tradeNo, some row'⟩]) (update γ t (.saved row')) := by
  have ht : γ t ≠ .out := by simp [hg]
  have hdirty : (d.write t [⟨.topUp tradeNo, some row'⟩]).dirty (.topUp tradeNo) = some (t, some row') :=
    update_self _ _ _
  refine .of_client ?_ ⟨fun _ => h.mutex t ht, fun v => ?_, hrow, fun _ => h.pending t (by rw [hg]; trivial)⟩ fun u hu => ?_
  · rw [← comp_update, Protocol.comp_update_of_eq (by rw [hg]; rfl)]
    exact h.tally.update_one hfree rfl
  · simp [hdirty, written, eq_comm]
  · rw [h.others ht u hu]
    exact ⟨fun hne => absurd rfl hne, fun v => by simp [hdirty, written, hu.symm], trivial, nofun⟩

lemma Base.post {row : TopUp} {u : ℕ} {v : Val (.user u)} (hg : γ t = .saved row)
    (hfree : d.free t [(⟨.user u, v⟩ : Write schema)]) (hs : row.status = .success)
    (hv : creditsAt tradeNo (.user u) v = creditsAt tradeNo (.user u) (d.view t (.user u)) + 1) :
    Base node tradeNo (d.write t [⟨.user u, v⟩]) (update γ t (.posted row u)) := by
  have ht : γ t ≠ .out := by simp [hg]
  refine .of_client ?_ ⟨fun _ => h.mutex t ht, fun w => ?_, hs, fun _ => h.pending t (by rw [hg]; trivial)⟩
    fun u _ => { h.client u with }
  · have hposts : (posted row u).posts = (posts ∘ γ) t + fun k => if k = .user u then 1 else 0 := by
      simp [posts, hg]
    rw [hposts]
    exact h.tally.post hfree hv
  · have hold := h.dirty t w
    rwa [hg] at hold

end

/-! ### The end of a transaction -/

def Phase.idle (g : Phase) : Prop := g = .out ∨ g = .inside

lemma Phase.idle_ended (g : Phase) : g.ended.idle := by
  cases g <;> simp [idle, ended]

section

variable (h : Base node tradeNo d γ)

include h

lemma Base.drop {g : Phase} {held : ℕ × String → Option T} (hg : g.idle) (hself : g ≠ .out → held (node, tradeNo) = some t)
    (hrest : ∀ u, u ≠ t → γ u ≠ .out → held (node, tradeNo) = some u) :
    Base node tradeNo { d.rollback t with held } (update γ t g) := by
  have hnone : g.posts = 0 ∧ g.written = none ∧ g.fine ∧ ¬g.claims := by
    rcases hg with rfl | rfl <;> exact ⟨rfl, rfl, trivial, fun hc => hc⟩
  obtain ⟨hposts, hwritten, hfine, hclaims⟩ := hnone
  refine .of_client ?_ ⟨hself, fun v => ?_, hfine, fun hc => absurd hc hclaims⟩
    fun u hu => { h.client u with mutex := hrest u hu, dirty := fun v => ?_ }
  · rw [hposts]
    exact (h.tally.rollback t).congr rfl rfl
  · simp [d.release_eq_some, hwritten]
  · rw [Db.rollback_dirty, d.release_eq_some, h.dirty u v]
    exact and_iff_left hu

lemma Base.rollback {g : Phase} (hg : g.idle) (hin : g ≠ .out → γ t ≠ .out) :
    Base node tradeNo (d.rollback t) (update γ t g) :=
  h.drop hg (fun hne => h.mutex t (hin hne)) fun u _ => h.mutex u

lemma Base.orderOf_commit : orderOf tradeNo (d.commit t).rows =
      { status := (((γ t).written.map some).getD (d.rows (.topUp tradeNo))).map TopUp.status
        credits := fun u => (orderOf tradeNo d.rows).credits u + (γ t).posts (.user u) } := by
  simp only [orderOf, Db.commit_rows, Order.mk.injEq]
  exact ⟨by rw [h.view_order t], funext fun u => h.tally.view t (.user u)⟩

lemma Base.step_commit (t : T) : Order.Step (orderOf tradeNo d.rows) (orderOf tradeNo (d.commit t).rows) := by
  rw [h.orderOf_commit]
  have hfine := h.fine t
  have hpending := h.pending t
  cases hg : γ t with
  | out | inside | seen row => exact .stay _
  | saved row =>
    rw [hg] at hfine hpending
    rcases hfine with hs | hs
    · have hstep := Order.Step.complete _ (hpending trivial)
      rwa [← hs] at hstep
    · have hstep := Order.Step.expire _ (hpending trivial)
      rwa [← hs] at hstep
  | posted row u =>
    rw [hg] at hfine hpending
    have hcredits : (fun x => (orderOf tradeNo d.rows).credits x + (posted row u).posts (.user x)) =
        update (orderOf tradeNo d.rows).credits u ((orderOf tradeNo d.rows).credits u + 1) := by
      funext x
      by_cases hx : x = u
      · subst hx
        simp [posts]
      · simp [posts, hx]
    have hstep := Order.Step.credit _ u (hpending trivial)
    rw [← hcredits, ← hfine] at hstep
    exact hstep

lemma Base.commit (t : T) : Base node tradeNo (d.commit t) (update γ t (γ t).ended) := by
  have hback := h.rollback (t := t) (g := (γ t).ended) (idle_ended _) (by intro hne hout; simp [hout, ended] at hne)
  refine ⟨hback.mutex, ?_, hback.dirty, hback.fine, fun u hu => ?_⟩
  · have hposts : (γ t).ended.posts = 0 := by cases γ t <;> rfl
    rw [comp_update, hposts]
    exact h.tally.commit t
  · have hut : u ≠ t := by
      rintro rfl
      rw [update_self] at hu
      cases hg : γ u <;> rw [hg] at hu <;> exact hu
    rw [update_of_ne hut] at hu
    -- a client that works on the order is alone inside, so the one that commits has not written it
    have hout : γ t = .out := by
      refine h.others ?_ t (.symm hut)
      intro hne
      rw [hne] at hu
      exact hu
    rw [h.orderOf_commit, hout]
    exact h.pending u hu

end

/-! ### The lock -/

omit [DecidableEq T] in
lemma Base.held (h : Base node tradeNo d γ) {m : ℕ × String} (hm : m.2 ≠ tradeNo) (o : Option T) :
    Base node tradeNo { d with held := update d.held m o } γ := by
  refine h.congr rfl rfl (update_of_ne ?_ _ _)
  rintro rfl
  exact hm rfl

lemma Base.enter (h : Base node tradeNo d γ) (hg : γ t = .out) (hheld : d.held (node, tradeNo) = none) :
    Base node tradeNo { d with held := update d.held (node, tradeNo) (some t) }
      (update γ t .inside) := by
  refine h.hold (by rw [hg]; rfl) (by rw [hg]; rfl) trivial nofun (fun _ => update_self _ _ _) fun u _ hu => ?_
  rw [h.mutex u hu] at hheld
  cases hheld

lemma Base.leave (h : Base node tradeNo d γ) (hg : γ t = .inside) {held : ℕ × String → Option T} :
    Base node tradeNo { d with held := held } (update γ t .out) := by
  refine h.hold (by rw [hg]; rfl) (by rw [hg]; rfl) trivial nofun (fun hne => absurd rfl hne) fun u hu hne => ?_
  exact absurd (h.others (by simp [hg]) u hu) hne

lemma Base.die (h : Base node tradeNo d γ) (t : T) : Base node tradeNo (d.die t) (update γ t .out) := by
  refine h.drop (.inl rfl) (fun hne => absurd rfl hne) fun u hu hne => ?_
  simp [h.mutex u hne, hu]

/-! ### All statements -/

lemma orderProtocol_keeps {J : Order → Prop} (hJ : ∀ A B, J A → Order.Step A B → J B) :
    (orderProtocol node tradeNo).Keeps (fun _ (_ : T) _ => True)
      fun d γ => Base node tradeNo d γ ∧ J (orderOf tradeNo d.rows) where
  sees _ _ _ _ _ _ _ := trivial
  stay _ _ h := h
  tick d γ z h := ⟨h.1.congr rfl rfl rfl, h.2⟩
  read σ γ t ℓ g h _ hgo := by
    generalize hg : γ t = g₀ at hgo
    cases hgo with
    | read =>
      rw [← hg, update_eq_self]
      exact h
    | see _ _ row hrow hp =>
      have hview := h.1.view_order t
      rw [hrow, hg] at hview
      have ht : γ t ≠ .out := by simp [hg]
      refine ⟨h.1.hold (by rw [hg]; rfl) (by rw [hg]; rfl) trivial (fun _ => ?_) (fun _ => h.1.mutex t ht)
        fun u _ => h.1.mutex u, h.2⟩
      simp only [← hp]
      exact congrArg (Option.map TopUp.status) hview.symm
  update σ γ t ℓ ws g h _ hfree hgo := by
    refine ⟨?_, h.2⟩
    generalize hg : γ t = g₀ at hgo
    cases hgo with
    | neutral _ _ _ _ hws =>
      rw [← hg, update_eq_self]
      exact h.1.write_neutral hfree hws
    | save _ _ row row' hrow => exact h.1.save hg hfree hrow
    | post _ _ row u v hs hv => exact h.1.post hg hfree hs hv
  auto σ γ t ℓ ws g h _ hclear hgo := by
    generalize γ t = g₀ at hgo
    cases hgo
  start d γ t g h hgo := by
    generalize hg : γ t = g₀ at hgo
    cases hgo
    rw [← hg, update_eq_self]
    exact ⟨h.1.congr rfl rfl rfl, h.2⟩
  commit σ γ t g h _ hgo := by
    generalize hg : γ t = g₀ at hgo
    cases hgo
    rw [← hg]
    exact ⟨h.1.commit t, hJ _ _ h.2 (h.1.step_commit t)⟩
  rollback d γ t g h hgo := by
    generalize hg : γ t = g₀ at hgo
    cases hgo
    refine ⟨h.1.rollback (idle_ended _) ?_, h.2⟩
    rintro hne hout
    rw [hout] at hg
    exact hne (by rw [← hg]; rfl)
  emit σ γ t e g h _ hgo := nomatch e
  lock d γ t m g h hheld hgo := by
    refine ⟨?_, h.2⟩
    generalize hg : γ t = g₀ at hgo
    cases hgo with
    | lock => exact h.1.enter hg hheld
    | lockOther _ _ hm =>
      rw [← hg, update_eq_self]
      exact h.1.held hm _
  unlock d γ t m g h hgo := by
    refine ⟨?_, h.2⟩
    generalize hg : γ t = g₀ at hgo
    cases hgo with
    | unlock => exact h.1.leave hg
    | unlockOther _ _ hm =>
      rw [← hg, update_eq_self]
      exact h.1.held hm _
  stop d γ t h hstop := by
    have hout : γ t = .out := hstop
    rw [show (orderProtocol node tradeNo).idle = γ t from hout.symm, update_eq_self]
    exact h
  die d γ t h := ⟨h.1.die t, h.2⟩

omit [DecidableEq T] in
lemma Base.rest (r : Snap schema) (z : ℤ) : Base node tradeNo (Db.rest r z : Db schema T) fun _ => .out where
  mutex _ hne := absurd rfl hne
  tally := Tally.rest r z
  dirty t v := by
    constructor
    · intro hv
      cases hv
    · rintro ⟨_, hrow, -⟩
      cases hrow
  fine _ := trivial
  pending _ hc := nomatch hc

end refinement

end StarNexus.Account
