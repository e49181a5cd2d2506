import StarNexus.Lib.Tally
import StarNexus.Polling.Protocol

/-!
# The poller refines the machine

Every statement that the protocol of the poller allows is a step of the machine of `Polling.Duty`, in any interleaving
of any number of clients (`taskProtocol_leads`).
-/

namespace StarNexus.Polling

open Lib Lib.Tx Model Service Ledger Db List Phase Protocol Snap
open Function (comp_update forall_update_iff update update_eq_self update_of_ne update_self)

/-! ### The machine behind a run -/

section refinement

variable {T : Type} [DecidableEq T] {κ : Scope} {R : Regime} {d : Db schema T} {γ : T → Phase} {t : T}

def duty (id : ℕ) (d : Db schema T) (γ : T → Phase) : Duty T where
  status := statusAt id (.task id) (d.rows (.task id))
  right := Phase.right ∘ γ
  trace := d.trace
  credits a := refunds id a.key (d.rows a.key)

/-- What the phases say about the database: the posts, locks, calls and status of open transactions. -/
structure Base (κ : Scope) (R : Regime) (d : Db schema T) (γ : T → Phase) : Prop where
  tally : Tally (refunds κ.id) d (Phase.posts ∘ γ)
  sub : ∀ t n v, (γ t).sub = some (n, v) → d.dirty (.subscription n) = some (t, v)
  entered : ∀ t x, (γ t).entry = some x → R.enters x.1 x.2 = true
  dirty : ∀ t v, d.dirty (.task κ.id) = some (t, v) →
    statusAt κ.id (.task κ.id) v = (γ t).status (statusAt κ.id (.task κ.id) (d.rows (.task κ.id)))
  moved : ∀ t site src dst, (γ t).moved = some (site, src, dst) →
    (∃ v, d.dirty (.task κ.id) = some (t, v)) ∧ statusAt κ.id (.task κ.id) (d.rows (.task κ.id)) = some src ∧
      R.Intends κ site src dst
  unbilled : ¬κ.durable → ∀ j, billedAt κ.id (.billing j) (d.rows (.billing j)) = false ∧
    ∀ t v, d.dirty (.billing j) = some (t, v) → billedAt κ.id (.billing j) v = false

omit [DecidableEq T] in
lemma Base.congr (h : Base κ R d γ) {d' : Db schema T} (hrows : d'.rows = d.rows) (hdirty : d'.dirty = d.dirty) :
    Base κ R d' γ := by
  refine ⟨h.tally.congr hrows hdirty, hdirty ▸ h.sub, h.entered, ?_, ?_, ?_⟩
  all_goals rw [hdirty, hrows]
  exacts [h.dirty, h.moved, h.unbilled]

lemma Base.view_status (h : Base κ R d γ) (t : T) :
    statusAt κ.id (.task κ.id) (d.view t (.task κ.id)) =
      (γ t).status (statusAt κ.id (.task κ.id) (d.rows (.task κ.id))) := by
  rcases d.view_cases t (.task κ.id) with hv | ⟨hnot, heq⟩
  · exact h.dirty t _ hv
  · have hnone : (γ t).moved = none := by
      refine Option.eq_none_iff_forall_ne_some.2 fun m hm => ?_
      obtain ⟨⟨v, hv⟩, -⟩ := h.moved t m.1 m.2.1 m.2.2 hm
      exact hnot v hv
    rw [heq, status, hnone]

lemma Base.view_unbilled (h : Base κ R d γ) (hd : ¬κ.durable) (t : T) (j : ℕ) :
    billedAt κ.id (.billing j) (d.view t (.billing j)) = false := by
  rcases d.view_cases t (.billing j) with hv | ⟨-, heq⟩
  · exact (h.unbilled hd j).2 t _ hv
  · rw [heq]
    exact (h.unbilled hd j).1

lemma Base.sees (h : Base κ R d γ) (t : T) {p : Prog schema Unit} {m : Move schema} (hm : d.move t p = some m) :
    Sees κ (γ t) m := by
  have hview : ∀ n v, (γ t).sub = some (n, v) → d.view t (.subscription n) = v :=
    fun n v hv => d.view_of_self (h.sub t n v hv)
  cases p with
  | read ℓ n =>
    cases hm
    exact ⟨hview, fun hd j => h.view_unbilled hd t j⟩
  | update ℓ f n =>
    cases hm
    exact hview
  | pure a | now n => cases hm
  | _ =>
    cases hm
    trivial

variable {g : Phase}

lemma forall_entry (hg : ∀ x, g.entry = some x → R.enters x.1 x.2 = true)
    (h : ∀ u, u ≠ t → ∀ x, (γ u).entry = some x → R.enters x.1 x.2 = true) :
    ∀ u x, (update γ t g u).entry = some x → R.enters x.1 x.2 = true :=
  (forall_update_iff γ fun _ g => ∀ x, g.entry = some x → R.enters x.1 x.2 = true).2 ⟨hg, h⟩

lemma Base.phase (h : Base κ R d γ) (hposts : g.posts = (γ t).posts)
    (hsub : g.sub = (γ t).sub) (hmoved : g.moved = (γ t).moved) (hentry : ∀ x, g.entry = some x → R.enters x.1 x.2 = true) :
    Base κ R d (update γ t g) := by
  have hsubs : ∀ u, (update γ t g u).sub = (γ u).sub := congrFun (comp_update_of_eq hsub)
  have hmoves : ∀ u, (update γ t g u).moved = (γ u).moved := congrFun (comp_update_of_eq hmoved)
  refine ⟨?_, fun u n v hu => ?_, ?_, fun u v hv => ?_, fun u site src dst hu => ?_, h.unbilled⟩
  · rw [comp_update_of_eq hposts]
    exact h.tally
  · rw [hsubs] at hu
    exact h.sub u n v hu
  · exact forall_entry hentry fun u _ => h.entered u
  · rw [status, hmoves]
    exact h.dirty u v hv
  · rw [hmoves] at hu
    exact h.moved u site src dst hu

/-! ### Statements outside transactions -/

variable {ws : List (Write schema)}

omit [DecidableEq T] in
lemma Base.put (h : Base κ R d γ) (hclear : d.clear ws)
    (hbilled : ∀ k v, (⟨k, v⟩ : Write schema) ∈ ws → billedAt κ.id k v = true → billedAt κ.id k (d.rows k) = true) :
    Base κ R { d with rows := d.rows.put ws } γ := by
  have hrow : ∀ t v, d.dirty (.task κ.id) = some (t, v) → d.rows.put ws (.task κ.id) = d.rows (.task κ.id) := by
    intro t v hv
    rcases d.rows.put_cases ws (.task κ.id) with ⟨-, heq⟩ | ⟨x, hx, -⟩
    · exact heq
    · rw [clear_none hclear hx] at hv
      cases hv
  refine ⟨h.tally.auto hclear, h.sub, h.entered, fun t v hv => ?_, fun t site src dst hm => ?_, fun hd j => ?_⟩
  · change statusAt κ.id (.task κ.id) v = (γ t).status (statusAt κ.id (.task κ.id) (d.rows.put ws (.task κ.id)))
    rw [hrow t v hv]
    exact h.dirty t v hv
  · obtain ⟨⟨v, hv⟩, hrest⟩ := h.moved t site src dst hm
    refine ⟨⟨v, hv⟩, ?_⟩
    change statusAt κ.id (.task κ.id) (d.rows.put ws (.task κ.id)) = some src ∧ _
    rw [hrow t v hv]
    exact hrest
  · refine ⟨?_, (h.unbilled hd j).2⟩
    change billedAt κ.id (.billing j) (d.rows.put ws (.billing j)) = false
    rcases d.rows.put_cases ws (.billing j) with ⟨-, heq⟩ | ⟨x, hx, heq⟩
    · rw [heq]
      exact (h.unbilled hd j).1
    · rw [heq]
      simpa [(h.unbilled hd j).1] using mt (hbilled _ x hx)

omit [DecidableEq T] in
lemma duty_put_neutral (hws : Neutral κ.id d.rows ws) :
    duty κ.id { d with rows := d.rows.put ws } γ = duty κ.id d γ := by
  have hstatus := count_put (fun k v hv => (hws k v hv).status) (.task κ.id)
  have hcredit := fun a : FundKey => count_put (fun k v hv => (hws k v hv).refunds) a.key
  simp only [duty, Duty.mk.injEq, true_and]
  exact ⟨hstatus, funext hcredit⟩

lemma duty_of_rows {d' : Db schema T} (hrows : d'.rows = d.rows) :
    duty κ.id d' (update γ t g) =
      { duty κ.id d γ with right := update (duty κ.id d γ).right t g.right, trace := d'.trace } := by
  simp only [duty, hrows, comp_update]

lemma duty_credit (a : FundKey) {v : Val a.key}
    (hv : refunds κ.id a.key v = refunds κ.id a.key (d.rows a.key) + 1) :
    duty κ.id { d with rows := d.rows.put [⟨a.key, v⟩] } (update γ t g) =
      { duty κ.id d γ with right := update (duty κ.id d γ).right t g.right,
                           credits := update (duty κ.id d γ).credits a ((duty κ.id d γ).credits a + 1) } := by
  have hne : .task κ.id ≠ a.key := (a.key_ne_task κ.id).symm
  simp only [duty, Duty.mk.injEq, comp_update, true_and]
  refine ⟨?_, funext fun b => ?_⟩
  · rw [put_one, update_of_ne hne]
  · by_cases hb : b = a
    · subst hb
      rw [put_one, update_self, update_self, hv]
    · have hkey : b.key ≠ a.key := fun h => hb (FundKey.key_inj h)
      rw [put_one, update_of_ne hkey, update_of_ne hb]

lemma duty_win {y : Task} :
    duty κ.id { d with rows := d.rows.put [⟨.task κ.id, some y⟩] } (update γ t g) =
      { duty κ.id d γ with status := some y.status, right := update (duty κ.id d γ).right t g.right } := by
  simp only [duty, Duty.mk.injEq, comp_update, true_and]
  refine ⟨?_, funext fun b => ?_⟩
  · rw [put_one, update_self, statusAt_task]
    rfl
  · rw [put_one, update_of_ne (b.key_ne_task κ.id)]

/-! ### Statements of transactions -/

lemma Base.write (h : Base κ R d γ) (hfree : d.free t ws)
    (htally : Tally (refunds κ.id) (d.write t ws) (update (posts ∘ γ) t g.posts))
    (hsub : ∀ n v, g.sub = some (n, v) → ws = [⟨.subscription n, v⟩]) (hentry : g.entry = (γ t).entry)
    (hstatus : ∀ v, (⟨.task κ.id, v⟩ : Write schema) ∈ ws → statusAt κ.id (.task κ.id) v =
      g.status (statusAt κ.id (.task κ.id) (d.rows (.task κ.id))))
    (hmoved : g.moved = (γ t).moved ∨ ∃ site src dst, g.moved = some (site, src, dst) ∧
      (∃ v, (⟨.task κ.id, v⟩ : Write schema) ∈ ws) ∧ statusAt κ.id (.task κ.id) (d.rows (.task κ.id)) = some src ∧
      R.Intends κ site src dst)
    (hbilled : ∀ k v, (⟨k, v⟩ : Write schema) ∈ ws → billedAt κ.id k v = true → billedAt κ.id k (d.view t k) = true) :
    Base κ R (d.write t ws) (update γ t g) := by
  have hcases := overlay_cases t ws d.dirty
  refine ⟨?_, fun u n v hu => ?_, ?_, fun u v hv => ?_, fun u site src dst hu => ?_, fun hd j => ?_⟩
  · rwa [comp_update]
  · by_cases hut : u = t
    · subst hut
      rw [update_self] at hu
      rw [hsub n v hu]
      exact update_self _ _ _
    · rw [update_of_ne hut] at hu
      exact dirty_write_of_other hfree hut (h.sub u n v hu)
  · exact forall_entry (hentry ▸ h.entered t) fun u _ => h.entered u
  · have hv' : overlay t ws d.dirty (.task κ.id) = some (u, v) := hv
    rcases hcases (.task κ.id) with ⟨hnot, heq⟩ | ⟨x, hx, heq⟩
    · rw [heq] at hv'
      by_cases hut : u = t
      · subst hut
        rw [update_self, status]
        rw [hmoved.resolve_right fun ⟨_, _, _, _, ⟨_, hy⟩, _⟩ => hnot _ hy rfl]
        exact h.dirty u v hv'
      · rw [update_of_ne hut]
        exact h.dirty u v hv'
    · rw [heq] at hv'
      obtain ⟨rfl, rfl⟩ := Prod.mk.inj (Option.some.inj hv')
      rw [update_self]
      exact hstatus x hx
  · by_cases hut : u = t
    · subst hut
      rw [update_self] at hu
      rcases hmoved with hm | ⟨site', src', dst', hm, ⟨y, hy⟩, hrest⟩
      · obtain ⟨⟨v, hv⟩, hrest⟩ := h.moved u site src dst (hm ▸ hu)
        refine ⟨?_, hrest⟩
        rcases hcases (.task κ.id) with ⟨-, heq⟩ | ⟨x, -, heq⟩
        · exact ⟨v, heq.trans hv⟩
        · exact ⟨x, heq⟩
      · rw [hm] at hu
        cases hu
        refine ⟨?_, hrest⟩
        rcases hcases (.task κ.id) with ⟨hnot, -⟩ | ⟨x, -, heq⟩
        · exact absurd rfl (hnot _ hy)
        · exact ⟨x, heq⟩
    · rw [update_of_ne hut] at hu
      obtain ⟨⟨v, hv⟩, hrest⟩ := h.moved u site src dst hu
      exact ⟨⟨v, dirty_write_of_other hfree hut hv⟩, hrest⟩
  · refine ⟨(h.unbilled hd j).1, fun u v hv => ?_⟩
    have hv' : overlay t ws d.dirty (.billing j) = some (u, v) := hv
    rcases hcases (.billing j) with ⟨-, heq⟩ | ⟨x, hx, heq⟩
    · rw [heq] at hv'
      exact (h.unbilled hd j).2 u v hv'
    · rw [heq] at hv'
      obtain ⟨rfl, rfl⟩ := Prod.mk.inj (Option.some.inj hv')
      simpa [h.view_unbilled hd] using mt (hbilled _ x hx)

lemma Base.write_neutral (h : Base κ R d γ) (hfree : d.free t ws)
    (hws : Neutral κ.id (d.view t) ws) (hposts : g.posts = (γ t).posts) (hmoved : g.moved = (γ t).moved)
    (hentry : g.entry = (γ t).entry) (hsub : ∀ n v, g.sub = some (n, v) → ws = [⟨.subscription n, v⟩]) :
    Base κ R (d.write t ws) (update γ t g) := by
  refine h.write hfree ?_ hsub hentry (fun v hv => ?_) (.inl hmoved) fun k v hv => (hws k v hv).billed
  · rw [← comp_update, comp_update_of_eq hposts]
    exact h.tally.update_neutral hfree fun k v hv => (hws k v hv).refunds
  · rw [(hws _ v hv).status, h.view_status t, status, status, hmoved]

lemma harmless_refl (id : ℕ) (k : Key) (x : Val k) : Harmless id k x x := ⟨rfl, rfl, fun h => h⟩

lemma Base.post (h : Base κ R d γ) (a : FundKey) {v : Val a.key}
    (hfree : d.free t [(⟨a.key, v⟩ : Write schema)])
    (hv : refunds κ.id a.key v = refunds κ.id a.key (d.view t a.key) + 1) (hg : (γ t).right = .credit)
    (hright : g.right = .posted a) (hmoved : g.moved = (γ t).moved) (hentry : g.entry = (γ t).entry)
    (hsub : g.sub = none) : Base κ R (d.write t [⟨a.key, v⟩]) (update γ t g) := by
  refine h.write hfree ?_ (fun n v hs => ?_) hentry (fun x hx => ?_) (.inl hmoved) fun k x hx hb => ?_
  · have hposts : g.posts = (γ t).posts + fun k => if k = a.key then 1 else 0 := by
      funext k
      simp [posts, hright, hg]
    rw [hposts]
    exact h.tally.post hfree hv
  · rw [hsub] at hs
    cases hs
  · exact absurd (Sigma.mk.inj (mem_singleton.1 hx)).1.symm (a.key_ne_task κ.id)
  · cases mem_singleton.1 hx
    cases a <;> cases hb

lemma Base.move (h : Base κ R d γ) {x y : Task} {site : CasSite}
    (hfree : d.free t [(⟨.task κ.id, some y⟩ : Write schema)]) (hg : (γ t).moved = none)
    (hx : d.view t (.task κ.id) = some x) (hp : R.Intends κ site x.status y.status)
    (hposts : g.posts = (γ t).posts) (hmoved : g.moved = some (site, x.status, y.status))
    (hentry : g.entry = (γ t).entry) (hsub : g.sub = none) :
    Base κ R (d.write t [⟨.task κ.id, some y⟩]) (update γ t g) := by
  have hstored : statusAt κ.id (.task κ.id) (d.rows (.task κ.id)) = some x.status := by
    have hview := h.view_status t
    rw [hx, status, hg, statusAt_task] at hview
    exact hview.symm
  refine h.write hfree ?_ (fun n v hs => ?_) hentry (fun v hv => ?_)
    (.inr ⟨site, x.status, y.status, hmoved, ⟨some y, mem_cons_self⟩, hstored, hp⟩)
    fun k v hv hb => ?_
  · rw [← comp_update, comp_update_of_eq hposts]
    exact h.tally.update_one hfree rfl
  · rw [hsub] at hs
    cases hs
  · obtain rfl : v = some y := by simpa using hv
    rw [status, hmoved, statusAt_task]
    rfl
  · obtain ⟨rfl, -⟩ := Sigma.mk.inj (mem_singleton.1 hv)
    cases hb

/-! ### The end of a transaction -/

section

variable (h : Base κ R d γ) (hposts : g.posts = 0) (hmoved : g.moved = none) (hsub : g.sub = none)

include h hposts hmoved hsub

lemma Base.rollback
    (hentry : ∀ x, g.entry = some x → R.enters x.1 x.2 = true) : Base κ R (d.rollback t) (update γ t g) := by
  refine ⟨?_, fun u n v hu => ?_, ?_, fun u v hv => ?_, fun u site src dst hu => ?_, fun hd j => ?_⟩
  · rw [comp_update, hposts]
    exact h.tally.rollback t
  · by_cases hut : u = t
    · subst hut
      rw [update_self, hsub] at hu
      cases hu
    · rw [update_of_ne hut] at hu
      exact (d.release_eq_some).2 ⟨h.sub u n v hu, hut⟩
  · exact forall_entry hentry fun u _ => h.entered u
  · obtain ⟨hv', hut⟩ := (d.release_eq_some).1 hv
    rw [update_of_ne hut]
    exact h.dirty u v hv'
  · by_cases hut : u = t
    · subst hut
      rw [update_self, hmoved] at hu
      cases hu
    · rw [update_of_ne hut] at hu
      obtain ⟨⟨v, hv⟩, hrest⟩ := h.moved u site src dst hu
      exact ⟨⟨v, (d.release_eq_some).2 ⟨hv, hut⟩⟩, hrest⟩
  · refine ⟨(h.unbilled hd j).1, fun u v hv => ?_⟩
    exact (h.unbilled hd j).2 u v ((d.release_eq_some).1 hv).1

lemma Base.commit (hentry : g.entry = (γ t).entry) : Base κ R (d.commit t) (update γ t g) := by
  have hback := h.rollback (t := t) hposts hmoved hsub fun x hx => h.entered t x (hentry.symm.trans hx)
  refine ⟨?_, hback.sub, hback.entered, fun u v hv => ?_, fun u site src dst hu => ?_, fun hd j => ?_⟩
  · rw [comp_update, hposts]
    exact h.tally.commit t
  · obtain ⟨hv', hut⟩ := (d.release_eq_some).1 hv
    rw [commit_rows, d.view_of_other hv' hut]
    exact hback.dirty u v hv
  · obtain ⟨⟨v, hv⟩, hrest⟩ := hback.moved u site src dst hu
    obtain ⟨hv', hut⟩ := (d.release_eq_some).1 hv
    refine ⟨⟨v, hv⟩, ?_⟩
    rw [commit_rows, d.view_of_other hv' hut]
    exact hrest
  · exact ⟨h.view_unbilled hd t j, (hback.unbilled hd j).2⟩

end

lemma Base.duty_commit (h : Base κ R d γ) (g : Phase) :
    duty κ.id (d.commit t) (update γ t g) =
      { duty κ.id d γ with
        status := (γ t).status (duty κ.id d γ).status
        right := update (duty κ.id d γ).right t g.right
        credits := fun a => (duty κ.id d γ).credits a + (γ t).posts a.key } := by
  simp only [duty, Duty.mk.injEq, comp_update, true_and]
  exact ⟨h.view_status t, rfl, funext fun a => h.tally.view t a.key⟩

lemma posts_of_right (h : ∀ a, g.right ≠ .posted a) : g.posts = 0 := by
  unfold posts
  split
  · next a ha => exact absurd ha (h a)
  · rfl

lemma right_update_self : update (duty κ.id d γ).right t (γ t).right = (duty κ.id d γ).right :=
  update_eq_self t (right ∘ γ)

lemma step_unposted (A : Duty T) (t : T) :
    Duty.Step κ R A { A with right := update A.right t (A.right t).unposted } := by
  cases hr : A.right t with
  | posted a => exact .drop A t
  | _ =>
    have hsame : update A.right t (A.right t).unposted = A.right := by simp [hr, Right.unposted]
    rw [← hr, hsame]
    exact .stay A

lemma Base.step_rollback (h : Base κ R d γ) (t : T) :
    Duty.Step κ R (duty κ.id d γ)
      { duty κ.id d γ with right := update (duty κ.id d γ).right t (γ t).rightAfter } := by
  unfold rightAfter
  split
  · next site src dst hm =>
    obtain ⟨-, -, hintends⟩ := h.moved t site src dst hm
    obtain ⟨trace, hp⟩ := hintends.permits
    split
    · next hi => exact .abandon _ t hp.uses hi hintends.durable
    · exact step_unposted _ t
  · exact step_unposted _ t

lemma Base.step_commit (h : Base κ R d γ) (hgo : Goes κ (γ t) .commit g) :
    Base κ R (d.commit t) (update γ t g) ∧
      Duty.Step κ R (duty κ.id d γ) (duty κ.id (d.commit t) (update γ t g)) := by
  rw [h.duty_commit]
  cases hgo with
  | commit hm hr =>
    have hposts : (γ t).posts = 0 := posts_of_right hr
    refine ⟨h.commit hposts hm rfl rfl, ?_⟩
    simp only [status, hm, hposts, right_update_self]
    exact .stay _
  | commitMoved site src dst hm hr =>
    obtain ⟨-, hstored, hintends⟩ := h.moved t site src dst hm
    refine ⟨h.commit (posts_of_right nofun) rfl rfl rfl, ?_⟩
    simp only [status, hm, posts_of_right hr]
    exact .intend _ t hstored hintends
  | commitPosted a hm hr =>
    refine ⟨h.commit (posts_of_right nofun) rfl rfl rfl, ?_⟩
    have hcredits : (fun b : FundKey => (duty κ.id d γ).credits b + (γ t).posts b.key) =
        update (duty κ.id d γ).credits a ((duty κ.id d γ).credits a + 1) := by
      funext b
      by_cases hb : b = a
      · subst hb
        simp [posts, hr]
      · have hkey : b.key ≠ a.key := fun hk => hb (FundKey.key_inj hk)
        simp [posts, hr, hb, hkey]
    simp only [status, hm, hcredits]
    exact .credit _ t a (.inr hr)

omit [DecidableEq T] in
lemma Base.permits (h : Base κ R d γ) {site : CasSite} {src dst : TaskStatus} {trace : List Event} (hu : κ.uses site)
    (ha : Allowed (γ t).entry site src dst) (hw : R.wins trace site src = true) : R.Permits κ trace site src dst :=
  ⟨hu, hw, _, ha, h.entered t⟩

variable {σ : Sys schema T}

section

variable (h : Base κ R σ.db γ)

include h

lemma Base.step_update {ℓ : Label}
    (hok : R.Ok κ.id σ t (.update ℓ (σ.db.view t) ws)) (hfree : σ.db.free t ws)
    (hgo : Goes κ (γ t) (.update ℓ (σ.db.view t) ws) g) :
    Base κ R (σ.db.write t ws) (update γ t g) ∧
      Duty.Step κ R (duty κ.id σ.db γ) (duty κ.id (σ.db.write t ws) (update γ t g)) := by
  have hstay : g.right = (γ t).right → Duty.Step κ R (duty κ.id σ.db γ)
      { duty κ.id σ.db γ with right := update (duty κ.id σ.db γ).right t g.right } := by
    intro hg
    rw [hg, right_update_self]
    exact .stay _
  rw [duty_of_rows (σ.db.write_rows ws)]
  cases hgo with
  | neutral _ _ _ hws =>
    exact ⟨h.write_neutral hfree hws rfl rfl rfl fun n v hs => (by cases hs), hstay rfl⟩
  | lock _ _ n =>
    refine ⟨h.write_neutral hfree (neutral_one (harmless_refl _ _ _)) rfl rfl rfl fun n' v hs => ?_, hstay rfl⟩
    cases hs
    rfl
  | post _ _ a v hg hv => exact ⟨h.post a hfree hv hg rfl rfl rfl rfl, .post _ t a hg⟩
  | move site _ x y hu hd hg hx ha ht =>
    have hseen : (σ.db.view t (.task κ.id)).map Task.status = some x.status := by rw [hx]; rfl
    have hw := hok rfl
    rw [if_pos hseen] at hw
    exact ⟨h.move hfree hg hx ⟨hd, ht, _, h.permits hu ha hw⟩ rfl rfl rfl rfl, hstay rfl⟩
  | loseTx site src _ hu hi hr hx =>
    have hl := hok rfl
    rw [if_neg hx] at hl
    have hposts : ({ γ t with right := .refund, sub := none } : Phase).posts = (γ t).posts := (posts_of_right hr).symm
    exact ⟨h.write_neutral hfree (neutral_nil _ _) hposts rfl rfl fun n v hs => (by cases hs), .lose _ t hu hl hi⟩

lemma Base.step_auto {ℓ : Label}
    (hok : R.Ok κ.id σ t (.auto ℓ σ.db.rows ws)) (hclear : σ.db.clear ws) (hgo : Goes κ (γ t) (.auto ℓ σ.db.rows ws) g) :
    Base κ R { σ.db with rows := σ.db.rows.put ws } (update γ t g) ∧
      Duty.Step κ R (duty κ.id σ.db γ) (duty κ.id { σ.db with rows := σ.db.rows.put ws } (update γ t g)) := by
  cases hgo with
  | auto _ _ _ hws =>
    rw [update_eq_self, duty_put_neutral hws]
    exact ⟨h.put hclear fun k v hv => (hws k v hv).billed, .stay _⟩
  | credit _ _ a v hg hv =>
    have hput := h.put hclear fun k x hx hb => by
      obtain ⟨rfl, -⟩ := Sigma.mk.inj (mem_singleton.1 hx)
      cases a <;> cases hb
    have hposts : ({ γ t with right := .none } : Phase).posts = (γ t).posts :=
      (posts_of_right fun b hb => by rw [hg] at hb; cases hb).symm
    rw [duty_credit a hv]
    exact ⟨hput.phase hposts rfl rfl (h.entered t), .credit _ t a (.inl hg)⟩
  | win site _ x y hu hr hx ha =>
    have hput := h.put hclear fun k z hz hb => by
      obtain ⟨rfl, -⟩ := Sigma.mk.inj (mem_singleton.1 hz)
      cases hb
    have hnot : ∀ a, granted site y.status ≠ .posted a := by
      unfold granted
      split
      · simp
      · split <;> simp
    have hposts : ({ γ t with right := granted site y.status } : Phase).posts = (γ t).posts :=
      (posts_of_right hnot).trans (posts_of_right hr).symm
    have hstored : (σ.db.rows (.task κ.id)).map Task.status = some x.status := by rw [hx]; rfl
    have hw := hok rfl
    rw [if_pos hstored] at hw
    rw [duty_win]
    refine ⟨hput.phase hposts rfl rfl (h.entered t), .win _ t ?_ (h.permits hu ha hw)⟩
    exact (statusAt_task _ _).trans hstored
  | lose site src _ hu hi hr hx =>
    have hl := hok rfl
    rw [if_neg hx] at hl
    have hposts : ({ γ t with right := .refund } : Phase).posts = (γ t).posts := (posts_of_right hr).symm
    refine ⟨(h.put hclear fun k z hz => nomatch hz).phase hposts rfl rfl (h.entered t), ?_⟩
    rw [duty_of_rows (by rfl)]
    exact .lose _ t hu hl hi

lemma Base.step_emit {e : Event} (hok : R.Ok κ.id σ t (.emit e))
    (hgo : Goes κ (γ t) (.emit e) g) :
    Base κ R { σ.db with trace := σ.db.trace ++ [e] } (update γ t g) ∧
      Duty.Step κ R (duty κ.id σ.db γ) (duty κ.id { σ.db with trace := σ.db.trace ++ [e] } (update γ t g)) := by
  have hbase : Base κ R { σ.db with trace := σ.db.trace ++ [e] } γ := h.congr rfl rfl
  rw [duty_of_rows (by rfl)]
  have hposts : ∀ {r r' : Right}, (γ t).right = r → (∀ a, r ≠ .posted a) → (∀ a, r' ≠ .posted a) →
      ({ γ t with right := r' } : Phase).posts = (γ t).posts :=
    fun hr hne hne' => (posts_of_right hne').trans (posts_of_right (hr ▸ hne)).symm
  cases hgo with
  | emit _ hb he =>
    rw [right_update_self, update_eq_self]
    exact ⟨hbase, .emit _ hb⟩
  | enter task answer =>
    refine ⟨hbase.phase rfl rfl rfl fun x hx => ?_, ?_⟩
    · cases hx
      exact hok rfl
    · rw [right_update_self]
      exact .emit _ (by simp [billing])
  | settle hr =>
    exact ⟨hbase.phase (hposts hr (by simp) (by simp)) rfl rfl (h.entered t), .settle _ t hr⟩
  | finalize hr =>
    exact ⟨hbase.phase (hposts hr (by simp) (by simp)) rfl rfl (h.entered t), .finalize _ t hr⟩
  | refund hr =>
    exact ⟨hbase.phase (hposts hr (by simp) (by simp)) rfl rfl (h.entered t), .refund _ t hr⟩
  | intent site hr =>
    refine ⟨hbase.phase (hposts hr (by simp) fun a => ?_) rfl rfl (h.entered t), .intent _ t hr⟩
    split <;> simp

end

/-- **The functions refine the machine**: what they perform in a run of the regime is a step of it. -/
lemma taskProtocol_leads (κ : Scope) (R : Regime) (J : Duty T → Prop) :
    (taskProtocol κ).Leads (R.Ok κ.id) (fun d γ => Base κ R d γ ∧ J (duty κ.id d γ))
      fun d γ => Base κ R d γ ∧ ∃ A, J A ∧ Duty.Step κ R A (duty κ.id d γ) where
  sees _ _ t _ hI _ hm := hI.1.sees t hm
  stay _ _ hI := ⟨hI.1, _, hI.2, .stay _⟩
  tick _ _ _ hI := ⟨hI.1.congr rfl rfl, _, hI.2, .stay _⟩
  read σ γ t ℓ g hI _ hgo := by
    cases hgo
    rw [update_eq_self]
    exact ⟨hI.1, _, hI.2, .stay _⟩
  update σ γ t ℓ ws g hI hok hfree hgo :=
    have hstep := hI.1.step_update hok hfree hgo
    ⟨hstep.1, _, hI.2, hstep.2⟩
  auto σ γ t ℓ ws g hI hok hclear hgo :=
    have hstep := hI.1.step_auto hok hclear hgo
    ⟨hstep.1, _, hI.2, hstep.2⟩
  start d γ t g hI hgo := by
    cases hgo
    rw [update_eq_self]
    exact ⟨hI.1.congr rfl rfl, _, hI.2, .stay _⟩
  commit σ γ t g hI _ hgo :=
    have hstep := hI.1.step_commit hgo
    ⟨hstep.1, _, hI.2, hstep.2⟩
  rollback d γ t g hI hgo := by
    cases hgo
    refine ⟨hI.1.rollback (posts_of_right (rightAfter_ne _)) rfl rfl (hI.1.entered t), _, hI.2, ?_⟩
    rw [duty_of_rows (by rfl)]
    exact hI.1.step_rollback t
  emit σ γ t e g hI hok hgo :=
    have hstep := hI.1.step_emit hok hgo
    ⟨hstep.1, _, hI.2, hstep.2⟩
  lock _ _ _ m := nomatch m
  unlock _ _ _ m := nomatch m
  stop d γ t hI hq := by
    have hquiet : (γ t).Quiet := hq
    refine ⟨hI.1.phase (posts_of_right hquiet.right).symm hquiet.sub.symm hquiet.moved.symm (fun x hx => nomatch hx),
      _, hI.2, ?_⟩
    rw [duty_of_rows rfl]
    exact .drop _ t
  die d γ t hI := by
    have hback := hI.1.rollback (t := t) (g := (taskProtocol κ).idle) (posts_of_right nofun) rfl rfl
      fun x hx => nomatch hx
    refine ⟨hback.congr rfl rfl, _, hI.2, ?_⟩
    rw [duty_of_rows (by rfl)]
    exact .drop _ t

/-! ### Runs -/

def Duty.rest (id : ℕ) (r : Snap schema) : Duty T where
  status := statusAt id (.task id) (r (.task id))
  right _ := .none
  trace := []
  credits a := refunds id a.key (r a.key)

omit [DecidableEq T] in
lemma Base.rest {r : Snap schema} (z : ℤ) (hr : ¬κ.durable → ∀ j, billedAt κ.id (.billing j) (r (.billing j)) = false) :
    Base κ R (rest r z : Db schema T) fun _ => {} := by
  refine ⟨?_, (fun t n v h => nomatch h), (fun t x h => nomatch h), (fun t v h => nomatch h),
    (fun t site src dst h => nomatch h), fun hd j => ⟨hr hd j, fun t v h => nomatch h⟩⟩
  exact Tally.rest r z

/-- **Runs.** A property that the steps of the machine keep holds after every run of the regime. -/
lemma run_duty {J : Duty T → Prop} (hJ : ∀ A B, J A → Duty.Step κ R A B → J B) {code : T → Prog schema Unit → Prop}
    (hcode : ∀ t p, code t p → (taskProtocol κ).Follows p (fun _ g => g.Quiet) {}) {r : Snap schema} {z : ℤ}
    (hr : ¬κ.durable → ∀ j, billedAt κ.id (.billing j) (r (.billing j)) = false) (hinit : J (.rest κ.id r))
    {τ : Sys schema T} {as : List (Act schema T)}
    (hok : Along Sys.step (fun σ a => σ.Performs (R.Ok κ.id) a ∧ σ.Calls code a) (Sys.rest r z) as)
    (hrun : runs Sys.step (Sys.rest r z) as = some τ) :
    Protocol.Holds (taskProtocol κ) (fun d γ => Base κ R d γ ∧ J (duty κ.id d γ)) τ := by
  have hkeeps : (taskProtocol κ).Keeps (R.Ok κ.id) fun d γ => Base κ R d γ ∧ J (duty κ.id d γ) := by
    refine (taskProtocol_leads κ R J).mono ?_
    rintro d γ ⟨hbase, A, hA, hstep⟩
    exact ⟨hbase, hJ A _ hA hstep⟩
  exact run_holds hkeeps hcode ⟨.rest z hr, hinit⟩ hok hrun

end refinement

end StarNexus.Polling
