import StarNexus.Lib.Sys

/-!
# Protocols that clients follow

To reason about all interleavings, each client is given a *phase*, and a `Protocol` says which statements a
client may perform in a phase and in which phase it is afterwards.  The work splits in two:

* `Protocol.Follows` is a property of the code, proved function by function: a program performs only statements that
  `π` allows, whatever the other clients do in between;
* `Protocol.Keeps` is a property of the protocol, proved once: the statements that it allows keep an invariant `I`.

`Protocol.run_inv` puts the two together: `I` holds after every run of clients that follow `π`.
-/

namespace StarNexus.Lib

open Function Option Tx

variable {S : Schema} {G α β : Type}

/-- What clients may do: `sees g m` is what a client in phase `g` can rely on when it performs `m`, `goes g m g'`
allows `m` and moves to phase `g'`, and a client may end its program in a phase of `stops`. -/
structure Protocol (S : Schema) (G : Type) where
  idle : G
  sees : G → Move S → Prop
  goes : G → Move S → G → Prop
  stops : G → Prop
  stops_idle : stops idle

namespace Protocol

variable (π : Protocol S G)

/-- The program performs only allowed statements from phase `g` on, and ends in `Q`. -/
def Follows : Prog S α → (α → G → Prop) → G → Prop
  | .pure a, Q, g => Q a g
  | .now n, Q, g => ∀ z, Follows (n z) Q g
  | .read ℓ n, Q, g =>
    Follows (n none) Q g ∧
      ∀ s, π.sees g (.read ℓ s) → ∃ g', π.goes g (.read ℓ s) g' ∧ Follows (n (some s)) Q g'
  | .update ℓ f n, Q, g =>
    Follows (n none) Q g ∧
      ∀ s, π.sees g (.update ℓ s (f s)) →
        ∃ g', π.goes g (.update ℓ s (f s)) g' ∧ Follows (n (some (f s).length)) Q g'
  | .auto ℓ f n, Q, g =>
    Follows (n none) Q g ∧
      ∀ s, π.sees g (.auto ℓ s (f s)) →
        ∃ g', π.goes g (.auto ℓ s (f s)) g' ∧ Follows (n (some (f s).length)) Q g'
  | .start n, Q, g => Follows (n false) Q g ∧ ∃ g', π.goes g .start g' ∧ Follows (n true) Q g'
  | .commit n, Q, g =>
    (∃ g', π.goes g .rollback g' ∧ Follows (n false) Q g') ∧
      (π.sees g .commit → ∃ g', π.goes g .commit g' ∧ Follows (n true) Q g')
  | .rollback n, Q, g => ∃ g', π.goes g .rollback g' ∧ Follows n Q g'
  | .emit e n, Q, g => π.sees g (.emit e) → ∃ g', π.goes g (.emit e) g' ∧ Follows n Q g'
  | .lock m n, Q, g => ∃ g', π.goes g (.lock m) g' ∧ Follows n Q g'
  | .unlock m n, Q, g => ∃ g', π.goes g (.unlock m) g' ∧ Follows n Q g'

variable {π} {Q Q' : α → G → Prop} {g : G} {p : Prog S α} {f : α → Prog S β}

/-- **Sequencing**: the second program starts in a phase in which the first one ended. -/
lemma Follows.andThen {R : β → G → Prop} (h : π.Follows p Q g)
    (hf : ∀ a g, Q a g → π.Follows (f a) R g) : π.Follows (p.bind f) R g := by
  induction p generalizing g with
  | pure a => exact hf _ _ h
  | now n ih => exact fun z => ih z (h z)
  | read ℓ n ih | update ℓ f n ih | auto ℓ f n ih => exact ⟨ih _ h.1, fun s hs => (h.2 s hs).imp fun g' hg => ⟨hg.1, ih _ hg.2⟩⟩
  | start n ih => exact ⟨ih _ h.1, h.2.imp fun g' hg => ⟨hg.1, ih _ hg.2⟩⟩
  | commit n ih =>
    exact ⟨h.1.imp fun g' hg => ⟨hg.1, ih _ hg.2⟩, fun hs => (h.2 hs).imp fun g' hg => ⟨hg.1, ih _ hg.2⟩⟩
  | rollback n ih | lock m n ih | unlock m n ih => exact h.imp fun g' hg => ⟨hg.1, ih hg.2⟩
  | emit e n ih => exact fun hs => (h hs).imp fun g' hg => ⟨hg.1, ih hg.2⟩

lemma Follows.bind {Q : β → G → Prop}
    (h : π.Follows p (fun a g => π.Follows (f a) Q g) g) : π.Follows (p.bind f) Q g := h.andThen fun _ _ hf => hf

lemma Follows.mono (h : π.Follows p Q g) (hQ : ∀ a g, Q a g → Q' a g) : π.Follows p Q' g := by
  rw [← p.bind_pure]
  exact h.andThen hQ

end Protocol

/-! ### Rules for functions with errors -/

variable {p : Tx S α} {f : α → Tx S β}

namespace Protocol

variable {π : Protocol S G} {g : G} {Q : Except Err β → G → Prop}

lemma Follows.tx_bind
    (h : π.Follows p (fun x g => (∀ e, x = .error e → Q (.error e) g) ∧ ∀ a, x = .ok a → π.Follows (f a) Q g) g) :
    π.Follows (p >>= f : Tx S β) Q g := by
  refine .bind (h.mono ?_)
  rintro (e | a) g hg
  · exact hg.1 e rfl
  · exact hg.2 a rfl

lemma Follows.seq
    (hp : π.Follows p (fun _ g' => g' = g) g) (herr : ∀ e, Q (.error e) g) (hf : ∀ a, π.Follows (f a) Q g) :
    π.Follows (p >>= f : Tx S β) Q g := by
  refine .tx_bind (hp.mono ?_)
  rintro x _ rfl
  exact ⟨fun e _ => herr e, fun a _ => hf a⟩

lemma Follows.ite {c : Prop} [Decidable c] {p q : Prog S α} {Q : α → G → Prop} (hp : c → π.Follows p Q g)
    (hq : ¬c → π.Follows q Q g) : π.Follows (if c then p else q) Q g := by
  split
  · next hc => exact hp hc
  · next hc => exact hq hc

/-- A transaction: after an error of the body the transaction is rolled back, otherwise committed. -/
lemma Follows.transaction {body : Tx S α} {Q : Except Err α → G → Prop}
    (hfail : Q (.error .database) g)
    (h : ∃ g', π.goes g .start g' ∧ π.Follows body (fun x g =>
      (∀ e, x = .error e → ∃ g', π.goes g .rollback g' ∧ Q (.error e) g') ∧
      ∀ a, x = .ok a → (∃ g', π.goes g .rollback g' ∧ Q (.error .database) g') ∧
        (π.sees g .commit → ∃ g', π.goes g .commit g' ∧ Q (.ok a) g')) g') :
    π.Follows (Tx.transaction body) Q g := by
  obtain ⟨g', hgo, hbody⟩ := h
  refine ⟨hfail, g', hgo, .bind (hbody.mono ?_)⟩
  rintro (e | a) g hg
  · exact hg.1 e rfl
  · exact hg.2 a rfl

lemma Follows.attempt {Q : Except Err (Except Err α) → G → Prop}
    (h : π.Follows p (fun x g => Q (.ok x) g) g) : π.Follows (Tx.attempt p) Q g := .bind h

/-- Sequencing after a function whose error is looked at. -/
lemma Follows.attempt_bind {f : Except Err α → Tx S β}
    (h : π.Follows p (fun x g => π.Follows (f x) Q g) g) : π.Follows (Tx.attempt p >>= f : Tx S β) Q g := by
  refine .tx_bind (.attempt (h.mono fun x g hx => ⟨nofun, fun a ha => ?_⟩))
  cases ha
  exact hx

abbrev Stays (π : Protocol S G) (p : Tx S α) : Prop := π.Follows p (fun _ g => g = π.idle) π.idle

lemma Follows.discard {Q : Unit → G → Prop} (h : π.Follows p (fun _ g => Q () g) g) :
    π.Follows (discard p) Q g := .bind h

/-! ### Bodies of transactions -/

/-- The body of a transaction follows the protocol, and is in a phase of `R` when it has succeeded.  The phase in
which it fails does not matter as long as every phase can be rolled back. -/
def Body (π : Protocol S G) (p : Tx S α) (R : α → G → Prop) (g : G) : Prop :=
  π.Follows p (fun x g' => ∀ a, x = .ok a → R a g') g

variable {R R' : α → G → Prop}

lemma Body.mono (h : π.Body p R g) (hR : ∀ a g', R a g' → R' a g') : π.Body p R' g :=
  Follows.mono h fun _ g' hx a ha => hR a g' (hx a ha)

lemma Body.pure {a : α} (h : R a g) : π.Body (Pure.pure a) R g := by
  intro b hb
  cases hb
  exact h

lemma Body.fail (e : Err) : π.Body (fail e) R g := by
  intro b hb
  cases hb

lemma Body.now {R : ℤ → G → Prop} (h : ∀ z, R z g) : π.Body now R g := by
  intro z b hb
  cases hb
  exact h z

lemma Body.select {ℓ : S.Label} {q : Snap S → α}
    (h : ∀ s, π.sees g (.read ℓ s) → ∃ g', π.goes g (.read ℓ s) g' ∧ R (q s) g') : π.Body (select ℓ q) R g := by
  refine ⟨fun b hb => ?_, fun s hs => ?_⟩
  · cases hb
  · obtain ⟨g', hgo, hR⟩ := h s hs
    refine ⟨g', hgo, fun b hb => ?_⟩
    cases hb
    exact hR

lemma Body.bind {R : β → G → Prop}
    (h : π.Body p (fun a g' => π.Body (f a) R g') g) : π.Body (p >>= f) R g := by
  refine .tx_bind (.mono h ?_)
  intro x g' hx
  refine ⟨fun e _ b hb => ?_, hx⟩
  cases hb

lemma Body.ite {c : Prop} [Decidable c] {p q : Tx S α} (hp : c → π.Body p R g) (hq : ¬c → π.Body q R g) :
    π.Body (if c then p else q) R g := Follows.ite hp hq

/-- An `UPDATE` of one row, split by whether the row matches. -/
lemma Body.row {R : ℕ → G → Prop} {ℓ : S.Label} {k : S.Key} {f : S.Val k → Option (S.Val k)}
    (hnone : ∀ s, π.sees g (.update ℓ s []) → f (s k) = none → ∃ g', π.goes g (.update ℓ s []) g' ∧ R 0 g')
    (hsome : ∀ s v, π.sees g (.update ℓ s [⟨k, v⟩]) → f (s k) = some v →
      ∃ g', π.goes g (.update ℓ s [⟨k, v⟩]) g' ∧ R 1 g') :
    π.Body (exec ℓ (rowWrite k f)) R g := by
  refine ⟨fun b hb => ?_, fun s hs => ?_⟩
  · cases hb
  unfold rowWrite at hs ⊢
  cases hv : f (s k) with
  | none =>
    rw [hv] at hs
    obtain ⟨g', hgo, hR⟩ := hnone s hs hv
    refine ⟨g', hgo, fun b hb => ?_⟩
    cases hb
    exact hR
  | some v =>
    rw [hv] at hs
    obtain ⟨g', hgo, hR⟩ := hsome s v hs hv
    refine ⟨g', hgo, fun b hb => ?_⟩
    cases hb
    exact hR

lemma Follows.ofBody {body : Tx S α} {Q : Except Err α → G → Prop} {g₁ : G} (hfail : Q (.error .database) g)
    (hstart : π.goes g .start g₁) (hbody : π.Body body R g₁)
    (hback : ∀ g' e, ∃ g'', π.goes g' .rollback g'' ∧ Q (.error e) g'')
    (hcommit : ∀ a g', R a g' → π.sees g' .commit → ∃ g'', π.goes g' .commit g'' ∧ Q (.ok a) g'') :
    π.Follows (Tx.transaction body) Q g := by
  refine .transaction hfail ⟨g₁, hstart, .mono hbody fun x g' hx => ⟨fun e _ => hback g' e, fun a ha => ?_⟩⟩
  exact ⟨hback g' _, hcommit a g' (hx a ha)⟩

end Protocol

/-! ### Functions that leave no transaction open -/

section stays

variable {π : Protocol S G}

lemma stays_bind (hp : π.Stays p) (hf : ∀ a, π.Stays (f a)) : π.Stays (p >>= f) :=
  .seq hp (fun _ => rfl) hf

lemma stays_attempt (hp : π.Stays p) : π.Stays (Tx.attempt p) := .attempt hp

lemma stays_now : π.Stays now := fun _ => rfl

lemma stays_select {ℓ : S.Label} {q : Snap S → α} (h : ∀ s, π.goes π.idle (.read ℓ s) π.idle) :
    π.Stays (select ℓ q) := ⟨rfl, fun s _ => ⟨_, h s, rfl⟩⟩

end stays

/-! ### Protocols inside protocols -/

namespace Protocol

/-- **A protocol inside another one.**  If every statement that `π` allows from `g` to `g'` is one that `ρ` allows from
`f g` to `f g'`, then the programs that follow `π` follow `ρ`. -/
lemma Follows.map {G' : Type} {π : Protocol S G} {ρ : Protocol S G'} (f : G → G')
    (hsees : ∀ g m, ρ.sees (f g) m → π.sees g m) (hgoes : ∀ g m g', π.goes g m g' → ρ.goes (f g) m (f g'))
    {p : Prog S α} {Q : α → G → Prop} {g : G} (h : π.Follows p Q g) :
    ρ.Follows p (fun a g' => ∃ g₀, g' = f g₀ ∧ Q a g₀) (f g) := by
  induction p generalizing g with
  | pure a => exact ⟨g, rfl, h⟩
  | now n ih => exact fun z => ih z (h z)
  | read ℓ n ih | update ℓ w n ih | auto ℓ w n ih =>
    refine ⟨ih _ h.1, fun s hs => ?_⟩
    obtain ⟨g', hgo, hg⟩ := h.2 s (hsees _ _ hs)
    exact ⟨f g', hgoes _ _ _ hgo, ih _ hg⟩
  | start n ih =>
    obtain ⟨g', hgo, hg⟩ := h.2
    exact ⟨ih _ h.1, f g', hgoes _ _ _ hgo, ih _ hg⟩
  | commit n ih =>
    obtain ⟨g', hgo, hg⟩ := h.1
    refine ⟨⟨f g', hgoes _ _ _ hgo, ih _ hg⟩, fun hs => ?_⟩
    obtain ⟨g', hgo, hg⟩ := h.2 (hsees _ _ hs)
    exact ⟨f g', hgoes _ _ _ hgo, ih _ hg⟩
  | rollback n ih | lock m n ih | unlock m n ih =>
    obtain ⟨g', hgo, hg⟩ := h
    exact ⟨f g', hgoes _ _ _ hgo, ih hg⟩
  | emit e n ih =>
    intro hs
    obtain ⟨g', hgo, hg⟩ := h (hsees _ _ hs)
    exact ⟨f g', hgoes _ _ _ hgo, ih hg⟩

end Protocol

/-! ### From programs to runs -/

namespace Protocol

variable {T : Type} [DecidableEq T]

/-- Every statement that the protocol allows leads from `I` to `I'`, two properties of the database and the phases. -/
structure Leads (π : Protocol S G) (ok : Sys S T → T → Move S → Prop) (I I' : Db S T → (T → G) → Prop) : Prop where
  sees : ∀ σ γ t m, I σ.db γ → ok σ t m → σ.db.move t (σ.pc t) = some m → π.sees (γ t) m
  stay : ∀ d γ, I d γ → I' d γ
  tick : ∀ d γ z, I d γ → I' { d with clock := z } γ
  read : ∀ σ γ t ℓ g, I σ.db γ → ok σ t (.read ℓ (σ.db.view t)) → π.goes (γ t) (.read ℓ (σ.db.view t)) g →
    I' σ.db (Function.update γ t g)
  update : ∀ σ γ t ℓ ws g, I σ.db γ → ok σ t (.update ℓ (σ.db.view t) ws) → σ.db.free t ws →
    π.goes (γ t) (.update ℓ (σ.db.view t) ws) g → I' (σ.db.write t ws) (Function.update γ t g)
  auto : ∀ σ γ t ℓ ws g, I σ.db γ → ok σ t (.auto ℓ σ.db.rows ws) → σ.db.clear ws →
    π.goes (γ t) (.auto ℓ σ.db.rows ws) g → I' { σ.db with rows := σ.db.rows.put ws } (Function.update γ t g)
  start : ∀ d γ t g, I d γ → π.goes (γ t) .start g →
    I' { d with active := Function.update d.active t true } (Function.update γ t g)
  commit : ∀ σ γ t g, I σ.db γ → ok σ t .commit → π.goes (γ t) .commit g →
    I' (σ.db.commit t) (Function.update γ t g)
  rollback : ∀ d γ t g, I d γ → π.goes (γ t) .rollback g → I' (d.rollback t) (Function.update γ t g)
  emit : ∀ σ γ t e g, I σ.db γ → ok σ t (.emit e) → π.goes (γ t) (.emit e) g →
    I' { σ.db with trace := σ.db.trace ++ [e] } (Function.update γ t g)
  lock : ∀ d γ t m g, I d γ → d.held m = none → π.goes (γ t) (.lock m) g →
    I' { d with held := Function.update d.held m (some t) } (Function.update γ t g)
  unlock : ∀ d γ t m g, I d γ → π.goes (γ t) (.unlock m) g →
    I' { d with held := Function.update d.held m none } (Function.update γ t g)
  stop : ∀ d γ t, I d γ → π.stops (γ t) → I' d (Function.update γ t π.idle)
  die : ∀ d γ t, I d γ → I' (d.die t) (Function.update γ t π.idle)

/-- Every statement that the protocol allows keeps the invariant `I`. -/
abbrev Keeps (π : Protocol S G) (ok : Sys S T → T → Move S → Prop) (I : Db S T → (T → G) → Prop) : Prop :=
  Leads π ok I I

variable {π : Protocol S G} {ok : Sys S T → T → Move S → Prop} {I I' : Db S T → (T → G) → Prop}

lemma Leads.mono {I'' : Db S T → (T → G) → Prop} (hk : Leads π ok I I') (h : ∀ d γ, I' d γ → I'' d γ) :
    Leads π ok I I'' where
  sees := hk.sees
  stay d γ hI := h _ _ (hk.stay d γ hI)
  tick d γ z hI := h _ _ (hk.tick d γ z hI)
  read σ γ t ℓ g hI hok hgo := h _ _ (hk.read σ γ t ℓ g hI hok hgo)
  update σ γ t ℓ ws g hI hok hfree hgo := h _ _ (hk.update σ γ t ℓ ws g hI hok hfree hgo)
  auto σ γ t ℓ ws g hI hok hclear hgo := h _ _ (hk.auto σ γ t ℓ ws g hI hok hclear hgo)
  start d γ t g hI hgo := h _ _ (hk.start d γ t g hI hgo)
  commit σ γ t g hI hok hgo := h _ _ (hk.commit σ γ t g hI hok hgo)
  rollback d γ t g hI hgo := h _ _ (hk.rollback d γ t g hI hgo)
  emit σ γ t e g hI hok hgo := h _ _ (hk.emit σ γ t e g hI hok hgo)
  lock d γ t m g hI hheld hgo := h _ _ (hk.lock d γ t m g hI hheld hgo)
  unlock d γ t m g hI hgo := h _ _ (hk.unlock d γ t m g hI hgo)
  stop d γ t hI hstop := h _ _ (hk.stop d γ t hI hstop)
  die d γ t hI := h _ _ (hk.die d γ t hI)

/-- The invariant, and every client still follows the protocol from its phase on. -/
def Holds (π : Protocol S G) (I : Db S T → (T → G) → Prop) (σ : Sys S T) : Prop :=
  ∃ γ : T → G, I σ.db γ ∧ ∀ t, π.Follows (σ.pc t) (fun _ g => π.stops g) (γ t)

lemma comp_update_of_eq {A : Type} {f : G → A} {γ : T → G} {t : T} {g : G} (h : f g = f (γ t)) :
    f ∘ update γ t g = f ∘ γ := by
  rw [comp_update, h]
  exact update_eq_self t _

variable {p : Prog S Unit}

lemma follows_update {γ : T → G} {pc : T → Prog S Unit} {t : T} {g : G}
    (hall : ∀ u, π.Follows (pc u) (fun _ g => π.stops g) (γ u)) (hp : π.Follows p (fun _ g => π.stops g) g) (u : T) :
    π.Follows (update pc t p u) (fun _ g => π.stops g) (update γ t g u) := by
  by_cases hu : u = t
  · subst hu
    simpa using hp
  · simpa [hu] using hall u

lemma Holds.perform (hk : Leads π ok I I') {σ : Sys S T} (h : Holds π I σ) (t : T)
    (hok : ∀ m, σ.db.move t (σ.pc t) = some m → ok σ t m) {d : Db S T}
    (hp : σ.db.perform t (σ.pc t) = some (d, p)) : Holds π I' ⟨d, update σ.pc t p⟩ := by
  obtain ⟨γ, hI, hall⟩ := h
  have hsees := fun m hm => hk.sees σ γ t m hI (hok m hm) hm
  have ht := hall t
  cases hpc : σ.pc t with
  | pure a => simp [hpc, Db.perform] at hp
  | now n =>
    simp only [hpc] at hp ht
    obtain ⟨rfl, rfl⟩ := hp
    have hn := follows_update hall (ht σ.db.clock) (t := t)
    rw [update_eq_self] at hn
    exact ⟨γ, hk.stay _ _ hI, hn⟩
  | read ℓ n =>
    simp only [hpc, Db.move, Option.some.injEq, forall_eq'] at hp ht hsees hok
    obtain ⟨rfl, rfl⟩ := hp
    obtain ⟨g, hgo, hg⟩ := ht.2 _ hsees
    exact ⟨_, hk.read σ _ t ℓ g hI hok hgo, follows_update hall hg⟩
  | update ℓ f n =>
    simp only [hpc, Db.perform, Db.move, Option.some.injEq, forall_eq'] at hp ht hsees hok
    obtain ⟨hfree, ⟨⟩⟩ := ite_none_right_eq_some.1 hp
    obtain ⟨g, hgo, hg⟩ := ht.2 _ hsees
    exact ⟨_, hk.update σ _ t ℓ _ g hI hok hfree hgo, follows_update hall hg⟩
  | auto ℓ f n =>
    simp only [hpc, Db.perform, Db.move, Option.some.injEq, forall_eq'] at hp ht hsees hok
    obtain ⟨hclear, ⟨⟩⟩ := ite_none_right_eq_some.1 hp
    obtain ⟨g, hgo, hg⟩ := ht.2 _ hsees
    exact ⟨_, hk.auto σ _ t ℓ _ g hI hok hclear hgo, follows_update hall hg⟩
  | start n =>
    simp only [hpc] at hp ht
    obtain ⟨rfl, rfl⟩ := hp
    obtain ⟨g, hgo, hg⟩ := ht.2
    exact ⟨_, hk.start _ _ t g hI hgo, follows_update hall hg⟩
  | commit n =>
    simp only [hpc, Db.move, Option.some.injEq, forall_eq'] at hp ht hsees hok
    obtain ⟨rfl, rfl⟩ := hp
    obtain ⟨g, hgo, hg⟩ := ht.2 hsees
    exact ⟨_, hk.commit σ _ t g hI hok hgo, follows_update hall hg⟩
  | rollback n =>
    simp only [hpc] at hp ht
    obtain ⟨rfl, rfl⟩ := hp
    obtain ⟨g, hgo, hg⟩ := ht
    exact ⟨_, hk.rollback _ _ t g hI hgo, follows_update hall hg⟩
  | emit e n =>
    simp only [hpc, Db.move, Option.some.injEq, forall_eq'] at hp ht hsees hok
    obtain ⟨rfl, rfl⟩ := hp
    obtain ⟨g, hgo, hg⟩ := ht hsees
    exact ⟨_, hk.emit σ _ t e g hI hok hgo, follows_update hall hg⟩
  | lock m n =>
    simp only [hpc, Db.perform] at hp ht
    obtain ⟨hfree, ⟨⟩⟩ := ite_none_right_eq_some.1 hp
    obtain ⟨g, hgo, hg⟩ := ht
    exact ⟨_, hk.lock _ _ t m g hI hfree hgo, follows_update hall hg⟩
  | unlock m n =>
    simp only [hpc] at hp ht
    obtain ⟨rfl, rfl⟩ := hp
    obtain ⟨g, hgo, hg⟩ := ht
    exact ⟨_, hk.unlock _ _ t m g hI hgo, follows_update hall hg⟩

lemma Holds.refuse (hk : Leads π ok I I') {σ : Sys S T} (h : Holds π I σ) (t : T) {d : Db S T}
    (hp : σ.db.refuse t (σ.pc t) = some (d, p)) : Holds π I' ⟨d, update σ.pc t p⟩ := by
  obtain ⟨γ, hI, hall⟩ := h
  have ht := hall t
  have hsame : ∀ p, π.Follows p (fun _ g => π.stops g) (γ t) → Holds π I' ⟨σ.db, update σ.pc t p⟩ := by
    intro p hp
    have hn := follows_update hall hp (t := t)
    rw [update_eq_self] at hn
    exact ⟨γ, hk.stay _ _ hI, hn⟩
  cases hpc : σ.pc t with
  | read ℓ n | update ℓ f n | auto ℓ f n | start n =>
    simp only [hpc] at hp ht
    obtain ⟨rfl, rfl⟩ := hp
    exact hsame _ ht.1
  | commit n =>
    simp only [hpc] at hp ht
    obtain ⟨rfl, rfl⟩ := hp
    obtain ⟨g, hgo, hg⟩ := ht.1
    exact ⟨_, hk.rollback _ _ t g hI hgo, follows_update hall hg⟩
  | _ => simp [hpc, Db.refuse] at hp

variable {code : T → Prog S Unit → Prop} {σ τ : Sys S T}

/-- **One step of the system.** -/
lemma Holds.step (hk : Leads π ok I I')
    (hcode : ∀ t p, code t p → π.Follows p (fun _ g => π.stops g) π.idle) {a : Act S T}
    (h : Holds π I σ) (hok : σ.Performs ok a ∧ σ.Calls code a) (hstep : σ.step a = some τ) : Holds π I' τ := by
  cases a with
  | tick z =>
    obtain ⟨γ, hI, hall⟩ := h
    simp only [Sys.step, Option.some.injEq] at hstep
    subst hstep
    exact ⟨γ, hk.tick _ _ _ hI, hall⟩
  | call t p =>
    obtain ⟨γ, hI, hall⟩ := h
    have ht := hall t
    cases hpc : σ.pc t with
    | pure a =>
      simp only [hpc, Sys.step, Option.some.injEq] at hstep ht
      subst hstep
      exact ⟨_, hk.stop _ _ t hI ht, follows_update hall (hcode t p hok.2)⟩
    | _ => simp [hpc, Sys.step] at hstep
  | step t =>
    simp only [Sys.step, Option.map_eq_some_iff, Prod.exists] at hstep
    obtain ⟨d, p, hp, rfl⟩ := hstep
    exact h.perform hk t hok.1 hp
  | fault t =>
    simp only [Sys.step, Option.map_eq_some_iff, Prod.exists] at hstep
    obtain ⟨d, p, hp, rfl⟩ := hstep
    exact h.refuse hk t hp
  | crash t =>
    obtain ⟨γ, hI, hall⟩ := h
    simp only [Sys.step, Option.some.injEq] at hstep
    subst hstep
    exact ⟨_, hk.die _ _ t hI, follows_update hall π.stops_idle⟩

variable {as : List (Act S T)}

/-- Without a condition on the statements, only what the clients call has to be checked. -/
lemma performs_of_calls (hok : Along Sys.step (Sys.Calls code) σ as) :
    Along Sys.step (fun σ a => σ.Performs (fun _ _ _ => True) a ∧ σ.Calls code a) σ as := by
  refine hok.imp fun σ a ha => ⟨?_, ha⟩
  cases a with
  | step t => exact fun _ _ => trivial
  | _ => trivial

section

variable (hk : Keeps π ok I) (hcode : ∀ t p, code t p → π.Follows p (fun _ g => π.stops g) π.idle)

include hk hcode

lemma Holds.runs (h : Holds π I σ) (hok : Along Sys.step (fun σ a => σ.Performs ok a ∧ σ.Calls code a) σ as)
    (hrun : Lib.runs Sys.step σ as = some τ) : Holds π I τ :=
  runs_inv _ (fun _ _ _ hσ hok hστ => hσ.step hk hcode hok hστ) h hok hrun

variable {r : Snap S} {z : ℤ} (hinit : I (Db.rest r z) fun _ => π.idle)
  (hok : Along Sys.step (fun σ a => σ.Performs ok a ∧ σ.Calls code a) (Sys.rest r z) as)
  (hrun : Lib.runs Sys.step (Sys.rest r z) as = some τ)

include hinit hok hrun

/-- **All interleavings.**  If the invariant holds of the rows at rest, it holds after every run in which the
clients start programs that follow the protocol and every statement meets the condition `ok`. -/
lemma run_holds : Holds π I τ := by
  have hrest : Holds π I (.rest r z) := ⟨_, hinit, fun _ => π.stops_idle⟩
  exact hrest.runs hk hcode hok hrun

lemma run_inv : ∃ γ, I τ.db γ := by
  obtain ⟨γ, hI, -⟩ := run_holds hk hcode hinit hok hrun
  exact ⟨γ, hI⟩

end

end Protocol

end StarNexus.Lib
