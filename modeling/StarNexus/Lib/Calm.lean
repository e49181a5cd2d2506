import StarNexus.Lib.Hoare

/-!
# Undisturbed executions

What a function returns and leaves behind if none of its statements fails and the clock stands still.  As in
`Lib.Hoare` there is one judgement for the body of a transaction and one for functions made of transactions:

* `Tx.Returns z body w x w'`: the body, started on the working rows `w`, returns `x` and leaves the working rows `w'`;
* `Tx.Commits z p r x r'`: the function, started on the committed rows `r`, returns `x` and leaves the rows `r'`.
-/

namespace StarNexus.Lib

open Prog Tx

variable {S : Schema} {α β : Type}

namespace Prog

/-- Run a program alone and undisturbed at time `z`, from committed and working rows. -/
def calm (z : ℤ) : Prog S α → Snap S → Snap S → α × Snap S × Snap S
  | .pure a, r, w => (a, r, w)
  | .now n, r, w => (n z).calm z r w
  | .read _ n, r, w => (n (some w)).calm z r w
  | .update _ f n, r, w => (n (some (f w).length)).calm z r (w.put (f w))
  | .auto _ f n, r, _ => (n (some (f r).length)).calm z (r.put (f r)) (r.put (f r))
  | .start n, r, _ => (n true).calm z r r
  | .commit n, _, w => (n true).calm z w w
  | .rollback n, r, _ => n.calm z r r
  | .emit _ n, r, w => n.calm z r w
  | .lock _ n, r, w => n.calm z r w
  | .unlock _ n, r, w => n.calm z r w

lemma exec_calm (z : ℤ) (p : Prog S α) (σ : Solo S) :
    (p.exec (.calm z) σ).1 = (p.calm z σ.rows σ.work).1 ∧
      (p.exec (.calm z) σ).2.rows = (p.calm z σ.rows σ.work).2.1 := by
  induction p generalizing σ with
  | pure a => exact ⟨rfl, rfl⟩
  | now n ih => exact ih _ σ
  | read ℓ n ih | update ℓ f n ih | auto ℓ f n ih | start n ih | commit n ih => exact ih _ _
  | rollback n ih | emit e n ih | lock m n ih | unlock m n ih => exact ih _

lemma calm_bind (z : ℤ) (p : Prog S α) (f : α → Prog S β) (r w : Snap S) :
    (p.bind f).calm z r w = (f (p.calm z r w).1).calm z (p.calm z r w).2.1 (p.calm z r w).2.2 := by
  induction p generalizing r w with
  | pure a => rfl
  | now n ih => exact ih _ r w
  | read ℓ n ih | update ℓ g n ih | auto ℓ g n ih | start n ih | commit n ih => exact ih _ _ _
  | rollback n ih | emit e n ih | lock m n ih | unlock m n ih => exact ih _ _

lemma wp_calm {Q : α → Snap S → Snap S → Prop} (z : ℤ) (p : Prog S α) {r w : Snap S} (h : p.wp Q r w) :
    Q (p.calm z r w).1 (p.calm z r w).2.1 (p.calm z r w).2.2 := by
  induction p generalizing r w with
  | pure a => exact h
  | now n ih => exact ih z (h z)
  | read ℓ n ih | update ℓ f n ih | auto ℓ f n ih | start n ih | commit n ih => exact ih _ h.2
  | rollback n ih | emit e n ih | lock m n ih | unlock m n ih => exact ih h

end Prog

namespace Tx

def Returns (z : ℤ) (p : Tx S α) (w : Snap S) (x : Except Err α) (w' : Snap S) : Prop :=
  ∀ r, Prog.calm z p r w = (x, r, w')

def Commits (z : ℤ) (p : Tx S α) (r : Snap S) (x : Except Err α) (r' : Snap S) : Prop :=
  Prog.calm z p r r = (x, r', r')

variable {z : ℤ} {r r' r'' w w' w'' : Snap S} {x : Except Err α} {y : Except Err β}

/-! ### Bodies of transactions -/

lemma Returns.pure (a : α) : Returns z (Pure.pure a : Tx S α) w (.ok a) w := fun _ => rfl

lemma Returns.fail (e : Err) : Returns z (fail e : Tx S α) w (.error e) w := fun _ => rfl

lemma Returns.now : Returns z (now : Tx S ℤ) w (.ok z) w := fun _ => rfl

variable (ℓ : S.Label)

lemma Returns.select (q : Snap S → α) : Returns z (select ℓ q) w (.ok (q w)) w := fun _ => rfl

lemma Returns.exec (f : Snap S → List (Write S)) :
    Returns z (Tx.exec ℓ f) w (.ok (f w).length) (w.put (f w)) := fun _ => rfl

variable {p : Tx S α} {f : α → Tx S β} {a : α}

lemma Returns.bind (hp : Returns z p w (.ok a) w')
    (hf : Returns z (f a) w' y w'') : Returns z (p >>= f) w y w'' := by
  intro r
  rw [bind_eq, Tx.bind, Prog.calm_bind, hp r]
  exact hf r

lemma Returns.attempt (hp : Returns z p w x w') : Returns z (Tx.attempt p) w (.ok x) w' := by
  intro r
  rw [Tx.attempt, Prog.calm_bind, hp r]
  rfl

variable {Q : α → Snap S → Prop}

lemma Returns.ensures (h : Returns z p w (.ok a) w') (he : Ensures p w Q) :
    Q a w' := by
  have hcalm := wp_calm z p (he w)
  rw [h w] at hcalm
  exact hcalm.2 a rfl

/-! ### Bodies that succeed -/

/-- The undisturbed body returns a result, and the working rows that it leaves satisfy `Q`. -/
def Succeeds (z : ℤ) (p : Tx S α) (w : Snap S) (Q : α → Snap S → Prop) : Prop :=
  ∃ a w', Returns z p w (.ok a) w' ∧ Q a w'

section succeeds

variable {Q Q' : α → Snap S → Prop}

lemma Succeeds.mono (h : Succeeds z p w Q) (hQ : ∀ a w', Q a w' → Q' a w') : Succeeds z p w Q' :=
  let ⟨a, w', hp, hq⟩ := h
  ⟨a, w', hp, hQ a w' hq⟩

lemma Succeeds.pure (h : Q a w) : Succeeds z (Pure.pure a : Tx S α) w Q := ⟨a, w, .pure a, h⟩

lemma Succeeds.now {Q : ℤ → Snap S → Prop} (h : Q z w) : Succeeds z (now : Tx S ℤ) w Q := ⟨z, w, .now, h⟩

variable {ℓ : S.Label}

lemma Succeeds.select {q : Snap S → α} (h : Q (q w) w) : Succeeds z (select ℓ q) w Q :=
  ⟨_, w, .select ℓ q, h⟩

lemma Succeeds.exec {Q : ℕ → Snap S → Prop} {f : Snap S → List (Write S)}
    (h : Q (f w).length (w.put (f w))) : Succeeds z (Tx.exec ℓ f) w Q := ⟨_, _, .exec ℓ f, h⟩

lemma Succeeds.bind {Q : β → Snap S → Prop}
    (h : Succeeds z p w fun a w' => Succeeds z (f a) w' Q) : Succeeds z (p >>= f) w Q := by
  obtain ⟨a, w', hp, b, w'', hf, hq⟩ := h
  exact ⟨b, w'', hp.bind hf, hq⟩

lemma Succeeds.row {Q : ℕ → Snap S → Prop} {k : S.Key} {f : S.Val k → Option (S.Val k)} {v : S.Val k}
    (hv : f (w k) = some v) (h : Q 1 (Function.update w k v)) : Succeeds z (Tx.exec ℓ (rowWrite k f)) w Q := by
  refine .exec ?_
  simpa [rowWrite, hv] using h

lemma Succeeds.ensures (h : Succeeds z p w Q) (he : Ensures p w Q') :
    Succeeds z p w fun a w' => Q a w' ∧ Q' a w' :=
  let ⟨a, w', hp, hq⟩ := h
  ⟨a, w', hp, hq, hp.ensures he⟩

end succeeds

/-! ### Functions made of transactions -/

lemma Commits.pure (a : α) : Commits z (Pure.pure a : Tx S α) r (.ok a) r := rfl

lemma Commits.fail (e : Err) : Commits z (fail e : Tx S α) r (.error e) r := rfl

lemma Commits.now : Commits z (now : Tx S ℤ) r (.ok z) r := rfl

lemma Commits.emit (e : S.Event) : Commits z (emit e : Tx S Unit) r (.ok ()) r := rfl

lemma Commits.select (q : Snap S → α) : Commits z (select ℓ q) r (.ok (q r)) r := rfl

lemma Commits.execAuto (f : Snap S → List (Write S)) :
    Commits z (execAuto ℓ f) r (.ok (f r).length) (r.put (f r)) := rfl

lemma Commits.bind (hp : Commits z p r (.ok a) r')
    (hf : Commits z (f a) r' y r'') : Commits z (p >>= f) r y r'' := by
  unfold Commits at hp ⊢
  rw [bind_eq, Tx.bind, Prog.calm_bind, hp]
  exact hf

lemma Commits.bind_error {e : Err} (hp : Commits z p r (.error e) r') :
    Commits z (p >>= f) r (.error e) r' := by
  unfold Commits at hp ⊢
  rw [bind_eq, Tx.bind, Prog.calm_bind, hp]
  rfl

lemma Commits.attempt (hp : Commits z p r x r') : Commits z (Tx.attempt p) r (.ok x) r' := by
  unfold Commits at hp ⊢
  rw [Tx.attempt, Prog.calm_bind, hp]
  rfl

lemma Commits.transaction {body : Tx S α} (h : Returns z body r (.ok a) r') :
    Commits z (Tx.transaction body) r (.ok a) r' := by
  change calm z (.bind body _) r r = _
  rw [Prog.calm_bind, h r]
  rfl

lemma Commits.transaction_error {body : Tx S α} {e : Err} (h : Returns z body r (.error e) w') :
    Commits z (Tx.transaction body) r (.error e) r := by
  change calm z (.bind body _) r r = _
  rw [Prog.calm_bind, h r]
  rfl

variable {E : Snap S → Prop}

lemma Yields.commits (h : Yields p r E Q) (z : ℤ) :
    ∃ x r', Commits z p r x r' ∧ (∀ e, x = .error e → E r') ∧ ∀ a, x = .ok a → Q a r' := by
  obtain ⟨hsame, herror, hok⟩ := wp_calm z p h
  exact ⟨_, _, Prod.ext rfl (Prod.ext rfl hsame), herror, hok⟩

lemma Commits.yields (h : Commits z p r (.ok a) r')
    (hp : Yields p r E Q) : Q a r' := by
  have hcalm := wp_calm z p hp
  rw [h] at hcalm
  exact hcalm.2.2 a rfl

lemma Keeps.commits {I : Snap S → Prop} (h : Keeps p I) (hr : I r) (z : ℤ) :
    ∃ x r', Commits z p r x r' ∧ I r' := by
  obtain ⟨x, r', hp, herror, hok⟩ := (h r hr).commits z
  refine ⟨x, r', hp, ?_⟩
  cases x with
  | error e => exact herror e rfl
  | ok a => exact hok a rfl

lemma Commits.exec (h : Commits z p r x r') :
    (Prog.exec (.calm z) p (Solo.init r)).1 = x ∧ (Prog.exec (.calm z) p (Solo.init r)).2.rows = r' := by
  have hcalm : calm z p r r = (x, r', r') := h
  have hexec := exec_calm z p (.init r)
  rw [Solo.init_rows, Solo.init_work, hcalm] at hexec
  exact hexec

end Tx

end StarNexus.Lib
