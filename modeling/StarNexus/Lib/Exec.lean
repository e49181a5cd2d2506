import StarNexus.Lib.Prog

/-!
# A program alone with its database

`Prog.exec` runs a program with no other client between its statements; an `Oracle` decides which of its
statements fail and what the clock shows.  `Prog.wp p Q r w` is the weakest precondition of `p` over *all*
oracles: from committed rows `r` and rows `w` as the open transaction sees them, every execution of `p` ends
in a result and rows that satisfy `Q` (`wp_exec`).
-/

namespace StarNexus.Lib

variable {S : Schema} {α β : Type}

/-- Which statements fail, and what the clock shows, by the number of statements issued before. -/
structure Oracle where
  fails : ℕ → Bool
  clock : ℕ → ℤ

def Oracle.calm (z : ℤ) : Oracle := ⟨fun _ => false, fun _ => z⟩

/-- A client alone with the database: the committed rows, the rows as its transaction sees them, the events so
far and the number of statements issued. -/
structure Solo (S : Schema) where
  rows : Snap S
  work : Snap S
  trace : List S.Event
  count : ℕ

def Solo.init (r : Snap S) : Solo S := ⟨r, r, [], 0⟩

@[simp] lemma Solo.init_rows (r : Snap S) : (Solo.init r).rows = r := rfl
@[simp] lemma Solo.init_work (r : Snap S) : (Solo.init r).work = r := rfl

namespace Prog

def exec (o : Oracle) : Prog S α → Solo S → α × Solo S
  | .pure a, σ => (a, σ)
  | .now n, σ => (n (o.clock σ.count)).exec o σ
  | .read _ n, σ =>
    if o.fails σ.count then (n none).exec o { σ with count := σ.count + 1 }
    else (n (some σ.work)).exec o { σ with count := σ.count + 1 }
  | .update _ f n, σ =>
    if o.fails σ.count then (n none).exec o { σ with count := σ.count + 1 }
    else (n (some (f σ.work).length)).exec o { σ with work := σ.work.put (f σ.work), count := σ.count + 1 }
  | .auto _ f n, σ =>
    if o.fails σ.count then (n none).exec o { σ with count := σ.count + 1 }
    else (n (some (f σ.rows).length)).exec o
      { σ with rows := σ.rows.put (f σ.rows), work := σ.rows.put (f σ.rows), count := σ.count + 1 }
  | .start n, σ =>
    if o.fails σ.count then (n false).exec o { σ with count := σ.count + 1 }
    else (n true).exec o { σ with work := σ.rows, count := σ.count + 1 }
  | .commit n, σ =>
    if o.fails σ.count then (n false).exec o { σ with work := σ.rows, count := σ.count + 1 }
    else (n true).exec o { σ with rows := σ.work, count := σ.count + 1 }
  | .rollback n, σ => n.exec o { σ with work := σ.rows, count := σ.count + 1 }
  | .emit e n, σ => n.exec o { σ with trace := σ.trace ++ [e] }
  | .lock _ n, σ => n.exec o σ
  | .unlock _ n, σ => n.exec o σ

/-! ### Weakest preconditions -/

/-- Every execution of the program from committed rows `r` and working rows `w` ends in `Q`. -/
def wp : Prog S α → (α → Snap S → Snap S → Prop) → Snap S → Snap S → Prop
  | .pure a, Q, r, w => Q a r w
  | .now n, Q, r, w => ∀ z, (n z).wp Q r w
  | .read _ n, Q, r, w => (n none).wp Q r w ∧ (n (some w)).wp Q r w
  | .update _ f n, Q, r, w => (n none).wp Q r w ∧ (n (some (f w).length)).wp Q r (w.put (f w))
  | .auto _ f n, Q, r, w => (n none).wp Q r w ∧ (n (some (f r).length)).wp Q (r.put (f r)) (r.put (f r))
  | .start n, Q, r, w => (n false).wp Q r w ∧ (n true).wp Q r r
  | .commit n, Q, r, w => (n false).wp Q r r ∧ (n true).wp Q w w
  | .rollback n, Q, r, _ => n.wp Q r r
  | .emit _ n, Q, r, w => n.wp Q r w
  | .lock _ n, Q, r, w => n.wp Q r w
  | .unlock _ n, Q, r, w => n.wp Q r w

variable {Q Q' : α → Snap S → Snap S → Prop} {r w : Snap S}

/-- **Soundness of `wp`** for every choice of failing statements and clock readings. -/
lemma wp_exec (o : Oracle) (p : Prog S α) (σ : Solo S) (h : p.wp Q σ.rows σ.work) :
    Q (p.exec o σ).1 (p.exec o σ).2.rows (p.exec o σ).2.work := by
  induction p generalizing σ with
  | pure a => exact h
  | now n ih => exact ih _ σ (h _)
  | read ℓ n ih | update ℓ g n ih | auto ℓ g n ih | start n ih | commit n ih =>
    simp only [exec]
    split
    exacts [ih _ _ h.1, ih _ _ h.2]
  | rollback n ih | emit e n ih | lock m n ih | unlock m n ih => exact ih _ h

variable (p : Prog S α)

lemma wp_mono (hQ : ∀ a r w, Q a r w → Q' a r w) (h : p.wp Q r w) : p.wp Q' r w := by
  induction p generalizing r w with
  | pure a => exact hQ _ _ _ h
  | now n ih => exact fun z => ih z (h z)
  | read ℓ n ih | update ℓ g n ih | auto ℓ g n ih | start n ih | commit n ih => exact ⟨ih _ h.1, ih _ h.2⟩
  | rollback n ih | emit e n ih | lock m n ih | unlock m n ih => exact ih h

lemma wp_and (h : p.wp Q r w) (h' : p.wp Q' r w) : p.wp (fun a r w => Q a r w ∧ Q' a r w) r w := by
  induction p generalizing r w with
  | pure a => exact ⟨h, h'⟩
  | now n ih => exact fun z => ih z (h z) (h' z)
  | read ℓ n ih | update ℓ g n ih | auto ℓ g n ih | start n ih | commit n ih => exact ⟨ih _ h.1 h'.1, ih _ h.2 h'.2⟩
  | rollback n ih | emit e n ih | lock m n ih | unlock m n ih => exact ih h h'

/-- **The rule of sequencing.** -/
lemma wp_bind (f : α → Prog S β) (Q : β → Snap S → Snap S → Prop) :
    (p.bind f).wp Q r w ↔ p.wp (fun a r w => (f a).wp Q r w) r w := by
  induction p generalizing r w with
  | pure a => exact Iff.rfl
  | now n ih => exact forall_congr' fun z => ih z
  | read ℓ n ih | update ℓ g n ih | auto ℓ g n ih | start n ih | commit n ih => exact and_congr (ih _) (ih _)
  | rollback n ih | emit e n ih | lock m n ih | unlock m n ih => exact ih

end Prog

/-! ### The rules for functions with errors -/

namespace Tx

open Prog

variable {Q : Except Err α → Snap S → Snap S → Prop} {r w : Snap S} (p : Tx S α)

@[simp] lemma bind_eq (f : α → Tx S β) : p >>= f = Tx.bind p f := rfl

@[simp] lemma wp_bind (f : α → Tx S β) (Q : Except Err β → Snap S → Snap S → Prop) :
    (Tx.bind p f).wp Q r w ↔
      Prog.wp p (fun x r w => (∀ e, x = .error e → Q (.error e) r w) ∧ ∀ a, x = .ok a → (f a).wp Q r w) r w := by
  unfold Tx.bind
  rw [Prog.wp_bind]
  constructor
  · refine Prog.wp_mono p fun x r w h => ?_
    cases x with
    | error e =>
      refine ⟨fun e' he => ?_, nofun⟩
      cases he
      exact h
    | ok a =>
      refine ⟨nofun, fun a' ha => ?_⟩
      cases ha
      exact h
  · refine Prog.wp_mono p fun x r w h => ?_
    cases x with
    | error e => exact h.1 e rfl
    | ok a => exact h.2 a rfl

@[simp] lemma wp_attempt (Q : Except Err (Except Err α) → Snap S → Snap S → Prop) :
    (attempt p).wp Q r w ↔ Prog.wp p (fun x r w => Q (.ok x) r w) r w :=
  Prog.wp_bind p _ Q

/-- **The rule of transactions**: the body runs on the working rows; its writes become the committed rows only if
it succeeds and the commit does. -/
@[simp] lemma wp_transaction (body : Tx S α) :
    (transaction body).wp Q r w ↔ Q (.error .database) r w ∧
      Prog.wp body (fun x r w => (∀ e, x = .error e → Q (.error e) r r) ∧
        ∀ a, x = .ok a → Q (.error .database) r r ∧ Q (.ok a) w w) r r := by
  refine and_congr .rfl ?_
  rw [Prog.wp_bind]
  refine ⟨Prog.wp_mono body ?_, Prog.wp_mono body ?_⟩
  all_goals
    rintro (e | a) r w h
    all_goals simpa [Prog.wp] using h

end Tx

end StarNexus.Lib
