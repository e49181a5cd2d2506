import StarNexus.Lib.Exec
import StarNexus.Lib.Run

/-!
# Any number of programs against one database

The database isolates transactions at READ COMMITTED: every statement sees the committed rows, overlaid with
the rows its own transaction has written (`Db.view`); a row written by a transaction is locked until the
transaction ends, and a statement that would write a row another transaction has locked waits (`Db.free`); a
plain read waits for nothing.  A unique index is the same lock taken by an `INSERT` on a key that is not there.

`Sys.step` is one step of the whole system: the clock advances, an idle client starts a program, a client
performs its next statement, that statement fails, or the client dies.  `Sys.move` is the statement a client is
about to perform, with what it sees and writes.
-/

namespace StarNexus.Lib

open Function (update)

variable {S : Schema} {T : Type}

/-- The database: committed rows, uncommitted rows with the transaction that holds them, open transactions; and
beside it the mutexes and the events of the clients, and the clock. -/
structure Db (S : Schema) (T : Type) where
  rows : Snap S
  dirty : (k : S.Key) → Option (T × S.Val k)
  active : T → Bool
  held : S.Mutex → Option T
  clock : ℤ
  trace : List S.Event

namespace Db

/-- A database at rest: nothing uncommitted, no transaction open, no mutex held. -/
def rest (r : Snap S) (z : ℤ) : Db S T := ⟨r, fun _ => none, fun _ => false, fun _ => none, z, []⟩

def overlay (t : T) (ws : List (Write S)) (δ : (k : S.Key) → Option (T × S.Val k)) :
    (k : S.Key) → Option (T × S.Val k) :=
  ws.foldl (fun δ w => update δ w.1 (some (t, w.2))) δ

variable (t : T)

lemma overlay_cases (ws : List (Write S)) (δ : (k : S.Key) → Option (T × S.Val k)) (k : S.Key) :
    ((∀ w ∈ ws, w.1 ≠ k) ∧ overlay t ws δ k = δ k) ∨ ∃ v, ⟨k, v⟩ ∈ ws ∧ overlay t ws δ k = some (t, v) :=
  foldl_update_cases (V := fun k => Option (T × S.Val k)) (fun w => some (t, w.2)) ws δ k

def write (d : Db S T) (t : T) (ws : List (Write S)) : Db S T := { d with dirty := overlay t ws d.dirty }

section writes

variable (d : Db S T) {t : T} (ws : List (Write S))

@[simp] lemma write_rows : (d.write t ws).rows = d.rows := rfl

end writes

variable [DecidableEq T]

/-- What the next statement of client `t` sees. -/
def view (d : Db S T) (t : T) : Snap S := fun k =>
  match d.dirty k with
  | some (t', v) => if t' = t then v else d.rows k
  | none => d.rows k

/-- No other transaction has locked a row of `ws`. -/
def free (d : Db S T) (t : T) (ws : List (Write S)) : Bool :=
  ws.all fun w => match d.dirty w.1 with
    | some (t', _) => t' = t
    | none => true

/-- No transaction has locked a row of `ws`. -/
def clear (d : Db S T) (ws : List (Write S)) : Bool := ws.all fun w => (d.dirty w.1).isNone

section

variable {d : Db S T} {t u : T} {ws : List (Write S)} {k : S.Key} {v x : S.Val k}

lemma free_holder (h : d.free t ws) (hv : ⟨k, v⟩ ∈ ws) (hx : d.dirty k = some (u, x)) : u = t := by
  have hk := List.all_eq_true.1 h _ hv
  simpa [hx] using hk

omit [DecidableEq T] in
lemma dirty_write_of_not_mem (h : ∀ w ∈ ws, w.1 ≠ k) : (d.write t ws).dirty k = d.dirty k := by
  rcases overlay_cases t ws d.dirty k with ⟨-, heq⟩ | ⟨v, hv, -⟩
  · exact heq
  · exact absurd rfl (h _ hv)

lemma dirty_write_of_other (h : d.free t ws) (hu : u ≠ t) (hx : d.dirty k = some (u, x)) :
    (d.write t ws).dirty k = some (u, x) := by
  rcases overlay_cases t ws d.dirty k with ⟨-, heq⟩ | ⟨v, hv, -⟩
  · exact heq.trans hx
  · exact absurd (free_holder h hv hx) hu

omit [DecidableEq T] in
lemma clear_none (h : d.clear ws) (hv : ⟨k, v⟩ ∈ ws) : d.dirty k = none := by
  have hk := List.all_eq_true.1 h _ hv
  simpa using hk

end

/-- The uncommitted rows without those of `t`. -/
def release (d : Db S T) (t : T) (k : S.Key) : Option (T × S.Val k) :=
  match d.dirty k with
  | some (t', v) => if t' = t then none else some (t', v)
  | none => none

def commit (d : Db S T) (t : T) : Db S T :=
  { d with rows := d.view t, dirty := d.release t, active := update d.active t false }

def rollback (d : Db S T) (t : T) : Db S T :=
  { d with dirty := d.release t, active := update d.active t false }

/-- A client that dies: its transaction is rolled back and its mutexes are let go. -/
def die (d : Db S T) (t : T) : Db S T :=
  { d.rollback t with held := fun m => if d.held m = some t then none else d.held m }

section views

variable (d : Db S T) {t u : T} {k : S.Key}

lemma view_of_none (h : d.dirty k = none) : d.view t k = d.rows k := by
  simp [view, h]

lemma view_of_self {v : S.Val k} (h : d.dirty k = some (t, v)) : d.view t k = v := by
  simp [view, h]

lemma view_of_other {v : S.Val k} (h : d.dirty k = some (u, v)) (hu : u ≠ t) : d.view t k = d.rows k := by
  simp [view, h, hu]

lemma view_of_not_holder (h : ∀ v, d.dirty k ≠ some (t, v)) : d.view t k = d.rows k := by
  unfold view
  split
  · next u v hv =>
    split
    · next hu => exact absurd (hu ▸ hv) (h v)
    · rfl
  · rfl

lemma view_cases (t : T) (k : S.Key) :
    d.dirty k = some (t, d.view t k) ∨ (∀ v, d.dirty k ≠ some (t, v)) ∧ d.view t k = d.rows k := by
  by_cases h : ∃ v, d.dirty k = some (t, v)
  · obtain ⟨v, hv⟩ := h
    exact .inl (by rw [hv, d.view_of_self hv])
  · have hnot := not_exists.1 h
    exact .inr ⟨hnot, d.view_of_not_holder hnot⟩

end views

variable (d : Db S T)

lemma release_of_not_holder {t : T} {k : S.Key} (h : ∀ v, d.dirty k ≠ some (t, v)) :
    d.release t k = d.dirty k := by
  unfold release
  split
  · next u v hv =>
    have hu : u ≠ t := fun hu => h v (hu ▸ hv)
    rw [if_neg hu, hv]
  · next hn => exact hn.symm

lemma release_eq_some {t u : T} {k : S.Key} {v : S.Val k} :
    d.release t k = some (u, v) ↔ d.dirty k = some (u, v) ∧ u ≠ t := by
  unfold release
  split
  · next u' v' hv =>
    rw [hv]
    split
    · next hu =>
      subst hu
      refine ⟨fun h => ?_, fun h => absurd ?_ h.2⟩
      · cases h
      · exact (congrArg Prod.fst (Option.some.inj h.1)).symm
    · next hu =>
      refine ⟨fun h => ⟨h, ?_⟩, fun h => h.1⟩
      obtain ⟨rfl, -⟩ := Prod.mk.inj (Option.some.inj h)
      exact hu
  · next hn => simp [hn]

@[simp] lemma commit_rows : (d.commit t).rows = d.view t := rfl
@[simp] lemma rollback_rows : (d.rollback t).rows = d.rows := rfl
@[simp] lemma rollback_dirty : (d.rollback t).dirty = d.release t := rfl
@[simp] lemma rollback_trace : (d.rollback t).trace = d.trace := rfl
@[simp] lemma die_rows : (d.die t).rows = d.rows := rfl
@[simp] lemma die_trace : (d.die t).trace = d.trace := rfl

end Db

/-! ### The system -/

/-- A statement as it is performed: with the rows it sees and the rows it writes. -/
inductive Move (S : Schema) where
  | read (ℓ : S.Label) (s : Snap S)
  | update (ℓ : S.Label) (s : Snap S) (ws : List (Write S))
  | auto (ℓ : S.Label) (s : Snap S) (ws : List (Write S))
  | start
  | commit
  | rollback
  | emit (e : S.Event)
  | lock (m : S.Mutex)
  | unlock (m : S.Mutex)

/-- The database and, for each client, the rest of the program it is running. -/
structure Sys (S : Schema) (T : Type) where
  db : Db S T
  pc : T → Prog S Unit

inductive Act (S : Schema) (T : Type) where
  | tick (z : ℕ)
  | call (t : T) (p : Prog S Unit)
  | step (t : T)
  | fault (t : T)
  | crash (t : T)

variable [DecidableEq T]

/-- The statement at the head of a program, as client `t` would perform it now. -/
def Db.move (d : Db S T) (t : T) : Prog S Unit → Option (Move S)
  | .pure _ => none
  | .now _ => none
  | .read ℓ _ => some (.read ℓ (d.view t))
  | .update ℓ f _ => some (.update ℓ (d.view t) (f (d.view t)))
  | .auto ℓ f _ => some (.auto ℓ d.rows (f d.rows))
  | .start _ => some .start
  | .commit _ => some .commit
  | .rollback _ => some .rollback
  | .emit e _ => some (.emit e)
  | .lock m _ => some (.lock m)
  | .unlock m _ => some (.unlock m)

/-- Perform the statement at the head of a program; `none` if it has to wait. -/
def Db.perform (d : Db S T) (t : T) : Prog S Unit → Option (Db S T × Prog S Unit)
  | .pure _ => none
  | .now n => some (d, n d.clock)
  | .read _ n => some (d, n (some (d.view t)))
  | .update _ f n =>
    if d.free t (f (d.view t)) then
      some (d.write t (f (d.view t)), n (some (f (d.view t)).length))
    else none
  | .auto _ f n =>
    if d.clear (f d.rows) then
      some ({ d with rows := d.rows.put (f d.rows) }, n (some (f d.rows).length))
    else none
  | .start n => some ({ d with active := update d.active t true }, n true)
  | .commit n => some (d.commit t, n true)
  | .rollback n => some (d.rollback t, n)
  | .emit e n => some ({ d with trace := d.trace ++ [e] }, n)
  | .lock m n => if d.held m = none then some ({ d with held := update d.held m (some t) }, n) else none
  | .unlock m n => some ({ d with held := update d.held m none }, n)

/-- The statement at the head of a program fails; a failed commit rolls back. -/
def Db.refuse (d : Db S T) (t : T) : Prog S Unit → Option (Db S T × Prog S Unit)
  | .read _ n => some (d, n none)
  | .update _ _ n => some (d, n none)
  | .auto _ _ n => some (d, n none)
  | .start n => some (d, n false)
  | .commit n => some (d.rollback t, n false)
  | _ => none

def Sys.step (σ : Sys S T) : Act S T → Option (Sys S T)
  | .tick z => some { σ with db := { σ.db with clock := σ.db.clock + z } }
  | .call t p =>
    match σ.pc t with
    | .pure _ => some { σ with pc := update σ.pc t p }
    | _ => none
  | .step t => (σ.db.perform t (σ.pc t)).map fun x => ⟨x.1, update σ.pc t x.2⟩
  | .fault t => (σ.db.refuse t (σ.pc t)).map fun x => ⟨x.1, update σ.pc t x.2⟩
  | .crash t => some ⟨σ.db.die t, update σ.pc t (.pure ())⟩

def Sys.rest (r : Snap S) (z : ℤ) : Sys S T := ⟨Db.rest r z, fun _ => .pure ()⟩

def Prog.done {α : Type} : Prog S α → Bool
  | .pure _ => true
  | _ => false

/-- A condition on the statements of a run: `ok` holds of every statement when it is performed. -/
def Sys.Performs (ok : Sys S T → T → Move S → Prop) (σ : Sys S T) : Act S T → Prop
  | .step t => ∀ m, σ.db.move t (σ.pc t) = some m → ok σ t m
  | _ => True

instance {ok : Sys S T → T → Move S → Prop} [∀ σ t m, Decidable (ok σ t m)] (σ : Sys S T) (a : Act S T) :
    Decidable (σ.Performs ok a) :=
  match a with
  | .step t =>
    match h : σ.db.move t (σ.pc t) with
    | none => isTrue fun m hm => by simp [h] at hm
    | some m =>
      decidable_of_iff (ok σ t m)
        ⟨fun hok m' hm => by rw [h] at hm; exact Option.some.inj hm ▸ hok, fun hok => hok m h⟩
  | .tick _ | .call _ _ | .fault _ | .crash _ => isTrue trivial

/-- A condition on the programs of a run: clients only start programs of `code`. -/
def Sys.Calls (code : T → Prog S Unit → Prop) (_ : Sys S T) : Act S T → Prop
  | .call t p => code t p
  | _ => True

end StarNexus.Lib
