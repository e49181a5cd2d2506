import Mathlib.Algebra.Order.Ring.Int

/-!
# Programs of database clients

A client of a relational database is a tree of statements: what it does next may depend on what the last
statement answered.  `Prog S α` is the free monad over these statements, for a database and a set of side
effects described by a `Schema`.  A statement can fail, and its continuation then receives `none` (or `false`),
so that the error paths of a program are branches of the same tree.

* a `read` sees one consistent snapshot of all rows and picks from it what it needs;
* an `update` computes from it the rows it writes and answers how many they are;
* an `auto` is the same statement as a transaction of its own;
* `lock` and `unlock` are mutexes in the memory of the clients.

`Prog` says nothing about how statements of several clients interleave; `Lib.Exec` runs a program alone and
`Lib.Sys` runs any number of programs against one database.
-/

namespace StarNexus.Lib

open Function List

/-- A database (rows by table and primary key) with the events, statement labels and mutexes of its clients. -/
structure Schema where
  Key : Type
  Val : Key → Type
  Event : Type
  Label : Type
  Mutex : Type
  [decKey : DecidableEq Key]
  [decMutex : DecidableEq Mutex]

attribute [instance] Schema.decKey Schema.decMutex

variable {S : Schema} {α β γ : Type}

abbrev Snap (S : Schema) := (k : S.Key) → S.Val k

abbrev Write (S : Schema) := (k : S.Key) × S.Val k

lemma mem_select {ρ : Type*} {rows : ℕ → Option ρ} {p : ℕ → ρ → Bool} {n : ℕ} {x : ℕ × ρ} :
    x ∈ (range n).filterMap (fun id => (rows id).bind fun row => if p id row then some (id, row) else none) ↔
      x.1 < n ∧ rows x.1 = some x.2 ∧ p x.1 x.2 = true := by
  rw [mem_filterMap]
  constructor
  · rintro ⟨id, hid, h⟩
    obtain ⟨row, hrow, hif⟩ := Option.bind_eq_some_iff.1 h
    obtain ⟨hp, ⟨⟩⟩ := Option.ite_none_right_eq_some.1 hif
    exact ⟨mem_range.1 hid, hrow, hp⟩
  · rintro ⟨hid, hrow, hp⟩
    exact ⟨x.1, mem_range.2 hid, by simp [hrow, hp]⟩

lemma foldl_update_cases {V : S.Key → Type} (f : (w : Write S) → V w.1) (ws : List (Write S)) (s : (k : S.Key) → V k)
    (k : S.Key) : ((∀ w ∈ ws, w.1 ≠ k) ∧ ws.foldl (fun s w => update s w.1 (f w)) s k = s k) ∨
      ∃ v, ⟨k, v⟩ ∈ ws ∧ ws.foldl (fun s w => update s w.1 (f w)) s k = f ⟨k, v⟩ := by
  induction ws generalizing s with
  | nil => exact .inl ⟨by simp, rfl⟩
  | cons w ws ih =>
    rw [foldl_cons]
    rcases ih (update s w.1 (f w)) with ⟨hnot, heq⟩ | ⟨v, hv, heq⟩
    · by_cases hk : w.1 = k
      · subst hk
        exact .inr ⟨w.2, mem_cons_self, by rw [heq, update_self]⟩
      · refine .inl ⟨fun x hx => ?_, by rw [heq, update_of_ne (.symm hk)]⟩
        rcases mem_cons.1 hx with rfl | hx
        · exact hk
        · exact hnot x hx
    · exact .inr ⟨v, mem_cons_of_mem _ hv, heq⟩

/-- The snapshot after the writes `ws`, the last write of a row winning. -/
def Snap.put (s : Snap S) (ws : List (Write S)) : Snap S :=
  ws.foldl (fun s w => Function.update s w.1 w.2) s

variable (s : Snap S)

@[simp] lemma Snap.put_nil : s.put [] = s := rfl

@[simp] lemma Snap.put_one (k : S.Key) (v : S.Val k) : s.put [⟨k, v⟩] = update s k v := rfl

variable (ws : List (Write S))

lemma Snap.put_cases (k : S.Key) :
    ((∀ w ∈ ws, w.1 ≠ k) ∧ s.put ws k = s k) ∨ ∃ v, ⟨k, v⟩ ∈ ws ∧ s.put ws k = v :=
  foldl_update_cases (fun w => w.2) ws s k

lemma Snap.put_of_not_mem (k : S.Key) (h : ∀ w ∈ ws, w.1 ≠ k) : s.put ws k = s k := by
  rcases s.put_cases ws k with ⟨-, heq⟩ | ⟨v, hv, -⟩
  · exact heq
  · exact absurd rfl (h _ hv)

/-- A client program: a tree of statements over the database `S` that returns an `α`. -/
inductive Prog (S : Schema) (α : Type) : Type where
  | pure (a : α)
  | now (next : ℤ → Prog S α)
  | read (ℓ : S.Label) (next : Option (Snap S) → Prog S α)
  | update (ℓ : S.Label) (f : Snap S → List (Write S)) (next : Option ℕ → Prog S α)
  | auto (ℓ : S.Label) (f : Snap S → List (Write S)) (next : Option ℕ → Prog S α)
  | start (next : Bool → Prog S α)
  | commit (next : Bool → Prog S α)
  | rollback (next : Prog S α)
  | emit (e : S.Event) (next : Prog S α)
  | lock (m : S.Mutex) (next : Prog S α)
  | unlock (m : S.Mutex) (next : Prog S α)

namespace Prog

/-- Sequencing: run `p`, then the program its result selects. -/
def bind : Prog S α → (α → Prog S β) → Prog S β
  | .pure a, f => f a
  | .now n, f => .now fun z => (n z).bind f
  | .read ℓ n, f => .read ℓ fun v => (n v).bind f
  | .update ℓ g n, f => .update ℓ g fun v => (n v).bind f
  | .auto ℓ g n, f => .auto ℓ g fun v => (n v).bind f
  | .start n, f => .start fun b => (n b).bind f
  | .commit n, f => .commit fun b => (n b).bind f
  | .rollback n, f => .rollback (n.bind f)
  | .emit e n, f => .emit e (n.bind f)
  | .lock m n, f => .lock m (n.bind f)
  | .unlock m n, f => .unlock m (n.bind f)

lemma bind_pure (p : Prog S α) : p.bind .pure = p := by
  induction p with
  | pure a => rfl
  | rollback n ih | emit _ n ih | lock _ n ih | unlock _ n ih => rw [bind, ih]
  | _ => simp [bind, *]

end Prog

/-! ### Programs that return errors -/

/-- The errors a client function returns: the driver's own, `gorm`-style "record not found", and those a
function makes itself. -/
inductive Err where
  | database
  | recordNotFound
  | msg (text : String)
  deriving DecidableEq, Repr

def Err.text : Err → String
  | .database => "database error"
  | .recordNotFound => "record not found"
  | .msg text => text

/-- A client function with an error result. -/
abbrev Tx (S : Schema) (α : Type) := Prog S (Except Err α)

namespace Tx

def bind (p : Tx S α) (f : α → Tx S β) : Tx S β :=
  Prog.bind p fun
    | .ok a => f a
    | .error e => .pure (.error e)

def fail (e : Err) : Tx S α := Prog.pure (.error e)

instance : Monad (Tx S) where
  pure a := Prog.pure (.ok a)
  bind := Tx.bind

/-- The result of `p` as a value: the caller looks at the error itself. -/
def attempt (p : Tx S α) : Tx S (Except Err α) := Prog.bind p fun r => .pure (.ok r)

def emit (e : S.Event) : Tx S Unit := Prog.emit e (.pure (.ok ()))

def now : Tx S ℤ := Prog.now fun z => .pure (.ok z)

/-- A `SELECT`, answering `q` of the snapshot it sees. -/
def select (ℓ : S.Label) (q : Snap S → β) : Tx S β :=
  .read ℓ fun
    | some s => .pure (.ok (q s))
    | none => .pure (.error .database)

/-- A statement that writes inside the open transaction, answering the number of rows affected. -/
def exec (ℓ : S.Label) (f : Snap S → List (Write S)) : Tx S ℕ :=
  .update ℓ f fun
    | some n => .pure (.ok n)
    | none => .pure (.error .database)

def execAuto (ℓ : S.Label) (f : Snap S → List (Write S)) : Tx S ℕ :=
  .auto ℓ f fun
    | some n => .pure (.ok n)
    | none => .pure (.error .database)

/-- The writes of an `UPDATE` of the single row `k`: `f` answers `none` if the row does not match. -/
def rowWrite (k : S.Key) (f : S.Val k → Option (S.Val k)) (s : Snap S) : List (Write S) :=
  match f (s k) with
  | some v => [⟨k, v⟩]
  | none => []

lemma mem_rowWrite {k : S.Key} {f : S.Val k → Option (S.Val k)} {s : Snap S} {x : Write S} :
    x ∈ rowWrite k f s ↔ ∃ v, f (s k) = some v ∧ x = ⟨k, v⟩ := by
  unfold rowWrite
  cases f (s k) <;> simp

/-- An `UPDATE` of a row that may not exist. -/
def onRow {ρ : Type} (f : ρ → Option ρ) (row : Option ρ) : Option (Option ρ) := row.bind fun x => (f x).map some

lemma onRow_eq_some {ρ : Type} {f : ρ → Option ρ} {row v : Option ρ} :
    onRow f row = some v ↔ ∃ x y, row = some x ∧ f x = some y ∧ some y = v := by
  simp only [onRow, Option.bind_eq_some_iff, Option.map_eq_some_iff]
  simp

lemma update_eq_some {α β : Type} [DecidableEq α] {f : α → Option β} {a b : α} {x : Option β} {y : β} :
    update f a x b = some y ↔ b = a ∧ x = some y ∨ b ≠ a ∧ f b = some y := by
  by_cases hb : b = a
  · subst hb
    simp
  · simp [hb]

/-- An `INSERT` under a primary key or a unique index: no row is affected if the key is taken. -/
def ifAbsent {ρ : Type} (x : ρ) : Option ρ → Option (Option ρ)
  | none => some (some x)
  | some _ => none

/-- `DB.Transaction(body)`: committed if `body` returns no error, rolled back otherwise. -/
def transaction (body : Tx S α) : Tx S α :=
  .start fun
    | false => .pure (.error .database)
    | true => Prog.bind body fun
      | .ok a => .commit fun
        | true => .pure (.ok a)
        | false => .pure (.error .database)
      | .error e => .rollback (.pure (.error e))

def discard (p : Tx S α) : Prog S Unit := Prog.bind p fun _ => .pure ()

end Tx

end StarNexus.Lib
