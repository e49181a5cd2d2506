import Mathlib.Algebra.BigOperators.Group.List.Basic
import Mathlib.Algebra.Order.Ring.Int
import Mathlib.Data.List.AList
import StarNexus.Lib.Run

/-!
# Batched balance updates

`model/utils.go`: `addNewRecord` adds a delta to a map in memory, and the updater swaps each map for an empty one and writes
what it has taken, key by key.  Every access to a map holds its lock and is one step; the writes are steps of their own.
A delta whose write fails, or finds no row, is logged and gone.
-/

namespace StarNexus.BatchUpdate

open Lib List
open Function (update update_of_ne update_self)

/-- `BatchUpdateType*`. -/
inductive Kind where
  | userQuota
  | tokenQuota
  | usedQuota
  | channelUsedQuota
  | requestCount
  deriving DecidableEq

def Kind.all : List Kind := [.userQuota, .tokenQuota, .usedQuota, .channelUsedQuota, .requestCount]

abbrev Store := AList fun _ : ℕ => ℤ

/-- Where the updater is in `batchUpdate`: looking for data, swapping the maps, or writing what it took from one. -/
inductive Phase where
  | asleep
  | looking (rest : List Kind)
  | swapping (rest : List Kind)
  | writing (kind : Kind) (store : Store) (rest : List Kind)

/-- The maps, the updater, and the updated column of each row, `none` if there is no such row. -/
structure Batch where
  stores : Kind → Store
  phase : Phase
  rows : Kind → ℕ → Option ℤ

inductive Act where
  | addNewRecord (kind : Kind) (id : ℕ) (value : ℤ)
  /-- The updater goes on, unless it has something to write. -/
  | next
  /-- The updater writes the delta of some key, and the statement may fail. -/
  | write (id : ℕ) (fails : Bool)

def Store.add (store : Store) (id : ℕ) (value : ℤ) : Store :=
  match store.lookup id with
  | none => store.insert id value
  | some old => store.insert id (old + value)

namespace Batch

def next (b : Batch) : Option Batch :=
  match b.phase with
  | .asleep => some { b with phase := .looking Kind.all }
  | .looking [] => some { b with phase := .asleep }
  | .looking (kind :: rest) =>
    some { b with phase := if (b.stores kind).entries = [] then .looking rest else .swapping Kind.all }
  | .swapping [] => some { b with phase := .asleep }
  | .swapping (kind :: rest) =>
    some { b with stores := update b.stores kind ∅, phase := .writing kind (b.stores kind) rest }
  | .writing _ store rest => if store.entries = [] then some { b with phase := .swapping rest } else none

def increase (b : Batch) (kind : Kind) (id : ℕ) (value : ℤ) : Kind → ℕ → Option ℤ :=
  update b.rows kind (update (b.rows kind) id ((b.rows kind id).map (· + value)))

def write (b : Batch) (id : ℕ) (fails : Bool) : Option Batch :=
  match b.phase with
  | .writing kind store rest => (store.lookup id).map fun value =>
    { b with phase := .writing kind (store.erase id) rest, rows := if fails then b.rows else b.increase kind id value }
  | _ => none

def step (b : Batch) : Act → Option Batch
  | .addNewRecord kind id value => some { b with stores := update b.stores kind ((b.stores kind).add id value) }
  | .next => b.next
  | .write id fails => b.write id fails

end Batch

/-! ### What is recorded, waits and has been written -/

def Store.delta (store : Store) (id : ℕ) : ℤ := (store.lookup id).getD 0

def Phase.delta (kind : Kind) (id : ℕ) : Phase → ℤ
  | .writing k store _ => if k = kind then store.delta id else 0
  | _ => 0

def Batch.total (b : Batch) (kind : Kind) (id : ℕ) : ℤ :=
  (b.rows kind id).getD 0 + (b.stores kind).delta id + b.phase.delta kind id

def Act.delta (kind : Kind) (id : ℕ) : Act → ℤ
  | .addNewRecord k i value => if k = kind ∧ i = id then value else 0
  | _ => 0

def recorded (kind : Kind) (id : ℕ) (acts : List Act) : ℤ := (acts.map (Act.delta kind id)).sum

/-- A write succeeds and finds its row, or there is nothing to add. -/
def Lossless (b : Batch) : Act → Prop
  | .write id fails => ∀ kind store rest, b.phase = .writing kind store rest →
      store.delta id = 0 ∨ (fails = false ∧ (b.rows kind id).isSome)
  | _ => True

variable {b b' : Batch} {kind : Kind} {id : ℕ}

open Store

lemma Store.delta_add (store : Store) (i : ℕ) (value : ℤ) :
    (store.add i value).delta id = store.delta id + if i = id then value else 0 := by
  unfold add Store.delta
  by_cases h : i = id
  · subst h
    cases store.lookup i <;> simp
  · cases store.lookup i <;> simp [h, AList.lookup_insert_ne (.symm h)]

lemma Store.delta_of_empty {store : Store} (h : store.entries = []) : store.delta id = 0 := by
  obtain rfl : store = ∅ := AList.ext h
  rfl

lemma next_total (h : b.next = some b') : b'.total kind id = b.total kind id := by
  unfold Batch.next at h
  split at h <;> rename_i hphase
  case h_5 k rest =>
    cases h
    by_cases hk : k = kind
    · subst hk
      simp [Batch.total, Phase.delta, hphase, delta_of_empty]
    · simp [Batch.total, Phase.delta, hphase, hk, update_of_ne (.symm hk)]
  case h_6 store rest =>
    split_ifs at h with hempty
    cases h
    simp [Batch.total, Phase.delta, hphase, delta_of_empty hempty]
  -- the other steps move the updater only
  all_goals
    cases h
    simp only [Batch.total, hphase]
    first | rfl | (split_ifs <;> rfl)

lemma write_total {i : ℕ} {fails : Bool} (h : b.write i fails = some b') :
    Lossless b (.write i fails) ↔ ∀ kind id, b'.total kind id = b.total kind id := by
  unfold Batch.write at h
  split at h <;> rename_i hphase
  swap
  · cases h
  next k store rest =>
  obtain ⟨value, hvalue, rfl⟩ := Option.map_eq_some_iff.1 h
  have htotal : ∀ kind id, Batch.total
      { b with phase := .writing k (store.erase i) rest, rows := if fails then b.rows else b.increase k i value } kind id =
      b.total kind id - if k = kind ∧ i = id ∧ ¬(fails = false ∧ (b.rows k i).isSome) then value else 0 := by
    intro kind id
    by_cases hk : k = kind
    · subst hk
      by_cases hi : i = id
      · subst hi
        cases fails <;> cases hrow : b.rows k i <;>
          simp [Batch.total, Phase.delta, Store.delta, hphase, hvalue, hrow, Batch.increase]
        omega
      · cases fails <;> simp [Batch.total, Phase.delta, Store.delta, hphase, Batch.increase, hi, update_of_ne (.symm hi),
          AList.lookup_erase_ne (.symm hi)]
    · cases fails <;> simp [Batch.total, Phase.delta, hphase, hk, Batch.increase, update_of_ne (.symm hk)]
  have hok : Lossless b (.write i fails) ↔ value = 0 ∨ (fails = false ∧ (b.rows k i).isSome) := by
    simp [Lossless, hphase, Store.delta, hvalue]
  rw [hok]
  constructor
  · rintro h kind id
    rw [htotal, sub_eq_self]
    split_ifs with hlost
    · exact h.resolve_right hlost.2.2
    · rfl
  · intro h
    by_contra hlost
    obtain ⟨hne, hfails⟩ := not_or.1 hlost
    have := h k i
    rw [htotal, sub_eq_self, if_pos ⟨rfl, rfl, hfails⟩] at this
    exact hne this

lemma step_total {a : Act} (h : b.step a = some b') :
    Lossless b a ↔ ∀ kind id, b'.total kind id = b.total kind id + a.delta kind id := by
  cases a with
  | addNewRecord k i value =>
    cases h
    refine iff_of_true trivial fun kind id => ?_
    by_cases hk : k = kind
    · subst hk
      simp only [Batch.total, Act.delta, update_self, delta_add, true_and]
      omega
    · simp [Batch.total, Act.delta, hk, update_of_ne (.symm hk)]
  | next => exact iff_of_true trivial fun kind id => by simp [next_total h, Act.delta]
  | write i fails => simpa [Act.delta] using write_total h

/-- **Nothing is lost** along a run, whatever is recorded in between, exactly if every write of a delta succeeds and finds
its row. -/
theorem nothing_lost_iff (b : Batch) (acts : List Act) (hrun : (runs Batch.step b acts).isSome) :
    (∀ done, done <+: acts → ∀ b', runs Batch.step b done = some b' →
      ∀ kind id, b'.total kind id = b.total kind id + recorded kind id done) ↔
    Along Batch.step Lossless b acts := by
  induction acts generalizing b with
  | nil =>
    refine iff_of_true (fun done hdone b' h kind id => ?_) trivial
    obtain rfl := prefix_nil.1 hdone
    cases h
    simp [recorded]
  | cons a acts ih =>
    obtain ⟨b₁, hstep⟩ : ∃ b₁, b.step a = some b₁ := by
      cases h : b.step a with
      | none => simp [runs, h] at hrun
      | some b₁ => exact ⟨b₁, rfl⟩
    rw [runs_cons_of_step _ hstep] at hrun
    constructor
    · intro h
      have hfirst := h [a] (by simp) b₁ (by simp [runs, hstep])
      refine .cons ((step_total hstep).2 fun kind id => by simpa [recorded] using hfirst kind id) hstep
        ((ih b₁ hrun).1 fun done hdone b' hb' kind id => ?_)
      have hlater := h (a :: done) (by simpa using hdone) b' (by rwa [runs_cons_of_step _ hstep]) kind id
      have hone := hfirst kind id
      simp only [recorded, map_cons, map_nil, sum_cons, sum_nil] at hlater hone ⊢
      omega
    · rintro ⟨hok, hrest⟩ done hdone b' hb' kind id
      rcases prefix_cons_iff.1 hdone with rfl | ⟨done, rfl, hdone'⟩
      · cases hb'
        simp [recorded]
      · rw [runs_cons_of_step _ hstep] at hb'
        have hlater := (ih b₁ hrun).2 (hrest b₁ hstep) done hdone' b' hb' kind id
        have hone := (step_total hstep).1 hok kind id
        simp only [recorded, map_cons, sum_cons] at hlater ⊢
        omega

def oneUser : Batch where
  stores _ := ∅
  phase := .asleep
  rows kind id := if kind = .userQuota ∧ id = 1 then some 100 else none

def onePass (fails : Bool) : List Act :=
  [.addNewRecord .userQuota 1 (-30), .next, .next, .next, .addNewRecord .userQuota 1 (-5), .write 1 fails]

theorem nothing_lost_onePass : (∀ done, done <+: onePass false → ∀ b', runs Batch.step oneUser done = some b' →
    ∀ kind id, b'.total kind id = oneUser.total kind id + recorded kind id done) ↔
      Along Batch.step Lossless oneUser (onePass false) :=
  nothing_lost_iff oneUser (onePass false) (by decide)

/-- The charge of 30 is neither in the database nor in memory any more. -/
theorem delta_lost :
    (runs Batch.step oneUser (onePass true)).map (fun b => b.total .userQuota 1) = some 95 ∧
      oneUser.total .userQuota 1 + recorded .userQuota 1 (onePass true) = 65 := by
  decide

end StarNexus.BatchUpdate
