import Mathlib.Algebra.Order.Ring.Int

/-!
# The life of a charge

What a billing session is for, without funding sources, tokens or tables: a charge is opened with the amount that was
pre-consumed, may be raised while it is open, and is closed once, either by settling it at the actual amount or by
refunding all of it.  `Phase.next` is this purpose; `Phase.nextUnguarded` differs from it in one transition, that of a
settlement after a refund.
-/

namespace StarNexus.Session

open List

inductive Call where
  | reserve (targetQuota : ℤ)
  | settle (actualQuota : ℤ)
  | refund

inductive Phase where
  | opened (reserved : ℤ)
  | settled (actual : ℤ)
  | refunded (returned : ℤ)
  deriving DecidableEq

namespace Phase

def net : Phase → ℤ
  | .opened r => r
  | .settled a => a
  | .refunded _ => 0

/-- The effect of a call.  A trusted session reserves nothing; there is nothing to refund if nothing is reserved. -/
def next (trusted : Bool) : Phase → Call → Phase
  | .opened r, .reserve t => if trusted = true ∨ t ≤ r then .opened r else .opened t
  | .opened _, .settle a => .settled a
  | .opened r, .refund => if 0 < r then .refunded r else .opened r
  | .settled a, _ => .settled a
  | .refunded r, _ => .refunded r

/-- The effect of a call on a charge that can be settled after it was refunded, relative to what had been reserved. -/
def nextUnguarded (trusted : Bool) : Phase → Call → Phase
  | .refunded r, .settle a => .settled (a - r)
  | p, c => p.next trusted c

variable (trusted : Bool)

@[simp] lemma next_settled (a : ℤ) (c : Call) : (settled a).next trusted c = .settled a := rfl

@[simp] lemma next_refunded (r : ℤ) (c : Call) : (refunded r).next trusted c = .refunded r := rfl

@[simp] lemma nextUnguarded_settled (a : ℤ) (c : Call) :
    (settled a).nextUnguarded trusted c = .settled a := rfl

end Phase

def life (trusted : Bool) (r : ℤ) (calls : List Call) : Phase := calls.foldl (Phase.next trusted) (.opened r)

def lifeUnguarded (trusted : Bool) (r : ℤ) (calls : List Call) : Phase :=
  calls.foldl (Phase.nextUnguarded trusted) (.opened r)

variable {trusted : Bool} {r : ℤ}

lemma foldl_next_settled (a : ℤ) (calls : List Call) :
    calls.foldl (Phase.next trusted) (.settled a) = .settled a := by
  induction calls with
  | nil => rfl
  | cons c calls ih => exact ih

lemma foldl_next_refunded (x : ℤ) (calls : List Call) :
    calls.foldl (Phase.next trusted) (.refunded x) = .refunded x := by
  induction calls with
  | nil => rfl
  | cons c calls ih => exact ih

lemma foldl_nextUnguarded_settled (a : ℤ) (calls : List Call) :
    calls.foldl (Phase.nextUnguarded trusted) (.settled a) = .settled a := by
  induction calls with
  | nil => rfl
  | cons c calls ih => exact ih

/-! ### The first settlement -/

def Unsettled (calls : List Call) : Prop := ∀ a, Call.settle a ∉ calls

def firstSettle : List Call → Option (List Call × ℤ)
  | [] => none
  | .settle a :: _ => some ([], a)
  | c :: calls => (firstSettle calls).map fun x => (c :: x.1, x.2)

lemma firstSettle_cons {c : Call} (hc : ∀ a, c ≠ .settle a) (calls : List Call) :
    firstSettle (c :: calls) = (firstSettle calls).map fun x => (c :: x.1, x.2) := by
  cases c with
  | settle a => exact absurd rfl (hc a)
  | reserve t | refund => rfl

variable {calls : List Call}

lemma Unsettled.cons {c : Call} (hc : ∀ a, c ≠ .settle a) (h : Unsettled calls) :
    Unsettled (c :: calls) := by
  intro a ha
  rcases mem_cons.1 ha with heq | hmem
  · exact hc a heq.symm
  · exact h a hmem

lemma firstSettle_cases (calls : List Call) :
    (firstSettle calls = none ∧ Unsettled calls) ∨
      ∃ pre a post, firstSettle calls = some (pre, a) ∧ calls = pre ++ .settle a :: post ∧ Unsettled pre := by
  induction calls with
  | nil => exact .inl ⟨rfl, fun a => not_mem_nil⟩
  | cons c calls ih =>
    by_cases hc : ∃ a, c = .settle a
    · obtain ⟨a, rfl⟩ := hc
      exact .inr ⟨[], a, calls, rfl, rfl, fun b => not_mem_nil⟩
    · have hc' : ∀ a, c ≠ .settle a := fun a ha => hc ⟨a, ha⟩
      rw [firstSettle_cons hc']
      rcases ih with ⟨hnone, huns⟩ | ⟨pre, a, post, hsome, rfl, hpre⟩
      · exact .inl ⟨by rw [hnone]; rfl, huns.cons hc'⟩
      · exact .inr ⟨c :: pre, a, post, by rw [hsome]; rfl, rfl, hpre.cons hc'⟩

lemma firstSettle_append {x : List Call × ℤ} (h : firstSettle calls = some x) (more : List Call) :
    firstSettle (calls ++ more) = some x := by
  induction calls generalizing x with
  | nil => cases h
  | cons c calls ih =>
    by_cases hc : ∃ a, c = .settle a
    · obtain ⟨a, rfl⟩ := hc
      exact h
    · have hc' : ∀ a, c ≠ .settle a := fun a ha => hc ⟨a, ha⟩
      rw [firstSettle_cons hc'] at h
      obtain ⟨y, hy, rfl⟩ := Option.map_eq_some_iff.1 h
      rw [cons_append, firstSettle_cons hc', ih hy]
      rfl

lemma foldl_next_of_unsettled (h : Unsettled calls) {p : Phase} (hp : ∀ a, p ≠ .settled a) :
    (∀ a, calls.foldl (Phase.next trusted) p ≠ .settled a) ∧
      calls.foldl (Phase.nextUnguarded trusted) p = calls.foldl (Phase.next trusted) p := by
  induction calls generalizing p with
  | nil => exact ⟨hp, rfl⟩
  | cons c calls ih =>
    have hrest : Unsettled calls := fun a ha => h a (.tail _ ha)
    have hsame : p.nextUnguarded trusted c = p.next trusted c ∧ ∀ a, p.next trusted c ≠ .settled a := by
      cases c with
      | settle a => exact absurd (.head _) (h a)
      | reserve t | refund =>
        cases p with
        | opened x => exact ⟨rfl, fun a => by simp only [Phase.next]; split <;> simp⟩
        | settled a => exact absurd rfl (hp a)
        | refunded x => exact ⟨rfl, fun a => by simp⟩
    simp only [foldl_cons, hsame.1]
    exact ih hrest hsame.2

lemma life_of_unsettled (h : Unsettled calls) :
    (∀ a, life trusted r calls ≠ .settled a) ∧ lifeUnguarded trusted r calls = life trusted r calls :=
  foldl_next_of_unsettled h fun a => by simp

lemma life_net_nonneg (h : Unsettled calls) (hr : 0 ≤ r) : 0 ≤ (life trusted r calls).net := by
  have hfold : ∀ (p : Phase), 0 ≤ p.net → 0 ≤ (calls.foldl (.next trusted) p).net := by
    induction calls with
    | nil => exact fun p hp => hp
    | cons c calls ih =>
      intro p hp
      refine ih (fun a ha => h a (.tail _ ha)) _ ?_
      cases p with
      | settled a | refunded x => exact hp
      | opened x =>
        have hx : 0 ≤ x := hp
        cases c with
        | settle a => exact absurd (.head _) (h a)
        | reserve t =>
          simp only [Phase.next]
          split
          · exact hp
          · simp only [Phase.net]
            omega
        | refund =>
          simp only [Phase.next]
          split
          · exact le_rfl
          · exact hp
  exact hfold (.opened r) hr

/-- **The first settlement decides**; after a refund the lives differ by what had been reserved. -/
lemma lives_of_first_settle {pre : List Call} (h : Unsettled pre) (a : ℤ) (post : List Call) :
    (∃ x, life trusted r pre = .opened x ∧ life trusted r (pre ++ .settle a :: post) = .settled a ∧
        lifeUnguarded trusted r (pre ++ .settle a :: post) = .settled a) ∨
      ∃ x, life trusted r pre = .refunded x ∧ life trusted r (pre ++ .settle a :: post) = .refunded x ∧
        lifeUnguarded trusted r (pre ++ .settle a :: post) = .settled (a - x) := by
  obtain ⟨hns, hsame⟩ := life_of_unsettled h
  have hlife : ∀ more, life trusted r (pre ++ more) = more.foldl (.next trusted) (life trusted r pre) := by
    intro more
    exact foldl_append
  have hcode : ∀ more, lifeUnguarded trusted r (pre ++ more) =
      more.foldl (.nextUnguarded trusted) (life trusted r pre) := by
    intro more
    rw [← hsame]
    exact foldl_append
  cases hp : life trusted r pre with
  | settled x => exact absurd hp (hns x)
  | opened x =>
    refine .inl ⟨x, rfl, ?_, ?_⟩
    · rw [hlife, hp]
      exact foldl_next_settled a post
    · rw [hcode, hp]
      exact foldl_nextUnguarded_settled a post
  | refunded x =>
    refine .inr ⟨x, rfl, ?_, ?_⟩
    · rw [hlife, hp]
      exact foldl_next_refunded x post
    · rw [hcode, hp]
      exact foldl_nextUnguarded_settled _ post

end StarNexus.Session
