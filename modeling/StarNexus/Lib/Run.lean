import Mathlib.Data.List.Infix

/-!
# Runs of a step function

`runs step s as` takes the actions `as` one after the other, each of which has to be enabled, and `Along` says
that every action of a run is taken in a state that allows it.  `runs_inv` is the invariant rule of the
development: a property that a step keeps whenever the step is allowed holds after every allowed run.
-/

namespace StarNexus.Lib

variable {σ α : Type*} (step : σ → α → Option σ)

/-- Take the actions in order; `none` as soon as one of them is not enabled. -/
def runs : σ → List α → Option σ
  | s, [] => some s
  | s, a :: as => (step s a).bind fun s' => runs s' as

/-- Every action is taken in a state in which `ok` allows it. -/
def Along (ok : σ → α → Prop) : σ → List α → Prop
  | _, [] => True
  | s, a :: as => ok s a ∧ ∀ s', step s a = some s' → Along ok s' as

variable {step}

instance Along.decidable {ok : σ → α → Prop} [∀ s a, Decidable (ok s a)] : ∀ s as, Decidable (Along step ok s as)
  | _, [] => isTrue trivial
  | s, a :: as =>
    have : Decidable (∀ s', step s a = some s' → Along step ok s' as) :=
      match step s a with
      | none => isTrue fun _ h => nomatch h
      | some s' =>
        have : Decidable (Along step ok s' as) := Along.decidable s' as
        decidable_of_iff (Along step ok s' as) ⟨fun h _ ht => Option.some.inj ht ▸ h, fun h => h s' rfl⟩
    inferInstanceAs (Decidable (_ ∧ _))

@[simp] lemma runs_nil (s : σ) : runs step s [] = some s := rfl

lemma runs_cons_of_step {s s' : σ} {a : α} (as : List α) (h : step s a = some s') :
    runs step s (a :: as) = runs step s' as := by
  simp [runs, h]

variable {as : List α}

lemma runs_cons_eq_some {s u : σ} {a : α} :
    runs step s (a :: as) = some u ↔ ∃ s', step s a = some s' ∧ runs step s' as = some u := by
  simp [runs, Option.bind_eq_some_iff]

lemma runs_append (s : σ) (as bs : List α) :
    runs step s (as ++ bs) = (runs step s as).bind fun s' => runs step s' bs := by
  induction as generalizing s with
  | nil => rfl
  | cons a as ih =>
    simp only [List.cons_append, runs]
    cases step s a with
    | none => rfl
    | some s' => exact ih s'

variable {ok : σ → α → Prop}

lemma Along.cons {s s' : σ} {a : α} (hok : ok s a) (ha : step s a = some s')
    (h : Along step ok s' as) : Along step ok s (a :: as) := by
  refine ⟨hok, fun t ht => ?_⟩
  obtain ⟨⟩ := ha.symm.trans ht
  exact h

variable {ok ok' : σ → α → Prop}

lemma Along.imp (himp : ∀ s a, ok s a → ok' s a) {s : σ}
    (h : Along step ok s as) : Along step ok' s as := by
  induction as generalizing s with
  | nil => trivial
  | cons a as ih => exact ⟨himp s a h.1, fun s' hs' => ih (h.2 s' hs')⟩

lemma Along.and {s : σ} (h : Along step ok s as) (h' : Along step ok' s as) :
    Along step (fun s a => ok s a ∧ ok' s a) s as := by
  induction as generalizing s with
  | nil => trivial
  | cons a as ih => exact ⟨⟨h.1, h'.1⟩, fun t ht => ih (h.2 t ht) (h'.2 t ht)⟩

lemma Along.of_forall (h : ∀ s, ∀ a ∈ as, ok s a) (s : σ) : Along step ok s as := by
  induction as generalizing s with
  | nil => trivial
  | cons a as ih =>
    exact ⟨h s a (.head _), fun s' _ => ih (fun t b hb => h t b (.tail _ hb)) s'⟩

/-- **The invariant rule.**  What every allowed step keeps holds after every allowed run. -/
lemma runs_inv (inv : σ → Prop)
    (hstep : ∀ s a s', inv s → ok s a → step s a = some s' → inv s')
    {s u : σ} (hs : inv s) (hok : Along step ok s as) (hrun : runs step s as = some u) :
    inv u := by
  induction as generalizing s with
  | nil =>
    obtain rfl : s = u := by simpa using hrun
    exact hs
  | cons a as ih =>
    obtain ⟨s', ha, hrest⟩ := runs_cons_eq_some.1 hrun
    exact ih (hstep s a s' hs hok.1 ha) (hok.2 s' ha) hrest

end StarNexus.Lib
