import StarNexus.Lib.Protocol

/-!
# Counting what transactions add

Let `count` assign an amount to the contents of every row, such as the number of certain entries of a list.
`Tally count d γ` says that the rows a client has written but not committed differ in their amounts from the committed
rows by `γ t`, what the client has added so far.  Row locks keep it true in every interleaving.
-/

namespace StarNexus.Lib

lemma Snap.count_put {S : Schema} {M : Type} {count : (k : S.Key) → S.Val k → M} {r : Snap S} {ws : List (Write S)}
    (hws : ∀ k v, ⟨k, v⟩ ∈ ws → count k v = count k (r k)) (k : S.Key) : count k (r.put ws k) = count k (r k) := by
  rcases r.put_cases ws k with ⟨-, heq⟩ | ⟨v, hv, heq⟩
  · rw [heq]
  · rw [heq]
    exact hws k v hv

variable {S : Schema} {T M : Type} [AddCommMonoid M]

/-- What the clients have added to the rows in their open transactions. -/
structure Tally (count : (k : S.Key) → S.Val k → M) (d : Db S T) (γ : T → S.Key → M) : Prop where
  own : ∀ k t v, d.dirty k = some (t, v) → count k v = count k (d.rows k) + γ t k
  held : ∀ t k, γ t k ≠ 0 → ∃ v, d.dirty k = some (t, v)

namespace Tally

variable {count : (k : S.Key) → S.Val k → M} {d : Db S T} {γ : T → S.Key → M}

lemma rest (r : Snap S) (z : ℤ) : Tally count (Db.rest r z : Db S T) fun _ => 0 := by
  refine ⟨fun k t v hv => ?_, fun t k hne => absurd rfl hne⟩
  cases hv

lemma congr (h : Tally count d γ) {d' : Db S T} (hrows : d'.rows = d.rows) (hdirty : d'.dirty = d.dirty) :
    Tally count d' γ := by
  refine ⟨fun k t v hv => ?_, fun t k hne => ?_⟩
  · rw [hrows]
    exact h.own k t v (hdirty ▸ hv)
  · rw [hdirty]
    exact h.held t k hne

variable {t : T} {k : S.Key}

lemma eq_zero_of_not_holder (h : Tally count d γ) (hk : ∀ v, d.dirty k ≠ some (t, v)) :
    γ t k = 0 := by
  by_contra hne
  obtain ⟨v, hv⟩ := h.held t k hne
  exact hk v hv

variable [DecidableEq T]

lemma view (h : Tally count d γ) (t : T) (k : S.Key) :
    count k (d.view t k) = count k (d.rows k) + γ t k := by
  rcases d.view_cases t k with hv | ⟨hnot, heq⟩
  · exact h.own k t _ hv
  · rw [heq, h.eq_zero_of_not_holder hnot, add_zero]

variable {ws : List (Write S)}

section

variable (h : Tally count d γ)

include h

lemma update (hfree : d.free t ws) {δ : S.Key → M}
    (hws : ∀ k v, ⟨k, v⟩ ∈ ws → count k v = count k (d.view t k) + δ k)
    (hδ : ∀ k, δ k ≠ 0 → ∃ v, (⟨k, v⟩ : Write S) ∈ ws) :
    Tally count (d.write t ws) (Function.update γ t (γ t + δ)) := by
  have hcases := Db.overlay_cases t ws d.dirty
  have hzero : ∀ k, (∀ x ∈ ws, x.1 ≠ k) → δ k = 0 := fun k hnot => by
    by_contra hne
    obtain ⟨x, hx⟩ := hδ k hne
    exact hnot _ hx rfl
  refine ⟨fun k u v hv => ?_, fun u k hne => ?_⟩
  · have hv' : Db.overlay t ws d.dirty k = some (u, v) := hv
    rcases hcases k with ⟨hnot, heq⟩ | ⟨x, hx, heq⟩
    · rw [heq] at hv'
      have hown := h.own k u v hv'
      by_cases hu : u = t
      · subst hu
        simpa [hzero k hnot] using hown
      · simpa [hu] using hown
    · rw [heq] at hv'
      obtain ⟨rfl, rfl⟩ := Prod.mk.inj (Option.some.inj hv')
      rw [hws k x hx, h.view t k]
      simp [add_assoc]
  · change ∃ v, Db.overlay t ws d.dirty k = some (u, v)
    rcases hcases k with ⟨hnot, heq⟩ | ⟨x, hx, heq⟩
    · have hne' : γ u k ≠ 0 := by
        by_cases hu : u = t
        · subst hu
          simpa [hzero k hnot] using hne
        · simpa [hu] using hne
      rw [heq]
      exact h.held u k hne'
    · by_cases hu : u = t
      · subst hu
        exact ⟨x, heq⟩
      · obtain ⟨v, hv⟩ := h.held u k (by simpa [hu] using hne)
        exact absurd (Db.free_holder hfree hx hv) hu

lemma post {v : S.Val k} {δ : M} (hfree : d.free t [⟨k, v⟩])
    (hv : count k v = count k (d.view t k) + δ) :
    Tally count (d.write t [⟨k, v⟩]) (Function.update γ t (γ t + fun k' => if k' = k then δ else 0)) := by
  refine h.update hfree (fun k' v' hmem => ?_) fun k' hne => ?_
  · cases List.mem_singleton.1 hmem
    rw [if_pos rfl, hv]
  · by_cases hk : k' = k
    · subst hk
      exact ⟨v, .head _⟩
    · simp [hk] at hne

lemma update_neutral (hfree : d.free t ws)
    (hws : ∀ k v, ⟨k, v⟩ ∈ ws → count k v = count k (d.view t k)) : Tally count (d.write t ws) γ := by
  have hzero := h.update hfree (δ := 0) (fun k v hv => by simpa using hws k v hv) fun k hne => absurd rfl hne
  rwa [add_zero, Function.update_eq_self] at hzero

lemma update_one {v : S.Val k} (hfree : d.free t [⟨k, v⟩])
    (hv : count k v = count k (d.view t k)) : Tally count (d.write t [⟨k, v⟩]) γ := by
  refine h.update_neutral hfree fun k' v' hmem => ?_
  cases List.mem_singleton.1 hmem
  exact hv

end

omit [DecidableEq T] in
lemma auto (h : Tally count d γ) (hclear : d.clear ws) :
    Tally count { d with rows := d.rows.put ws } γ := by
  refine ⟨fun k t v hv => ?_, h.held⟩
  rcases d.rows.put_cases ws k with ⟨-, heq⟩ | ⟨x, hx, -⟩
  · change count k v = count k (d.rows.put ws k) + γ t k
    rw [h.own k t v hv, heq]
  · rw [Db.clear_none hclear hx] at hv
    cases hv

lemma drop (h : Tally count d γ) {d' : Db S T} (hdirty : d'.dirty = d.release t)
    (hrows : ∀ k u v, d.dirty k = some (u, v) → u ≠ t → d'.rows k = d.rows k) : Tally count d' (Function.update γ t 0) := by
  refine ⟨fun k u v hv => ?_, fun u k hne => ?_⟩
  · obtain ⟨hv', hu⟩ := (d.release_eq_some).1 (hdirty ▸ hv)
    rw [hrows k u v hv' hu, h.own k u v hv', Function.update_of_ne hu]
  · have hu : u ≠ t := by
      rintro rfl
      simp at hne
    obtain ⟨v, hv⟩ := h.held u k (by simpa [hu] using hne)
    exact ⟨v, hdirty ▸ (d.release_eq_some).2 ⟨hv, hu⟩⟩

lemma commit (h : Tally count d γ) (t : T) : Tally count (d.commit t) (Function.update γ t 0) :=
  h.drop rfl fun _ _ _ hv hu => d.view_of_other hv hu

lemma rollback (h : Tally count d γ) (t : T) : Tally count (d.rollback t) (Function.update γ t 0) :=
  h.drop rfl fun _ _ _ _ _ => rfl

end Tally

/-! ### At most one addition -/

/-- Nothing was added to the counts, or one to one of them. -/
def AddedOnce {A : Type} [DecidableEq A] (before after : A → ℕ) : Prop :=
  after = before ∨ ∃ a, after = Function.update before a (before a + 1)

lemma AddedOnce.le {A : Type} [DecidableEq A] {before after : A → ℕ} (h : AddedOnce before after) (a : A) :
    after a ≤ before a + 1 := by
  rcases h with rfl | ⟨b, rfl⟩
  · omega
  · by_cases hab : a = b
    · subst hab
      simp
    · rw [Function.update_of_ne hab]
      omega

end StarNexus.Lib
