import StarNexus.Lib.Sys

/-!
# Inserting under a unique key

`Unique key absent d φ`: the clients `t` with `φ t` have inserted the row `key` in their open transactions.  There is
at most one such client, and as long as there is one, the committed row is absent: everybody else who wants to insert it
has to wait.  So whoever commits the insertion is the first to do so.
-/

namespace StarNexus.Lib

open Function (update update_of_ne update_self)

variable {S : Schema} {T : Type}

/-- The clients that have inserted the row and not yet committed it. -/
structure Unique (key : S.Key) (absent : S.Val key → Prop) (d : Db S T) (φ : T → Bool) : Prop where
  held : ∀ t, φ t = true → ∃ v, d.dirty key = some (t, v) ∧ ¬absent v
  free : ∀ t v, d.dirty key = some (t, v) → φ t = true ∧ absent (d.rows key)

namespace Unique

variable {key : S.Key} {absent : S.Val key → Prop} {d : Db S T} {φ : T → Bool} {t : T}

lemma rest (r : Snap S) (z : ℤ) : Unique key absent (Db.rest r z : Db S T) fun _ => false := by
  refine ⟨fun t ht => ?_, fun t v hv => ?_⟩
  · cases ht
  · cases hv

lemma congr (h : Unique key absent d φ) {d' : Db S T} (hrows : d'.rows key = d.rows key)
    (hdirty : d'.dirty key = d.dirty key) : Unique key absent d' φ := by
  refine ⟨fun t ht => ?_, fun t v hv => ?_⟩
  · rw [hdirty]
    exact h.held t ht
  · rw [hrows]
    exact h.free t v (hdirty ▸ hv)

variable {ws : List (Write S)}

lemma write_other (h : Unique key absent d φ) (hws : ∀ w ∈ ws, w.1 ≠ key) :
    Unique key absent (d.write t ws) φ := h.congr rfl (Db.dirty_write_of_not_mem hws)

lemma auto (h : Unique key absent d φ) (hws : ∀ w ∈ ws, w.1 ≠ key) :
    Unique key absent { d with rows := d.rows.put ws } φ :=
  h.congr (d.rows.put_of_not_mem ws key hws) rfl

variable [DecidableEq T]

section

variable (h : Unique key absent d φ)

include h

lemma absent_of_held (ht : φ t = true) : absent (d.rows key) ∧ ¬absent (d.view t key) := by
  obtain ⟨v, hv, hpresent⟩ := h.held t ht
  rw [d.view_of_self hv]
  exact ⟨(h.free t v hv).2, hpresent⟩

lemma view_of_not (ht : φ t = false) : d.view t key = d.rows key := by
  refine d.view_of_not_holder fun v hv => ?_
  have htrue := (h.free t v hv).1
  rw [ht] at htrue
  cases htrue

lemma insert {v : S.Val key} (hfree : d.free t [⟨key, v⟩]) (hview : absent (d.view t key))
    (hv : ¬absent v) : Unique key absent (d.write t [⟨key, v⟩]) (update φ t true) := by
  have hrow : absent (d.rows key) := by
    rcases d.view_cases t key with hx | ⟨-, heq⟩
    · exact (h.free t _ hx).2
    · rwa [heq] at hview
  have hself : (d.write t [⟨key, v⟩]).dirty key = some (t, v) := update_self _ _ _
  refine ⟨fun u hu => ?_, fun u x hx => ?_⟩
  · by_cases hut : u = t
    · subst hut
      exact ⟨v, hself, hv⟩
    · rw [update_of_ne hut] at hu
      obtain ⟨x, hx, -⟩ := h.held u hu
      exact absurd (Db.free_holder hfree (.head _) hx) hut
  · rw [hself] at hx
    obtain ⟨rfl, -⟩ := Prod.mk.inj (Option.some.inj hx)
    rw [update_self]
    exact ⟨rfl, hrow⟩

lemma release {d' : Db S T} (hrows : ∀ u v, d.dirty key = some (u, v) → u ≠ t → d'.rows key = d.rows key)
    (hdirty : d'.dirty key = d.release t key) : Unique key absent d' (update φ t false) := by
  refine ⟨fun u hu => ?_, fun u v hv => ?_⟩
  · have hut : u ≠ t := by
      rintro rfl
      simp at hu
    rw [update_of_ne hut] at hu
    obtain ⟨v, hv, hpresent⟩ := h.held u hu
    exact ⟨v, by rw [hdirty, (d.release_eq_some).2 ⟨hv, hut⟩], hpresent⟩
  · rw [hdirty] at hv
    obtain ⟨hv', hut⟩ := (d.release_eq_some).1 hv
    rw [update_of_ne hut, hrows u v hv' hut]
    exact h.free u v hv'

lemma commit (t : T) : Unique key absent (d.commit t) (update φ t false) :=
  h.release (fun _ _ hv hut => d.view_of_other hv hut) rfl

lemma rollback (t : T) : Unique key absent (d.rollback t) (update φ t false) :=
  h.release (fun _ _ _ _ => rfl) rfl

end

end Unique

end StarNexus.Lib
