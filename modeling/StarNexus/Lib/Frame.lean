import StarNexus.Lib.Tally

/-!
# Amounts that no statement changes

The simplest protocol: whatever its phase, a client may perform any statement that leaves a certain amount of every row
as it was.  Then the amounts of the committed rows are those of the beginning, in every interleaving.
-/

namespace StarNexus.Lib

open Tx

variable {S : Schema} {T M : Type}

/-- Rows that are written with the amount that they had. -/
def Level (count : (k : S.Key) → S.Val k → M) (s : Snap S) (ws : List (Write S)) : Prop :=
  ∀ k v, (⟨k, v⟩ : Write S) ∈ ws → count k v = count k (s k)

variable {count : (k : S.Key) → S.Val k → M} {s : Snap S}

lemma Level.nil : Level count s [] := nofun

lemma Level.cons {k : S.Key} {v : S.Val k} {ws : List (Write S)} (hv : count k v = count k (s k))
    (hws : Level count s ws) : Level count s (⟨k, v⟩ :: ws) := by
  intro k' v' h
  rcases List.mem_cons.1 h with heq | h
  · cases heq
    exact hv
  · exact hws k' v' h

lemma Level.row {k : S.Key} {f : S.Val k → Option (S.Val k)} (h : ∀ v, f (s k) = some v → count k v = count k (s k)) :
    Level count s (rowWrite k f s) := by
  unfold rowWrite
  cases hv : f (s k) with
  | none => exact .nil
  | some v => exact .cons (h v hv) .nil

/-- The protocol of clients that change no amount, as long as their statements meet the condition `sees`. -/
def frame (count : (k : S.Key) → S.Val k → M) (sees : Move S → Prop) : Protocol S Unit where
  idle := ()
  sees _ m := sees m
  goes _ m _ :=
    match m with
    | .update _ s ws | .auto _ s ws => Level count s ws
    | _ => True
  stops _ := True
  stops_idle := trivial

/-! ### Programs -/

section programs

variable {α β : Type} {sees : Move S → Prop}

def Frames (count : (k : S.Key) → S.Val k → M) (sees : Move S → Prop) (p : Prog S α) : Prop :=
  (frame count sees).Follows p (fun _ _ => True) ()

lemma Frames.pure (a : α) : Frames count sees (Pure.pure a : Tx S α) := trivial

lemma Frames.fail (e : Err) : Frames count sees (fail e : Tx S α) := trivial

lemma Frames.now : Frames count sees (now : Tx S ℤ) := fun _ => trivial

lemma Frames.select (ℓ : S.Label) (q : Snap S → α) : Frames count sees (select ℓ q) :=
  ⟨trivial, fun _ _ => ⟨(), trivial, trivial⟩⟩

variable {f : Snap S → List (Write S)}

lemma Frames.exec {ℓ : S.Label}
    (h : ∀ s, sees (.update ℓ s (f s)) → Level count s (f s)) : Frames count sees (exec ℓ f) :=
  ⟨trivial, fun s hs => ⟨(), h s hs, trivial⟩⟩

lemma Frames.execAuto {ℓ : S.Label}
    (h : ∀ s, sees (.auto ℓ s (f s)) → Level count s (f s)) : Frames count sees (execAuto ℓ f) :=
  ⟨trivial, fun s hs => ⟨(), h s hs, trivial⟩⟩

variable {p : Tx S α}

lemma Frames.bind {f : α → Tx S β} (hp : Frames count sees p) (hf : ∀ a, Frames count sees (f a)) :
    Frames count sees (p >>= f : Tx S β) :=
  .tx_bind (.mono hp fun _ _ _ => ⟨fun _ _ => trivial, fun a _ => hf a⟩)

lemma Frames.attempt (hp : Frames count sees p) : Frames count sees (Tx.attempt p) :=
  Protocol.Follows.attempt (.mono hp fun _ _ _ => trivial)

lemma Frames.transaction {body : Tx S α} (h : Frames count sees body) : Frames count sees (Tx.transaction body) := by
  refine Protocol.Follows.transaction trivial ⟨(), trivial, .mono h fun _ _ _ => ?_⟩
  exact ⟨fun _ _ => ⟨(), trivial, trivial⟩, fun _ _ => ⟨⟨(), trivial, trivial⟩, fun _ => ⟨(), trivial, trivial⟩⟩⟩

lemma Frames.discard (hp : Frames count sees p) : Frames count sees (Tx.discard p) :=
  Protocol.Follows.discard (.mono hp fun _ _ _ => trivial)

end programs

/-! ### Runs -/

variable [DecidableEq T] [AddCommMonoid M] {sees : Move S → Prop} {ok : Sys S T → T → Move S → Prop}

lemma frame_keeps (c : S.Key → M) (hsees : ∀ σ t m, ok σ t m → σ.db.move t (σ.pc t) = some m → sees m) :
    (frame count sees).Keeps ok fun d (_ : T → Unit) => Tally count d (fun _ => 0) ∧ ∀ k, count k (d.rows k) = c k where
  sees σ _ t m _ hok hm := hsees σ t m hok hm
  stay _ _ h := h
  tick _ _ _ h := ⟨h.1.congr rfl rfl, h.2⟩
  read _ _ _ _ _ h _ _ := h
  update _ _ _ _ _ _ h _ hfree hgo := ⟨h.1.update_neutral hfree hgo, h.2⟩
  auto σ _ _ _ ws _ h _ hclear hgo :=
    ⟨h.1.auto hclear, fun k => (Snap.count_put hgo k).trans (h.2 k)⟩
  start _ _ _ _ h _ := ⟨h.1.congr rfl rfl, h.2⟩
  commit σ _ t _ h _ _ := by
    have hcommit := h.1.commit t
    rw [Function.update_eq_self_iff.2 rfl] at hcommit
    refine ⟨hcommit, fun k => ?_⟩
    rw [Db.commit_rows, h.1.view t k, Pi.zero_apply, add_zero]
    exact h.2 k
  rollback d _ t _ h _ := by
    have hback := h.1.rollback t
    rw [Function.update_eq_self_iff.2 rfl] at hback
    exact ⟨hback, h.2⟩
  emit _ _ _ _ _ h _ _ := ⟨h.1.congr rfl rfl, h.2⟩
  lock _ _ _ _ _ h _ _ := ⟨h.1.congr rfl rfl, h.2⟩
  unlock _ _ _ _ _ h _ := ⟨h.1.congr rfl rfl, h.2⟩
  stop _ _ _ h _ := h
  die d _ t h := by
    have hback := h.1.rollback t
    rw [Function.update_eq_self_iff.2 rfl] at hback
    exact ⟨hback.congr rfl rfl, h.2⟩

/-- **All interleavings**: the amounts after a run are those before it. -/
lemma frame_run (hsees : ∀ σ t m, ok σ t m → σ.db.move t (σ.pc t) = some m → sees m) {code : T → Prog S Unit → Prop}
    (hcode : ∀ t p, code t p → Frames count sees p) {r : Snap S} {z : ℤ} {τ : Sys S T}
    {as : List (Act S T)} (hok : Along Sys.step (fun σ a => σ.Performs ok a ∧ σ.Calls code a) (Sys.rest r z) as)
    (hrun : runs Sys.step (Sys.rest r z) as = some τ) (k : S.Key) : count k (τ.db.rows k) = count k (r k) := by
  obtain ⟨-, -, hrows⟩ := Protocol.run_inv (frame_keeps (fun k => count k (r k)) hsees) hcode
    ⟨.rest r z, fun _ => rfl⟩ hok hrun
  exact hrows k

end StarNexus.Lib
