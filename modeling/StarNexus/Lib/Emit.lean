import StarNexus.Lib.Run

/-!
# Programs that emit events

A program in `Emit σ ε` reads and writes a state `σ` and emits events `ε` on the way.  What it emits is read by a client, an
automaton `step` that can refuse an event.  `Follows` and `Whenever` relate the state of the program and the state of the client.
-/

namespace StarNexus.Lib

/-- A program with a state `σ` that emits events `ε`. -/
def Emit (σ ε α : Type) : Type := σ → α × σ × List ε

namespace Emit

variable {σ ε γ α β ι : Type}

instance : Monad (Emit σ ε) where
  pure a := fun s => (a, s, [])
  bind m f := fun s =>
    let (a, s', es) := m s
    let (b, s'', es') := f a s'
    (b, s'', es ++ es')

def get : Emit σ ε σ := fun s => (s, s, [])

def modify (f : σ → σ) : Emit σ ε Unit := fun s => ((), f s, [])

def emit (e : ε) : Emit σ ε Unit := fun s => ((), s, [e])

def emitWhen (p : Prop) [Decidable p] (e : ε) : Emit σ ε Unit := if p then emit e else pure ()

def next (m : Emit σ ε α) (s : σ) : σ := (m s).2.1

def events (m : Emit σ ε α) (s : σ) : List ε := (m s).2.2

def emits : List ε → Emit σ ε Unit
  | [] => pure ()
  | e :: es => do emit e; emits es

def feed (f : ι → Emit σ ε Unit) : List ι → Emit σ ε Unit
  | [] => pure ()
  | x :: xs => do f x; feed f xs

@[simp] lemma next_pure (a : α) (s : σ) : next (pure a : Emit σ ε α) s = s := rfl
@[simp] lemma events_pure (a : α) (s : σ) : events (pure a : Emit σ ε α) s = [] := rfl
@[simp] lemma get_fst (s : σ) : ((get : Emit σ ε σ) s).1 = s := rfl
@[simp] lemma next_get (s : σ) : next (get : Emit σ ε σ) s = s := rfl
@[simp] lemma events_get (s : σ) : events (get : Emit σ ε σ) s = [] := rfl
@[simp] lemma next_modify (f : σ → σ) (s : σ) : next (modify f : Emit σ ε Unit) s = f s := rfl
@[simp] lemma events_modify (f : σ → σ) (s : σ) : events (modify f : Emit σ ε Unit) s = [] := rfl
@[simp] lemma next_emit (e : ε) (s : σ) : next (emit e) s = s := rfl
@[simp] lemma events_emit (e : ε) (s : σ) : events (emit e) s = [e] := rfl

lemma next_ite (p : Prop) [Decidable p] (m m' : Emit σ ε α) (s : σ) :
    next (if p then m else m') s = if p then next m s else next m' s := by
  split <;> rfl

@[simp] lemma next_emitWhen (p : Prop) [Decidable p] (e : ε) (s : σ) : next (emitWhen p e) s = s := by
  unfold emitWhen
  split <;> rfl

section

variable (m : Emit σ ε α) (f : α → Emit σ ε β) (s : σ)

@[simp] lemma next_bind : next (m >>= f) s = next (f (m s).1) (next m s) := rfl

@[simp] lemma events_bind : events (m >>= f) s = events m s ++ events (f (m s).1) (next m s) := rfl

end

@[simp] lemma next_emits (es : List ε) (s : σ) : next (emits es) s = s := by
  induction es with
  | nil => rfl
  | cons e es ih => exact ih

@[simp] lemma events_emits (es : List ε) (s : σ) : events (emits es) s = es := by
  induction es with
  | nil => rfl
  | cons e es ih => exact congrArg _ ih

variable {f : ι → Emit σ ε Unit}

/-! ### The client accepts -/

/-- From `P` the client accepts what the program emits, and `Q` holds afterwards. -/
def Follows (step : γ → ε → Option γ) (P : σ → γ → Prop) (m : Emit σ ε α) (Q : α → σ → γ → Prop) : Prop :=
  ∀ s c, P s c → ∃ c', runs step c (events m s) = some c' ∧ Q (m s).1 (next m s) c'

variable {m : Emit σ ε α}

section follows

variable {step : γ → ε → Option γ} {P P' : σ → γ → Prop} {Q Q' : α → σ → γ → Prop}

lemma Follows.pure {a : α} (h : ∀ s c, P s c → Q a s c) : Follows step P (Pure.pure a) Q :=
  fun s c hP => ⟨c, rfl, h s c hP⟩

lemma Follows.modify {f : σ → σ} {Q : Unit → σ → γ → Prop} (h : ∀ s c, P s c → Q () (f s) c) :
    Follows step P (Emit.modify f) Q :=
  fun s c hP => ⟨c, rfl, h s c hP⟩

lemma Follows.emit {e : ε} {Q : Unit → σ → γ → Prop} (h : ∀ s c, P s c → ∃ c', step c e = some c' ∧ Q () s c') :
    Follows step P (Emit.emit e) Q := by
  intro s c hP
  obtain ⟨c', hc, hQ⟩ := h s c hP
  exact ⟨c', by simp [runs, hc], hQ⟩

lemma Follows.bind {R : β → σ → γ → Prop} {f : α → Emit σ ε β} (hm : Follows step P m Q)
    (hf : ∀ a, Follows step (Q a) (f a) R) : Follows step P (m >>= f) R := by
  intro s c hP
  obtain ⟨c₁, hrun₁, hQ⟩ := hm s c hP
  obtain ⟨c₂, hrun₂, hR⟩ := hf _ _ _ hQ
  refine ⟨c₂, ?_, hR⟩
  rw [events_bind, runs_append, hrun₁]
  exact hrun₂

lemma Follows.get {f : σ → Emit σ ε α} (h : ∀ s₀, Follows step (fun s c => P s c ∧ s = s₀) (f s₀) Q) :
    Follows step P (Emit.get >>= f) Q := by
  intro s c hP
  exact h s s c ⟨hP, rfl⟩

section

variable (h : Follows step P m Q)

include h

lemma Follows.mono (hP : ∀ s c, P' s c → P s c) (hQ : ∀ a s c, Q a s c → Q' a s c) :
    Follows step P' m Q' := by
  intro s c hc
  obtain ⟨c', hrun, hpost⟩ := h s c (hP s c hc)
  exact ⟨c', hrun, hQ _ _ _ hpost⟩

lemma Follows.pre (hP : ∀ s c, P' s c → P s c) : Follows step P' m Q :=
  h.mono hP fun _ _ _ hQ => hQ

lemma Follows.post (hQ : ∀ a s c, Q a s c → Q' a s c) : Follows step P m Q' :=
  h.mono (fun _ _ hP => hP) hQ

end

lemma Follows.ite {p : Prop} [Decidable p] {m m' : Emit σ ε α} (h : p → Follows step P m Q) (h' : ¬p → Follows step P m' Q) :
    Follows step P (if p then m else m') Q := by
  split
  · exact h ‹_›
  · exact h' ‹_›

lemma Follows.emitWhen {p : Prop} [Decidable p] {e : ε} {Q : Unit → σ → γ → Prop}
    (h : p → ∀ s c, P s c → ∃ c', step c e = some c' ∧ Q () s c') (h' : ¬p → ∀ s c, P s c → Q () s c) :
    Follows step P (Emit.emitWhen p e) Q :=
  .ite (fun hp => .emit (h hp)) fun hp => .pure (h' hp)

/-- **The rule for runs**: what every allowed input keeps is kept by all of them, and the client accepts. -/
lemma Follows.feed {I : σ → γ → Prop} {ok : σ → ι → Prop}
    (h : ∀ x, Follows step (fun s c => I s c ∧ ok s x) (f x) fun _ => I) {s : σ} {c : γ} {xs : List ι} (hI : I s c)
    (hok : Along (fun s x => some (next (f x) s)) ok s xs) :
    ∃ c', runs step c (events (feed f xs) s) = some c' ∧ I (next (feed f xs) s) c' := by
  induction xs generalizing s c with
  | nil => exact ⟨c, rfl, hI⟩
  | cons x xs ih =>
    obtain ⟨c₁, hrun₁, hI₁⟩ := h x s c ⟨hI, hok.1⟩
    obtain ⟨c₂, hrun₂, hI₂⟩ := ih hI₁ (hok.2 _ rfl)
    refine ⟨c₂, ?_, hI₂⟩
    show runs step c (events (f x) s ++ events (.feed f xs) (next (f x) s)) = some c₂
    rw [runs_append, hrun₁]
    exact hrun₂

end follows

/-! ### If the client accepts -/

/-- From `P`, if the client accepts what the program emits, `Q` holds afterwards. -/
def Whenever (step : γ → ε → Option γ) (P : σ → γ → Prop) (m : Emit σ ε α) (Q : α → σ → γ → Prop) : Prop :=
  ∀ s c c', P s c → runs step c (events m s) = some c' → Q (m s).1 (next m s) c'

section whenever

variable {step : γ → ε → Option γ} {P P' : σ → γ → Prop} {Q Q' : α → σ → γ → Prop}

lemma Follows.whenever (h : Follows step P m Q) : Whenever step P m Q := by
  intro s c c' hP hrun
  obtain ⟨c₁, hrun₁, hQ⟩ := h s c hP
  obtain ⟨⟩ := hrun₁.symm.trans hrun
  exact hQ

lemma Whenever.pure {a : α} (h : ∀ s c, P s c → Q a s c) : Whenever step P (Pure.pure a) Q := (Follows.pure h).whenever

lemma Whenever.modify {f : σ → σ} {Q : Unit → σ → γ → Prop} (h : ∀ s c, P s c → Q () (f s) c) :
    Whenever step P (Emit.modify f) Q := (Follows.modify h).whenever

lemma Whenever.emit {e : ε} {Q : Unit → σ → γ → Prop} (h : ∀ s c c', P s c → step c e = some c' → Q () s c') :
    Whenever step P (Emit.emit e) Q := by
  intro s c c' hP hrun
  obtain ⟨c₁, hstep, hrest⟩ := runs_cons_eq_some.1 hrun
  obtain rfl : c₁ = c' := by simpa using hrest
  exact h s c c₁ hP hstep

lemma Whenever.bind {R : β → σ → γ → Prop} {f : α → Emit σ ε β} (hm : Whenever step P m Q)
    (hf : ∀ a, Whenever step (Q a) (f a) R) : Whenever step P (m >>= f) R := by
  intro s c c' hP hrun
  rw [events_bind, runs_append] at hrun
  obtain ⟨c₁, hrun₁, hrun₂⟩ := Option.bind_eq_some_iff.1 hrun
  exact hf _ _ _ _ (hm s c c₁ hP hrun₁) hrun₂

lemma Whenever.get {f : σ → Emit σ ε α} (h : ∀ s₀, Whenever step (fun s c => P s c ∧ s = s₀) (f s₀) Q) :
    Whenever step P (Emit.get >>= f) Q := by
  intro s c c' hP hrun
  exact h s s c c' ⟨hP, rfl⟩ hrun

lemma Whenever.mono (h : Whenever step P m Q) (hP : ∀ s c, P' s c → P s c)
    (hQ : ∀ a s c, Q a s c → Q' a s c) : Whenever step P' m Q' :=
  fun s c c' hc hrun => hQ _ _ _ (h s c c' (hP s c hc) hrun)

lemma Whenever.emitWhen {p : Prop} [Decidable p] {e : ε} {Q : Unit → σ → γ → Prop}
    (h : p → ∀ s c c', P s c → step c e = some c' → Q () s c') (h' : ¬p → ∀ s c, P s c → Q () s c) :
    Whenever step P (Emit.emitWhen p e) Q := by
  unfold Emit.emitWhen
  split
  · exact .emit (h ‹_›)
  · exact .pure (h' ‹_›)

end whenever

end Emit

end StarNexus.Lib
