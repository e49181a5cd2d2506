import StarNexus.Lib.Exec

/-!
# Rules for transactions and for functions made of them

Three judgements, derived from `Prog.wp` and so valid for every choice of failing statements:

* `Tx.Ensures` is about the body of a transaction; what it leaves behind on an error is rolled back;
* `Tx.Yields` and `Tx.Keeps` are about functions that consist of whole transactions and of single statements.

`Yields.transaction` leads from the first to the second.  The body of a transaction can call functions that use connections of
their own and commit what they write; as long as it has not written anything itself, it is specified by
`Tx.Starts body r E Q`, where `E` holds of what is committed whatever the body returns.
-/

namespace StarNexus.Lib.Tx

open Prog Tx

variable {S : Schema} {α β : Type}

/-- The body of a transaction ends without an error only in `Q`, and commits nothing. -/
def Ensures (p : Tx S α) (w : Snap S) (Q : α → Snap S → Prop) : Prop :=
  ∀ r, Prog.wp p (fun x r' w' => r' = r ∧ ∀ a, x = .ok a → Q a w') r w

/-- An execution from committed rows `r`, with no transaction open, ends in `E` with an error and in `Q` with a result. -/
def Yields (p : Tx S α) (r : Snap S) (E : Snap S → Prop) (Q : α → Snap S → Prop) : Prop :=
  Prog.wp p (fun x r' w' => w' = r' ∧ (∀ e, x = .error e → E r') ∧ ∀ a, x = .ok a → Q a r') r r

/-- Every execution keeps the property `I` of the committed rows. -/
def Keeps (p : Tx S α) (I : Snap S → Prop) : Prop := ∀ r, I r → Yields p r I fun _ r' => I r'

variable {p : Tx S α} {f : α → Tx S β} {ℓ : S.Label}

section ensures

variable {w : Snap S} {Q Q' : α → Snap S → Prop}

lemma Ensures.mono (h : Ensures p w Q) (hQ : ∀ a w', Q a w' → Q' a w') : Ensures p w Q' :=
  fun r => wp_mono p (fun _ _ _ hx => ⟨hx.1, fun a ha => hQ a _ (hx.2 a ha)⟩) (h r)

lemma Ensures.and (h : Ensures p w Q) (h' : Ensures p w Q') : Ensures p w fun a w' => Q a w' ∧ Q' a w' :=
  fun r => wp_mono p (fun _ _ _ hx => ⟨hx.1.1, fun a ha => ⟨hx.1.2 a ha, hx.2.2 a ha⟩⟩)
    (wp_and p (h r) (h' r))

lemma Ensures.pure {a : α} (h : Q a w) : Ensures (Pure.pure a : Tx S α) w Q := by
  intro r
  refine ⟨rfl, fun b hb => ?_⟩
  cases hb
  exact h

lemma Ensures.fail (e : Err) : Ensures (Tx.fail e : Tx S α) w Q := by
  intro r
  refine ⟨rfl, fun b hb => ?_⟩
  cases hb

lemma Ensures.now {Q : ℤ → Snap S → Prop} (h : ∀ z, Q z w) : Ensures (now : Tx S ℤ) w Q := by
  intro r z
  refine ⟨rfl, fun b hb => ?_⟩
  cases hb
  exact h z

lemma Ensures.select {q : Snap S → α} (h : Q (q w) w) : Ensures (Tx.select ℓ q) w Q := by
  intro r
  refine ⟨⟨rfl, fun b hb => ?_⟩, ⟨rfl, fun b hb => ?_⟩⟩
  · cases hb
  · cases hb
    exact h

lemma Ensures.exec {Q : ℕ → Snap S → Prop} {f : Snap S → List (Write S)}
    (h : Q (f w).length (w.put (f w))) : Ensures (Tx.exec ℓ f) w Q := by
  intro r
  refine ⟨⟨rfl, fun b hb => ?_⟩, ⟨rfl, fun b hb => ?_⟩⟩
  · cases hb
  · cases hb
    exact h

lemma Ensures.bind {Q : β → Snap S → Prop}
    (h : Ensures p w fun a w' => Ensures (f a) w' Q) : Ensures (p >>= f) w Q := by
  intro r
  rw [bind_eq, wp_bind]
  refine wp_mono p ?_ (h r)
  rintro x r' w' ⟨rfl, hx⟩
  refine ⟨fun e _ => ⟨rfl, fun b hb => ?_⟩, fun a ha => hx a ha r'⟩
  cases hb

lemma Ensures.ite {c : Prop} [Decidable c] {p q : Tx S α} (hp : c → Ensures p w Q) (hq : ¬c → Ensures q w Q) :
    Ensures (if c then p else q) w Q := by
  split
  · next hc => exact hp hc
  · next hc => exact hq hc

lemma Ensures.guard {c : Prop} [Decidable c] {e : Err} (h : ¬c → Ensures p w Q) :
    Ensures (if c then Tx.fail e else p) w Q := .ite (fun _ => .fail e) h

lemma Ensures.attempt_select {q : Snap S → α} {Q : Except Err α → Snap S → Prop}
    (herr : ∀ e, Q (.error e) w) (h : Q (.ok (q w)) w) : Ensures (Tx.attempt (Tx.select ℓ q)) w Q := by
  intro r
  refine ⟨⟨rfl, fun b hb => ?_⟩, ⟨rfl, fun b hb => ?_⟩⟩
  · cases hb
    exact herr _
  · cases hb
    exact h

lemma Ensures.row {Q : ℕ → Snap S → Prop} {k : S.Key} {f : S.Val k → Option (S.Val k)}
    (hnone : f (w k) = none → Q 0 w) (hsome : ∀ v, f (w k) = some v → Q 1 (Function.update w k v)) :
    Ensures (Tx.exec ℓ (rowWrite k f)) w Q := by
  refine .exec ?_
  cases hv : f (w k) with
  | none => simpa [rowWrite, hv] using hnone hv
  | some v => simpa [rowWrite, hv] using hsome v hv

lemma Ensures.row_of {Q : ℕ → Snap S → Prop} {k : S.Key} {f : S.Val k → Option (S.Val k)} {v : S.Val k}
    (hv : f (w k) = some v) (h : Q 1 (Function.update w k v)) : Ensures (Tx.exec ℓ (rowWrite k f)) w Q :=
  .exec (by simpa [rowWrite, hv] using h)

end ensures

section yields

variable {r : Snap S} {E : Snap S → Prop} {Q : α → Snap S → Prop} {Q' : α → Snap S → Prop}

lemma Yields.mono {E' : Snap S → Prop} (h : Yields p r E Q)
    (hE : ∀ r', E r' → E' r') (hQ : ∀ a r', Q a r' → Q' a r') : Yields p r E' Q' :=
  wp_mono p (fun _ _ _ hx => ⟨hx.1, fun e he => hE _ (hx.2.1 e he), fun a ha => hQ a _ (hx.2.2 a ha)⟩) h

lemma Yields.post (h : Yields p r E Q) (hQ : ∀ a r', Q a r' → Q' a r') : Yields p r E Q' :=
  h.mono (fun _ he => he) hQ

lemma Yields.pure {a : α} (h : Q a r) : Yields (Pure.pure a : Tx S α) r E Q := by
  refine ⟨rfl, fun e he => ?_, fun b hb => ?_⟩
  · cases he
  · cases hb
    exact h

lemma Yields.fail {e : Err} (h : E r) : Yields (Tx.fail e : Tx S α) r E Q := by
  refine ⟨rfl, fun _ _ => h, fun b hb => ?_⟩
  cases hb

lemma Yields.now {Q : ℤ → Snap S → Prop} (h : ∀ z, Q z r) : Yields (now : Tx S ℤ) r E Q := by
  refine fun z => ⟨rfl, fun e he => ?_, fun b hb => ?_⟩
  · cases he
  · cases hb
    exact h z

lemma Yields.emit {Q : Unit → Snap S → Prop} {e : S.Event} (h : Q () r) : Yields (emit e : Tx S Unit) r E Q := by
  refine ⟨rfl, fun e he => ?_, fun b hb => ?_⟩
  · cases he
  · exact h

lemma Yields.select {q : Snap S → α} (hE : E r) (h : Q (q r) r) : Yields (Tx.select ℓ q) r E Q := by
  refine ⟨⟨rfl, fun _ _ => hE, fun b hb => ?_⟩, ⟨rfl, fun e he => ?_, fun b hb => ?_⟩⟩
  · cases hb
  · cases he
  · cases hb
    exact h

lemma Yields.execAuto {Q : ℕ → Snap S → Prop} {f : Snap S → List (Write S)} (hE : E r)
    (h : Q (f r).length (r.put (f r))) : Yields (Tx.execAuto ℓ f) r E Q := by
  refine ⟨⟨rfl, fun _ _ => hE, fun b hb => ?_⟩, ⟨rfl, fun e he => ?_, fun b hb => ?_⟩⟩
  · cases hb
  · cases he
  · cases hb
    exact h

lemma Yields.autoRow {Q : ℕ → Snap S → Prop} {k : S.Key} {f : S.Val k → Option (S.Val k)} (hE : E r)
    (hnone : f (r k) = none → Q 0 r) (hsome : ∀ v, f (r k) = some v → Q 1 (Function.update r k v)) :
    Yields (Tx.execAuto ℓ (rowWrite k f)) r E Q := by
  refine .execAuto hE ?_
  cases hv : f (r k) with
  | none => simpa [rowWrite, hv] using hnone hv
  | some v => simpa [rowWrite, hv] using hsome v hv

variable {c : Prop}

lemma Yields.ite [Decidable c] {p q : Tx S α} (hp : c → Yields p r E Q) (hq : ¬c → Yields q r E Q) :
    Yields (if c then p else q) r E Q := by
  split
  · next hc => exact hp hc
  · next hc => exact hq hc

lemma Yields.guard [Decidable c] {e : Err} (hE : E r) (h : ¬c → Yields p r E Q) :
    Yields (if c then Tx.fail e else p) r E Q := .ite (fun _ => .fail hE) h

lemma Yields.bind {Q : β → Snap S → Prop}
    (h : Yields p r E fun a r' => Yields (f a) r' E Q) : Yields (p >>= f) r E Q := by
  unfold Yields
  rw [bind_eq, wp_bind]
  refine wp_mono p ?_ h
  rintro x r' w' ⟨rfl, hx⟩
  refine ⟨fun e he => ⟨rfl, fun _ _ => hx.1 e he, fun b hb => ?_⟩, hx.2⟩
  cases hb

lemma Yields.attempt {Q : Except Err α → Snap S → Prop}
    (h : Yields p r (fun r' => ∀ e, Q (.error e) r') fun a r' => Q (.ok a) r') : Yields (Tx.attempt p) r E Q := by
  unfold Yields
  rw [wp_attempt]
  refine wp_mono p ?_ h
  rintro (e | a) r' w' ⟨rfl, hx⟩
  · refine ⟨rfl, fun _ he => ?_, fun b hb => ?_⟩
    · cases he
    · cases hb
      exact hx.1 e rfl e
  · refine ⟨rfl, fun _ he => ?_, fun b hb => ?_⟩
    · cases he
    · cases hb
      exact hx.2 a rfl

def Starts (p : Tx S α) (r : Snap S) (E : Snap S → Prop) (Q : α → Snap S → Prop) : Prop :=
  Prog.wp p (fun x r' w' => E r' ∧ ∀ a, x = .ok a → Q a w') r r

lemma Starts.ofEnsures (hE : E r) (h : Ensures p r Q) : Starts p r E Q := by
  refine wp_mono p ?_ (h r)
  rintro x _ w' ⟨rfl, hx⟩
  exact ⟨hE, hx⟩

lemma Starts.bind {Q : β → Snap S → Prop}
    (h : Yields p r E fun a r' => Starts (f a) r' E Q) : Starts (p >>= f) r E Q := by
  unfold Starts
  rw [bind_eq, wp_bind]
  refine wp_mono p ?_ h
  rintro x r' w' ⟨rfl, hx⟩
  refine ⟨fun e he => ⟨hx.1 e he, fun b hb => ?_⟩, hx.2⟩
  cases hb

lemma Starts.ite [Decidable c] {p q : Tx S α} (hp : c → Starts p r E Q) (hq : ¬c → Starts q r E Q) :
    Starts (if c then p else q) r E Q := by
  split
  · next hc => exact hp hc
  · next hc => exact hq hc

lemma Yields.transaction_starts {body : Tx S α} (hE : E r) (h : Starts body r E Q) :
    Yields (Tx.transaction body) r E Q := by
  unfold Yields
  rw [wp_transaction]
  refine ⟨⟨rfl, fun _ _ => hE, fun a ha => ?_⟩, wp_mono body ?_ h⟩
  · cases ha
  rintro x r' w' ⟨hE', hx⟩
  refine ⟨fun e _ => ⟨rfl, fun _ _ => hE', fun a ha => ?_⟩, fun a ha => ⟨⟨rfl, fun _ _ => hE', fun b hb => ?_⟩, rfl,
    fun e he => ?_, fun b hb => ?_⟩⟩
  · cases ha
  · cases hb
  · cases he
  · cases hb
    exact hx a ha

/-- **A transaction**: either nothing is committed or the working rows of a body that succeeded. -/
lemma Yields.transaction {body : Tx S α} (hE : E r) (h : Ensures body r Q) : Yields (Tx.transaction body) r E Q :=
  .transaction_starts hE (.ofEnsures hE h)

lemma Yields.exec (h : Yields p r E Q) (o : Oracle) :
    (∀ e, (Prog.exec o p (Solo.init r)).1 = .error e → E (Prog.exec o p (Solo.init r)).2.rows) ∧
      ∀ a, (Prog.exec o p (Solo.init r)).1 = .ok a → Q a (Prog.exec o p (Solo.init r)).2.rows :=
  (wp_exec o p (.init r) h).2

end yields

section keeps

variable {I : Snap S → Prop}

lemma Keeps.and {J : Snap S → Prop} (h : Keeps p I) (h' : Keeps p J) : Keeps p fun r => I r ∧ J r := by
  intro r hr
  refine wp_mono p ?_ (wp_and p (h r hr.1) (h' r hr.2))
  rintro x r' w' ⟨⟨hw, hE, hQ⟩, -, hE', hQ'⟩
  exact ⟨hw, fun e he => ⟨hE e he, hE' e he⟩, fun a ha => ⟨hQ a ha, hQ' a ha⟩⟩

lemma Keeps.pure (a : α) : Keeps (Pure.pure a : Tx S α) I := fun _ h => .pure h

lemma Keeps.fail (e : Err) : Keeps (Tx.fail e : Tx S α) I := fun _ h => .fail h

lemma Keeps.now : Keeps (now : Tx S ℤ) I := fun _ h => .now fun _ => h

lemma Keeps.emit (e : S.Event) : Keeps (emit e : Tx S Unit) I := fun _ h => .emit h

lemma Keeps.select (ℓ : S.Label) (q : Snap S → α) : Keeps (Tx.select ℓ q) I := fun _ h => .select h h

lemma Keeps.execAuto {f : Snap S → List (Write S)} (h : ∀ r, I r → I (r.put (f r))) :
    Keeps (Tx.execAuto ℓ f) I := fun r hr => .execAuto hr (h r hr)

lemma Keeps.thenYields {Q : β → Snap S → Prop} {r : Snap S} (hp : Keeps p I) (hr : I r)
    (hf : ∀ a r', I r' → Yields (f a) r' I Q) : Yields (p >>= f) r I Q :=
  .bind ((hp r hr).mono (fun _ h => h) hf)

lemma Keeps.bind (hp : Keeps p I) (hf : ∀ a, Keeps (f a) I) : Keeps (p >>= f) I :=
  fun _ hr => hp.thenYields hr hf

lemma Keeps.attempt (hp : Keeps p I) : Keeps (Tx.attempt p) I :=
  fun r hr => .attempt ((hp r hr).mono (fun _ h _ => h) fun _ _ h => h)

lemma Keeps.ite {c : Prop} [Decidable c] {p q : Tx S α} (hp : c → Keeps p I) (hq : ¬c → Keeps q I) :
    Keeps (if c then p else q) I := by
  split
  · next hc => exact hp hc
  · next hc => exact hq hc

lemma Keeps.transaction {body : Tx S α} (h : ∀ r, I r → Ensures body r fun _ w' => I w') :
    Keeps (Tx.transaction body) I := fun r hr => .transaction hr (h r hr)

lemma Keeps.exec (hp : Keeps p I) (o : Oracle) {r : Snap S} (hr : I r) :
    I (Prog.exec o p (Solo.init r)).2.rows := by
  obtain ⟨herr, hok⟩ := (hp r hr).exec o
  cases hx : (Prog.exec o p (.init r)).1 with
  | error e => exact herr e hx
  | ok a => exact hok a hx

end keeps

end StarNexus.Lib.Tx
