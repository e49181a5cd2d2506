import Mathlib.Algebra.Order.Ring.Int
import StarNexus.Lib.Run

/-!
# The Redis circuit

After Redis has run out of memory, `responsesHTTPRedisCircuit` refuses writes until a cool-down has elapsed, and lets one probe
through then.  `success` and `fail` are not told which call has ended: a call from before the trip that ends late gives the
place of the probe away, or closes the circuit before its time.
-/

namespace StarNexus.Continuation

open StarNexus.Lib Option
open Function (update update_of_ne update_self)

/-- `responsesHTTPRedisCircuit`; a zero `openUntil` is `none`. -/
structure RedisCircuit where
  openUntil : Option ℤ := none
  probeInFlight : Bool := false
  tripCount : ℕ := 0
  cooldown : ℤ := 30000000000
  jitter : ℤ := 15000000000

def RedisCircuit.allow (c : RedisCircuit) (now : ℤ) : (Bool × Bool) × RedisCircuit :=
  match c.openUntil with
  | none => ((true, false), c)
  | some t =>
    if t ≤ now then
      if c.probeInFlight then ((false, false), c) else ((true, true), { c with probeInFlight := true })
    else ((false, false), c)

def RedisCircuit.success (c : RedisCircuit) : RedisCircuit := { c with openUntil := none, probeInFlight := false }

def RedisCircuit.fail (c : RedisCircuit) (isOOM : Bool) (roll : ℕ) (now : ℤ) : RedisCircuit :=
  if isOOM then
    let jitter := if 0 < c.jitter then roll % c.jitter else 0
    let cooldown := if c.cooldown ≤ 0 then 30000000000 else c.cooldown
    { c with probeInFlight := false, tripCount := c.tripCount + 1, openUntil := some (now + (cooldown + jitter)) }
  else { c with probeInFlight := false }

/-- The calls of the writers; `allow` has read the clock before it takes the lock. -/
inductive CircuitCall
  | allow (writer : ℕ) (read : ℤ)
  | success (writer : ℕ)
  | fail (writer : ℕ) (isOOM : Bool) (roll : ℕ)

/-- The circuit, the writers in flight, each a probe or not, and the end of the last cool-down. -/
structure Writers where
  circuit : RedisCircuit
  clock : ℤ
  flying : ℕ → Option Bool
  coolUntil : Option ℤ

def Writers.start (c : RedisCircuit) (z : ℤ) : Writers := ⟨c, z, fun _ => none, c.openUntil⟩

def Writers.step (s : Writers) : ℤ × CircuitCall → Option Writers
  | (now, .allow w read) =>
    let a := s.circuit.allow read
    if s.clock ≤ now ∧ read ≤ now ∧ s.flying w = none then
      some { s with circuit := a.2, clock := now, flying := if a.1.1 then update s.flying w (some a.1.2) else s.flying }
    else none
  | (now, .success w) =>
    if s.clock ≤ now ∧ s.flying w ≠ none then
      some { s with circuit := s.circuit.success, clock := now, flying := update s.flying w none }
    else none
  | (now, .fail w isOOM roll) =>
    if s.clock ≤ now ∧ s.flying w ≠ none then
      let circuit := s.circuit.fail isOOM roll now
      some { circuit, clock := now, flying := update s.flying w none
             coolUntil := if isOOM then circuit.openUntil else s.coolUntil }
    else none

/-- No two probes are in flight, and no call is allowed before the cool-down has elapsed. -/
def Writers.Guarded (s : Writers) : Prop :=
  (∀ v w, s.flying v = some true → s.flying w = some true → v = w) ∧
    ∀ now read, s.clock ≤ now → read ≤ now → (s.circuit.allow read).1.1 = true → ∀ t ∈ s.coolUntil, t ≤ now

/-- The call that ends is the probe, or no probe is in flight and a success does not cut a cool-down short. -/
def Writers.EndsInTime (s : Writers) : ℤ × CircuitCall → Prop
  | (_, .allow _ _) => True
  | (now, .success w) => s.flying w = some true ∨ s.circuit.probeInFlight = false ∧ ∀ t ∈ s.circuit.openUntil, t ≤ now
  | (_, .fail w _ _) => s.flying w = some true ∨ s.circuit.probeInFlight = false

structure Writers.Sound (s : Writers) : Prop where
  cool : ∀ t ∈ s.coolUntil, t ≤ s.clock ∨ s.circuit.openUntil = some t
  probe : ∀ w, s.flying w = some true → s.circuit.probeInFlight = true ∧ ∃ t ∈ s.circuit.openUntil, t ≤ s.clock
  one : ∀ v w, s.flying v = some true → s.flying w = some true → v = w

variable {s s' : Writers}

lemma RedisCircuit.allow_cases (c : RedisCircuit) (now : ℤ) :
    c.openUntil = none ∧ c.allow now = ((true, false), c) ∨
    (∃ t ∈ c.openUntil, t ≤ now) ∧ c.probeInFlight = false ∧ c.allow now = ((true, true), { c with probeInFlight := true }) ∨
    c.allow now = ((false, false), c) := by
  unfold RedisCircuit.allow
  cases c.openUntil with
  | none => exact .inl ⟨rfl, rfl⟩
  | some t =>
    by_cases hdue : t ≤ now <;> cases c.probeInFlight <;> simp [hdue]

lemma Writers.Sound.guarded (h : s.Sound) : s.Guarded := by
  refine ⟨h.one, fun now read hnow hread hallowed t ht => ?_⟩
  rcases h.cool t ht with hpast | hopen
  · exact hpast.trans hnow
  · rcases s.circuit.allow_cases read with ⟨hnone, -⟩ | ⟨⟨t', ht', hdue⟩, -⟩ | hno
    · exact nomatch hnone.symm.trans hopen
    · exact Option.some.inj (ht'.symm.trans hopen) ▸ hdue.trans hread
    · rw [hno] at hallowed
      cases hallowed

lemma Writers.Sound.of_none (hcool : ∀ t ∈ s.coolUntil, t ≤ s.clock ∨ s.circuit.openUntil = some t)
    (hnone : ∀ v, s.flying v ≠ some true) : s.Sound :=
  ⟨hcool, fun v hv => absurd hv (hnone v), fun v _ hv => absurd hv (hnone v)⟩

lemma update_ne_probe {flying : ℕ → Option Bool} {w : ℕ} {b : Option Bool} (hb : b ≠ some true)
    (h : ∀ v ≠ w, flying v ≠ some true) (v : ℕ) : update flying w b v ≠ some true := by
  by_cases hvw : v = w
  · simpa [hvw] using hb
  · rw [update_of_ne hvw]
    exact h v hvw

lemma Writers.Sound.ended {w : ℕ} (h : s.Sound) (hw : s.flying w = some true ∨ s.circuit.probeInFlight = false) :
    ∀ v, update s.flying w none v ≠ some true := by
  refine update_ne_probe nofun fun v hvw hv => ?_
  rcases hw with hw | hw
  · exact hvw (h.one v w hv hw)
  · exact nomatch hw.symm.trans (h.probe v hv).1

/-- **One call** keeps the circuit guarded, if the call that ends does so in time. -/
lemma Writers.Sound.step (h : s.Sound) {x : ℤ × CircuitCall} (hok : s.EndsInTime x) (hstep : s.step x = some s') : s'.Sound := by
  obtain ⟨now, call⟩ := x
  cases call with
  | allow w read =>
    obtain ⟨⟨hclock, hread, -⟩, hs'⟩ := ite_none_right_eq_some.1 hstep
    have hcool := fun t ht => (h.cool t ht).imp_left hclock.trans'
    rcases s.circuit.allow_cases read with ⟨hnone, heq⟩ | ⟨⟨t, ht, hdue⟩, hflag, heq⟩ | heq <;> rw [heq] at hs' <;> cases hs'
    · refine .of_none hcool (update_ne_probe (by simp) fun v _ hv => ?_)
      obtain ⟨-, t, ht, -⟩ := h.probe v hv
      exact nomatch hnone.symm.trans ht
    · have hprobe : ∀ v, update s.flying w (some true) v = some true → v = w := by
        intro v hv
        by_contra hne
        rw [update_of_ne hne] at hv
        exact nomatch hflag.symm.trans (h.probe v hv).1
      exact ⟨hcool, fun v _ => ⟨rfl, t, ht, hdue.trans hread⟩, fun v v' hv hv' => (hprobe v hv).trans (hprobe v' hv').symm⟩
    · refine ⟨hcool, fun v hv => ?_, h.one⟩
      obtain ⟨hflag, t, ht, hle⟩ := h.probe v hv
      exact ⟨hflag, t, ht, hle.trans hclock⟩
  | success w =>
    obtain ⟨⟨hclock, -⟩, ⟨⟩⟩ := ite_none_right_eq_some.1 hstep
    refine .of_none (fun t ht => .inl ?_) (h.ended (hok.imp_right And.left))
    rcases h.cool t ht with hpast | hopen
    · exact hpast.trans hclock
    · rcases hok with hw | ⟨-, hdue⟩
      · obtain ⟨-, t', ht', hle⟩ := h.probe w hw
        exact Option.some.inj (ht'.symm.trans hopen) ▸ hle.trans hclock
      · exact hdue t hopen
  | fail w isOOM roll =>
    obtain ⟨⟨hclock, -⟩, ⟨⟩⟩ := ite_none_right_eq_some.1 hstep
    refine .of_none (fun t ht => ?_) (h.ended hok)
    cases isOOM with
    | true => exact .inr ht
    | false => exact (h.cool t ht).imp_left hclock.trans'

/-- **The circuit is guarded** in every run in which calls from before a trip end in time. -/
theorem circuit_guarded (c : RedisCircuit) (z : ℤ) {calls : List (ℤ × CircuitCall)}
    (hrun : runs Writers.step (.start c z) calls = some s)
    (hok : Along Writers.step Writers.EndsInTime (.start c z) calls) : s.Guarded := by
  have hstart : (Writers.start c z).Sound := .of_none (fun _ h => .inr h) nofun
  exact (runs_inv Writers.Sound (fun _ _ _ h hok hstep => h.step hok hstep) hstart hok hrun).guarded

def recovery : List (ℤ × CircuitCall) :=
  [(0, .allow 0 0), (1, .fail 0 true 0), (2, .allow 1 2), (30000000001, .allow 2 30000000001), (30000000002, .success 2)]

theorem circuit_guarded_recovery : ∃ s, runs Writers.step (.start {} 0) recovery = some s ∧ s.Guarded := by
  have hrun : runs Writers.step (.start {} 0) recovery = some _ := rfl
  refine ⟨_, hrun, circuit_guarded {} 0 hrun ?_⟩
  exact .cons trivial rfl (.cons (.inr rfl) rfl (.cons trivial rfl (.cons trivial rfl (.cons (.inl rfl) rfl trivial))))

/-- The call `1` is from before the trip, and fails while the probe `2` is in flight. -/
def lateFailure : List (ℤ × CircuitCall) :=
  [(0, .allow 0 0), (0, .allow 1 0), (0, .fail 0 true 0), (30000000000, .allow 2 30000000000), (30000000000, .fail 1 false 0),
    (30000000000, .allow 3 30000000000)]

def lateSuccess : List (ℤ × CircuitCall) := [(0, .allow 0 0), (0, .allow 1 0), (0, .fail 0 true 0), (1, .success 1)]

/-- Two probes are in flight, and a call is allowed a nanosecond after the trip. -/
theorem late_calls_unguarded :
    (∃ s, runs Writers.step (.start {} 0) lateFailure = some s ∧ s.flying 2 = some true ∧ s.flying 3 = some true) ∧
    ∃ s, runs Writers.step (.start {} 0) lateSuccess = some s ∧ s.coolUntil = some 30000000000 ∧
      (s.circuit.allow 1).1.1 = true :=
  ⟨⟨_, rfl, rfl, rfl⟩, ⟨_, rfl, rfl, rfl⟩⟩

end StarNexus.Continuation
