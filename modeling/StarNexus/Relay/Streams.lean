import StarNexus.Relay.Loop

/-!
# What the stream handlers leave behind

An attempt of the relay loop ends with a stream handler.  Two of them are modelled here, each as the attempt it makes of
the events an upstream sends: the Claude handler, which counts nothing of what it writes, and the handler of a Responses
stream, which holds events back until the answer starts.  Writes to the client fail in the second of them only.
-/

namespace StarNexus.Relay

open StarNexus.Lib List Nat

def Attempt.after (a : Attempt) (piece : List String) (counted : ℕ) : Attempt :=
  { a with answer := piece ++ a.answer, counted := counted + a.counted }

/-! ## Claude -/

inductive ClaudeEvent where
  | undecodable
  | error (type message : String)
  /-- A `ping`, which carries nothing of the answer. -/
  | ping
  | piece (text : String)
  | messageStop

def badResponseBody (message : String) : NewAPIError :=
  { errorCode := "bad_response_body", statusCode := 500, message, openAICode := "bad_response_body"
    openAIMessage := message }

def withClaudeError (type message : String) : NewAPIError :=
  { errorCode := type, statusCode := 500, message, openAICode := type, openAIMessage := message }

/-- `ClaudeStreamHandler`: each event is written as it comes, and `SendResponseCount` is left alone. -/
def claudeStreamHandler : List ClaudeEvent → Attempt
  | [] => {}
  | .undecodable :: _ => { failure := some (badResponseBody "") }
  | .error type message :: _ => { failure := some (withClaudeError type message) }
  | .ping :: rest => claudeStreamHandler rest
  | .piece text :: rest => (claudeStreamHandler rest).after [text] 0
  | .messageStop :: _ => {}

/-! ## Responses -/

/-- An event of a Responses stream: what it shows of the answer and what the accumulator reads of it. -/
structure ResponsesEvent where
  /-- `Consume` can read it; an event it cannot read is noted as an error, and the stream goes on. -/
  decodes : Bool := true
  shown : List String := []
  /-- `ResponsesStreamDataStartsClientOutput`. -/
  startsOutput : Bool := false
  usage : Bool := false
  terminal : Bool := false
  successful : Bool := false
  /-- `event.Response.GetOpenAIError()` with the status 503, where the event has a response. -/
  responseError : Option (Option NewAPIError) := none
  /-- The error an `error` event carries beside its response. -/
  envelopeError : Option NewAPIError := none
deriving DecidableEq

/-- The variables of `OaiResponsesStreamHandler`; the events held back keep their place in the stream. -/
structure ResponsesState where
  usageReported : Bool := false
  terminal : Bool := false
  successful : Bool := false
  failure : Option NewAPIError := none
  prelude : List (ResponsesEvent × ℕ) := []
  clientOutputStarted : Bool := false

def ResponsesState.consume (s : ResponsesState) (event : ResponsesEvent) : ResponsesState :=
  { s with
    usageReported := s.usageReported || event.usage
    terminal := s.terminal || event.terminal
    successful := if event.terminal then event.successful else s.successful
    failure := if event.terminal then (event.responseError.getD s.failure).or event.envelopeError else s.failure }

/-- The capacity error that ends an attempt of the account pool. -/
def ResponsesState.capacityError (s : ResponsesState) (pool : Bool) : Option NewAPIError :=
  if pool ∧ ¬s.clientOutputStarted ∧ ¬s.usageReported ∧ s.terminal ∧ ¬s.successful then
    s.failure.filter isUpstreamCapacityError
  else none

def upstreamEOF : NewAPIError :=
  { errorCode := upstreamStreamIncomplete, statusCode := 502, skipRetry := true
    message := "upstream Responses stream ended with EOF before a terminal response"
    openAICode := upstreamStreamIncomplete
    openAIMessage := "upstream Responses stream ended with EOF before a terminal response" }

inductive StreamEnd where
  | answered
  | capacity (e : NewAPIError)
  | incomplete
  | writeFailed
deriving DecidableEq

def StreamEnd.failure : StreamEnd → Option NewAPIError
  | .answered => none
  | .capacity e => some { e with statusCode := 529 }
  | .incomplete => some upstreamEOF
  | .writeFailed => some { errorCode := "bad_response", statusCode := 502, openAICode := "bad_response" }

def StreamEnd.replays : StreamEnd → Bool
  | .answered => false
  | .capacity _ => true
  | .incomplete => true
  | .writeFailed => false

/-- The client of a stream: the writes tried so far and the events it has received. -/
structure Client where
  writes : ℕ := 0
  received : List (ResponsesEvent × ℕ) := []

/-- `deliver` for events in turn, up to the first write that fails; `fails` says of each write whether it does. -/
def Client.deliver (fails : ℕ → Bool) : Client → List (ResponsesEvent × ℕ) → Client × Bool
  | c, [] => (c, true)
  | c, event :: rest =>
    if fails c.writes then ({ c with writes := c.writes + 1 }, false)
    else Client.deliver fails ⟨c.writes + 1, c.received ++ [event]⟩ rest

def afterScan (pool eof : Bool) (fails : ℕ → Bool) (s : ResponsesState) (c : Client) : Client × StreamEnd :=
  if pool ∧ ¬s.clientOutputStarted ∧ ¬s.terminal ∧ ¬s.usageReported ∧ eof then (c, .incomplete)
  else
    match c.deliver fails s.prelude with
    | (c, true) => (c, .answered)
    | (c, false) => (c, .writeFailed)

/-- `OaiResponsesStreamHandler`; `pool` is `stageCapacityPrelude`. A failed write keeps the events held back. -/
def responsesStream (pool eof : Bool) (fails : ℕ → Bool) :
    ResponsesState → Client → List (ResponsesEvent × ℕ) → Client × StreamEnd
  | s, c, [] => afterScan pool eof fails s c
  | s, c, event :: rest =>
    if ¬event.1.decodes then responsesStream pool eof fails s c rest
    else
      let s := s.consume event.1
      match s.capacityError pool with
      | some e => (c, .capacity e)
      | none =>
        if pool ∧ ¬s.clientOutputStarted ∧ ¬event.1.startsOutput then
          responsesStream pool eof fails { s with prelude := s.prelude ++ [event] } c rest
        else
          match c.deliver fails s.prelude with
          | (c, false) => afterScan pool false fails s c
          | (c, true) =>
            match c.deliver fails [event] with
            | (c, false) => afterScan pool false fails { s with prelude := [] } c
            | (c, true) => responsesStream pool eof fails { s with prelude := [], clientOutputStarted := true } c rest

def oaiResponsesStreamHandler (pool eof : Bool) (fails : ℕ → Bool) (events : List ResponsesEvent) : Client × StreamEnd :=
  responsesStream pool eof fails {} {} events.zipIdx

def Attempt.ofStream (r : Client × StreamEnd) : Attempt :=
  { answer := r.1.received.flatMap (·.1.shown), counted := r.1.received.length, failure := r.2.failure }

/-- The client has no event if another account answers, and else the events in order and each once. -/
def SafeReplay (fails : ℕ → Bool) (events : List (ResponsesEvent × ℕ)) (r : Client × StreamEnd) : Prop :=
  if r.2.replays then r.1.received = []
  else r.1.received <+: events ∧ ((∀ n < r.1.writes, fails n = false) → r.1.received = events)

/-- Once a write has failed the connection is gone, and every later write fails as well. -/
def writeFails (brokenFrom : Option ℕ) (n : ℕ) : Bool := brokenFrom.any (· ≤ n)

open Client

section

variable (pool eof : Bool) {fails : ℕ → Bool} {s : ResponsesState} {c : Client} {evts : List (ResponsesEvent × ℕ)}

lemma Client.deliver_cases (fails : ℕ → Bool) (l : List (ResponsesEvent × ℕ)) (c : Client) :
    (c.deliver fails l = (⟨c.writes + l.length, c.received ++ l⟩, true) ∧
      ∀ m < l.length, fails (c.writes + m) = false) ∨
    ∃ j < l.length, c.deliver fails l = (⟨c.writes + j + 1, c.received ++ l.take j⟩, false) ∧
      (∀ m < j, fails (c.writes + m) = false) ∧ fails (c.writes + j) = true := by
  induction l generalizing c with
  | nil => simp [deliver]
  | cons event rest ih =>
    by_cases hf : fails c.writes
    · exact .inr ⟨0, by simp, by simp [deliver, hf], by simp, hf⟩
    rw [Bool.not_eq_true] at hf
    have hstep (j : ℕ) (h : ∀ m < j, fails (c.writes + 1 + m) = false) : ∀ m < j + 1, fails (c.writes + m) = false := by
      rintro (_ | m) hm
      · exact hf
      · rw [add_comm m, ← add_assoc]
        exact h m (by omega)
    have hrun : c.deliver fails (event :: rest) = deliver fails ⟨c.writes + 1, c.received ++ [event]⟩ rest := by
      simp [deliver, hf]
    rw [hrun]
    obtain ⟨h, hok⟩ | ⟨j, hj, h, hok, hfail⟩ := ih ⟨c.writes + 1, c.received ++ [event]⟩
    · refine .inl ⟨?_, hstep _ hok⟩
      rw [h, append_assoc, length_cons, add_assoc, add_comm 1]
      rfl
    · refine .inr ⟨j + 1, succ_lt_succ hj, ?_, hstep _ hok, ?_⟩
      · rw [h, append_assoc, add_assoc c.writes, add_comm 1]
        rfl
      · rwa [add_comm j, ← add_assoc]

lemma SafeReplay.of_cut {e : StreamEnd} (he : e.replays = false) (h : c.received <+: evts) {n : ℕ}
    (hlt : n < c.writes) (hn : fails n = true) : SafeReplay fails evts (c, e) := by
  rw [SafeReplay, if_neg (by simp [he])]
  exact ⟨h, fun hall => absurd hn (by simp [hall n hlt])⟩

lemma SafeReplay.of_eq (h : c.received = evts) : SafeReplay fails evts (c, .answered) :=
  ⟨h ▸ prefix_rfl, fun _ => h⟩

lemma afterScan_nil (hp : s.prelude = []) (hs : s.clientOutputStarted ∨ eof = false) :
    afterScan pool eof fails s c = (c, .answered) := by
  rw [afterScan, if_neg (by rcases hs with h | h <;> simp [h]), hp]
  rfl

variable (fails) in
lemma safeReplay_of_started (rest : List (ResponsesEvent × ℕ)) (hs : s.clientOutputStarted) (hp : s.prelude = []) :
    SafeReplay fails (c.received ++ rest.filter (·.1.decodes)) (responsesStream pool eof fails s c rest) := by
  induction rest generalizing s c with
  | nil =>
    rw [responsesStream, afterScan_nil pool eof hp (.inl hs)]
    exact .of_eq (by simp)
  | cons event rest ih =>
    by_cases hdecodes : event.1.decodes
    swap
    · simpa only [responsesStream, filter_cons, hdecodes, Bool.false_eq_true, not_false_eq_true, if_true, if_false]
        using ih hs hp
    rw [filter_cons, if_pos hdecodes]
    have hc : (s.consume event.1).clientOutputStarted = true := hs
    have hp' : (s.consume event.1).prelude = [] := hp
    simp only [responsesStream, hdecodes, ResponsesState.capacityError, hc, hp', not_true_eq_false, false_and, and_false,
      if_false, deliver]
    by_cases hf : fails c.writes
    · simp only [hf, if_true]
      rw [afterScan_nil pool false rfl (.inr rfl)]
      exact .of_cut rfl (prefix_append _ _) (lt_succ_self _) hf
    · simp only [hf]
      have h := ih (s := { s.consume event.1 with prelude := [], clientOutputStarted := true })
        (c := ⟨c.writes + 1, c.received ++ [event]⟩) rfl rfl
      rwa [append_assoc] at h

variable (hbroken : ∀ n, fails n = true → fails (n + 1) = true)

include hbroken in
/-- The events that were held back are tried again after the scan, and then the connection is gone. -/
lemma afterScan_again {j : ℕ} (hj : j < s.prelude.length) (hfail : fails j = true) :
    afterScan pool false fails s ⟨j + 1, s.prelude.take j⟩ = (⟨j + 2, s.prelude.take j⟩, .writeFailed) := by
  obtain ⟨event, rest, hprelude⟩ := exists_cons_of_length_pos (by omega : 0 < s.prelude.length)
  rw [afterScan, if_neg (by simp)]
  conv_lhs => rw [hprelude, deliver, if_pos (hbroken j hfail)]
  rw [hprelude]

include hbroken in
lemma safeReplay_of_commit {event : ResponsesEvent × ℕ} {rest : List (ResponsesEvent × ℕ)} (hdecodes : event.1.decodes)
    (hcap : (s.consume event.1).capacityError pool = none) (hout : ¬(pool ∧ ¬event.1.startsOutput)) :
    SafeReplay fails (s.prelude ++ event :: rest.filter (·.1.decodes))
      (responsesStream pool eof fails s {} (event :: rest)) := by
  have hstage : ¬(pool ∧ ¬(s.consume event.1).clientOutputStarted ∧ ¬event.1.startsOutput) := fun h => hout ⟨h.1, h.2.2⟩
  simp only [responsesStream, hdecodes, not_true_eq_false, if_false, hcap, if_neg hstage]
  show SafeReplay _ _ (match deliver fails {} s.prelude with | (c, false) => _ | (c, true) => _)
  obtain ⟨h, hok⟩ | ⟨j, hj, h, hok, hfail⟩ := deliver_cases fails s.prelude {}
  · simp only [h, zero_add, nil_append, deliver]
    by_cases hf : fails s.prelude.length
    · simp only [hf, if_true]
      rw [afterScan_nil pool false rfl (.inr rfl)]
      exact .of_cut rfl (prefix_append _ _) (lt_succ_self _) hf
    · simp only [hf]
      have hrun := safeReplay_of_started pool eof fails (c := ⟨s.prelude.length + 1, s.prelude ++ [event]⟩)
        (s := { s.consume event.1 with prelude := [], clientOutputStarted := true }) rest rfl rfl
      rwa [append_assoc] at hrun
  · simp only [h, zero_add, nil_append] at hfail ⊢
    have hagain := afterScan_again pool hbroken (s := s.consume event.1) hj hfail
    rw [show (s.consume event.1).prelude = s.prelude from rfl] at hagain
    rw [hagain]
    exact .of_cut rfl (( take_prefix j _).trans (prefix_append _ _)) (by dsimp only; omega) hfail

include hbroken in
lemma safeReplay_of_staged (rest l : List (ResponsesEvent × ℕ)) (hs : s.clientOutputStarted = false) :
    SafeReplay fails (l ++ rest.filter (·.1.decodes)) (responsesStream pool eof fails { s with prelude := l } {} rest) := by
  induction rest generalizing s l with
  | nil =>
    rw [responsesStream, afterScan]
    split_ifs with h
    · exact rfl
    obtain ⟨h, -⟩ | ⟨j, -, h, -, hfail⟩ := deliver_cases fails l {}
    · rw [h]
      exact .of_eq (by simp)
    · rw [h]
      exact .of_cut rfl (( take_prefix j _).trans (prefix_append _ _)) (lt_succ_self _) hfail
  | cons event rest ih =>
    by_cases hdecodes : event.1.decodes
    swap
    · simpa only [responsesStream, filter_cons, hdecodes, Bool.false_eq_true, not_false_eq_true, if_true, if_false]
        using ih l hs
    rw [filter_cons, if_pos hdecodes]
    cases hcap : (s.consume event.1).capacityError pool with
    | some e =>
      have hcap' : ({ s with prelude := l }.consume event.1).capacityError pool = some e := hcap
      simp only [responsesStream, hdecodes, not_true_eq_false, if_false, hcap']
      exact rfl
    | none =>
      have hcap' : ({ s with prelude := l }.consume event.1).capacityError pool = none := hcap
      by_cases hstage : pool ∧ ¬event.1.startsOutput
      · have hstage' : pool ∧ ¬({ s with prelude := l }.consume event.1).clientOutputStarted ∧ ¬event.1.startsOutput :=
          ⟨hstage.1, by simp [ResponsesState.consume, hs], hstage.2⟩
        simp only [responsesStream, hdecodes, not_true_eq_false, if_false, hcap', if_pos hstage']
        have hrun := ih (s := s.consume event.1) (l ++ [event]) hs
        rwa [append_assoc] at hrun
      · exact safeReplay_of_commit (s := { s with prelude := l }) pool eof hbroken hdecodes hcap' hstage

end

/-- **A Responses stream is safe to replay**: if another account is to answer the client has read nothing, and else it has
read the events that decode, in order and each once, up to the write at which the connection broke. -/
theorem responses_replay_safe (pool eof : Bool) (brokenFrom : Option ℕ) (events : List ResponsesEvent) :
    SafeReplay (writeFails brokenFrom) (events.zipIdx.filter (·.1.decodes))
      (oaiResponsesStreamHandler pool eof (writeFails brokenFrom) events) := by
  refine safeReplay_of_staged (s := {}) pool eof (fun n hn => ?_) events.zipIdx [] rfl
  cases brokenFrom with
  | none => cases hn
  | some first =>
    simp only [writeFails, Option.any_some, decide_eq_true_eq] at hn ⊢
    omega

/-- The second event does not decode: the client reads the first and the third, though every write went through. -/
theorem undecodable_left_out :
    (oaiResponsesStreamHandler true true (writeFails none)
        [{ startsOutput := true }, { decodes := false }, { terminal := true }]).1.received.map (·.2) = [0, 2] ∧
      ¬SafeReplay (writeFails none) (List.zipIdx [{ startsOutput := true }, { decodes := false }, { terminal := true }])
        (oaiResponsesStreamHandler true true (writeFails none)
          [{ startsOutput := true }, { decodes := false }, { terminal := true }]) := by
  refine ⟨by decide, fun h => ?_⟩
  exact absurd h.1 (by decide)

/-! ## One answer for a request -/

variable {fails : ℕ → Bool}

lemma afterScan_ne_writeFailed {pool eof : Bool} (hfails : ∀ n, fails n = false) (s : ResponsesState)
    (c : Client) : (afterScan pool eof fails s c).2 ≠ .writeFailed := by
  rw [afterScan]
  split_ifs
  · simp
  obtain ⟨h, -⟩ | ⟨j, -, -, -, hfail⟩ := deliver_cases fails s.prelude c
  · simp [h]
  · simp [hfails] at hfail

lemma responsesStream_ne_writeFailed {pool eof : Bool} (hfails : ∀ n, fails n = false)
    (evts : List (ResponsesEvent × ℕ)) (s : ResponsesState) (c : Client) :
    (responsesStream pool eof fails s c evts).2 ≠ .writeFailed := by
  induction evts generalizing s c with
  | nil => exact afterScan_ne_writeFailed hfails s c
  | cons event rest ih =>
    simp only [responsesStream]
    by_cases hdecodes : event.1.decodes
    swap
    · rw [if_pos hdecodes]
      exact ih _ _
    rw [if_neg (not_not.2 hdecodes)]
    split
    · simp
    split_ifs
    · exact ih _ _
    split
    · exact afterScan_ne_writeFailed hfails _ _
    split
    · exact afterScan_ne_writeFailed hfails _ _
    · exact ih _ _

lemma responses_turn_held (cfg : Settings) (s : RelayState) {t : Turn} (pool eof : Bool)
    (hfails : ∀ n, fails n = false) (events : List ResponsesEvent)
    (ht : t.attempt = .ofStream (oaiResponsesStreamHandler pool eof fails events)) (hw : t.attempt.answer ≠ []) :
    Held cfg s t := by
  intro e he
  rw [ht] at he hw
  have hsafe : SafeReplay fails (events.zipIdx.filter (·.1.decodes)) (oaiResponsesStreamHandler pool eof fails events) :=
    safeReplay_of_staged (s := {}) pool eof (fun n hn => absurd hn (by simp [hfails n])) events.zipIdx [] rfl
  unfold SafeReplay at hsafe
  split_ifs at hsafe
  · exact absurd (by simp [Attempt.ofStream, hsafe]) hw
  · cases hend : (oaiResponsesStreamHandler pool eof fails events).2 with
    | answered => simp [Attempt.ofStream, hend, StreamEnd.failure] at he
    | capacity e | incomplete => simp_all [StreamEnd.replays]
    | writeFailed => exact absurd hend (responsesStream_ne_writeFailed hfails _ _ _)

/-- **One answer for a request**; and after an attempt that has written, no other one is started exactly when it is held. -/
theorem one_answer_iff_held (cfg : Settings) :
    (∀ as u, Along (step cfg) (HeldOnce cfg) (start cfg) as → runs (step cfg) (start cfg) as = some u →
      OneAnswer u.answers) ∧
    ∀ s t s', t.Attempted → t.attempt.answer ≠ [] → step cfg s (.turn t) = some s' →
      ((∀ as u, runs (step cfg) s' as = some u → u.answers = s'.answers) ↔ Held cfg s t) :=
  ⟨fun _ _ hok hrun => oneAnswer_of_held hok hrun, fun _ _ _ ht _ hstep => last_attempt_iff ht hstep⟩

/-- The first account breaks off before its answer starts, and another one answers. -/
def failedOver : List Action :=
  [.getChannel none {} false false, .turn { attempt := .ofStream (oaiResponsesStreamHandler true true (fun _ => false) [{}]) },
    .turn { attempt := .ofStream (oaiResponsesStreamHandler true true (fun _ => false)
      [{ shown := ["Hello"], startsOutput := true }]) }]

lemma failedOver_streams {t : Turn} (ht : .turn t ∈ failedOver) :
    ∃ events, t.attempt = .ofStream (oaiResponsesStreamHandler true true (fun _ => false) events) := by
  rcases ht with _ | ⟨_, _ | ⟨_, _ | ⟨_, ⟨⟩⟩⟩⟩
  all_goals exact ⟨_, rfl⟩

theorem one_answer_iff_held_failover : ∃ u, runs (step {}) (start {}) failedOver = some u ∧ u.answers = [[], ["Hello"]] ∧
    OneAnswer u.answers := by
  have hrun : runs (step {}) (start {}) failedOver = some _ := rfl
  refine ⟨_, hrun, by decide +kernel, (one_answer_iff_held {}).1 _ _ (.of_forall (fun s a ha => ?_) _) hrun⟩
  cases a with
  | getChannel => trivial
  | turn t =>
    obtain ⟨events, ht⟩ := failedOver_streams ha
    exact fun _ hw => responses_turn_held {} s true true (fun _ => rfl) events ht hw

/-- **One answer from Responses upstreams**, whichever attempts fail, as long as the writes to the client go through. -/
theorem responses_answered_once (cfg : Settings) {as : List Action} {u : RelayState}
    (has : ∀ t, .turn t ∈ as → t.attempt.answer = [] ∨
      ∃ pool eof events, t.attempt = .ofStream (oaiResponsesStreamHandler pool eof (fun _ => false) events))
    (hrun : runs (step cfg) (start cfg) as = some u) : OneAnswer u.answers := by
  refine oneAnswer_of_held (.of_forall (fun s a ha => ?_) _) hrun
  cases a with
  | getChannel => trivial
  | turn t =>
    intro _ hw
    rcases has t ha with hempty | ⟨pool, eof, events, ht⟩
    · exact absurd hempty hw
    · exact responses_turn_held cfg s pool eof (fun _ => rfl) events ht hw

theorem responses_answered_once_failover : ∃ as u, runs (step {}) (start {}) as = some u ∧
    u.answers = [[], ["Hello"]] ∧ OneAnswer u.answers := by
  have hrun : runs (step {}) (start {}) failedOver = some _ := rfl
  exact ⟨_, _, hrun, by decide +kernel, responses_answered_once _ (fun t ht => .inr ⟨true, true, failedOver_streams ht⟩) hrun⟩

/-- The upstream of a request with one retry breaks off after `Hel`, and the second channel answers in full: the
client reads both. -/
theorem broken_answer_followed :
    (runs (step { retryTimes := 1 }) (start { retryTimes := 1 })
        [.getChannel none {} false false,
          .turn { attempt := claudeStreamHandler [.piece "Hel", .error "overloaded_error" "Overloaded"] },
          .getChannel none {} false false,
          .turn { attempt := claudeStreamHandler [.piece "Hello", .messageStop] }]).map (·.answers) =
        some [["Hel"], ["Hello"]] ∧
      ¬OneAnswer [["Hel"], ["Hello"]] := by
  decide +kernel

end StarNexus.Relay
