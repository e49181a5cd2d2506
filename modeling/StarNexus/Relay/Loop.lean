import StarNexus.Lib.Run
import StarNexus.Lib.Text

/-!
# The relay loop

`controller/relay.go` sends a request upstream until an attempt succeeds: the outer loop takes one channel after
the other, at most `RetryTimes` of them after the first, and the inner loop stays on a channel while the request
can be repaired or another account of the channel's pool can take it.  An attempt may already have written part of
an answer to the client when it fails.
-/

namespace StarNexus.Relay

open StarNexus.Lib

/-! ## Errors -/

/-- `types.NewAPIError`, with the texts that `isUpstreamOverloadError` searches. -/
structure NewAPIError where
  errorCode : String
  statusCode : ℤ
  skipRetry : Bool := false
  message : String := ""
  openAICode : String := ""
  openAIMessage : String := ""
  upstreamCode : String := ""
  upstreamMessage : String := ""
deriving DecidableEq

def contains (s sub : String) : Bool := decide (sub.toList <:+: s.toList)

def isChannelError (e : NewAPIError) : Bool := "channel:".toList.isPrefixOf e.errorCode.toList

def isUpstreamCapacityError (e : NewAPIError) : Bool :=
  if e.statusCode = 529 then true
  else
    let code := toLower (trimSpace e.openAICode)
    let message := toLower (trimSpace (e.openAIMessage ++ " " ++ e.message))
    let detailed := e.upstreamCode ≠ "" ∨ e.upstreamMessage ≠ ""
    let code := if detailed then code ++ " " ++ toLower (trimSpace e.upstreamCode) else code
    let message := if detailed then message ++ " " ++ toLower (trimSpace e.upstreamMessage) else message
    contains code "server_is_overloaded" || contains code "slow_down" ||
      contains message "servers are currently overloaded" || contains message "server is currently overloaded" ||
      contains message "selected model is at capacity"

/-! ## Which errors another channel is tried for -/

structure StatusCodeRange where
  first : ℤ
  last : ℤ

/-- `AutomaticRetryStatusCodeRanges` as it is before an administrator changes it. -/
def automaticRetryStatusCodeRanges : List StatusCodeRange :=
  [⟨100, 199⟩, ⟨300, 399⟩, ⟨401, 407⟩, ⟨409, 499⟩, ⟨500, 503⟩, ⟨505, 523⟩, ⟨525, 599⟩]

/-- The loop of `shouldMatchStatusCodeRanges`; the ranges are sorted, so it gives up at the first one above. -/
def matchesRanges (code : ℤ) : List StatusCodeRange → Bool
  | [] => false
  | r :: rs => if code < r.first then false else if code ≤ r.last then true else matchesRanges code rs

def shouldRetryByStatusCode (ranges : List StatusCodeRange) (code : ℤ) : Bool :=
  if code = 504 ∨ code = 524 then false
  else if code < 100 ∨ 599 < code then false
  else matchesRanges code ranges

def isAlwaysSkipRetryCode (errorCode : String) : Bool :=
  errorCode == "bad_response_body" || errorCode == "context_length_exceeded"

structure Settings where
  retryTimes : ℤ := 0
  retryRanges : List StatusCodeRange := automaticRetryStatusCodeRanges
  /-- `UPSTREAM_ACCOUNT_MAX_FAILOVERS`. -/
  maxFailovers : ℤ := 3
  /-- `UPSTREAM_ACCOUNT_FAILOVER_BUDGET_MS`. -/
  failoverBudgetMs : ℤ := 5000
  /-- `UPSTREAM_ACCOUNT_CAPACITY_FAILOVER_BUDGET_MS`. -/
  capacityFailoverBudgetMs : ℤ := 30000

structure Context where
  /-- A `POST /v1/responses` over HTTP on a Codex channel. -/
  codexResponses : Bool := false
  /-- `ShouldSkipRetryAfterChannelAffinityFailure`. -/
  affinitySkipRetry : Bool := false
  /-- The key `specific_channel_id` is set. -/
  specificChannel : Bool := false

def isCodexResponsesMissingItemError (c : Context) (e : NewAPIError) : Bool :=
  decide (e.statusCode = 404) && c.codexResponses && contains e.message "Item with id '" &&
    contains e.message "not found" && contains e.message "not persisted" && contains e.message "store" &&
    contains e.message "false"

/-- The code of an error that says a part of the answer has been published. -/
def managedPartialResponse : String := "managed_partial_response"

/-- `shouldRetry` of an error, with `retryTimes` channels left to try. -/
def shouldRetry (cfg : Settings) (c : Context) (e : NewAPIError) (retryTimes : ℤ) : Bool :=
  if e.errorCode = managedPartialResponse then false
  else if isCodexResponsesMissingItemError c e then false
  else if c.affinitySkipRetry then false
  else if isChannelError e then true
  else if e.skipRetry then false
  else if retryTimes ≤ 0 then false
  else if isUpstreamCapacityError e then false
  else if c.specificChannel then false
  else if 200 ≤ e.statusCode ∧ e.statusCode < 300 then false
  else if e.statusCode < 100 ∨ 599 < e.statusCode then true
  else if isAlwaysSkipRetryCode e.errorCode then false
  else shouldRetryByStatusCode cfg.retryRanges e.statusCode

/-! ## The loop -/

inductive Disposition where
  | notHandled
  | retryAccount
  | retryTransport
  | retrySameAccount
  | retryRequest
  | global
deriving DecidableEq

def Disposition.handled (d : Disposition) : Bool := d ≠ .notHandled

def Disposition.retryWithinPool (d : Disposition) : Bool :=
  d = .retryAccount || d = .retryTransport || d = .retrySameAccount || d = .retryRequest

/-- What an attempt did: the pieces it wrote, what it added to `SendResponseCount`, and its normalised error. -/
structure Attempt where
  answer : List String := []
  counted : ℕ := 0
  failure : Option NewAPIError := none

structure Turn where
  moderationError : Option NewAPIError := none
  /-- The error the loop makes of a body that is too large or cannot be read. -/
  bodyError : Option NewAPIError := none
  attempt : Attempt := {}
  context : Context := {}
  /-- One of the four Codex repairs recognises the error, its check of `SendResponseCount` apart. -/
  repairable : Bool := false
  /-- `ApplyUpstreamAccountError` of the selected account. -/
  disposition : Disposition := .notHandled
  /-- Milliseconds since the channel was selected, and since its first capacity error. -/
  elapsed : ℤ := 0
  capacityElapsed : ℤ := 0
  /-- The error of `SetupContextForSelectedChannel` when another account is looked for. -/
  setupError : Option NewAPIError := none

/-- Where the request is: before the selection of a channel, on a channel, or done. -/
inductive Phase where
  | choosing
  | onChannel
  | over
deriving DecidableEq

structure RelayState where
  phase : Phase := .choosing
  retry : ℤ := 0
  resetNextTry : Bool := false
  sendResponseCount : ℕ := 0
  incompleteEOFFailoverUsed : Bool := false
  accountFailovers : ℕ := 0
  newAPIError : Option NewAPIError := none
  /-- What each attempt so far has written to the client. -/
  answers : List (List String) := []

inductive Action where
  /-- `getChannel` returns; the selection may restart the count of retries, now or for the next iteration. -/
  | getChannel (failure : Option NewAPIError) (c : Context) (setRetry resetRetryNextTry : Bool)
  | turn (t : Turn)

def shouldRetryUpstreamAccount (cfg : Settings) (failovers : ℕ) (elapsed : ℤ) : Bool :=
  if max cfg.maxFailovers 0 ≤ failovers then false
  else if cfg.failoverBudgetMs ≤ 0 then true
  else elapsed < cfg.failoverBudgetMs

def shouldRetryUpstreamCapacityAccount (cfg : Settings) (failovers : ℕ) (elapsed : ℤ) : Bool :=
  if max cfg.maxFailovers 0 ≤ failovers then false
  else if failovers = 0 then true
  else if cfg.capacityFailoverBudgetMs ≤ 0 then true
  else elapsed < cfg.capacityFailoverBudgetMs

def retryAllowed (cfg : Settings) (s : RelayState) (t : Turn) (e : NewAPIError) : Bool :=
  if isUpstreamCapacityError e then shouldRetryUpstreamCapacityAccount cfg s.accountFailovers t.capacityElapsed
  else shouldRetryUpstreamAccount cfg s.accountFailovers t.elapsed

def nextChannel (cfg : Settings) (s : RelayState) : RelayState :=
  let retry := if s.resetNextTry then s.retry else s.retry + 1
  { s with
    phase := if retry ≤ cfg.retryTimes then .choosing else .over
    retry
    resetNextTry := false }

/-- The end of the inner loop with the error `e`; `exhausted` is `capacityFailoverExhausted`. -/
def leaveChannel (cfg : Settings) (s : RelayState) (c : Context) (e : NewAPIError) (exhausted : Bool) : RelayState :=
  let s := { s with newAPIError := some e }
  if exhausted then { s with phase := .over }
  else if shouldRetry cfg c e (cfg.retryTimes - s.retry) then nextChannel cfg s
  else { s with phase := .over }

def upstreamStreamIncomplete : String := "upstream_stream_incomplete"

def afterFailure (cfg : Settings) (s : RelayState) (t : Turn) (e : NewAPIError) : RelayState :=
  if e.errorCode = managedPartialResponse then leaveChannel cfg s t.context e false
  else if t.repairable ∧ s.sendResponseCount = 0 then s
  else if e.errorCode = upstreamStreamIncomplete then
    if ¬s.incompleteEOFFailoverUsed ∧ s.sendResponseCount = 0 ∧ t.setupError = none then
      { s with incompleteEOFFailoverUsed := true }
    else leaveChannel cfg s t.context e false
  else if t.disposition.handled then
    if t.disposition.retryWithinPool ∧ s.sendResponseCount = 0 ∧ retryAllowed cfg s t e then
      match t.setupError with
      | none => { s with accountFailovers := s.accountFailovers + 1 }
      | some setupErr =>
        leaveChannel cfg s t.context (if isUpstreamCapacityError e then e else setupErr) (isUpstreamCapacityError e)
    else leaveChannel cfg s t.context e (isUpstreamCapacityError e)
  else leaveChannel cfg s t.context e false

def RelayState.attempted (s : RelayState) (a : Attempt) : RelayState :=
  { s with sendResponseCount := s.sendResponseCount + a.counted, answers := s.answers ++ [a.answer] }

def takeTurn (cfg : Settings) (s : RelayState) (t : Turn) : RelayState :=
  match t.moderationError with
  | some e => { s with phase := .over, newAPIError := some e }
  | none =>
    match t.bodyError with
    | some e => leaveChannel cfg s t.context e false
    | none =>
      match t.attempt.failure with
      | none => { s.attempted t.attempt with phase := .over, newAPIError := none }
      | some e => afterFailure cfg (s.attempted t.attempt) t e

def chooseChannel (cfg : Settings) (s : RelayState) (failure : Option NewAPIError) (c : Context)
    (setRetry resetRetryNextTry : Bool) : RelayState :=
  let s := { s with
    retry := if setRetry then 0 else s.retry
    resetNextTry := s.resetNextTry || resetRetryNextTry }
  match failure with
  | some e => leaveChannel cfg s c e false
  | none => { s with phase := .onChannel, accountFailovers := 0 }

def step (cfg : Settings) (s : RelayState) : Action → Option RelayState
  | .getChannel failure c setRetry resetRetryNextTry =>
    if s.phase = .choosing then some (chooseChannel cfg s failure c setRetry resetRetryNextTry) else none
  | .turn t => if s.phase = .onChannel then some (takeTurn cfg s t) else none

def start (cfg : Settings) : RelayState := { phase := if 0 ≤ cfg.retryTimes then .choosing else .over }

/-! ## One answer -/

/-- An attempt that has written part of an answer is the last one. -/
def OneAnswer (answers : List (List String)) : Prop := ∀ a ∈ answers.dropLast, a = []

instance (answers : List (List String)) : Decidable (OneAnswer answers) :=
  inferInstanceAs (Decidable (∀ a ∈ answers.dropLast, a = []))

/-- The inner loop repeats an attempt that has sent nothing, repaired or on another account. -/
def StaysOnChannel (cfg : Settings) (s : RelayState) (t : Turn) (e : NewAPIError) : Prop :=
  s.sendResponseCount = 0 ∧
    (t.repairable ∨
      t.setupError = none ∧
        if e.errorCode = upstreamStreamIncomplete then s.incompleteEOFFailoverUsed = false
        else t.disposition.retryWithinPool ∧ retryAllowed cfg s t e)

/-- The error that `shouldRetry` is asked about: that of the search for another account, if it failed. -/
def finalError (cfg : Settings) (s : RelayState) (t : Turn) (e : NewAPIError) : NewAPIError :=
  if e.errorCode ≠ upstreamStreamIncomplete ∧ t.disposition.retryWithinPool ∧ s.sendResponseCount = 0 ∧
      retryAllowed cfg s t e ∧ ¬isUpstreamCapacityError e then
    t.setupError.getD e
  else e

def FailoverExhausted (t : Turn) (e : NewAPIError) : Prop :=
  e.errorCode ≠ upstreamStreamIncomplete ∧ t.disposition.handled ∧ isUpstreamCapacityError e

instance (t : Turn) (e : NewAPIError) : Decidable (FailoverExhausted t e) := inferInstanceAs (Decidable (_ ∧ _))

/-- The outer loop takes another channel: `shouldRetry` asks for it and there is one more to try. -/
def MovesOn (cfg : Settings) (s : RelayState) (t : Turn) (e : NewAPIError) : Prop :=
  ¬FailoverExhausted t e ∧ shouldRetry cfg t.context (finalError cfg s t e) (cfg.retryTimes - s.retry) ∧
    (if s.resetNextTry then s.retry else s.retry + 1) ≤ cfg.retryTimes

/-- The loop ends with an attempt that has failed: it is published in part, or neither loop repeats it. -/
def Held (cfg : Settings) (s : RelayState) (t : Turn) : Prop :=
  ∀ e, t.attempt.failure = some e → e.errorCode ≠ managedPartialResponse →
    ¬StaysOnChannel cfg (s.attempted t.attempt) t e ∧ ¬MovesOn cfg (s.attempted t.attempt) t e

/-! ### Where an iteration ends -/

lemma nextChannel_choosing_iff (cfg : Settings) (s : RelayState) :
    (nextChannel cfg s).phase = .choosing ↔ (if s.resetNextTry then s.retry else s.retry + 1) ≤ cfg.retryTimes := by
  show (if (if s.resetNextTry then s.retry else s.retry + 1) ≤ cfg.retryTimes then Phase.choosing else .over) = _ ↔ _
  simp

section

variable (cfg : Settings) (s : RelayState) (c : Context) (e : NewAPIError) (exhausted : Bool)

lemma leaveChannel_answers : (leaveChannel cfg s c e exhausted).answers = s.answers := by
  unfold leaveChannel
  dsimp only
  split_ifs <;> rfl

lemma leaveChannel_choosing_iff : (leaveChannel cfg s c e exhausted).phase = .choosing ↔
      exhausted = false ∧ shouldRetry cfg c e (cfg.retryTimes - s.retry) ∧
        (if s.resetNextTry then s.retry else s.retry + 1) ≤ cfg.retryTimes := by
  unfold leaveChannel
  cases exhausted with
  | true => simp
  | false =>
    by_cases h : shouldRetry cfg c e (cfg.retryTimes - s.retry)
    · simp [h, nextChannel_choosing_iff]
    · simp [h]

lemma leaveChannel_over
    (h : (leaveChannel cfg s c e exhausted).phase ≠ .choosing) : (leaveChannel cfg s c e exhausted).phase = .over := by
  revert h
  unfold leaveChannel nextChannel
  dsimp only
  split_ifs <;> simp

end

lemma retryWithinPool_handled {d : Disposition} (h : d.retryWithinPool) : d.handled := by
  cases d <;> first | rfl | cases h

variable {e : NewAPIError}

lemma afterFailure_managed (cfg : Settings) (s : RelayState) (t : Turn)
    (he : e.errorCode = managedPartialResponse) : (afterFailure cfg s t e).phase = .over := by
  unfold afterFailure
  rw [if_pos he]
  apply leaveChannel_over
  rw [ne_eq, leaveChannel_choosing_iff]
  simp [shouldRetry, he]

lemma afterFailure_answers (cfg : Settings) (s : RelayState) (t : Turn) (e : NewAPIError) :
    (afterFailure cfg s t e).answers = s.answers := by
  unfold afterFailure
  repeat' split
  all_goals first | rfl | apply leaveChannel_answers

variable {cfg : Settings} {s : RelayState} {t : Turn}

lemma afterFailure_of_stays
    (he : e.errorCode ≠ managedPartialResponse) (h : StaysOnChannel cfg s t e) :
    (afterFailure cfg s t e).phase = s.phase := by
  obtain ⟨hn, h⟩ := h
  unfold afterFailure
  rw [if_neg he]
  by_cases hr : t.repairable ∧ s.sendResponseCount = 0
  · rw [if_pos hr]
  rw [if_neg hr]
  obtain ⟨hsetup, h⟩ : t.setupError = none ∧ _ := by
    rcases h with h | h
    · exact absurd ⟨h, hn⟩ hr
    · exact h
  by_cases hi : e.errorCode = upstreamStreamIncomplete
  · rw [if_pos hi] at h ⊢
    rw [if_pos ⟨by simp [h], hn, hsetup⟩]
  · rw [if_neg hi] at h ⊢
    rw [if_pos (retryWithinPool_handled h.1), if_pos ⟨h.1, hn, h.2⟩, hsetup]

lemma afterFailure_of_not_stays
    (he : e.errorCode ≠ managedPartialResponse) (h : ¬StaysOnChannel cfg s t e) :
    afterFailure cfg s t e = leaveChannel cfg s t.context (finalError cfg s t e) (decide (FailoverExhausted t e)) := by
  have hr : ¬(t.repairable ∧ s.sendResponseCount = 0) := fun hr => h ⟨hr.2, .inl hr.1⟩
  unfold afterFailure
  rw [if_neg he, if_neg hr]
  by_cases hi : e.errorCode = upstreamStreamIncomplete
  · have hstop : ¬(¬s.incompleteEOFFailoverUsed ∧ s.sendResponseCount = 0 ∧ t.setupError = none) := by
      rintro ⟨hu, hn, hs⟩
      refine h ⟨hn, .inr ⟨hs, ?_⟩⟩
      rw [if_pos hi]
      simpa using hu
    rw [if_neg hstop]
    simp [finalError, FailoverExhausted, hi]
  rw [if_neg hi]
  by_cases hd : t.disposition.handled
  swap
  · have hp : ¬t.disposition.retryWithinPool := fun hp => hd (retryWithinPool_handled hp)
    simp [finalError, FailoverExhausted, hd, hp]
  by_cases hp : t.disposition.retryWithinPool ∧ s.sendResponseCount = 0 ∧ retryAllowed cfg s t e
  · -- the search for another account has failed
    obtain ⟨setupErr, hs⟩ : ∃ setupErr, t.setupError = some setupErr := by
      refine Option.ne_none_iff_exists'.1 fun hs => h ⟨hp.2.1, .inr ⟨hs, ?_⟩⟩
      rw [if_neg hi]
      exact ⟨hp.1, hp.2.2⟩
    by_cases hc : isUpstreamCapacityError e <;> simp [finalError, FailoverExhausted, hi, hd, hp, hc, hs]
  · rw [if_neg hp]
    have hf : finalError cfg s t e = e := if_neg fun hf => hp ⟨hf.2.1, hf.2.2.1, hf.2.2.2.1⟩
    rw [hf]
    by_cases hc : isUpstreamCapacityError e <;> simp [FailoverExhausted, hi, hd]

def Turn.Attempted (t : Turn) : Prop := t.moderationError = none ∧ t.bodyError = none

instance (t : Turn) : Decidable t.Attempted := inferInstanceAs (Decidable (_ ∧ _))

lemma takeTurn_answers (cfg : Settings) (s : RelayState) (t : Turn) :
    (takeTurn cfg s t).answers = if t.Attempted then s.answers ++ [t.attempt.answer] else s.answers := by
  by_cases ht : t.Attempted
  · rw [if_pos ht, takeTurn, ht.1, ht.2]
    cases hf : t.attempt.failure with
    | none => rfl
    | some e => exact afterFailure_answers ..
  · rw [if_neg ht, takeTurn]
    cases hm : t.moderationError with
    | some e => rfl
    | none =>
      cases hb : t.bodyError with
      | some e => exact leaveChannel_answers ..
      | none => exact absurd ⟨hm, hb⟩ ht

/-- **The loop ends with an attempt exactly when it is held.** -/
lemma takeTurn_over_iff (hs : s.phase = .onChannel) (ht : t.Attempted) :
    (takeTurn cfg s t).phase = .over ↔ Held cfg s t := by
  unfold takeTurn Held
  rw [ht.1, ht.2]
  cases hf : t.attempt.failure with
  | none => simp
  | some e =>
    show (afterFailure cfg (s.attempted t.attempt) t e).phase = .over ↔ _
    have hphase : (s.attempted t.attempt).phase = .onChannel := hs
    generalize s.attempted t.attempt = s' at hphase
    constructor
    · intro hover e' he' hm
      cases he'
      have hstay : ¬StaysOnChannel cfg s' t e := fun h => by
        rw [afterFailure_of_stays hm h, hphase] at hover
        cases hover
      refine ⟨hstay, fun ⟨hx, hretry, hnext⟩ => ?_⟩
      have hchoose := (leaveChannel_choosing_iff cfg s' t.context (finalError cfg s' t e)
        (decide (FailoverExhausted t e))).2 ⟨decide_eq_false hx, hretry, hnext⟩
      rw [← afterFailure_of_not_stays hm hstay, hover] at hchoose
      cases hchoose
    · intro h
      by_cases hm : e.errorCode = managedPartialResponse
      · exact afterFailure_managed cfg s' t hm
      · obtain ⟨hstay, hmove⟩ := h e rfl hm
        rw [afterFailure_of_not_stays hm hstay]
        apply leaveChannel_over
        intro hchoose
        obtain ⟨hx, hretry, hnext⟩ := (leaveChannel_choosing_iff ..).1 hchoose
        exact hmove ⟨of_decide_eq_false hx, hretry, hnext⟩

lemma chooseChannel_answers (cfg : Settings) (s : RelayState) (failure : Option NewAPIError) (c : Context)
    (setRetry resetRetryNextTry : Bool) :
    (chooseChannel cfg s failure c setRetry resetRetryNextTry).answers = s.answers := by
  cases failure with
  | none => rfl
  | some e => exact leaveChannel_answers ..

/-! ### Whole requests -/

lemma step_over (hs : s.phase = .over) (a : Action) : step cfg s a = none := by
  cases a <;> simp [step, hs]

lemma runs_over {s u : RelayState} {as : List Action} (hs : s.phase = .over)
    (h : runs (step cfg) s as = some u) : u = s := by
  cases as with
  | nil => simpa using h.symm
  | cons a as =>
    obtain ⟨s', ha, -⟩ := runs_cons_eq_some.1 h
    rw [step_over hs] at ha
    cases ha

def Silent (s : RelayState) : Prop := OneAnswer s.answers ∧ (s.phase ≠ .over → ∀ a ∈ s.answers, a = [])

def HeldOnce (cfg : Settings) (s : RelayState) : Action → Prop
  | .getChannel .. => True
  | .turn t => t.Attempted → t.attempt.answer ≠ [] → Held cfg s t

lemma silent_step {s s' : RelayState} {a : Action} (h : Silent s) (hok : HeldOnce cfg s a)
    (ha : step cfg s a = some s') : Silent s' := by
  cases a with
  | getChannel failure c setRetry resetRetryNextTry =>
    by_cases hs : s.phase = .choosing
    swap
    · simp [step, hs] at ha
    rw [step, if_pos hs] at ha
    cases ha
    have hsilent := h.2 (by simp [hs])
    exact ⟨by rw [chooseChannel_answers]; exact h.1, fun _ => by rw [chooseChannel_answers]; exact hsilent⟩
  | turn t =>
    by_cases hs : s.phase = .onChannel
    swap
    · simp [step, hs] at ha
    rw [step, if_pos hs] at ha
    cases ha
    have hsilent := h.2 (by simp [hs])
    by_cases ht : t.Attempted
    · have hanswers := takeTurn_answers cfg s t
      rw [if_pos ht] at hanswers
      refine ⟨by rw [hanswers, OneAnswer, List.dropLast_concat]; exact hsilent, fun hover => ?_⟩
      rw [hanswers]
      intro b hb
      rcases List.mem_append.1 hb with hb | hb
      · exact hsilent b hb
      · obtain rfl := List.mem_singleton.1 hb
        by_contra hw
        exact hover ((takeTurn_over_iff hs ht).2 (hok ht hw))
    · have hanswers := takeTurn_answers cfg s t
      rw [if_neg ht] at hanswers
      exact ⟨by rw [hanswers]; exact h.1, fun _ => by rw [hanswers]; exact hsilent⟩

lemma oneAnswer_of_held {as : List Action} {u : RelayState}
    (hok : Along (step cfg) (HeldOnce cfg) (start cfg) as) (hrun : runs (step cfg) (start cfg) as = some u) :
    OneAnswer u.answers := by
  have hstart : Silent (start cfg) := ⟨fun a ha => (nomatch ha), fun _ a ha => (nomatch ha)⟩
  exact (runs_inv Silent (fun _ _ _ h ho hs => silent_step h ho hs) hstart hok hrun).1

lemma exists_attempt_of_not_over (h : s.phase ≠ .over) :
    ∃ as u, runs (step cfg) s as = some u ∧ u.answers.length = s.answers.length + 1 := by
  have hturn (s : RelayState) (hs : s.phase = .onChannel) :
      ∃ u, step cfg s (.turn {}) = some u ∧ u.answers.length = s.answers.length + 1 := by
    refine ⟨takeTurn cfg s {}, by rw [step, if_pos hs], ?_⟩
    rw [takeTurn_answers, if_pos ⟨rfl, rfl⟩, List.length_append, List.length_singleton]
  match hp : s.phase with
  | .over => exact absurd hp h
  | .onChannel =>
    obtain ⟨u, hu, hlen⟩ := hturn s hp
    exact ⟨[.turn {}], u, by rw [runs_cons_of_step [] hu]; rfl, hlen⟩
  | .choosing =>
    obtain ⟨u, hu, hlen⟩ := hturn (chooseChannel cfg s none {} false false) rfl
    have hstep : step cfg s (.getChannel none {} false false) = some (chooseChannel cfg s none {} false false) := by
      rw [step, if_pos hp]
    refine ⟨[.getChannel none {} false false, .turn {}], u, ?_, ?_⟩
    · rw [runs_cons_of_step _ hstep, runs_cons_of_step [] hu]
      rfl
    · rw [hlen, chooseChannel_answers]

/-- **After an attempt no other one is started exactly when it is held.** -/
lemma last_attempt_iff {s s' : RelayState} (ht : t.Attempted)
    (hstep : step cfg s (.turn t) = some s') :
    (∀ as u, runs (step cfg) s' as = some u → u.answers = s'.answers) ↔ Held cfg s t := by
  by_cases hs : s.phase = .onChannel
  swap
  · simp [step, hs] at hstep
  rw [step, if_pos hs] at hstep
  cases hstep
  rw [← takeTurn_over_iff hs ht]
  constructor
  · intro h
    by_contra hover
    obtain ⟨as, u, hrun, hlen⟩ := (exists_attempt_of_not_over hover : ∃ as u, runs (step cfg) _ as = some u ∧ _)
    rw [h as u hrun] at hlen
    omega
  · intro hover as u hrun
    rw [runs_over hover hrun]

end StarNexus.Relay
