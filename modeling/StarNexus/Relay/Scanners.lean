import StarNexus.Lib.Run
import StarNexus.Lib.Text

/-!
# The two readers of an event stream

`StreamScannerHandlerWithOptions` of `relay/helper/stream_scanner.go` and `scanSSEData` of `relay/helper/sse_scanner.go`
read the lines of an upstream answer, pass the contents of its `data:` lines on and stop at `[DONE]`.  The first one does
it in goroutines of its own.
-/

namespace StarNexus.Relay

open Lib List

/-! ## Lines -/

inductive Reading where
  | skip
  | deliver (data : String)
  | done

def contentOf (line : String) : String := trimSpace (String.ofList (line.toList.drop 5))

def streamReading (line : String) : Reading :=
  if line.utf8ByteSize < 6 then .skip
  else if ¬hasPrefix line "data:" ∧ ¬hasPrefix line "[DONE]" then .skip
  else if contentOf line = "" then .skip
  else if ¬hasPrefix (contentOf line) "[DONE]" then .deliver (contentOf line)
  else .done

def sseReading (line : String) : Reading :=
  if ¬hasPrefix line "data:" then .skip
  else if contentOf line = "" then .skip
  else if contentOf line = "[DONE]" then .done
  else .deliver (contentOf line)

/-- The payloads a reader passes on, and the lines it leaves behind the marker if it meets one. -/
def readLines (reading : String → Reading) : List String → List String × Option (List String)
  | [] => ([], none)
  | line :: rest =>
    match reading line with
    | .skip => readLines reading rest
    | .deliver data => (data :: (readLines reading rest).1, (readLines reading rest).2)
    | .done => ([], some rest)

def isMarker (line : String) : Bool := hasPrefix line "data:" && contentOf line == "[DONE]"

def beforeMarker (lines : List String) : List String := lines.takeWhile (!isMarker ·)

def payloads (lines : List String) : List String :=
  (((beforeMarker lines).filter (hasPrefix · "data:")).map contentOf).filter (· ≠ "")

/-! ## Agreement -/

/-- The line does not begin with the marker, and if its content does, it is the marker. -/
def Plain (line : String) : Prop :=
  ¬hasPrefix line "[DONE]" ∧
    (hasPrefix line "data:" → hasPrefix (contentOf line) "[DONE]" → contentOf line = "[DONE]")

variable {line : String}

lemma trimSpace_cons {c : Char} (hc : isSpace c = false) (rest : List Char) :
    ∃ r, (trimSpace (.ofList (c :: rest))).toList = c :: r := by
  simp only [trimSpace, String.toList_ofList, dropWhile_cons_of_neg (Bool.eq_false_iff.1 hc)]
  cases hr : (c :: rest).rdropWhile isSpace with
  | nil => exact absurd (rdropWhile_eq_nil_iff.1 hr c (.head _)) (by simp [hc])
  | cons a r =>
    have hpre := rdropWhile_prefix isSpace (c :: rest)
    rw [hr, cons_prefix_cons] at hpre
    exact ⟨r, by rw [hpre.1]⟩

lemma contentOf_of_marker (h : hasPrefix line "[DONE]") :
    contentOf line ≠ "" ∧ ¬hasPrefix (contentOf line) "[DONE]" := by
  obtain ⟨rest, hrest⟩ := isPrefixOf_iff_prefix.1 h
  obtain ⟨r, hr⟩ := trimSpace_cons (c := ']') rfl rest
  have hcontent : (contentOf line).toList = ']' :: r := by
    rw [contentOf, ← hrest]
    exact hr
  exact ⟨fun hempty => by simp [hempty] at hcontent, by simp [hasPrefix, hcontent]⟩

lemma six_le_size (h : hasPrefix line "data:") (hc : contentOf line ≠ "") : 6 ≤ line.utf8ByteSize := by
  obtain ⟨rest, hrest⟩ := isPrefixOf_iff_prefix.1 h
  have hline : line = "data:" ++ .ofList rest := by simp [← String.toList_inj, ← hrest]
  by_contra hlt
  rw [hline, String.utf8ByteSize_append] at hlt
  have hempty : .ofList rest = "" := by
    rw [← String.utf8ByteSize_eq_zero_iff]
    change ¬6 ≤ 5 + _ at hlt
    omega
  rw [hempty] at hline
  exact hc (by rw [hline]; rfl)

lemma streamReading_of_data (h : hasPrefix line "data:") : streamReading line =
    if contentOf line = "" then .skip
    else if ¬hasPrefix (contentOf line) "[DONE]" then .deliver (contentOf line) else .done := by
  by_cases hc : contentOf line = ""
  · simp [streamReading, hc]
  · simp [streamReading, not_lt.2 (six_le_size h hc), h, hc]

lemma readings_of_marker (h : hasPrefix line "[DONE]") :
    streamReading line = .deliver (contentOf line) ∧ sseReading line = .skip := by
  obtain ⟨rest, hrest⟩ := isPrefixOf_iff_prefix.1 h
  have hdata : ¬hasPrefix line "data:" := by simp [hasPrefix, ← hrest]
  have hline : line = "[DONE]" ++ .ofList rest := by simp [← String.toList_inj, ← hrest]
  have hsize : ¬line.utf8ByteSize < 6 := by
    rw [hline, String.utf8ByteSize_append]
    change ¬6 + _ < 6
    omega
  obtain ⟨hne, hnot⟩ := contentOf_of_marker h
  exact ⟨by simp [streamReading, hsize, h, hne, hnot], by simp [sseReading, hdata]⟩

lemma Plain.readings_eq (h : Plain line) : streamReading line = sseReading line := by
  by_cases hdata : hasPrefix line "data:"
  · rw [streamReading_of_data hdata]
    by_cases hmarker : hasPrefix (contentOf line) "[DONE]"
    · simp only [sseReading, hdata, h.2 hdata hmarker]
      rfl
    · have hne : contentOf line ≠ "[DONE]" := fun heq => hmarker (by rw [heq]; decide)
      simp [sseReading, hdata, hmarker, hne]
  · simp [streamReading, sseReading, hdata, h.1]

lemma readings_of_not_plain (h : ¬Plain line) :
    (∃ data, ¬hasPrefix data "[DONE]" ∧ streamReading line = .deliver data ∧ sseReading line = .skip) ∨
      ∃ data, hasPrefix data "[DONE]" ∧ streamReading line = .done ∧ sseReading line = .deliver data := by
  by_cases hmarker : hasPrefix line "[DONE]"
  · exact .inl ⟨_, (contentOf_of_marker hmarker).2, readings_of_marker hmarker⟩
  · obtain ⟨hdata, hcontent, hne⟩ : hasPrefix line "data:" ∧ hasPrefix (contentOf line) "[DONE]" ∧
        contentOf line ≠ "[DONE]" := by
      simpa [Plain, hmarker] using h
    have hempty : contentOf line ≠ "" := fun hempty => by simp [hempty, hasPrefix] at hcontent
    refine .inr ⟨_, hcontent, ?_, ?_⟩
    · rw [streamReading_of_data hdata, if_neg hempty, if_neg (not_not.2 hcontent)]
    · simp [sseReading, hdata, hempty, hne]

lemma sseReading_eq_done : sseReading line = .done ↔ isMarker line := by
  simp only [sseReading, isMarker]
  split_ifs <;> simp_all

lemma plain_of_marker (h : isMarker line) : Plain line := by
  have h := Bool.and_eq_true_iff.1 h
  refine ⟨fun hmarker => ?_, fun _ _ => eq_of_beq h.2⟩
  have hskip := (readings_of_marker hmarker).2
  simp [sseReading, h.1, eq_of_beq h.2] at hskip

lemma stays_ahead (lines : List String) {ahead : List String} (hne : ahead ≠ [])
    (hahead : ∀ data ∈ ahead, ¬hasPrefix data "[DONE]") :
    ahead ++ (readLines streamReading lines).1 ≠ (readLines sseReading lines).1 := by
  induction lines generalizing ahead with
  | nil => simpa [readLines] using hne
  | cons line rest ih =>
    intro h
    -- The reader ahead passes on one payload more; the queue of those it is ahead by moves on.
    have hmore {ahead : List String} {data : String} (hahead : ∀ a ∈ ahead, ¬hasPrefix a "[DONE]")
        (hdata : ¬hasPrefix data "[DONE]") :
        ahead ++ data :: (readLines streamReading rest).1 ≠ (readLines sseReading rest).1 := by
      rw [append_cons]
      exact ih (by simp) (by simpa [or_imp, forall_and, hdata] using hahead)
    by_cases hplain : Plain line
    · simp only [readLines, hplain.readings_eq] at h
      cases hr : sseReading line with
      | skip => exact ih hne hahead (by simpa only [hr] using h)
      | done => exact hne (by simpa only [hr, append_nil] using h)
      | deliver data =>
        obtain ⟨a, ahead, rfl⟩ := exists_cons_of_ne_nil hne
        simp only [hr, cons_append, cons.injEq] at h
        rw [forall_mem_cons, h.1] at hahead
        exact hmore hahead.2 hahead.1 h.2
    · rcases readings_of_not_plain hplain with ⟨data, hdata, hstream, hsse⟩ | ⟨data, hdata, hstream, hsse⟩ <;>
        simp only [readLines, hstream, hsse, append_nil] at h
      · exact hmore hahead hdata h
      · exact hahead data (by simp [h]) hdata

lemma readLines_eq_iff (lines : List String) :
    readLines streamReading lines = readLines sseReading lines ↔ ∀ line ∈ beforeMarker lines, Plain line := by
  induction lines with
  | nil => exact iff_of_true rfl nofun
  | cons line rest ih =>
    by_cases hmarker : isMarker line
    · simp [beforeMarker, hmarker, readLines, (plain_of_marker hmarker).readings_eq, sseReading_eq_done.2 hmarker]
    · by_cases hplain : Plain line
      · have hdone : sseReading line ≠ .done := mt sseReading_eq_done.1 hmarker
        cases hr : sseReading line <;>
          simp_all [beforeMarker, readLines, hplain.readings_eq, Prod.ext_iff]
      · refine iff_of_false (fun h => ?_) fun h => hplain (h line (by simp [beforeMarker, hmarker]))
        rcases readings_of_not_plain hplain with ⟨data, hdata, hstream, hsse⟩ | ⟨data, hdata, hstream, hsse⟩ <;>
          simp only [readLines, hstream, hsse] at h
        · exact @stays_ahead rest [data] (by simp) (by simpa using hdata) (congrArg Prod.fst h)
        · cases h

lemma readLines_sse (lines : List String) : (readLines sseReading lines).1 = payloads lines := by
  induction lines with
  | nil => rfl
  | cons line rest ih =>
    by_cases hdata : hasPrefix line "data:" <;> by_cases hempty : contentOf line = "" <;>
      by_cases hdone : contentOf line = "[DONE]" <;>
      simp_all [readLines, sseReading, payloads, beforeMarker, isMarker]

/-- Both readers pass on the contents of the data lines before the marker, and stop at the same marker, exactly if the lines
before it are plain. -/
theorem scanners_agree_iff (lines : List String) :
    (readLines streamReading lines = readLines sseReading lines ∧ (readLines sseReading lines).1 = payloads lines) ↔
      ∀ line ∈ beforeMarker lines, Plain line :=
  (and_iff_left (readLines_sse lines)).trans (readLines_eq_iff lines)

/-- A bare marker is cut to its last bracket and passed on. -/
theorem bare_marker_delivered :
    readLines streamReading ["[DONE]"] = (["]"], none) ∧ readLines sseReading ["[DONE]"] = ([], none) := by
  decide

/-! ## Goroutines -/

/-- A goroutine at work, or one that has left its loop and has sent its stop token or is about to. -/
inductive Go (β : Type) where
  | at (b : β)
  | left (told : Bool)
deriving DecidableEq

@[simp] def Go.isLeft {β : Type} : Go β → Bool
  | .at _ => false
  | .left _ => true

inductive Main where
  | waiting
  | cleaning
  | returned (waited : Bool)
deriving DecidableEq

/-- A call of `StreamScannerHandlerWithOptions`; the senders never fill `stopChan`, so `stops` only counts its tokens. -/
structure Pipe where
  unread : List String
  scanner : Go (Option String) := .at none
  dataChan : List String := []
  handler : Go Bool := .at false
  calls : List String := []
  pinging : Bool
  stops : ℕ := 0
  gone : Bool := false
  main : Main := .waiting

inductive Act where
  | scan
  | quit (token : Bool)
  | handle (stopped : Bool)
  | ping (token : Bool)
  | scannerTells
  | handlerTells
  | leave (token : Bool)
  | clientGone
  | waited
  | gaveUp

/-- A step of the scanner, the handler, the ping goroutine, the main loop or the client. -/
def Pipe.step (p : Pipe) : Act → Option Pipe
  | .scan =>
    match p.scanner, p.unread with
    | .at none, [] => some { p with scanner := .left false }
    | .at none, line :: rest =>
      if 0 < p.stops ∨ p.main ≠ .waiting ∨ p.gone then none
      else match streamReading line with
        | .skip => some { p with unread := rest }
        | .deliver data => some { p with unread := rest, scanner := .at (some data) }
        | .done => some { p with unread := rest, scanner := .left false }
    | .at (some data), _ =>
      if p.dataChan.length < 256 then some { p with dataChan := p.dataChan ++ [data], scanner := .at none } else none
    | .left _, _ => none
  -- The scanner is told to stop, by a token or by the end of one of the contexts.
  | .quit token =>
    if ¬p.scanner.isLeft ∧ if token then 0 < p.stops else p.main ≠ .waiting ∨ p.gone then
      some { p with stops := p.stops - token.toNat, scanner := .left false }
    else none
  | .handle stopped =>
    match p.handler, p.dataChan with
    | .at true, _ => some { p with handler := if stopped then .left false else .at false }
    | .at false, data :: rest => some { p with handler := .at true, dataChan := rest, calls := p.calls ++ [data] }
    | .at false, [] => if p.scanner.isLeft then some { p with handler := .left false } else none
    | .left _, _ => none
  | .ping token =>
    if p.pinging ∧ (token → 0 < p.stops) then some { p with stops := p.stops - token.toNat, pinging := false } else none
  | .scannerTells => if p.scanner = .left false then some { p with scanner := .left true, stops := p.stops + 1 } else none
  | .handlerTells => if p.handler = .left false then some { p with handler := .left true, stops := p.stops + 1 } else none
  -- The main loop ends, by a token or else by the timeout or the client; the clean-up sends a token of its own.
  | .leave token =>
    if p.main = .waiting ∧ (token → 0 < p.stops) then
      some { p with main := .cleaning, stops := p.stops - token.toNat + 1 }
    else none
  | .clientGone => some { p with gone := true }
  | .waited =>
    if p.main = .cleaning ∧ p.scanner.isLeft ∧ p.handler.isLeft ∧ ¬p.pinging then
      some { p with main := .returned true }
    else none
  | .gaveUp => if p.main = .cleaning then some { p with main := .returned false } else none

/-- The client stays connected, the streaming timeout does not fire, and the handler neither stops nor panics. -/
def Undisturbed (a : Act) : Prop := a ≠ .clientGone ∧ a ≠ .leave false ∧ a ≠ .handle true

def Pipe.ahead (p : Pipe) : List String :=
  match p.scanner with
  | .at held => held.toList ++ (readLines streamReading p.unread).1
  | .left _ => []

/-- Nobody sends a token before the scanner has left, and the handler leaves after it with `dataChan` drained. -/
structure Delivers (total : List String) (p : Pipe) : Prop where
  sum : p.calls ++ p.dataChan ++ p.ahead = total
  scanning : ¬p.scanner.isLeft → p.stops = 0 ∧ p.main = .waiting ∧ p.gone = false
  drained : p.handler.isLeft → p.scanner.isLeft ∧ p.dataChan = []
  waited : p.main = .returned true → p.handler.isLeft

variable {total : List String} {p q : Pipe}

lemma Delivers.scan (h : Delivers total p) (hstep : p.step .scan = some q) : Delivers total q := by
  obtain ⟨hsum, hscanning, hdrained, hwaited⟩ := h
  cases hs : p.scanner with
  | left told => simp [Pipe.step, hs] at hstep
  | «at» held =>
    obtain ⟨hstops, hmain, hgone⟩ := hscanning (by simp [hs])
    cases held with
    | some data =>
      obtain ⟨-, ⟨⟩⟩ : _ ∧ _ := by simpa only [Pipe.step, hs, Option.ite_none_right_eq_some] using hstep
      constructor <;> simp_all [Pipe.ahead]
    | none =>
      cases hu : p.unread with
      | nil =>
        simp only [Pipe.step, hs, hu] at hstep
        cases hstep
        constructor <;> simp_all [Pipe.ahead, readLines]
      | cons line rest =>
        cases hr : streamReading line <;>
          simp only [Pipe.step, hs, hu, hr, hstops, hmain, hgone] at hstep <;>
          cases hstep <;> constructor <;> simp_all [Pipe.ahead, readLines]

lemma Delivers.handle (h : Delivers total p) (hstep : p.step (.handle false) = some q) : Delivers total q := by
  obtain ⟨hsum, hscanning, hdrained, hwaited⟩ := h
  simp only [Pipe.step] at hstep
  split at hstep
  · cases hstep
    constructor <;> simp_all [Pipe.ahead]
  · cases hstep
    constructor <;> simp_all [Pipe.ahead]
  · obtain ⟨hl, ⟨⟩⟩ := Option.ite_none_right_eq_some.1 hstep
    constructor <;> simp_all [Pipe.ahead]
  · cases hstep

lemma Delivers.step {a : Act} (h : Delivers total p) (ha : Undisturbed a) (hstep : p.step a = some q) :
    Delivers total q := by
  have hsent (hstops : 0 < p.stops) : p.scanner.isLeft := by
    by_contra hs
    exact absurd (h.scanning hs).1 hstops.ne'
  obtain ⟨hsum, hscanning, hdrained, hwaited⟩ := id h
  cases a with
  | scan => exact h.scan hstep
  | handle stopped =>
    cases stopped with
    | false => exact h.handle hstep
    | true => exact absurd rfl ha.2.2
  | clientGone => exact absurd rfl ha.1
  | _ =>
    obtain ⟨hif, ⟨⟩⟩ := Option.ite_none_right_eq_some.1 hstep
    constructor <;> simp_all [Pipe.ahead, Undisturbed]

/-- The handler is called with the payloads in order, once with each, and has returned from the last call when the function
returns, unless the clean-up ran out of time. -/
theorem handled_of_waited (lines : List String) (pinging : Bool) (acts : List Act) (hacts : ∀ a ∈ acts, Undisturbed a)
    (hrun : runs Pipe.step { unread := lines, pinging } acts = some p) :
    p.calls <+: (readLines streamReading lines).1 ∧
      (p.main = .returned true → p.handler.isLeft ∧ p.calls = (readLines streamReading lines).1) := by
  have h : Delivers (readLines streamReading lines).1 p :=
    runs_inv _ (fun _ _ _ => .step) (by constructor <;> simp [Pipe.ahead]) (.of_forall (fun _ => hacts) _) hrun
  refine ⟨⟨_, (append_assoc ..).symm.trans h.sum⟩, fun hmain => ?_⟩
  have hhandler := h.waited hmain
  obtain ⟨hscanner, hchan⟩ := h.drained hhandler
  have hahead : p.ahead = [] := by
    cases hs : p.scanner with
    | «at» => simp [hs] at hscanner
    | left => simp [Pipe.ahead, hs]
  exact ⟨hhandler, by simpa [hchan, hahead] using h.sum⟩

/-- The ping goroutine takes the token of the scanner, and the main loop ends by that of the handler. -/
theorem handled_of_waited_one : ∃ acts p,
    runs Pipe.step { unread := ["data: a", "data: [DONE]"], pinging := true } acts = some p ∧
      p.main = .returned true ∧ p.calls = ["a"] := by
  have hrun : runs Pipe.step { unread := ["data: a", "data: [DONE]"], pinging := true }
    [.scan, .scan, .handle false, .scan, .scannerTells, .ping true, .handle false, .handle false, .handlerTells, .leave true,
      .waited] = some _ := rfl
  exact ⟨_, _, hrun, rfl, ((handled_of_waited _ _ _ (by simp [Undisturbed]) hrun).2 rfl).2⟩

/-- The function gives up on a handler that is in its first call, with the second payload waiting. -/
theorem gives_up_on_slow_handler : ∃ acts p, (∀ a ∈ acts, Undisturbed a) ∧
    runs Pipe.step { unread := ["data: a", "data: b"], pinging := false } acts = some p ∧ p.main = .returned false ∧
      p.handler = .at true ∧ p.calls = ["a"] ∧ (readLines streamReading ["data: a", "data: b"]).1 = ["a", "b"] := by
  exact ⟨[.scan, .scan, .handle false, .scan, .scan, .scan, .scannerTells, .leave true, .gaveUp], _,
    by simp [Undisturbed], rfl, rfl, rfl, rfl, by decide⟩

/-! ## Disturbances -/

/-- What holds whatever happens: the handler is behind the scanner, and each sender has sent at most one token. -/
structure Orderly (total : List String) (p : Pipe) : Prop where
  sum : p.calls ++ p.dataChan ++ p.ahead <+: total
  tokens : p.stops ≤ (if p.scanner = .left true then 1 else 0) + (if p.handler = .left true then 1 else 0) +
    if p.main = .waiting then 0 else 1

lemma Orderly.step {a : Act} (h : Orderly total p) (hstep : p.step a = some q) : Orderly total q := by
  obtain ⟨hsum, htokens⟩ := h
  have hread := (prefix_append (p.calls ++ p.dataChan) p.ahead).trans hsum
  cases a with
  | scan =>
    simp only [Pipe.step] at hstep
    split at hstep
    · cases hstep
      constructor <;> simp_all [Pipe.ahead]
    · split_ifs at hstep
      split at hstep <;> cases hstep <;> constructor <;> simp_all [Pipe.ahead, readLines]
    · obtain ⟨-, ⟨⟩⟩ := Option.ite_none_right_eq_some.1 hstep
      constructor <;> simp_all [Pipe.ahead]
    · cases hstep
  | handle stopped =>
    simp only [Pipe.step] at hstep
    split at hstep
    · cases hstep
      constructor <;> cases stopped <;> simp_all [Pipe.ahead]
    · cases hstep
      constructor <;> simp_all [Pipe.ahead]
    · obtain ⟨-, ⟨⟩⟩ := Option.ite_none_right_eq_some.1 hstep
      constructor <;> simp_all [Pipe.ahead]
    · cases hstep
  | quit token =>
    obtain ⟨⟨hat, -⟩, ⟨⟩⟩ := Option.ite_none_right_eq_some.1 hstep
    have hne : p.scanner ≠ .left true := fun heq => by simp [heq] at hat
    rw [if_neg hne] at htokens
    exact ⟨by simpa [Pipe.ahead] using hread, (Nat.sub_le _ _).trans (by simpa using htokens)⟩
  | clientGone =>
    cases hstep
    exact ⟨hsum, htokens⟩
  | _ =>
    obtain ⟨hif, ⟨⟩⟩ := Option.ite_none_right_eq_some.1 hstep
    constructor <;> simp_all [Pipe.ahead] <;> omega

/-- **Whatever happens**, the handler is called with the first payloads in order, and no goroutine waits for a place in
`stopChan`, which has three. -/
theorem handled_in_order (lines : List String) (pinging : Bool) (acts : List Act)
    (hrun : runs Pipe.step { unread := lines, pinging } acts = some p) :
    p.calls <+: (readLines streamReading lines).1 ∧ p.stops ≤ 3 := by
  have hall : Along Pipe.step (fun _ _ => True) { unread := lines, pinging } acts := .of_forall (fun _ _ _ => trivial) _
  have h : Orderly (readLines streamReading lines).1 p :=
    runs_inv _ (fun _ _ _ h _ => h.step) (by constructor <;> simp [Pipe.ahead]) hall hrun
  refine ⟨(prefix_append ..).trans ((prefix_append ..).trans h.sum), h.tokens.trans ?_⟩
  split_ifs <;> omega

/-- The client leaves during the first call of the handler, and all three tokens are sent. -/
theorem handled_in_order_gone : ∃ acts p,
    runs Pipe.step { unread := ["data: a", "data: b"], pinging := false } acts = some p ∧ p.main = .returned true ∧
      p.stops = 3 ∧ p.calls <+: (readLines streamReading ["data: a", "data: b"]).1 := by
  have hrun : runs Pipe.step { unread := ["data: a", "data: b"], pinging := false }
    [.scan, .scan, .handle false, .scan, .clientGone, .quit false, .scannerTells, .handle true, .handlerTells,
      .leave false, .waited] = some _ := rfl
  exact ⟨_, _, hrun, rfl, rfl, (handled_in_order _ _ _ hrun).1⟩

end StarNexus.Relay
