import Mathlib.Data.Bool.AllAny
import StarNexus.Fetch.Protection
import StarNexus.Relay.Loop

/-!
# Status code rules

`setting/operation_setting/status_code_ranges.go`: the rules that say which status codes are retried or disable a channel.
The ranges that are read are apart from each other, match what the tokens say, and are read again from the text that is
printed for them (`status_code_rules`).
-/

namespace StarNexus.Relay

open Lib Fetch List

def rangeText (r : StatusCodeRange) : List Char :=
  if r.first = r.last then (toString r.first).toList else ['-'].intercalate [(toString r.first).toList, (toString r.last).toList]

def statusCodeRangesToString (ranges : List StatusCodeRange) : String :=
  String.ofList ([','].intercalate (ranges.map rangeText))

def shouldMatchStatusCodeRanges (ranges : List StatusCodeRange) (code : ℤ) : Bool :=
  if code < 100 ∨ 599 < code then false else matchesRanges code ranges

def parseHTTPStatusCodeToken (token : String) : Option StatusCodeRange :=
  let token := (trimSpace token).toList.filter (· ≠ ' ')
  if token = [] then none
  else if '-' ∈ token then
    match token.splitOn '-' with
    | [first, last] =>
      if first = [] ∨ last = [] then none
      else
        match atoi (String.ofList first), atoi (String.ofList last) with
        | some start, some stop => if stop < start then none else if start < 100 ∨ 599 < stop then none else some ⟨start, stop⟩
        | _, _ => none
    | _ => none
  else (atoi (String.ofList token)).bind fun code => if code < 100 ∨ 599 < code then none else some ⟨code, code⟩

/-- The tokens of a rule: both commas separate them, and empty ones do not count. -/
def segments (input : String) : List String :=
  ((((trimSpace input).toList.map fun c => if c = '，' then ',' else c).splitOn ',').map fun seg =>
    trimSpace (String.ofList seg)).filter (· ≠ "")

def sortsBefore (a b : StatusCodeRange) : Bool := a.first < b.first ∨ a.first = b.first ∧ a.last ≤ b.last

/-- The loop that merges the sorted ranges, from the last merged range on. -/
def mergeFrom (last : StatusCodeRange) : List StatusCodeRange → List StatusCodeRange
  | [] => [last]
  | r :: rest => if r.first ≤ last.last + 1 then mergeFrom ⟨last.first, max last.last r.last⟩ rest else last :: mergeFrom r rest

def mergeRanges : List StatusCodeRange → List StatusCodeRange
  | [] => []
  | first :: rest => mergeFrom first rest

def parseHTTPStatusCodeRanges (input : String) : Except String (List StatusCodeRange) :=
  if trimSpace input = "" then .ok []
  else
    let invalid := (segments input).filter fun seg => (parseHTTPStatusCodeToken seg).isNone
    if invalid ≠ [] then .error ("invalid http status code rules: " ++ ", ".intercalate invalid)
    else .ok (mergeRanges (((segments input).filterMap parseHTTPStatusCodeToken).mergeSort sortsBefore))

/-! ### Merging and matching -/

def StatusCodeRange.Has (r : StatusCodeRange) (code : ℤ) : Prop := r.first ≤ code ∧ code ≤ r.last

structure StatusCodeRange.Valid (r : StatusCodeRange) : Prop where
  lower : 100 ≤ r.first
  order : r.first ≤ r.last
  upper : r.last ≤ 599

/-- The ranges are in order, with at least one code between two of them, and hold the codes of the given ones. -/
structure Merges (given ranges : List StatusCodeRange) : Prop where
  valid : ∀ r ∈ ranges, r.Valid
  apart : ranges.Pairwise (·.last + 1 < ·.first)
  same : ∀ code, (∃ r ∈ ranges, r.Has code) ↔ ∃ r ∈ given, r.Has code

variable {given ranges rest : List StatusCodeRange} {last r : StatusCodeRange} {code : ℤ} {input : String}

lemma mergeFrom_merges (hlast : last.Valid) (hrest : ∀ r ∈ rest, r.Valid) (hsorted : (last :: rest).Pairwise (·.first ≤ ·.first)) :
    Merges (last :: rest) (mergeFrom last rest) ∧ ∀ r ∈ mergeFrom last rest, last.first ≤ r.first := by
  induction rest generalizing last with
  | nil => exact ⟨⟨by simp [mergeFrom, hlast], pairwise_singleton _ _, fun _ => Iff.rfl⟩, by simp [mergeFrom]⟩
  | cons r rest ih =>
    obtain ⟨hr, hrest⟩ := forall_mem_cons.1 hrest
    obtain ⟨hfirst, hsorted⟩ := pairwise_cons.1 hsorted
    obtain ⟨hle, hfirst⟩ := forall_mem_cons.1 hfirst
    rw [mergeFrom]
    split_ifs with hmerge
    · obtain ⟨⟨hvalid, hapart, hsame⟩, hlower⟩ := @ih ⟨last.first, max last.last r.last⟩
        ⟨hlast.lower, hlast.order.trans (le_max_left _ _), max_le hlast.upper hr.upper⟩ hrest
        (pairwise_cons.2 ⟨hfirst, hsorted.of_cons⟩)
      refine ⟨⟨hvalid, hapart, fun code => (hsame code).trans ?_⟩, hlower⟩
      simp only [exists_mem_cons_iff, ← or_assoc]
      refine or_congr_left ?_
      simp only [StatusCodeRange.Has, le_max_iff]
      omega
    · obtain ⟨⟨hvalid, hapart, hsame⟩, hlower⟩ := ih hr hrest hsorted
      refine ⟨⟨forall_mem_cons.2 ⟨hlast, hvalid⟩, pairwise_cons.2 ⟨fun s hs => ?_, hapart⟩, fun code => ?_⟩,
        forall_mem_cons.2 ⟨le_rfl, fun s hs => hle.trans (hlower s hs)⟩⟩
      · exact (not_le.1 hmerge).trans_le (hlower s hs)
      · rw [exists_mem_cons_iff, hsame code]
        exact (exists_mem_cons_iff (·.Has code) last (r :: rest)).symm

lemma mergeFrom_of_apart (h : (last :: rest).Pairwise (·.last + 1 < ·.first)) : mergeFrom last rest = last :: rest := by
  induction rest generalizing last with
  | nil => rfl
  | cons r rest ih =>
    obtain ⟨hlast, hrest⟩ := pairwise_cons.1 h
    rw [mergeFrom, if_neg (not_le.2 (hlast r (.head _))), ih hrest]

lemma Merges.matches_iff (h : Merges given ranges) : matchesRanges code ranges = true ↔ ∃ r ∈ ranges, r.Has code := by
  obtain ⟨hvalid, hapart, -⟩ := h
  induction ranges with
  | nil => simp [matchesRanges]
  | cons r rest ih =>
    obtain ⟨hr, hrest⟩ := pairwise_cons.1 hapart
    obtain ⟨hvalid, hvalid'⟩ := forall_mem_cons.1 hvalid
    rw [matchesRanges]
    split_ifs with hlt hle
    · -- the ranges that follow begin even later
      refine iff_of_false (by simp) ?_
      rintro ⟨s, hs, hlow, -⟩
      have := hvalid.order
      rcases mem_cons.1 hs with rfl | hs
      · omega
      · have := hr s hs
        omega
    · exact iff_of_true rfl ⟨r, .head _, not_lt.1 hlt, hle⟩
    · rw [ih hvalid' hrest]
      exact ((exists_mem_cons_iff _ _ _).trans (or_iff_right fun hhas => hle hhas.2)).symm

lemma parseHTTPStatusCodeToken_valid {token : String} (h : parseHTTPStatusCodeToken token = some r) : r.Valid := by
  unfold parseHTTPStatusCodeToken at h
  dsimp only at h
  split_ifs at h
  · split at h
    · split_ifs at h
      split at h
      · split_ifs at h
        cases h
        constructor <;> dsimp only <;> omega
      · cases h
    · cases h
  · obtain ⟨code, -, hcode⟩ := Option.bind_eq_some_iff.1 h
    split_ifs at hcode
    cases hcode
    constructor <;> dsimp only <;> omega

lemma parseHTTPStatusCodeRanges_merges (h : parseHTTPStatusCodeRanges input = .ok ranges) :
    Merges ((segments input).filterMap parseHTTPStatusCodeToken) ranges := by
  unfold parseHTTPStatusCodeRanges at h
  dsimp only at h
  split_ifs at h with hempty
  · obtain rfl := Except.ok.inj h
    rw [segments, hempty]
    exact ⟨by simp, .nil, fun _ => Iff.rfl⟩
  · obtain rfl := Except.ok.inj h
    have hvalid : ∀ r ∈ (segments input).filterMap parseHTTPStatusCodeToken, r.Valid := by
      intro r hr
      obtain ⟨token, -, htoken⟩ := mem_filterMap.1 hr
      exact parseHTTPStatusCodeToken_valid htoken
    generalize (segments input).filterMap parseHTTPStatusCodeToken = given at hvalid
    have hsorted : (given.mergeSort sortsBefore).Pairwise (·.first ≤ ·.first) := by
      refine (pairwise_mergeSort ?_ ?_ given).imp fun h => ?_
      · intro a b c hab hbc
        simp only [sortsBefore, decide_eq_true_eq] at *
        omega
      · intro a b
        simp only [sortsBefore, Bool.or_eq_true, decide_eq_true_eq]
        omega
      · simp only [sortsBefore, decide_eq_true_eq] at h
        omega
    have hmem : ∀ {r}, r ∈ given.mergeSort sortsBefore ↔ r ∈ given := mem_mergeSort
    generalize given.mergeSort sortsBefore = sorted at hsorted hmem
    cases sorted with
    | nil => exact ⟨by simp [mergeRanges], .nil, fun _ => by simp [mergeRanges, ← hmem]⟩
    | cons first rest =>
      obtain ⟨hfirst, hrest⟩ := forall_mem_cons.1 fun r hr => hvalid r (hmem.1 hr)
      obtain ⟨hvalid', hapart, hsame⟩ := (mergeFrom_merges hfirst hrest hsorted).1
      exact ⟨hvalid', hapart, fun code => (hsame code).trans (exists_congr fun r => and_congr_left' hmem)⟩

/-! ### Printing -/

/-- A character of a token that is not trimmed, replaced or dropped. -/
def PlainChar (c : Char) : Prop := isSpace c = false ∧ c ≠ ' ' ∧ c ≠ ',' ∧ c ≠ '，'

def PrintsPlainly (n : ℤ) : Prop :=
  atoi (toString n) = some n ∧ (toString n).toList ≠ [] ∧ '-' ∉ (toString n).toList ∧ ∀ c ∈ (toString n).toList, PlainChar c

lemma toString_natCast (n : ℕ) : toString (n : ℤ) = String.ofList (Nat.toDigits 10 n) := rfl

lemma toString_code {n : ℤ} (h : 100 ≤ n ∧ n ≤ 599) : PrintsPlainly n := by
  -- by its three digits
  have hall : ∀ (a : Fin 5) (b c : Fin 10), PrintsPlainly (100 + 100 * a + 10 * b + c : ℕ) := by
    simp only [PrintsPlainly, PlainChar, atoi, toString_natCast, String.toList_ofList, ← all_iff_forall_prop]
    decide +kernel
  have hcode := hall ⟨(n / 100 - 1).toNat, by omega⟩ ⟨(n / 10 % 10).toNat, by omega⟩ ⟨(n % 10).toNat, by omega⟩
  dsimp only at hcode
  rwa [show ((100 + 100 * (n / 100 - 1).toNat + 10 * (n / 10 % 10).toNat + (n % 10).toNat : ℕ) : ℤ) = n by omega] at hcode

lemma rangeText_plain (hr : r.Valid) : rangeText r ≠ [] ∧ ∀ c ∈ rangeText r, PlainChar c := by
  obtain ⟨-, hne, -, hfirst⟩ := toString_code ⟨hr.lower, hr.order.trans hr.upper⟩
  obtain ⟨-, -, -, hlast⟩ := toString_code ⟨hr.lower.trans hr.order, hr.upper⟩
  unfold rangeText
  split_ifs
  · exact ⟨hne, hfirst⟩
  · refine ⟨by simp [intercalate], fun c hc => ?_⟩
    rcases mem_of_mem_intercalate hc with rfl | ⟨text, htext, hc⟩
    · unfold PlainChar
      decide
    · rcases mem_pair.1 htext with rfl | rfl
      · exact hfirst c hc
      · exact hlast c hc

lemma parseHTTPStatusCodeToken_rangeText (hr : r.Valid) : parseHTTPStatusCodeToken (String.ofList (rangeText r)) = some r := by
  obtain ⟨hne, hplain⟩ := rangeText_plain hr
  have htrim : trimSpace (String.ofList (rangeText r)) = String.ofList (rangeText r) :=
    trimSpace_of_forall fun c hc => (hplain c (by simpa using hc)).1
  have hfilter : (rangeText r).filter (· ≠ ' ') = rangeText r :=
    filter_eq_self.2 fun c hc => by simpa using (hplain c hc).2.1
  obtain ⟨hlower, horder, hupper⟩ := hr
  obtain ⟨hfirst, hfirst_ne, hfirst_dash, -⟩ := toString_code ⟨hlower, horder.trans hupper⟩
  obtain ⟨hlast, hlast_ne, hlast_dash, -⟩ := toString_code ⟨hlower.trans horder, hupper⟩
  simp only [parseHTTPStatusCodeToken, htrim, String.toList_ofList, hfilter, if_neg hne]
  by_cases heq : r.first = r.last
  · rw [rangeText, if_pos heq, if_neg hfirst_dash, String.ofList_toList, hfirst, Option.bind_some, if_neg (by omega),
      Option.some_inj]
    cases r
    exact congrArg _ heq
  · have hsplit := @splitOn_intercalate _ [(toString r.first).toList, (toString r.last).toList] _ _ '-'
      (forall_mem_cons.2 ⟨hfirst_dash, forall_mem_singleton.2 hlast_dash⟩) (by simp)
    have hdash : '-' ∈ ['-'].intercalate [(toString r.first).toList, (toString r.last).toList] := by simp [intercalate]
    simp only [rangeText, if_neg heq, if_pos hdash, hsplit, hfirst_ne, hlast_ne, String.ofList_toList, hfirst, hlast]
    simp [horder, hlower, hupper]

lemma segments_toString (h : ranges ≠ []) (hvalid : ∀ r ∈ ranges, r.Valid) :
    segments (statusCodeRangesToString ranges) = ranges.map fun r => String.ofList (rangeText r) := by
  have htext : ∀ r ∈ ranges, ∀ c ∈ rangeText r, PlainChar c := fun r hr => (rangeText_plain (hvalid r hr)).2
  have hplain : ∀ c ∈ [','].intercalate (ranges.map rangeText), isSpace c = false ∧ c ≠ '，' := by
    intro c hc
    rcases mem_of_mem_intercalate hc with rfl | ⟨text, htext', hc⟩
    · decide
    · obtain ⟨r, hr, rfl⟩ := mem_map.1 htext'
      exact ⟨(htext r hr c hc).1, (htext r hr c hc).2.2.2⟩
  have htrim : trimSpace (statusCodeRangesToString ranges) = statusCodeRangesToString ranges :=
    trimSpace_of_forall fun c hc => (hplain c (by simpa [statusCodeRangesToString] using hc)).1
  rw [segments, htrim, statusCodeRangesToString, String.toList_ofList, map_congr_left fun c hc => if_neg (hplain c hc).2,
    map_id', splitOn_intercalate ',' _ (by simpa using h), map_map]
  · have htokens : ranges.map ((fun seg => trimSpace (String.ofList seg)) ∘ rangeText) =
        ranges.map fun r => String.ofList (rangeText r) :=
      map_congr_left fun r hr => trimSpace_of_forall fun c hc => (htext r hr c (by simpa using hc)).1
    rw [htokens, filter_eq_self.2]
    intro token htoken
    obtain ⟨r, hr, rfl⟩ := mem_map.1 htoken
    simpa using (rangeText_plain (hvalid r hr)).1
  · simpa using fun r hr hc => (htext r hr _ hc).2.2.1 rfl

lemma Merges.reread (h : Merges given ranges) : parseHTTPStatusCodeRanges (statusCodeRangesToString ranges) = .ok ranges := by
  by_cases hnil : ranges = []
  · subst hnil
    rfl
  have htokens := segments_toString hnil h.valid
  have hparse : ∀ r ∈ ranges, parseHTTPStatusCodeToken (String.ofList (rangeText r)) = some r :=
    fun r hr => parseHTTPStatusCodeToken_rangeText (h.valid r hr)
  have hempty : trimSpace (statusCodeRangesToString ranges) ≠ "" := by
    intro hempty
    rw [segments, hempty] at htokens
    exact hnil (map_eq_nil_iff.1 htokens.symm)
  have hinvalid : (segments (statusCodeRangesToString ranges)).filter (fun seg => (parseHTTPStatusCodeToken seg).isNone) = [] := by
    rw [htokens, filter_eq_nil_iff]
    intro token htoken
    obtain ⟨r, hr, rfl⟩ := mem_map.1 htoken
    simp [hparse r hr]
  have hranges : (segments (statusCodeRangesToString ranges)).filterMap parseHTTPStatusCodeToken = ranges := by
    rw [htokens, filterMap_map, Function.comp_def, filterMap_congr hparse, filterMap_some]
  have hsorted : ranges.mergeSort sortsBefore = ranges := by
    refine mergeSort_of_pairwise (h.apart.imp_of_mem fun {a b} ha _ hab => ?_)
    have := (h.valid a ha).order
    simp only [sortsBefore, decide_eq_true_eq]
    omega
  rw [parseHTTPStatusCodeRanges, if_neg hempty, hranges, hsorted, hinvalid]
  cases ranges with
  | nil => rfl
  | cons first rest => exact congrArg Except.ok (mergeFrom_of_apart h.apart)

/-- **Status code rules.** A code matches what has been read exactly if it lies in a token, and the text that is printed is
read back. -/
theorem status_code_rules (h : parseHTTPStatusCodeRanges input = .ok ranges) :
    (∀ r ∈ ranges, r.first ≤ r.last) ∧ ranges.Pairwise (·.last + 1 < ·.first) ∧
      (∀ code, shouldMatchStatusCodeRanges ranges code ↔
        ∃ r ∈ (segments input).filterMap parseHTTPStatusCodeToken, r.Has code) ∧
      parseHTTPStatusCodeRanges (statusCodeRangesToString ranges) = .ok ranges := by
  have hmerges := parseHTTPStatusCodeRanges_merges h
  refine ⟨fun r hr => (hmerges.valid r hr).order, hmerges.apart, fun code => ?_, hmerges.reread⟩
  rw [← hmerges.same, shouldMatchStatusCodeRanges]
  split_ifs with hbounds
  · refine iff_of_false (by simp) ?_
    rintro ⟨r, hr, hfirst, hlast⟩
    obtain ⟨hlower, -, hupper⟩ := hmerges.valid r hr
    omega
  · exact hmerges.matches_iff

theorem status_code_rules_printed : parseHTTPStatusCodeRanges "429,500-504" = .ok [⟨429, 429⟩, ⟨500, 504⟩] ∧
    shouldMatchStatusCodeRanges [⟨429, 429⟩, ⟨500, 504⟩] 502 := by
  have htext : statusCodeRangesToString [⟨429, 429⟩, ⟨500, 504⟩] = "429,500-504" := by decide +kernel
  have hmerges : Merges [⟨429, 429⟩, ⟨500, 504⟩] [⟨429, 429⟩, ⟨500, 504⟩] := by
    refine ⟨?_, by simp, fun _ => Iff.rfl⟩
    simp only [forall_mem_cons, not_mem_nil, IsEmpty.forall_iff, implies_true, and_true]
    exact ⟨⟨by decide, by decide, by decide⟩, by decide, by decide, by decide⟩
  have h := htext ▸ hmerges.reread
  exact ⟨h, ((status_code_rules h).2.2.1 502).2 ((parseHTTPStatusCodeRanges_merges h).same 502 |>.1
    ⟨⟨500, 504⟩, by simp, by decide, by decide⟩)⟩

end StarNexus.Relay
