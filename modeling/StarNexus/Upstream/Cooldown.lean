import Mathlib
import StarNexus.Lib.Run

/-!
# Cooldowns of upstream accounts

A 429 of an upstream account is turned into deadlines before which the account is not selected: by `codexRateLimitState` of
`service/upstream_account_rate_limit.go` from the usage windows in the headers, and by `ApplyUpstreamAccountError` of
`service/upstream_account_result.go`, which merges them with the deadlines that are stored.
-/

namespace StarNexus.Upstream

open StarNexus.Lib List

/-! ## Codex windows -/

/-- `codexRateLimitWindow`; `exhausted` is `hasUsed && usedPercent >= 100`. -/
structure CodexWindow where
  exhausted : Bool
  resetSeconds : ℤ
  windowMinutes : ℤ
deriving Inhabited

def codexSevenDayWindowMinutes : ℤ := 7 * 24 * 60

/-- An `int64` wraps around. -/
def int64 (n : ℤ) : ℤ := n.bmod (2 ^ 64)

/-- The start, which may be missing in a row, and the end of a session window. -/
abbrev SessionWindow := Option ℤ × ℤ

/-- The window that ends `resetSeconds` from now. -/
def CodexWindow.span (w : CodexWindow) (now : ℤ) : SessionWindow :=
  let windowEnd := int64 (now + w.resetSeconds)
  (some (int64 (windowEnd - w.windowMinutes * 60)), windowEnd)

/-- The loop that looks for `resetWindow`. -/
def pickReset (resetWindow w : CodexWindow) : CodexWindow :=
  if codexSevenDayWindowMinutes ≤ w.windowMinutes then resetWindow
  else if resetWindow.resetSeconds = 0 ∨ resetWindow.windowMinutes < w.windowMinutes ∨
      w.windowMinutes = resetWindow.windowMinutes ∧ resetWindow.resetSeconds < w.resetSeconds then w
  else resetWindow

/-- The loop that looks for `sessionWindow`. -/
def pickSession (sessionWindow : Option CodexWindow) (w : CodexWindow) : Option CodexWindow :=
  if w.windowMinutes ≤ 0 ∨ codexSevenDayWindowMinutes ≤ w.windowMinutes then sessionWindow
  else match sessionWindow with
    | none => some w
    | some v => if w.windowMinutes < v.windowMinutes then some w else some v

def available (windows : List CodexWindow) : List CodexWindow := windows.filter (0 < ·.resetSeconds)

def exhausted (windows : List CodexWindow) : List CodexWindow := (available windows).filter (·.exhausted)

def selected (windows : List CodexWindow) : List CodexWindow :=
  if 0 < (exhausted windows).length then exhausted windows else available windows

def codexRateLimitState (windows : List CodexWindow) (now : ℤ) : ℤ × Option SessionWindow :=
  let resetWindow := (selected windows).foldl pickReset default
  if resetWindow.resetSeconds ≤ 0 then (0, none)
  else (int64 (now + resetWindow.resetSeconds), ((available windows).foldl pickSession none).map (·.span now))

/-- An exhausted window shorter than seven days. -/
def CodexWindow.Binding (w : CodexWindow) : Prop :=
  w.exhausted ∧ 0 < w.resetSeconds ∧ w.windowMinutes < codexSevenDayWindowMinutes

/-- A window shorter than seven days that has a length. -/
def CodexWindow.Session (w : CodexWindow) : Prop :=
  0 < w.windowMinutes ∧ w.windowMinutes < codexSevenDayWindowMinutes ∧ 0 < w.resetSeconds

/-- The reset is not before that of any exhausted window shorter than seven days, and the shortest window that has a length
is reported. -/
def Covers (windows : List CodexWindow) (now : ℤ) : Prop :=
  (∀ w ∈ windows, w.Binding → now + w.resetSeconds ≤ (codexRateLimitState windows now).1) ∧
    ((∃ w ∈ windows, w.Session) → ∃ w ∈ windows, w.Session ∧ (∀ v ∈ windows, v.Session → w.windowMinutes ≤ v.windowMinutes) ∧
      (codexRateLimitState windows now).2 = some (w.span now))

/-- One of the longest exhausted windows ends last, before the end of time, and if a window of seven days is exhausted, so is a
shorter one. -/
def Aligned (windows : List CodexWindow) (now : ℤ) : Prop :=
  (∀ w ∈ windows, w.Binding → now + w.resetSeconds < 2 ^ 63 ∧
      ∃ v ∈ windows, v.Binding ∧ w.resetSeconds ≤ v.resetSeconds ∧
        ∀ u ∈ windows, u.Binding → u.windowMinutes ≤ v.windowMinutes) ∧
    ((∃ w ∈ windows, w.Session) → (∃ w ∈ windows, w.exhausted ∧ 0 < w.resetSeconds) → ∃ w ∈ windows, w.Binding)

/-- A wrapped sum is too small exactly if it has overflowed. -/
lemma le_int64_iff {n : ℤ} : n ≤ int64 n ↔ n < 2 ^ 63 := by
  simp only [int64, Int.bmod]
  split <;> omega

lemma int64_le {n : ℤ} (h : -2 ^ 63 ≤ n) : int64 n ≤ n := by
  simp only [int64, Int.bmod]
  split <;> omega

variable {windows : List CodexWindow}

def CodexWindow.short (w : CodexWindow) : Bool := w.windowMinutes < codexSevenDayWindowMinutes

/-- `pickReset` prefers long windows, and of these the ones that end late. -/
def CodexWindow.rank (w : CodexWindow) : ℤ ×ₗ ℤ := toLex (w.windowMinutes, w.resetSeconds)

open CodexWindow

/-- The window without a reset stands for none. -/
lemma foldl_pickReset (hpos : ∀ w ∈ windows, 0 < w.resetSeconds) (r : Option CodexWindow) (hr : ∀ v ∈ r, 0 < v.resetSeconds) :
    windows.foldl pickReset (r.getD default) =
      ((windows.filter (·.short)).foldl (argAux fun b c => c.rank < b.rank) r).getD default := by
  induction windows generalizing r with
  | nil => rfl
  | cons w windows ih =>
    obtain ⟨hw, hpos⟩ := forall_mem_cons.1 hpos
    by_cases hshort : w.short
    · rw [filter_cons_of_pos hshort, foldl_cons, foldl_cons, ← ih hpos]
      · have hlt := not_le.2 (of_decide_eq_true hshort)
        cases r with
        | none => simp [pickReset, hlt, argAux, show (default : CodexWindow).resetSeconds = 0 from rfl]
        | some v =>
          simp only [pickReset, if_neg hlt, (hr v rfl).ne', Option.getD_some, false_or, argAux, rank,
            Prod.Lex.toLex_lt_toLex, eq_comm]
          split <;> rfl
      · cases r with
        | none => simpa [argAux] using hw
        | some v =>
          simp only [argAux]
          split <;> simp [hw, hr]
    · rw [filter_cons_of_neg hshort, foldl_cons, ← ih hpos r hr, pickReset, if_pos]
      simpa [short] using hshort

lemma foldl_pickSession : windows.foldl pickSession none =
    (windows.filter fun w => 0 < w.windowMinutes ∧ w.short).argmin (·.windowMinutes) := by
  rw [argmin, foldl_filter]
  congr! 1
  funext o w
  have hiff : (w.windowMinutes ≤ 0 ∨ codexSevenDayWindowMinutes ≤ w.windowMinutes) ↔ ¬(0 < w.windowMinutes ∧ w.short) := by
    simp only [short, decide_eq_true_eq]
    omega
  cases o <;> simp only [pickSession, hiff, ite_not, argAux, decide_eq_true_eq]

lemma mem_selected {w : CodexWindow} : w ∈ selected windows ↔
    w ∈ windows ∧ ((∃ v ∈ windows, v.exhausted ∧ 0 < v.resetSeconds) → w.exhausted) ∧ 0 < w.resetSeconds := by
  have hany : 0 < (exhausted windows).length ↔ ∃ v ∈ windows, v.exhausted ∧ 0 < v.resetSeconds := by
    simp [exhausted, available, length_pos_iff_exists_mem]
  simp only [selected, hany]
  split_ifs with h <;> simp [exhausted, available, h]

lemma codexRateLimitState_eq (windows : List CodexWindow) (now : ℤ) : codexRateLimitState windows now =
    match ((selected windows).filter (·.short)).argmax rank with
    | none => (0, none)
    | some r => (int64 (now + r.resetSeconds), ((available windows).foldl pickSession none).map (·.span now)) := by
  have hpos (w : CodexWindow) (hw : w ∈ selected windows) : 0 < w.resetSeconds := (mem_selected.1 hw).2.2
  have hfold := foldl_pickReset hpos none nofun
  simp only [codexRateLimitState]
  rw [show default = (none : Option CodexWindow).getD default from rfl, hfold, ← argmax]
  cases hr : ((selected windows).filter (·.short)).argmax rank with
  | none => rfl
  | some r => exact if_neg (not_le.2 (hpos r (mem_filter.1 (argmax_mem hr)).1))

/-- The shortest window that has a length is found. -/
lemma session_found (h : ∃ w ∈ windows, w.Session) : ∃ w ∈ windows, w.Session ∧
    (∀ v ∈ windows, v.Session → w.windowMinutes ≤ v.windowMinutes) ∧ (available windows).foldl pickSession none = some w := by
  have hmem (v : CodexWindow) : v ∈ (available windows).filter (fun w => 0 < w.windowMinutes ∧ w.short) ↔
      v ∈ windows ∧ v.Session := by
    simp [available, CodexWindow.Session, short, and_assoc]
  cases hw : (available windows).foldl pickSession none with
  | none =>
    obtain ⟨w, hmem'⟩ := h
    rw [foldl_pickSession, argmin_eq_none] at hw
    exact absurd ((hmem w).2 hmem') (hw ▸ not_mem_nil)
  | some w =>
    rw [foldl_pickSession] at hw
    obtain ⟨hin, hsession⟩ := (hmem w).1 (argmin_mem hw)
    exact ⟨w, hin, hsession, fun v hv hv' => le_of_mem_argmin ((hmem v).2 ⟨hv, hv'⟩) hw, rfl⟩

theorem codex_cooldown_iff (windows : List CodexWindow) (now : Int64) :
    Covers windows now.toInt ↔ Aligned windows now.toInt := by
  unfold Covers Aligned
  rw [codexRateLimitState_eq]
  -- An exhausted window shorter than seven days takes part in the choice of the reset.
  have hselected {w : CodexWindow} (hw : w ∈ windows) (hpos : 0 < w.resetSeconds) (hs : w.windowMinutes < _)
      (he : (∃ v ∈ windows, v.exhausted ∧ 0 < v.resetSeconds) → w.exhausted) :
      w ∈ (selected windows).filter (·.short) :=
    mem_filter.2 ⟨mem_selected.2 ⟨hw, he, hpos⟩, decide_eq_true hs⟩
  cases hr : ((selected windows).filter (·.short)).argmax rank with
  | none =>
    rw [argmax_eq_none] at hr
    simp only [hr] at hselected
    have hnone (w : CodexWindow) (hw : w ∈ windows) : ¬w.Binding := fun hb =>
      absurd (hselected hw hb.2.1 hb.2.2 fun _ => hb.1) not_mem_nil
    refine ⟨fun h => ⟨fun w hw hb => absurd hb (hnone w hw), fun hs => ?_⟩,
      fun h => ⟨fun w hw hb => absurd hb (hnone w hw), fun hs => ?_⟩⟩
    · obtain ⟨_, _, _, _, h⟩ := h.2 hs
      cases h
    · obtain ⟨w, hw, -, hshort, hpos⟩ := id hs
      by_cases hany : ∃ v ∈ windows, v.exhausted ∧ 0 < v.resetSeconds
      · obtain ⟨v, hv, hb⟩ := h.2 hs hany
        exact absurd hb (hnone v hv)
      · exact absurd (hselected hw hpos hshort fun h => absurd h hany) not_mem_nil
  | some r =>
    obtain ⟨hrsel, hrshort⟩ := mem_filter.1 (argmax_mem hr)
    obtain ⟨hrin, hrex, hrpos⟩ := mem_selected.1 hrsel
    have hbest (w : CodexWindow) (hw : w ∈ windows) (hb : w.Binding) :
        w.windowMinutes < r.windowMinutes ∨ w.windowMinutes = r.windowMinutes ∧ w.resetSeconds ≤ r.resetSeconds :=
      Prod.Lex.toLex_le_toLex.1 (le_of_mem_argmax (hselected hw hb.2.1 hb.2.2 fun _ => hb.1) hr)
    have hbinding (hany : ∃ v ∈ windows, v.exhausted ∧ 0 < v.resetSeconds) : r.Binding :=
      ⟨hrex hany, hrpos, of_decide_eq_true hrshort⟩
    refine ⟨fun h => ⟨fun w hw hb => ?_, fun _ hany => ⟨r, hrin, hbinding hany⟩⟩, fun h => ⟨fun w hw hb => ?_, fun hs => ?_⟩⟩
    · have hrb := hbinding ⟨w, hw, hb.1, hb.2.1⟩
      have hfits := le_int64_iff.1 (h.1 r hrin hrb)
      have hnow := now.le_toInt
      have hle := (h.1 w hw hb).trans (int64_le (by omega))
      refine ⟨by omega, r, hrin, hrb, by omega, fun u hu hub => ?_⟩
      have := hbest u hu hub
      omega
    · have hrb := hbinding ⟨w, hw, hb.1, hb.2.1⟩
      obtain ⟨v, hv, hvb, hle, hlong⟩ := (h.1 w hw hb).2
      have hrle := hlong r hrin hrb
      have hvle := hbest v hv hvb
      exact le_trans (by omega) (le_int64_iff.2 (h.1 r hrin hrb).1)
    · obtain ⟨w, hw, hsession, hmin, hfound⟩ := session_found hs
      exact ⟨w, hw, hsession, hmin, by simp [hfound]⟩

/-- The longer of two exhausted windows ends first, and an exhausted window of seven days hides the session window. -/
theorem codex_cooldown_fails : ¬Covers [⟨true, 100, 300⟩, ⟨true, 3000, 60⟩] 1000 ∧
    ¬Covers [⟨true, 604800, 10080⟩, ⟨false, 300, 300⟩] 1000 := by
  constructor
  · intro h
    exact absurd (h.1 ⟨true, 3000, 60⟩ (by simp) (by simp [CodexWindow.Binding, codexSevenDayWindowMinutes])) (by decide)
  · intro h
    obtain ⟨_, _, _, _, h⟩ := h.2 ⟨⟨false, 300, 300⟩, by simp [CodexWindow.Session, codexSevenDayWindowMinutes]⟩
    cases h

/-! ## Stored deadlines -/

/-- The deadlines in the row of an account. -/
structure Deadlines where
  rateLimitResetAt : Option ℤ
  tempUnschedulableUntil : Option ℤ
  sessionWindow : Option SessionWindow

/-- What `ApplyUpstreamAccountError` reads from a 429: whether it is an overload, the windows and the other resets the provider
gives, and the deadline of the operator rule it matches. -/
structure RateLimited where
  overload : Bool
  windows : List CodexWindow
  bodyReset : ℤ
  headerReset : ℤ
  rule : Option ℤ

def upstreamExplicitRateLimitState (e : RateLimited) (now : ℤ) : ℤ × Option SessionWindow :=
  if now < (codexRateLimitState e.windows now).1 then codexRateLimitState e.windows now
  else if now < e.bodyReset then (e.bodyReset, none)
  else if now < e.headerReset then (e.headerReset, none)
  else (0, none)

def upstreamRateLimitState (e : RateLimited) (now : ℤ) : ℤ × Option SessionWindow :=
  if now < (upstreamExplicitRateLimitState e now).1 then upstreamExplicitRateLimitState e now else (int64 (now + 60), none)

def isCodexSevenDayWindow : Option SessionWindow → Bool
  | some (some start, stop) => 0 < start ∧ start < stop ∧ codexSevenDayWindowMinutes * 60 ≤ stop - start
  | _ => false

/-- The window ends after now and after the one reported. -/
def SessionWindow.outlives (w : SessionWindow) (now : ℤ) (window : Option SessionWindow) : Bool :=
  now < w.2 ∧ ∀ v ∈ window, v.2 < w.2

def Deadlines.mergeExistingRateLimitState (a : Deadlines) (now : ℤ) (state : ℤ × Option SessionWindow) :
    ℤ × Option SessionWindow :=
  let existingResetIsSevenDay := isCodexSevenDayWindow a.sessionWindow ∧ a.rateLimitResetAt = a.sessionWindow.map (·.2)
  let resetAt := match a.rateLimitResetAt with
    | some r => if ¬existingResetIsSevenDay ∧ state.1 < r then r else state.1
    | none => state.1
  match a.sessionWindow with
  | some w =>
    if ¬isCodexSevenDayWindow (some w) ∧ w.outlives now state.2 then (max resetAt w.2, some w) else (resetAt, state.2)
  | none => (resetAt, state.2)

/-- `ApplyUpstreamAccountError` on a 429, with temporary state enabled. -/
def Deadlines.apply (a : Deadlines) (now : ℤ) (e : RateLimited) : Deadlines :=
  if e.overload then a
  else match e.rule with
    | some u =>
      let explicit := upstreamExplicitRateLimitState e now
      let resetAt := if explicit.1 ≤ now then u else explicit.1
      let merged := a.mergeExistingRateLimitState now (if resetAt < u then u else resetAt, explicit.2)
      ⟨some merged.1, some u, merged.2⟩
    | none =>
      let merged := a.mergeExistingRateLimitState now (upstreamRateLimitState e now)
      ⟨some merged.1, a.tempUnschedulableUntil, merged.2⟩

def Deadlines.step (a : Deadlines) (e : ℤ × RateLimited) : Option Deadlines := some (a.apply e.1 e.2)

/-- `timestampInFuture` of one of the two deadlines. -/
def Deadlines.Excludes (a : Deadlines) (t : ℤ) : Prop :=
  (∃ r ∈ a.rateLimitResetAt, t < r) ∨ ∃ u ∈ a.tempUnschedulableUntil, t < u

/-- The 429 `e.2` at the time `e.1` leaves the account excluded for as long as before. -/
def Deadlines.Grows (a : Deadlines) (e : ℤ × RateLimited) : Prop := ∀ t, a.Excludes t → (a.apply e.1 e.2).Excludes t

/-- The reset or a running session window lasts until `v`. -/
def Deadlines.Lasts (a : Deadlines) (now v : ℤ) (window : Option SessionWindow) : Prop :=
  (∃ r ∈ a.rateLimitResetAt, v ≤ r) ∨ ∃ w ∈ a.sessionWindow, w.outlives now window ∧ v ≤ w.2

/-- A temporary deadline that is later than the one of the rule is not later than all of the resets. -/
def Deadlines.Keeps (a : Deadlines) (e : ℤ × RateLimited) : Prop :=
  let explicit := upstreamExplicitRateLimitState e.2 e.1
  ¬e.2.overload → ∀ u ∈ e.2.rule, ∀ v ∈ a.tempUnschedulableUntil,
    v ≤ u ∨ e.1 < explicit.1 ∧ v ≤ explicit.1 ∨ a.Lasts e.1 v explicit.2

/-- The arithmetic of a session window shorter than seven days does not wrap around to a longer one. -/
lemma span_not_sevenDay {w : CodexWindow} (hw : 0 < w.windowMinutes ∧ w.short) (now : ℤ) :
    ¬isCodexSevenDayWindow (some (w.span now)) := by
  have hlt : int64 (now + w.resetSeconds) < 2 ^ 63 := Int.bmod_lt (by decide)
  have hshort : w.windowMinutes < 10080 := of_decide_eq_true hw.2
  refine mt of_decide_eq_true ?_
  generalize int64 (now + w.resetSeconds) = stop at hlt
  simp only [int64, Int.bmod, codexSevenDayWindowMinutes]
  rcases lt_trichotomy ((stop - w.windowMinutes * 60) / 2 ^ 64) 0 with h | h | h <;> split <;> omega

lemma explicit_not_sevenDay (now : ℤ) (e : RateLimited) : ¬isCodexSevenDayWindow (upstreamExplicitRateLimitState e now).2 := by
  unfold upstreamExplicitRateLimitState
  split_ifs
  · simp only [codexRateLimitState, foldl_pickSession]
    split_ifs
    · nofun
    · cases hw : ((available e.windows).filter fun w => 0 < w.windowMinutes ∧ w.short).argmin (·.windowMinutes) with
      | none => nofun
      | some w => exact span_not_sevenDay (of_decide_eq_true (mem_filter.1 (argmin_mem hw)).2) now
  all_goals nofun

open Deadlines

section

variable {a : Deadlines} (ha : ¬isCodexSevenDayWindow a.sessionWindow) (now : ℤ)
include ha

/-- The merged reset is the latest one, and the window is one of the two. -/
lemma Deadlines.merge_spec (state : ℤ × Option SessionWindow) :
    (∀ v, v ≤ (a.mergeExistingRateLimitState now state).1 ↔ v ≤ state.1 ∨ a.Lasts now v state.2) ∧
      ((a.mergeExistingRateLimitState now state).2 = a.sessionWindow ∨ (a.mergeExistingRateLimitState now state).2 = state.2) := by
  obtain ⟨m, hm, hle⟩ : ∃ m, (match a.rateLimitResetAt with
      | some r => if state.1 < r then r else state.1
      | none => state.1) = m ∧ ∀ v, v ≤ m ↔ v ≤ state.1 ∨ ∃ r ∈ a.rateLimitResetAt, v ≤ r := by
    cases a.rateLimitResetAt with
    | none => simp
    | some r =>
      simp only [Option.mem_some_iff, exists_eq_left']
      split_ifs <;> omega
  simp only [mergeExistingRateLimitState, Lasts, ha, Bool.false_eq_true, false_and, not_false_eq_true, true_and, hm]
  cases hw : a.sessionWindow with
  | none => exact ⟨by simp [hle], .inr rfl⟩
  | some w =>
    rw [hw] at ha
    by_cases h : w.outlives now state.2
    · simp [ha, h, hle, or_assoc]
    · simp [h, hle]

lemma Deadlines.keeps_iff (e : RateLimited) : a.Grows (now, e) ↔ a.Keeps (now, e) := by
  by_cases hover : e.overload
  · simp [Grows, apply, Keeps, hover]
  cases hrule : e.rule with
  | none =>
    -- The temporary deadline stays, and the reset is not moved back.
    obtain ⟨hle, -⟩ := merge_spec ha now (upstreamRateLimitState e now)
    refine iff_of_true (fun t => ?_) (by simp [Keeps, hrule])
    simp only [apply, hover, hrule]
    rintro (⟨r, hr, hlt⟩ | htemp)
    · exact .inl ⟨_, rfl, hlt.trans_le ((hle r).2 (.inr (.inl ⟨r, hr, le_rfl⟩)))⟩
    · exact .inr htemp
  | some u =>
    obtain ⟨m, happly, hle⟩ : ∃ m, (∀ t, (a.apply now e).Excludes t ↔ t < m ∨ t < u) ∧ ∀ v, v ≤ m ↔
        v ≤ u ∨ now < (upstreamExplicitRateLimitState e now).1 ∧ v ≤ (upstreamExplicitRateLimitState e now).1 ∨
          a.Lasts now v (upstreamExplicitRateLimitState e now).2 := by
      refine ⟨_, fun t => by simp only [apply, hover, hrule, Excludes]; simp; rfl, fun v => ?_⟩
      rw [(merge_spec ha now _).1, ← or_assoc]
      refine or_congr_left ?_
      split_ifs <;> omega
    simp only [Grows, happly, Keeps, hover, hrule, Bool.false_eq_true, not_false_eq_true, true_imp_iff, Option.mem_some_iff,
      forall_eq', ← hle]
    refine ⟨fun h v hv => ?_, fun h t => ?_⟩
    · by_contra hlt
      have := h m (.inr ⟨v, hv, not_le.1 hlt⟩)
      have := (hle u).2 (.inl le_rfl)
      omega
    · rintro (⟨r, hr, hlt⟩ | ⟨v, hv, hlt⟩)
      · exact .inl (hlt.trans_le ((hle r).2 (.inr (.inr (.inl ⟨r, hr, le_rfl⟩)))))
      · exact .inl (hlt.trans_le (h v hv))

/-- A session window of seven days is never stored. -/
lemma Deadlines.apply_not_sevenDay (e : RateLimited) : ¬isCodexSevenDayWindow (a.apply now e).sessionWindow := by
  have hmerge {state : ℤ × Option SessionWindow} (h : ¬isCodexSevenDayWindow state.2) :
      ¬isCodexSevenDayWindow (a.mergeExistingRateLimitState now state).2 := by
    rcases (merge_spec ha now state).2 with heq | heq <;> rw [heq] <;> assumption
  unfold apply
  split_ifs
  · exact ha
  · split
    · exact hmerge (explicit_not_sevenDay now e)
    · refine hmerge ?_
      unfold upstreamRateLimitState
      split_ifs
      · exact explicit_not_sevenDay now e
      · nofun

/-- In a sequence of 429s the account becomes free later and later exactly as long as each of them keeps its temporary
deadline. -/
theorem never_shortened_iff (errors : List (ℤ × RateLimited)) :
    Along step Grows a errors ↔ Along step Keeps a errors := by
  induction errors generalizing a with
  | nil => rfl
  | cons e errors ih =>
    exact and_congr (keeps_iff ha e.1 e.2) (by simpa [step] using ih (apply_not_sevenDay ha e.1 e.2))

end

/-- A 429 without headers that matches a rule of a minute. -/
def minuteRule : RateLimited := ⟨false, [], 0, 0, some 1060⟩

theorem never_shortened_one : Along step Grows ⟨some 1300, some 1200, none⟩ [(1000, minuteRule)] :=
  (never_shortened_iff (by decide) _).2
    ⟨fun _ _ _ v hv => .inr (.inr (.inl ⟨1300, rfl, Option.some.inj hv ▸ by decide⟩)), fun _ _ => trivial⟩

/-- The rule of a minute overwrites the temporary deadline of an earlier error. -/
theorem rule_shortens : ¬Grows ⟨none, some 2000, none⟩ (1000, minuteRule) := by
  intro h
  rcases h 1500 (.inr ⟨2000, rfl, by decide⟩) with ⟨r, hr, h⟩ | ⟨r, hr, h⟩ <;> cases hr <;> revert h <;> decide

end StarNexus.Upstream
