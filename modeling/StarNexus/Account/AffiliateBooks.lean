import Mathlib.Algebra.Order.BigOperators.Group.List
import Mathlib.Tactic.Linarith
import Mathlib.Tactic.Ring
import StarNexus.Account.Affiliate

/-!
# The books of the affiliate programme

The ledger of the programme as a list of entries and the records of the users as a function, without a database.  The
books are in order (`Booked`) if every record agrees with the ledger: what is frozen is the sum of the entries that
are frozen, and what was ever accrued is what is available, frozen or transferred.  The operations of the programme,
as pure functions, keep them in order.
-/

namespace StarNexus.Account

open Lib.Tx List UserAffiliate
open Function (update update_of_ne update_self)

abbrev Entries := List (ℕ × UserAffiliateLedger)

/-! ### Sums over the ledger -/

def sumBy (f : UserAffiliateLedger → ℚ) (L : Entries) : ℚ := (L.map fun e => f e.2).sum

variable (f : UserAffiliateLedger → ℚ)

@[simp] lemma sumBy_nil : sumBy f [] = 0 := rfl

@[simp] lemma sumBy_cons (e : ℕ × UserAffiliateLedger) (L : Entries) : sumBy f (e :: L) = f e.2 + sumBy f L := by
  simp [sumBy]

@[simp] lemma sumBy_append (L L' : Entries) : sumBy f (L ++ L') = sumBy f L + sumBy f L' := by
  simp [sumBy]

variable {L : Entries}

lemma sumBy_eq_zero {f : UserAffiliateLedger → ℚ} (h : ∀ e ∈ L, f e.2 = 0) : sumBy f L = 0 := by
  induction L with
  | nil => rfl
  | cons e L ih =>
    rw [sumBy_cons, h e (.head _), ih fun e' he' => h e' (mem_cons_of_mem _ he'), add_zero]

variable {f g : UserAffiliateLedger → ℚ}

lemma sumBy_le (h : ∀ e ∈ L, f e.2 ≤ g e.2) : sumBy f L ≤ sumBy g L :=
  sum_le_sum h

lemma sumBy_map {t : ℕ × UserAffiliateLedger → ℕ × UserAffiliateLedger}
    (h : ∀ e ∈ L, f e.2 = f (t e).2 + g e.2) : sumBy f L = sumBy f (L.map t) + sumBy g L := by
  induction L with
  | nil => simp
  | cons e L ih =>
    have htail := ih fun e' he' => h e' (mem_cons_of_mem _ he')
    rw [map_cons, sumBy_cons, sumBy_cons, sumBy_cons, h e (.head _), htail]
    ring

def amountIf (p : UserAffiliateLedger → Bool) (e : UserAffiliateLedger) : ℚ := if p e = true then e.amountUSD else 0

lemma total_filter (p : UserAffiliateLedger → Bool) (L : Entries) :
    total (L.filter fun e => p e.2) = sumBy (amountIf p) L := by
  induction L with
  | nil => rfl
  | cons e L ih =>
    rw [filter_cons, sumBy_cons, ← ih]
    unfold amountIf
    split <;> simp [total]

/-! ### The two kinds of entries -/

def UserAffiliateLedger.isTransfer (userID : ℕ) (e : UserAffiliateLedger) : Bool := e.userId = userID ∧ e.action = .transfer

def UserAffiliateLedger.isFrozen (userID : ℕ) (e : UserAffiliateLedger) : Bool :=
  e.userId = userID ∧ e.action = .accrue ∧ e.frozenUntil.isSome

structure Booked (L : Entries) (aff : ℕ → Option UserAffiliate) : Prop where
  history : ∀ u p, aff u = some p →
    p.affHistoryQuotaUSD = p.affQuotaUSD + p.affFrozenQuotaUSD + sumBy (amountIf (·.isTransfer u)) L
  frozen : ∀ u p, aff u = some p → p.affFrozenQuotaUSD = sumBy (amountIf (·.isFrozen u)) L
  recorded : ∀ e ∈ L, (aff e.2.userId).isSome
  nonneg : ∀ e ∈ L, e.2.action = .accrue → 0 ≤ e.2.amountUSD

def thawEntry (userID : ℕ) (now : ℤ) (e : ℕ × UserAffiliateLedger) : ℕ × UserAffiliateLedger :=
  if e.2.matured userID now = true then (e.1, { e.2 with frozenUntil := none }) else e

open UserAffiliateLedger

section operations

variable {L : Entries} {aff : ℕ → Option UserAffiliate} {u : ℕ} {p : UserAffiliate}

lemma isFrozen_of_matured {userID : ℕ} {now : ℤ} {e : UserAffiliateLedger} (h : e.matured userID now = true) :
    e.isFrozen userID = true := by
  simp only [matured, UserAffiliateLedger.isFrozen, decide_eq_true_eq] at h ⊢
  refine ⟨h.1, h.2.1, ?_⟩
  cases hf : e.frozenUntil with
  | none => simp [hf] at h
  | some until' => rfl

lemma Booked.matured_le (h : Booked L aff) (u : ℕ) (now : ℤ) :
    sumBy (amountIf (·.matured u now)) L ≤ sumBy (amountIf (·.isFrozen u)) L := by
  refine sumBy_le fun e he => ?_
  unfold amountIf
  by_cases hm : e.2.matured u now = true
  · rw [if_pos hm, if_pos (isFrozen_of_matured hm)]
  · rw [if_neg hm]
    split
    · next hf =>
      have haction : e.2.action = .accrue := by
        simp only [UserAffiliateLedger.isFrozen, decide_eq_true_eq] at hf
        exact hf.2.1
      exact h.nonneg e he haction
    · exact le_rfl

lemma Booked.unclamped_nonneg (h : Booked L aff) (hp : aff u = some p) (now : ℤ) :
    0 ≤ p.unclamped (L.filter fun e => e.2.matured u now) := by
  have hle := h.matured_le u now
  unfold unclamped
  rw [total_filter, h.frozen u p hp]
  linarith

variable {p' : UserAffiliate}

lemma Booked.set (h : Booked L aff) {L' : Entries}
    (hhistory : p'.affHistoryQuotaUSD = p'.affQuotaUSD + p'.affFrozenQuotaUSD + sumBy (amountIf (·.isTransfer u)) L')
    (hfrozen : p'.affFrozenQuotaUSD = sumBy (amountIf (·.isFrozen u)) L')
    (htransfers : ∀ v, v ≠ u → sumBy (amountIf (·.isTransfer v)) L' = sumBy (amountIf (·.isTransfer v)) L)
    (hfrozens : ∀ v, v ≠ u → sumBy (amountIf (·.isFrozen v)) L' = sumBy (amountIf (·.isFrozen v)) L)
    (hrecorded : ∀ e ∈ L', e.2.userId = u ∨ (aff e.2.userId).isSome)
    (hnonneg : ∀ e ∈ L', e.2.action = .accrue → 0 ≤ e.2.amountUSD) : Booked L' (update aff u (some p')) := by
  refine ⟨fun v q hq => ?_, fun v q hq => ?_, fun e he => ?_, hnonneg⟩
  · rcases update_eq_some.1 hq with ⟨rfl, ⟨⟩⟩ | ⟨hv, hq⟩
    · exact hhistory
    · rw [htransfers v hv]
      exact h.history v q hq
  · rcases update_eq_some.1 hq with ⟨rfl, ⟨⟩⟩ | ⟨hv, hq⟩
    · exact hfrozen
    · rw [hfrozens v hv]
      exact h.frozen v q hq
  · by_cases hv : e.2.userId = u
    · rw [hv, update_self]
      rfl
    · rw [update_of_ne hv]
      exact (hrecorded e he).resolve_left hv

/-! ### Records -/

lemma Booked.create (h : Booked L aff) (hu : aff u = none) (createdAt : ℤ) :
    Booked L (update aff u (some { createdAt := createdAt })) := by
  have hnone : ∀ e ∈ L, e.2.userId ≠ u := by
    intro e he heq
    have hsome := h.recorded e he
    rw [heq, hu] at hsome
    cases hsome
  have htransfer : sumBy (amountIf (·.isTransfer u)) L = 0 :=
    sumBy_eq_zero fun e he => by simp [amountIf, UserAffiliateLedger.isTransfer, hnone e he]
  have hfrozen : sumBy (amountIf (·.isFrozen u)) L = 0 :=
    sumBy_eq_zero fun e he => by simp [amountIf, UserAffiliateLedger.isFrozen, hnone e he]
  refine h.set ?_ hfrozen.symm (fun _ _ => rfl) (fun _ _ => rfl) (fun e he => .inr (h.recorded e he)) h.nonneg
  simp [htransfer]

lemma Booked.modify (h : Booked L aff) (hp : aff u = some p)
    (hquota : p'.affQuotaUSD = p.affQuotaUSD) (hfrozen : p'.affFrozenQuotaUSD = p.affFrozenQuotaUSD)
    (hhistory : p'.affHistoryQuotaUSD = p.affHistoryQuotaUSD) : Booked L (update aff u (some p')) := by
  refine h.set ?_ ?_ (fun _ _ => rfl) (fun _ _ => rfl) (fun e he => .inr (h.recorded e he)) h.nonneg
  · rw [hquota, hfrozen, hhistory]
    exact h.history u p hp
  · rw [hfrozen]
    exact h.frozen u p hp

/-! ### Thawing -/

lemma sumBy_transfer_thaw (v u : ℕ) (now : ℤ) (L : Entries) :
    sumBy (amountIf (·.isTransfer v)) (L.map (thawEntry u now)) = sumBy (amountIf (·.isTransfer v)) L := by
  unfold sumBy
  rw [map_map]
  refine congrArg sum (map_congr_left fun e _ => ?_)
  simp only [Function.comp_apply, thawEntry]
  split <;> rfl

lemma sumBy_frozen_thaw (u : ℕ) (now : ℤ) (L : Entries) :
    sumBy (amountIf (·.isFrozen u)) L =
      sumBy (amountIf (·.isFrozen u)) (L.map (thawEntry u now)) + sumBy (amountIf (·.matured u now)) L := by
  refine sumBy_map fun e _ => ?_
  unfold thawEntry amountIf
  by_cases hm : e.2.matured u now = true
  · rw [if_pos (isFrozen_of_matured hm), if_pos hm, if_pos hm, if_neg (by simp [UserAffiliateLedger.isFrozen]), zero_add]
  · rw [if_neg hm, if_neg hm, add_zero]

lemma sumBy_frozen_thaw_of_ne {v u : ℕ} (hv : v ≠ u) (now : ℤ) (L : Entries) :
    sumBy (amountIf (·.isFrozen v)) (L.map (thawEntry u now)) = sumBy (amountIf (·.isFrozen v)) L := by
  unfold sumBy
  rw [map_map]
  refine congrArg sum (map_congr_left fun e _ => ?_)
  simp only [Function.comp_apply, thawEntry]
  split
  · next hm =>
    have hu : e.2.userId = u := by
      simp only [matured, decide_eq_true_eq] at hm
      exact hm.1
    simp [amountIf, UserAffiliateLedger.isFrozen, hu, Ne.symm hv]
  · rfl

lemma thawEntry_snd (u : ℕ) (now : ℤ) (e : ℕ × UserAffiliateLedger) :
    (thawEntry u now e).2.userId = e.2.userId ∧ (thawEntry u now e).2.action = e.2.action ∧
      (thawEntry u now e).2.amountUSD = e.2.amountUSD := by
  unfold thawEntry
  split <;> exact ⟨rfl, rfl, rfl⟩

lemma Booked.thaw_eq (h : Booked L aff) (hp : aff u = some p) (now : ℤ) :
    p.thaw (L.filter fun e => e.2.matured u now) =
      { p with affQuotaUSD := p.affQuotaUSD + sumBy (amountIf (·.matured u now)) L
               affFrozenQuotaUSD := p.affFrozenQuotaUSD - sumBy (amountIf (·.matured u now)) L } := by
  have hnonneg := h.unclamped_nonneg hp now
  unfold thaw
  rw [if_neg (not_lt.2 hnonneg)]
  unfold unclamped
  rw [total_filter]

/-- **Thawing** keeps the books in order. -/
lemma Booked.thaw (h : Booked L aff) (hp : aff u = some p) (now : ℤ) :
    Booked (L.map (thawEntry u now)) (update aff u (some (p.thaw (L.filter fun e => e.2.matured u now)))) := by
  have hsplit := sumBy_frozen_thaw u now L
  have hhistory := h.history u p hp
  have hfrozen := h.frozen u p hp
  rw [h.thaw_eq hp now]
  refine h.set ?_ ?_ (fun v _ => sumBy_transfer_thaw v u now L) (fun v hv => sumBy_frozen_thaw_of_ne hv now L) ?_ ?_
  · rw [sumBy_transfer_thaw]
    linarith
  · linarith
  · intro e he
    obtain ⟨e', he', rfl⟩ := mem_map.1 he
    rw [(thawEntry_snd u now e').1]
    exact .inr (h.recorded e' he')
  · intro e he haction
    obtain ⟨e', he', rfl⟩ := mem_map.1 he
    rw [(thawEntry_snd u now e').2.2]
    exact h.nonneg e' he' ((thawEntry_snd u now e').2.1 ▸ haction)

/-! ### Transfers and rebates -/

lemma Booked.append (h : Booked L aff) (id : ℕ) {entry : UserAffiliateLedger} (huser : entry.userId = u)
    (hentry : entry.action = .accrue → 0 ≤ entry.amountUSD)
    (hhistory : p'.affHistoryQuotaUSD = p'.affQuotaUSD + p'.affFrozenQuotaUSD +
      (sumBy (amountIf (·.isTransfer u)) L + amountIf (·.isTransfer u) entry))
    (hfrozen : p'.affFrozenQuotaUSD = sumBy (amountIf (·.isFrozen u)) L + amountIf (·.isFrozen u) entry) :
    Booked (L ++ [(id, entry)]) (update aff u (some p')) := by
  refine h.set (by simpa using hhistory) (by simpa using hfrozen) (fun v hv => ?_) (fun v hv => ?_) (fun e he => ?_)
    fun e he haction => ?_
  · simp [amountIf, UserAffiliateLedger.isTransfer, huser, hv.symm]
  · simp [amountIf, UserAffiliateLedger.isFrozen, huser, hv.symm]
  · rcases mem_append.1 he with he | he
    · exact .inr (h.recorded e he)
    · obtain rfl := mem_singleton.1 he
      exact .inl huser
  · rcases mem_append.1 he with he | he
    · exact h.nonneg e he haction
    · obtain rfl := mem_singleton.1 he
      exact hentry haction

/-- **A transfer** of all that is available. -/
lemma Booked.transfer (h : Booked L aff) (hp : aff u = some p) (id : ℕ) :
    Booked (L ++ [(id, { userId := u, action := .transfer, amountUSD := p.affQuotaUSD })])
      (update aff u (some { p with affQuotaUSD := 0 })) := by
  have hhistory := h.history u p hp
  have hfrozen := h.frozen u p hp
  have htransfer : amountIf (·.isTransfer u) { userId := u, action := .transfer, amountUSD := p.affQuotaUSD } =
      p.affQuotaUSD := by simp [amountIf, UserAffiliateLedger.isTransfer]
  refine h.append id rfl nofun ?_ ?_
  · linarith
  · simpa [amountIf, UserAffiliateLedger.isFrozen] using hfrozen

lemma Booked.accrue (h : Booked L aff) (hp : aff u = some p) (id : ℕ) {rebate : ℚ} (hrebate : 0 ≤ rebate)
    (entry : UserAffiliateLedger) (huser : entry.userId = u) (haction : entry.action = .accrue)
    (hamount : entry.amountUSD = rebate) :
    Booked (L ++ [(id, entry)]) (update aff u (some (p.accrue entry.frozenUntil.isSome rebate))) := by
  have hhistory := h.history u p hp
  have hfrozen := h.frozen u p hp
  have hnot : amountIf (·.isTransfer u) entry = 0 := by
    simp [amountIf, UserAffiliateLedger.isTransfer, haction]
  have hfreeze : amountIf (·.isFrozen u) entry = if entry.frozenUntil.isSome = true then rebate else 0 := by
    simp [amountIf, UserAffiliateLedger.isFrozen, huser, haction, hamount]
  refine h.append id huser (fun _ => hamount ▸ hrebate) ?_ ?_
  · simp only [hnot, UserAffiliate.accrue]
    split <;> linarith
  · simp only [hfreeze, UserAffiliate.accrue]
    split <;> linarith

end operations

end StarNexus.Account
