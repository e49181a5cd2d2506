import Mathlib.Data.Prod.Lex
import Mathlib.Data.Rat.Defs
import Mathlib.Algebra.Order.Ring.Rat
import Mathlib.Data.List.Perm.Basic
import Mathlib.Data.List.TakeWhile

/-!
# The order in which upstream accounts are tried

`weightedUpstreamCandidateOrder` and `preferUpstreamAccountCandidate` of `service/upstream_account_router.go`.  Candidates are
drawn one after the other with weights, in tiers of one priority or among the best scores, and the account that served the
session before is then moved to the front.  The `k`-th candidate of an order is drawn with the random number `draws k`.
-/

namespace StarNexus.Router

open List

structure Candidate where
  id : ℤ
  priority : ℤ
  weight : ℤ
  loadRate : ℚ

/-- The index at which `pick` is used up by the weights, the first one if none does. -/
def pickIndex (pick : ℚ) (index : ℕ) : List ℚ → ℕ
  | [] => 0
  | weight :: weights => if pick - weight ≤ 0 then index else pickIndex (pick - weight) (index + 1) weights

def selected {α : Type} (weight : α → ℚ) (pool : List α) (draw : ℚ) : ℕ :=
  let total := (pool.map weight).sum
  if 0 < total then pickIndex (draw * total) 0 (pool.map weight) else 0

/-- Candidates are drawn and removed from the pool until it is empty. -/
def weightedOrder {α : Type} (weight : α → ℚ) (draws : ℕ → ℚ) (pool : List α) : List α :=
  match h : pool[selected weight pool (draws 0)]? with
  | none => []
  | some c => c :: weightedOrder weight (fun k => draws (k + 1)) (pool.eraseIdx (selected weight pool (draws 0)))
termination_by pool.length
decreasing_by
  rw [length_eraseIdx_of_lt]
  all_goals grind

def weightedUpstreamCandidateTierOrder : (ℕ → ℚ) → List Candidate → List Candidate :=
  weightedOrder fun c => max 1 c.weight * max (1 - c.loadRate) (1 / 20)

def tierOrder (topK : ℤ) (draws : ℕ → ℚ) (tier : List Candidate) : List Candidate :=
  if 0 < topK ∧ topK < tier.length then
    weightedUpstreamCandidateTierOrder draws (tier.take topK.toNat) ++
      weightedUpstreamCandidateTierOrder (fun k => draws (topK.toNat + k)) (tier.drop topK.toNat)
  else weightedUpstreamCandidateTierOrder draws tier

/-- The loop over the tiers of the sorted pool. -/
def tiersOrder (topK : ℤ) (draws : ℕ → ℚ) : List Candidate → List Candidate
  | [] => []
  | c :: pool =>
    let tier := c :: pool.takeWhile (·.priority = c.priority)
    tierOrder topK draws tier ++
      tiersOrder topK (fun k => draws (tier.length + k)) (pool.dropWhile (·.priority = c.priority))
termination_by pool => pool.length
decreasing_by exact Nat.lt_succ_of_le (dropWhile_sublist _).length_le

/-- By priority, then by load, then by id. -/
def Candidate.key (c : Candidate) : ℤ ×ₗ ℚ ×ₗ ℤ := toLex (c.priority, toLex (c.loadRate, c.id))

def tieredUpstreamCandidateOrder (candidates : List Candidate) (topK : ℤ) (draws : ℕ → ℚ) : List Candidate :=
  tiersOrder topK draws (candidates.mergeSort fun a b => a.key ≤ b.key)

structure ScoredCandidate where
  candidate : Candidate
  score : ℚ

def ScoredCandidate.key (c : ScoredCandidate) : ℚ ×ₗ ℤ ×ₗ ℚ ×ₗ ℤ := toLex (-c.score, c.candidate.key)

def scored (minPriority maxPriority : ℤ) (c : Candidate) : ScoredCandidate where
  candidate := c
  score := (if minPriority < maxPriority then 1 - (c.priority - minPriority : ℚ) / (maxPriority - minPriority) else 1) +
    min (max (1 - c.loadRate) 0) 1

def weightedScoredUpstreamCandidateOrder (draws : ℕ → ℚ) (candidates : List ScoredCandidate) : List ScoredCandidate :=
  let minScore := ((candidates.map (·.score)).min?).getD 0
  let weight (c : ScoredCandidate) : ℚ := (c.score - minScore + 1) * max 1 c.candidate.weight
  weightedOrder (fun c => if weight c ≤ 0 then 1 else weight c) draws candidates

def rankedCandidates (candidates : List Candidate) : List ScoredCandidate :=
  let priorities := candidates.map (·.priority)
  (candidates.map (scored (priorities.min?.getD 0) (priorities.max?.getD 0))).mergeSort fun a b => a.key ≤ b.key

def scoredUpstreamCandidateOrder (candidates : List Candidate) (topK : ℤ) (draws : ℕ → ℚ) : List Candidate :=
  let primaryCount := if 0 < topK ∧ topK < candidates.length then topK.toNat else candidates.length
  (weightedScoredUpstreamCandidateOrder draws ((rankedCandidates candidates).take primaryCount) ++
    (rankedCandidates candidates).drop primaryCount).map (·.candidate)

structure SchedulerConfig where
  version : ℤ
  strategy : String
  topK : ℤ

def SchedulerConfig.usesScores (config : SchedulerConfig) : Bool := config.version = 2 ∨ config.strategy = "load_score"

def weightedUpstreamCandidateOrder (candidates : List Candidate) (config : SchedulerConfig) (draws : ℕ → ℚ) :
    List Candidate :=
  if config.usesScores then scoredUpstreamCandidateOrder candidates config.topK draws
  else tieredUpstreamCandidateOrder candidates config.topK draws

def preferUpstreamAccountCandidate (candidates : List Candidate) (accountID : ℤ) : List Candidate :=
  if accountID ≤ 0 ∨ candidates.length < 2 then candidates
  else
    match candidates with
    | [] => []
    | first :: rest =>
      match rest.find? (·.id = accountID) with
      | none => first :: rest
      | some preferred => preferred :: first :: rest.eraseP (·.id = accountID)

/-- The preferred account has been moved to the front, if it is there. -/
inductive Prefers (accountID : ℤ) : List Candidate → List Candidate → Prop
  | kept {order : List Candidate} (h : 0 < accountID → ∀ c ∈ order, c.id ≠ accountID) : Prefers accountID order order
  | moved (front : List Candidate) {back : List Candidate} {c : Candidate} (h : c.id = accountID) :
      Prefers accountID (front ++ c :: back) (c :: (front ++ back))

/-- No candidate precedes one of a smaller priority, and in a tier with more than `topK` candidates the first `topK` are
the least loaded ones. -/
structure Tiered (topK : ℤ) (order : List Candidate) : Prop where
  priorities : order.Pairwise (·.priority ≤ ·.priority)
  leastLoaded : ∀ priority, 0 < topK → topK < (order.filter (·.priority = priority)).length →
    ∃ top others, order.filter (·.priority = priority) = top ++ others ∧ top.length = topK ∧
      ∀ a ∈ top, ∀ b ∈ others, a.loadRate ≤ b.loadRate

variable (topK : ℤ) (draws : ℕ → ℚ) {pool : List Candidate}

/-! ### Weighted draws -/

lemma pickIndex_lt (pick : ℚ) (index : ℕ) (weights : List ℚ) :
    pickIndex pick index weights = 0 ∨ pickIndex pick index weights < index + weights.length := by
  induction weights generalizing pick index with
  | nil => exact .inl rfl
  | cons weight weights ih =>
    rw [pickIndex, length_cons]
    split_ifs
    · omega
    · have := ih (pick - weight) (index + 1)
      omega

lemma selected_lt {α : Type} (weight : α → ℚ) {pool : List α} (h : pool ≠ []) (draw : ℚ) :
    selected weight pool draw < pool.length := by
  have hpos := length_pos_iff.2 h
  have := pickIndex_lt (draw * (pool.map weight).sum) 0 (pool.map weight)
  rw [length_map] at this
  rw [selected]
  split_ifs <;> omega

lemma weightedOrder_perm {α : Type} (weight : α → ℚ) (pool : List α) :
    (weightedOrder weight draws pool).Perm pool := by
  fun_induction weightedOrder weight draws pool with
  | case1 draws pool h =>
    by_cases hempty : pool = []
    · rw [hempty]
    · have := selected_lt weight hempty (draws 0)
      rw [List.getElem?_eq_none_iff] at h
      omega
  | case2 draws pool c h ih =>
    obtain ⟨hlt, rfl⟩ := List.getElem?_eq_some_iff.1 h
    exact (ih.cons _).trans (getElem_cons_eraseIdx_perm hlt)

/-! ### Tiers -/

lemma tierOrder_perm (tier : List Candidate) : (tierOrder topK draws tier).Perm tier := by
  rw [tierOrder]
  split_ifs
  · nth_rewrite 3 [← take_append_drop topK.toNat tier]
    exact (weightedOrder_perm draws _ _).append (weightedOrder_perm _ _ _)
  · exact weightedOrder_perm draws _ tier

lemma tierOrder_leastLoaded {tier : List Candidate} (hsorted : tier.Pairwise (·.loadRate ≤ ·.loadRate)) (hpos : 0 < topK)
    (hlen : topK < tier.length) :
    ∃ top others, tierOrder topK draws tier = top ++ others ∧ top.length = topK ∧
      ∀ a ∈ top, ∀ b ∈ others, a.loadRate ≤ b.loadRate := by
  rw [tierOrder, if_pos ⟨hpos, hlen⟩]
  have htop := weightedOrder_perm draws (fun c : Candidate => max 1 c.weight * max (1 - c.loadRate) (1 / 20))
    (tier.take topK.toNat)
  refine ⟨_, _, rfl, ?_, fun a ha b hb => ?_⟩
  · have := htop.length_eq
    rw [length_take] at this
    rw [weightedUpstreamCandidateTierOrder]
    omega
  · rw [← take_append_drop topK.toNat tier, pairwise_append] at hsorted
    exact hsorted.2.2 a (htop.mem_iff.1 ha) b ((weightedOrder_perm _ _ _).mem_iff.1 hb)

lemma tiersOrder_perm (pool : List Candidate) : (tiersOrder topK draws pool).Perm pool := by
  fun_induction tiersOrder topK draws pool with
  | case1 => rfl
  | case2 draws c pool tier ih =>
    have := (tierOrder_perm topK draws tier).append ih
    rwa [cons_append, takeWhile_append_dropWhile] at this

def Before (a b : Candidate) : Prop := a.priority < b.priority ∨ a.priority = b.priority ∧ a.loadRate ≤ b.loadRate

/-- What is left after a tier has larger priorities. -/
lemma priority_lt_of_mem_dropWhile {c d : Candidate} (h : (c :: pool).Pairwise Before)
    (hd : d ∈ pool.dropWhile (·.priority = c.priority)) : c.priority < d.priority := by
  induction pool with
  | nil => simp at hd
  | cons e pool ih =>
    rw [dropWhile_cons] at hd
    obtain ⟨hc, he, hpool⟩ : (∀ x ∈ e :: pool, Before c x) ∧ (∀ x ∈ pool, Before e x) ∧ pool.Pairwise Before := by
      simpa using h
    split_ifs at hd with hprio
    · exact ih (pairwise_cons.2 ⟨fun x hx => hc x (mem_cons_of_mem e hx), hpool⟩) hd
    · have hce := hc e mem_cons_self
      rcases mem_cons.1 hd with rfl | hd
      · simp only [Before, decide_eq_true_eq] at hce hprio
        omega
      · have := he d hd
        simp only [Before, decide_eq_true_eq] at this hce hprio
        omega

lemma tiersOrder_tiered (h : pool.Pairwise Before) : Tiered topK (tiersOrder topK draws pool) := by
  fun_induction tiersOrder topK draws pool with
  | case1 => exact ⟨.nil, fun _ hpos hlen => by simp at hlen; omega⟩
  | case2 draws c pool tier ih =>
    have hsame : ∀ d ∈ tier, d.priority = c.priority := forall_mem_cons.2
      ⟨rfl, fun d hd => by simpa using mem_takeWhile_imp hd⟩
    have hlater : ∀ d ∈ tiersOrder topK (fun k => draws (tier.length + k)) (pool.dropWhile (·.priority = c.priority)),
        c.priority < d.priority :=
      fun d hd => priority_lt_of_mem_dropWhile h ((tiersOrder_perm _ _ _).mem_iff.1 hd)
    have hsame' : ∀ d ∈ tierOrder topK draws tier, d.priority = c.priority :=
      fun d hd => hsame d ((tierOrder_perm _ _ _).mem_iff.1 hd)
    have ih := ih ((pairwise_cons.1 h).2.sublist (dropWhile_sublist _))
    refine ⟨pairwise_append.2 ⟨?_, ih.priorities, fun a ha b hb => ?_⟩, fun priority hpos hlen => ?_⟩
    · exact pairwise_of_forall_mem_list fun a ha b hb => (hsame' a ha).trans_le (hsame' b hb).ge
    · exact (hsame' a ha).trans_le (hlater b hb).le
    · rw [filter_append] at hlen ⊢
      by_cases hprio : c.priority = priority
      · rw [filter_eq_self.2 (by simpa [← hprio] using hsame'), filter_eq_nil_iff.2 (by
          simpa [← hprio] using fun d hd => (hlater d hd).ne'), append_nil] at hlen ⊢
        refine tierOrder_leastLoaded topK draws ?_ hpos ((tierOrder_perm topK draws tier).length_eq ▸ hlen)
        refine (h.sublist ((takeWhile_sublist _).cons_cons c)).imp_of_mem fun ha hb hab => ?_
        have hab : Before _ _ := hab
        simp only [Before, hsame _ ha, hsame _ hb] at hab
        simpa using hab
      · rw [filter_eq_nil_iff.2 (by simpa using fun d hd => (hsame' d hd).trans_ne hprio), nil_append] at hlen ⊢
        exact ih.leastLoaded priority hpos hlen

lemma before_mergeSort (candidates : List Candidate) :
    (candidates.mergeSort fun a b => a.key ≤ b.key).Pairwise Before := by
  refine (pairwise_mergeSort ?_ ?_ candidates).imp fun {a b} h => ?_
  · intro a b c hab hbc
    simp only [decide_eq_true_eq] at hab hbc ⊢
    exact hab.trans hbc
  · intro a b
    simpa using le_total a.key b.key
  · simp only [decide_eq_true_eq, Candidate.key, Prod.Lex.toLex_le_toLex] at h
    rcases h with h | ⟨h, h' | ⟨h', -⟩⟩
    · exact .inl h
    · exact .inr ⟨h, h'.le⟩
    · exact .inr ⟨h, h'.le⟩

/-! ### The whole order -/

lemma scoredUpstreamCandidateOrder_perm (candidates : List Candidate) :
    (scoredUpstreamCandidateOrder candidates topK draws).Perm candidates := by
  have hranked : (rankedCandidates candidates).map (·.candidate) ~ candidates := by
    refine ((mergeSort_perm _ _).map _).trans (.of_eq ?_)
    simp [scored, Function.comp_def]
  rw [scoredUpstreamCandidateOrder]
  generalize (if 0 < topK ∧ topK < candidates.length then topK.toNat else candidates.length) = primaryCount
  refine .trans (.map _ ?_) hranked
  nth_rewrite 3 [← take_append_drop primaryCount (rankedCandidates candidates)]
  exact (weightedOrder_perm draws _ _).append_right _

lemma prefers_preferred (accountID : ℤ) (order : List Candidate) :
    Prefers accountID order (preferUpstreamAccountCandidate order accountID) := by
  cases order with
  | nil =>
    rw [preferUpstreamAccountCandidate, if_pos (.inr (by simp))]
    exact .kept (by simp)
  | cons first rest =>
    cases hfind : rest.find? (·.id = accountID) with
    | none =>
      have hkept : preferUpstreamAccountCandidate (first :: rest) accountID = first :: rest := by
        simp [preferUpstreamAccountCandidate, hfind]
      rw [hkept]
      by_cases hfirst : first.id = accountID
      · exact .moved [] hfirst
      · exact .kept fun _ => forall_mem_cons.2 ⟨hfirst, by simpa using hfind⟩
    | some preferred =>
      obtain ⟨hid, front, back, rfl, hfront⟩ := find?_eq_some_iff_append.1 hfind
      rw [preferUpstreamAccountCandidate, hfind]
      split_ifs with hnone
      · exact .kept fun hpos => absurd hnone (by simp; omega)
      · rw [eraseP_append_right _ (by simpa using hfront), eraseP_cons_of_pos (p := fun c : Candidate => c.id = accountID) hid]
        exact .moved (first :: front) (by simpa using hid)

lemma Prefers.perm {accountID : ℤ} {order result : List Candidate} (h : Prefers accountID order result) :
    result.Perm order := by
  cases h with
  | kept => rfl
  | moved => exact perm_middle.symm

/-- **The order of the candidates is a schedule**, whatever the configuration and the random draws. -/
theorem candidates_scheduled (candidates : List Candidate) (config : SchedulerConfig) (draws : ℕ → ℚ) (accountID : ℤ) :
    let order := weightedUpstreamCandidateOrder candidates config draws
    let result := preferUpstreamAccountCandidate order accountID
    result.Perm candidates ∧ Prefers accountID order result ∧ (config.usesScores = false → Tiered config.topK order) := by
  intro order result
  have hprefers : Prefers accountID order result := prefers_preferred accountID order
  refine ⟨hprefers.perm.trans ?_, hprefers, fun htiered => ?_⟩
  · simp only [order, weightedUpstreamCandidateOrder]
    split_ifs
    · exact scoredUpstreamCandidateOrder_perm config.topK draws candidates
    · exact (tiersOrder_perm _ _ _).trans (mergeSort_perm _ _)
  · simp only [order, weightedUpstreamCandidateOrder, htiered, Bool.false_eq_true, if_false]
    exact tiersOrder_tiered _ _ (before_mergeSort candidates)

end StarNexus.Router
