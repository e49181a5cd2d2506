import StarNexus.Ledger.Books
import StarNexus.Service.BillingSession

/-!
# What a session has taken

A session draws on one funding source (a user's wallet or a subscription) and, outside the playground, on one token.
`Purse` names the two and says which ledger entries are the session's own; `Level` states how much the session holds of
either, compared with the rows at its start.  The use of a subscription cannot fall below
zero: the amount that the session holds of it is at least `-used`, where `used` is what others had used before.
-/

namespace StarNexus.Session

open Lib Lib.Tx Model Service Ledger
open Function (update update_of_ne)

def taken (mine : Cause → Bool) (l : List Entry) : ℤ := (l.map fun e => if mine e.cause then e.delta else 0).sum

variable {mine : Cause → Bool}

lemma taken_append_mine {c : Cause} (hc : mine c = true) (l : List Entry) (delta : ℤ) :
    taken mine (l ++ [⟨c, delta⟩]) = taken mine l + delta := by
  simp [taken, hc]

lemma taken_append_other {c : Cause} (hc : mine c = false) (l : List Entry) (delta : ℤ) :
    taken mine (l ++ [⟨c, delta⟩]) = taken mine l := by
  simp [taken, hc]

def subscriptionLedger (s : Snap schema) (n : ℕ) : List Entry :=
  ((s (.subscription n)).map UserSubscription.ledger).getD []

/-- Where a session takes its quota from: `holder`, and a token outside the playground. -/
structure Purse where
  mine : Cause → Bool
  source : FundingSource
  holder : ℕ
  token : Option ℕ
  trusted : Bool

namespace Purse

variable (p : Purse)

def funding (s : Snap schema) : ℤ :=
  match p.source with
  | .wallet => -taken p.mine (userLedger s p.holder)
  | .subscription => taken p.mine (subscriptionLedger s p.holder)

def charge (s : Snap schema) : ℤ :=
  match p.token with
  | some n => -taken p.mine (tokenLedger s n)
  | none => 0

/-- What is left of an amount when the use of a subscription stops at zero. -/
def floor (used x : ℤ) : ℤ :=
  match p.source with
  | .wallet => x
  | .subscription => max (-used) x

/-- The row of the funding source exists, and its use accounts for what the session holds. -/
def Backed (used f : ℤ) (s : Snap schema) : Prop :=
  match p.source with
  | .wallet => ∃ x, s (.user p.holder) = some x
  | .subscription => ∃ sub, s (.subscription p.holder) = some sub ∧ sub.amountUsed = used + f

end Purse

/-- The session holds `f` of its funding source and `t` of its token. -/
structure Level (p : Purse) (start : Snap schema) (used f t : ℤ) (s : Snap schema) : Prop where
  funding : p.funding s = p.funding start + f
  charge : p.token.isSome → p.charge s = p.charge start + t
  backed : p.Backed used f s
  token : ∀ n, p.token = some n → ∃ x, s (.token n) = some x

def offPurse : Key → Bool
  | .user _ | .token _ | .subscription _ => false
  | _ => true

section level

variable {p : Purse} {start s s' : Snap schema} {used f t : ℤ}

section

variable (h : Level p start used f t s)

include h

lemma Level.transfer (huser : ∀ u, taken p.mine (userLedger s' u) = taken p.mine (userLedger s u))
    (htoken : ∀ n, taken p.mine (tokenLedger s' n) = taken p.mine (tokenLedger s n))
    (hsub : ∀ n, taken p.mine (subscriptionLedger s' n) = taken p.mine (subscriptionLedger s n))
    (hbacked : p.Backed used f s → p.Backed used f s')
    (hrow : ∀ n x, s (.token n) = some x → ∃ x', s' (.token n) = some x') : Level p start used f t s' := by
  refine ⟨?_, fun hsome => ?_, hbacked h.backed, fun n hn => ?_⟩
  · rw [← h.funding]
    unfold Purse.funding
    cases p.source with
    | wallet => simp [huser]
    | subscription => simp [hsub]
  · rw [← h.charge hsome]
    unfold Purse.charge
    cases p.token with
    | none => rfl
    | some n => simp [htoken]
  · obtain ⟨x, hx⟩ := h.token n hn
    exact hrow n x hx

lemma Level.sameLedgers (huser : ∀ u, (s' (.user u)).map User.ledger = (s (.user u)).map User.ledger)
    (htoken : ∀ n, s' (.token n) = s (.token n)) (hsub : ∀ n, s' (.subscription n) = s (.subscription n)) :
    Level p start used f t s' := by
  refine h.transfer (fun u => ?_) (fun n => ?_) (fun n => ?_) ?_ fun n x hx => ⟨x, (htoken n).trans hx⟩
  · rw [userLedger, huser, userLedger]
  · rw [tokenLedger, htoken, tokenLedger]
  · rw [subscriptionLedger, hsub, subscriptionLedger]
  · unfold Purse.Backed
    cases p.source with
    | wallet =>
      rintro ⟨x, hx⟩
      have hledger := huser p.holder
      rw [hx] at hledger
      obtain ⟨y, hy, -⟩ := Option.map_eq_some_iff.1 hledger
      exact ⟨y, hy⟩
    | subscription =>
      rw [hsub]
      exact id

lemma Level.congr (hsame : ∀ k, offPurse k = false → s' k = s k) : Level p start used f t s' :=
  h.sameLedgers (fun u => congrArg _ (hsame (.user u) rfl)) (fun n => hsame (.token n) rfl) fun n => hsame (.subscription n) rfl

lemma Level.write {k : Key} (v : Val k) (hk : offPurse k = true) : Level p start used f t (update s k v) := by
  refine h.congr fun k' hk' => update_of_ne ?_ _ _
  rintro rfl
  rw [hk] at hk'
  cases hk'

variable {c : Cause}

lemma Level.addUser (hsrc : p.source = .wallet) {x : User}
    (hx : s (.user p.holder) = some x) (hc : p.mine c = true) (delta : ℤ) :
    Level p start used (f - delta) t (update s (.user p.holder) (some (x.add c delta))) := by
  have hnew : userLedger (update s (.user p.holder) (some (x.add c delta))) p.holder =
      userLedger s p.holder ++ [⟨c, delta⟩] := by simp [userLedger, User.add, hx]
  refine ⟨?_, h.charge, ?_, h.token⟩
  · have hf := h.funding
    simp only [Purse.funding, hsrc] at hf ⊢
    rw [hnew, taken_append_mine hc]
    omega
  · simp [Purse.Backed, hsrc]

lemma Level.addToken {n : ℕ} (hn : p.token = some n) {x : Token}
    (hx : s (.token n) = some x) (hc : p.mine c = true) (delta z : ℤ) :
    Level p start used f (t - delta) (update s (.token n) (some (x.add c delta z))) := by
  have hnew : tokenLedger (update s (.token n) (some (x.add c delta z))) n =
      tokenLedger s n ++ [⟨c, delta⟩] := by simp [tokenLedger, Token.add, hx]
  refine ⟨h.funding, fun hsome => ?_, h.backed, fun m hm => ?_⟩
  · have ht := h.charge hsome
    simp only [Purse.charge, hn] at ht ⊢
    rw [hnew, taken_append_mine hc]
    omega
  · obtain rfl : n = m := Option.some.inj (hn.symm.trans hm)
    simp

variable {sub : UserSubscription}

lemma Level.setUsed (hsrc : p.source = .subscription)
    (hsub : s (.subscription p.holder) = some sub) (hc : p.mine c = true) (x : ℤ) :
    Level p start used (x - used) t (update s (.subscription p.holder) (some (sub.setUsed c x))) := by
  have hnew : subscriptionLedger (update s (.subscription p.holder) (some (sub.setUsed c x))) p.holder =
      subscriptionLedger s p.holder ++ [⟨c, x - sub.amountUsed⟩] := by
    simp [subscriptionLedger, UserSubscription.setUsed, hsub]
  have hused : sub.amountUsed = used + f := by
    have hb := h.backed
    simp only [Purse.Backed, hsrc] at hb
    obtain ⟨sub', hsub', hused⟩ := hb
    obtain rfl : sub = sub' := by simpa [hsub] using hsub'
    exact hused
  refine ⟨?_, h.charge, ?_, h.token⟩
  · have hf := h.funding
    simp only [Purse.funding, hsrc] at hf ⊢
    rw [hnew, taken_append_mine hc]
    omega
  · simp only [Purse.Backed, hsrc]
    exact ⟨sub.setUsed c x, by simp, by simp [UserSubscription.setUsed]⟩

lemma Level.userRow {u : ℕ} {x y : User} (hx : s (.user u) = some x) (hy : taken p.mine y.ledger = taken p.mine x.ledger) :
    Level p start used f t (update s (.user u) (some y)) := by
  refine h.transfer (fun v => ?_) (fun n => rfl) (fun n => rfl) ?_ fun n x hx => ⟨x, hx⟩
  · by_cases hv : v = u
    · subst hv
      simp [userLedger, hx, hy]
    · simp [userLedger, hv]
  · unfold Purse.Backed
    cases p.source with
    | wallet =>
      rintro ⟨z, hz⟩
      by_cases hu : p.holder = u
      · subst hu
        exact ⟨y, by simp⟩
      · exact ⟨z, by simpa [hu] using hz⟩
    | subscription => exact fun hb => hb

lemma Level.otherToken {n : ℕ} {x : Token} (hx : s (.token n) = some x) (hc : p.mine c = false) (delta z : ℤ) :
    Level p start used f t (update s (.token n) (some (x.add c delta z))) := by
  refine h.transfer (fun u => rfl) (fun m => ?_) (fun m => rfl) ?_ fun m y hy => ?_
  · by_cases hm : m = n
    · subst hm
      simp [tokenLedger, hx, Token.add, taken_append_other hc]
    · simp [tokenLedger, hm]
  · cases p.source with
    | wallet | subscription => exact fun hb => hb
  · by_cases hm : m = n
    · subst hm
      simp
    · exact ⟨y, by simpa [hm] using hy⟩

lemma Level.otherSubscription {n : ℕ}
    (hsub : s (.subscription n) = some sub) (hc : p.mine c = false)
    (hn : p.source = .subscription → n ≠ p.holder) (x : ℤ) :
    Level p start used f t (update s (.subscription n) (some (sub.setUsed c x))) := by
  refine h.transfer (fun u => rfl) (fun m => rfl) (fun m => ?_) ?_ fun m y hy => ⟨y, hy⟩
  · by_cases hm : m = n
    · subst hm
      simp [subscriptionLedger, hsub, UserSubscription.setUsed, taken_append_other hc]
    · simp [subscriptionLedger, hm]
  · unfold Purse.Backed
    cases hsrc : p.source with
    | wallet => exact fun hb => hb
    | subscription =>
      rintro ⟨y, hy, hused⟩
      exact ⟨y, by simpa [(hn hsrc).symm] using hy, hused⟩

lemma Level.backed_used (hsrc : p.source = .subscription) :
    ∃ sub, s (.subscription p.holder) = some sub ∧ sub.amountUsed = used + f := by
  have hb := h.backed
  simpa only [Purse.Backed, hsrc] using hb

lemma Level.backed_user (hsrc : p.source = .wallet) : ∃ x, s (.user p.holder) = some x := by
  have hb := h.backed
  simpa only [Purse.Backed, hsrc] using hb

end

end level

end StarNexus.Session
