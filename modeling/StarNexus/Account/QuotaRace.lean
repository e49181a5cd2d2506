import Mathlib.Algebra.Group.Prod
import StarNexus.Account.Affiliate
import StarNexus.Account.User
import StarNexus.Lib.Frame

/-!
# Balances under concurrent changes

The balance of a user is the first balance and the sum of all changes that were completed since, if no operation writes back a
balance that has changed since it was read.  `TransferAffiliateUSDToQuota` saves
a copy of the whole row and `User.Update` all columns of a copy that are not zero, so that changes in between
are lost.
-/

namespace StarNexus.Account

open Lib Lib.Tx List Option Sys

/-! ### The first balance -/

def User.changes (user : User) : ℤ := (user.ledger.map Entry.delta).sum

@[simp] lemma User.changes_add (user : User) (cause : Cause) (delta : ℤ) :
    (user.add cause delta).changes = user.changes + delta := by
  simp [User.changes]

def initialQuota : (k : Key) → Val k → ℤ × ℕ
  | .user _, some user => (user.quota - user.changes, 1)
  | _, _ => 0

/-- A statement that writes back a balance finds it as it was read; a zero is not written back. -/
def freshCopy : Move schema → Bool
  | .update (.saveUser id quota) s _ => (s (.user id) : Option User).map User.quota = some quota
  | .auto (.updateUser id quota) s _ =>
    quota = 0 ∨ (s (.user id) : Option User).all fun user => user.quota = quota
  | _ => true

def FreshCopies {T : Type} (_ : Sys schema T) (_ : T) (m : Move schema) : Prop := freshCopy m = true

instance {T : Type} (σ : Sys schema T) (t : T) (m : Move schema) : Decidable (FreshCopies σ t m) :=
  inferInstanceAs (Decidable (freshCopy m = true))

/-! ### The functions -/

section functions

abbrev Balanced {α : Type} (p : Prog schema α) : Prop := Frames initialQuota (fun m => freshCopy m = true) p

variable {α : Type} (id : ℕ)

lemma initialQuota_add (user : User) (cause : Cause) (delta : ℤ) :
    initialQuota (.user id) (some (user.add cause delta)) = initialQuota (.user id) (some user) := by
  simp only [initialQuota, User.add_quota, User.changes_add]
  congr 1
  omega

lemma level_user {id : ℕ} {s : Snap schema} {f : User → Option User}
    (hf : ∀ user user', s (.user id) = some user → f user = some user' →
      initialQuota (.user id) (some user') = initialQuota (.user id) (some user)) :
    Level initialQuota s (rowWrite (S := schema) (.user id) (onRow f) s) := by
  refine .row fun v hv => ?_
  cases hu : s (.user id) with
  | none =>
    rw [hu] at hv
    cases hv
  | some user =>
    rw [hu] at hv
    obtain ⟨user', hf', rfl⟩ := map_eq_some_iff.1 hv
    exact hf user user' hu hf'

lemma level_other {k : Key} {s : Snap schema} {f : Val k → Option (Val k)} (hk : ∀ v, initialQuota k v = 0) :
    Level initialQuota s (rowWrite (S := schema) k f s) :=
  .row fun v _ => (hk v).trans (hk _).symm

variable (cause : Cause) (id : ℕ) (quota : ℤ)

lemma increaseUserQuota_balanced : Balanced (increaseUserQuota cause id quota) := by
  refine .bind (.execAuto fun s _ => level_user fun user user' _ h => ?_) fun _ => .pure _
  cases h
  exact initialQuota_add id user cause quota

lemma decreaseUserQuota_balanced : Balanced (decreaseUserQuota cause id quota) := by
  refine .bind (.execAuto fun s _ => level_user fun user user' _ h => ?_) fun _ => .pure _
  cases h
  exact initialQuota_add id user cause _

lemma batchUpdate_balanced (store : List (ℕ × ℤ)) : Balanced (batchUpdate store) := by
  induction store with
  | nil => exact .pure ()
  | cons entry store ih => exact .bind (increaseUserQuota_balanced _ _ _).attempt fun _ => ih

lemma userUpdate_balanced (newUser : User) : Balanced (userUpdate id newUser) := by
  refine .bind (Frames.select _ _).attempt fun _ => .bind (.execAuto fun s hs => ?_) fun _ => .pure _
  refine level_user fun user user' hu h => ?_
  cases h
  have hfresh : newUser.quota = 0 ∨ user.quota = newUser.quota := by
    simpa [freshCopy, hu] using hs
  have hquota : (user.updated newUser).quota = user.quota := by
    unfold User.updated
    dsimp only
    split
    · rfl
    · omega
  simp only [initialQuota, hquota]
  rfl

lemma profileEdit_balanced (edit : User → User) : Balanced (profileEdit id edit) := by
  refine .bind (.select _ _) fun row => ?_
  cases row with
  | none => exact .fail _
  | some user => exact userUpdate_balanced _ _

lemma thawEntries_balanced (ids : List ℕ) : Balanced (thawEntries ids) := by
  induction ids with
  | nil => exact .pure ()
  | cons id ids ih => exact .bind (.exec fun s _ => level_other fun _ => rfl) fun _ => ih

lemma saveUser_balanced (user : User) (quota : ℤ) : Balanced (saveUser id user quota) := by
  refine .exec fun s hs => .row fun v hv => ?_
  cases hu : s (.user id) with
  | none => simp [freshCopy, hu] at hs
  | some row =>
    have hquota : row.quota = user.quota := by simpa [freshCopy, hu] using hs
    rw [hu] at hv
    cases hv
    simp only [initialQuota, User.changes, map_some, getD_some, map_append, map_cons, map_nil,
      sum_append, sum_cons, sum_nil]
    congr 1
    omega

lemma saveAffiliate_balanced (profile : UserAffiliate) : Balanced (saveAffiliate id profile) :=
  .exec fun _ _ => level_other fun _ => rfl

lemma createLedger_balanced (entry : UserAffiliateLedger) : Balanced (createLedger entry) :=
  .exec fun _ _ => .cons rfl (.cons rfl .nil)

lemma firstAffiliate_balanced : Balanced (firstAffiliate id) := by
  refine .bind (.select _ _) fun row => ?_
  cases row with
  | none => exact .fail _
  | some profile => exact .pure _

lemma firstUser_balanced : Balanced (firstUser id) := by
  refine .bind (.select _ _) fun row => ?_
  cases row with
  | none => exact .fail _
  | some user => exact .pure _

variable (g : AffiliateSettings)

lemma transferAvailable_balanced (id : ℕ) (user : User) (profile : UserAffiliate) :
    Balanced (transferAvailable g id user profile) := by
  unfold transferAvailable
  split
  · exact .fail _
  split
  · exact .fail _
  split
  · exact .fail _
  · exact .bind (saveUser_balanced _ _ _) fun _ => .bind (saveAffiliate_balanced _ _) fun _ =>
      .bind (createLedger_balanced _) fun _ => .pure _

lemma transferAffiliateUSDToQuota_balanced (id : ℕ) :
    Balanced (transferAffiliateUSDToQuota g id) := by
  unfold transferAffiliateUSDToQuota
  split
  · exact .fail _
  · refine .transaction (.bind (firstUser_balanced id) fun user => ?_)
    refine .bind (firstAffiliate_balanced id) fun profile => .bind .now fun now => ?_
    refine .bind (.select _ _) fun entries => .bind (thawEntries_balanced _) fun _ => ?_
    exact transferAvailable_balanced _ _ _ _

end functions

/-! ### Runs -/

inductive QuotaCall : Prog schema Unit → Prop
  | increase cause id quota : QuotaCall (Tx.discard (increaseUserQuota cause id quota))
  | decrease cause id quota : QuotaCall (Tx.discard (decreaseUserQuota cause id quota))
  | batch store : QuotaCall (Tx.discard (batchUpdate store))
  | transfer g id : QuotaCall (Tx.discard (transferAffiliateUSDToQuota g id))
  | edit id edit (h : ∀ user, (edit user).quota = user.quota) : QuotaCall (Tx.discard (profileEdit id edit))
  | update id newUser (h : newUser.quota = 0) : QuotaCall (Tx.discard (userUpdate id newUser))

lemma QuotaCall.balanced {p : Prog schema Unit} (h : QuotaCall p) : Balanced p := by
  cases h with
  | increase cause id quota => exact (increaseUserQuota_balanced _ _ _).discard
  | decrease cause id quota => exact (decreaseUserQuota_balanced _ _ _).discard
  | batch store => exact (batchUpdate_balanced _).discard
  | transfer g id => exact (transferAffiliateUSDToQuota_balanced _ _).discard
  | edit id edit h => exact (profileEdit_balanced _ _).discard
  | update id newUser h => exact (userUpdate_balanced _ _).discard

/-- The balance of a user is the one of the beginning and all changes completed since. -/
def NoLostUpdate (r r' : Snap schema) : Prop :=
  ∀ id user, r (.user id) = some user →
    ∃ user', r' (.user id) = some user' ∧ user'.quota = user.quota + (user'.changes - user.changes)

/-- **No lost update**, in every interleaving in which no balance is written back that has changed since it was read. -/
theorem quota_eq_initial_add_changes {T : Type} [DecidableEq T] (r : Snap schema) (z : ℤ) (acts : List (Act schema T))
    (σ : Sys schema T)
    (hok : Along Sys.step (fun σ a => σ.Performs FreshCopies a ∧ σ.Calls (fun _ p => QuotaCall p) a) (Sys.rest r z) acts)
    (hrun : runs Sys.step (Sys.rest r z) acts = some σ) : NoLostUpdate r σ.db.rows := by
  intro id user hu
  have hsame : initialQuota (.user id) (σ.db.rows (.user id)) = initialQuota (.user id) (r (.user id)) :=
    frame_run (fun (_ : Sys schema T) _ m (h : freshCopy m = true) _ => h) (fun _ _ hp => QuotaCall.balanced hp) hok hrun
      (.user id)
  rw [hu] at hsame
  cases hu' : σ.db.rows (.user id) with
  | none =>
    rw [hu'] at hsame
    have hone := congrArg Prod.snd hsame
    simp [initialQuota] at hone
  | some user' =>
    rw [hu'] at hsame
    have hquota : user'.quota - user'.changes = user.quota - user.changes := congrArg Prod.fst hsame
    exact ⟨user', rfl, by omega⟩

/-! ### A transfer and an increase -/

def rebateRows : Snap schema
  | .user u => if u = 1 then some { } else none
  | .affiliate u => if u = 1 then some { affQuotaUSD := 2, affHistoryQuotaUSD := 2 } else none
  | k => noRows k

def transferring : Act schema Bool := .call false (Tx.discard (transferAffiliateUSDToQuota { } 1))

def increasing : Act schema Bool := .call true (Tx.discard (increaseUserQuota .adjust 1 5))

lemma quotaCalls_of_mem {acts : List (Act schema Bool)}
    (h : ∀ a ∈ acts, a = transferring ∨ a = increasing ∨ ∃ t, a = .step t) (σ : Sys schema Bool) :
    Along step (Sys.Calls fun _ p => QuotaCall p) σ acts := by
  refine .of_forall (fun σ a ha => ?_) σ
  rcases h a ha with rfl | rfl | ⟨t, rfl⟩
  · exact .transfer _ _
  · exact .increase _ _ _
  · trivial

def increasedBefore : List (Act schema Bool) :=
  transferring :: increasing :: .step true :: List.replicate 9 (.step false)

lemma increasedBefore_runs : (runs step (rest rebateRows 100) increasedBefore).isSome := by decide +kernel

theorem quota_eq_initial_add_changes_increasedBefore :
    ∃ σ, runs Sys.step (Sys.rest rebateRows 100) increasedBefore = some σ ∧ (∀ t, (σ.pc t).done) ∧
      (σ.db.rows (.user 1)).map User.quota = some 1000005 ∧ NoLostUpdate rebateRows σ.db.rows := by
  have hrun := (some_get increasedBefore_runs).symm
  have hfresh : Along step (Sys.Performs FreshCopies) (.rest rebateRows 100) increasedBefore := by decide +kernel
  have hcalls : Along step (Sys.Calls fun _ p => QuotaCall p) (.rest rebateRows 100) increasedBefore :=
    quotaCalls_of_mem (by simp [increasedBefore]) _
  exact ⟨_, hrun, by decide +kernel, by decide +kernel,
    quota_eq_initial_add_changes rebateRows 100 increasedBefore _ (hfresh.and hcalls) hrun⟩

def increasedBetween : List (Act schema Bool) :=
  transferring :: increasing :: (List.replicate 5 (.step false) ++ .step true :: List.replicate 4 (.step false))

lemma increasedBetween_runs : (runs step (rest rebateRows 100) increasedBetween).isSome := by decide +kernel

lemma not_noLostUpdate {r r' : Snap schema} (id : ℕ) {user : User} (hu : r (.user id) = some user)
    (h : (r' (.user id) : Option User).all (fun user' => user'.quota ≠ user.quota + (user'.changes - user.changes)) = true) :
    ¬NoLostUpdate r r' := by
  intro hall
  obtain ⟨user', hu', hquota⟩ := hall id user hu
  rw [hu'] at h
  simp [hquota] at h

/-- **A lost update.** The balance is a million, the changes are a million and five. -/
theorem increasedBetween_not_noLostUpdate :
    Along Sys.step (Sys.Calls fun _ p => QuotaCall p) (Sys.rest rebateRows 100) increasedBetween ∧
    ∃ σ, runs Sys.step (Sys.rest rebateRows 100) increasedBetween = some σ ∧ (∀ t, (σ.pc t).done) ∧
      (σ.db.rows (.user 1)).map User.quota = some 1000000 ∧ (σ.db.rows (.user 1)).map User.changes = some 1000005 ∧
      ¬NoLostUpdate rebateRows σ.db.rows := by
  refine ⟨quotaCalls_of_mem (by simp [increasedBetween]) _, _, (some_get increasedBetween_runs).symm,
    by decide +kernel, by decide +kernel, by decide +kernel, not_noLostUpdate 1 rfl ?_⟩
  decide +kernel

end StarNexus.Account
