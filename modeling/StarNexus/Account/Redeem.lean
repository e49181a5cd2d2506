import StarNexus.Lib.Protocol
import Mathlib.Algebra.BigOperators.Group.Finset.Piecewise
import Mathlib.Algebra.Order.BigOperators.Group.Finset

/-!
# Redemption codes

`Redeem` of `model/redemption.go`: one transaction that reads a code, credits the user with its quota and saves the code
as used.  The read asks for a lock with an option that `gorm` no longer knows, so that it takes none.
-/

namespace StarNexus.Redemption

open Lib Lib.Protocol Lib.Tx Function Option Sys
open Function (update update_of_ne update_self)

/-! ### The call -/

/-- `RedemptionCodeStatus*`. -/
inductive CodeStatus where
  | enabled
  | disabled
  | used
deriving DecidableEq

/-- What `Redeem` reads and changes of a `Redemption`. -/
structure Code where
  id : ℕ
  status : CodeStatus
  quota : ℤ
  expiredTime : ℤ := 0
  redeemedTime : ℤ := 0
  usedUserId : ℕ := 0

inductive Key where
  | code (key : String)
  | user (id : ℕ)
deriving DecidableEq

abbrev Val : Key → Type
  | .code _ => Option Code
  | .user _ => Option ℤ

inductive Label where
  | first
  | credit
  | save

structure Log where
  userId : ℕ
  quota : ℤ
  codeId : ℕ

abbrev schema : Lib.Schema where
  Key := Key
  Val := Val
  Event := Log
  Label := Label
  Mutex := Empty

def redeemTx (key : String) (userId : ℕ) : Tx schema Code := do
  let row ← attempt (select (S := schema) Label.first fun s => s (.code key))
  match row with
  | .ok (some redemption) =>
    if redemption.status ≠ .enabled then fail (.msg "该兑换码已被使用")
    else do
      let now ← now
      if redemption.expiredTime ≠ 0 ∧ redemption.expiredTime < now then fail (.msg "该兑换码已过期")
      else do
        let _ ← exec (S := schema) Label.credit
          (rowWrite (S := schema) (.user userId) (onRow fun quota : ℤ => some (quota + redemption.quota)))
        let redeemedTime ← Tx.now
        let redeemed := { redemption with redeemedTime, status := .used, usedUserId := userId }
        let _ ← exec (S := schema) Label.save (rowWrite (S := schema) (.code key) fun _ => some (some redeemed))
        pure redeemed
  | _ => fail (.msg "无效的兑换码")

def redeem (key : String) (userId : ℕ) : Tx schema ℤ :=
  if key = "" then fail (.msg "未提供兑换码")
  else if userId = 0 then fail (.msg "无效的 user id")
  else do
    let result ← attempt (transaction (redeemTx key userId))
    match result with
    | .error _ => fail (.msg "redeem.failed")
    | .ok redemption => do
      emit (S := schema) { userId, quota := redemption.quota, codeId := redemption.id }
      pure redemption.quota

/-! ### The protocol of a code -/

/-- How far a call is with the code; it has credited no user if there is none. -/
inductive Phase where
  | out
  | begun
  | seen (code : Code)
  | credited (code : Code) (payee : Option ℕ)
  | saved (code : Code) (payee : Option ℕ) (code' : Code)

def Phase.code : Phase → Option Code
  | .out | .begun => none
  | .seen code | .credited code _ | .saved code _ _ => some code

def Phase.payee : Phase → Option ℕ
  | .credited _ payee | .saved _ payee _ => payee
  | _ => none

def Phase.written : Phase → Option Code
  | .saved _ _ code' => some code'
  | _ => none

inductive Goes (key : String) : Phase → Move schema → Phase → Prop
  | start : Goes key .out .start .begun
  | read s : Goes key .begun (.read .first s) .begun
  | see s code (h : s (.code key) = some code) (henabled : code.status = .enabled) :
      Goes key .begun (.read .first s) (.seen code)
  | miss s code : Goes key (.seen code) (.update .credit s []) (.credited code none)
  | credit s code u quota (h : s (.user u) = some quota) :
      Goes key (.seen code) (.update .credit s [⟨.user u, some (quota + code.quota)⟩]) (.credited code (some u))
  | save s code payee code' (h : code'.status = .used) :
      Goes key (.credited code payee) (.update .save s [⟨.code key, some code'⟩]) (.saved code payee code')
  | commit code payee code' : Goes key (.saved code payee code') .commit .out
  | rollback g : Goes key g .rollback .out
  | emit e : Goes key .out (.emit e) .out

def codeProtocol (key : String) : Protocol schema Phase where
  idle := .out
  sees _ _ := True
  goes := Goes key
  stops g := g = .out
  stops_idle := rfl

lemma redeemTx_body (key : String) (userId : ℕ) :
    (codeProtocol key).Body (redeemTx key userId) (fun _ g => ∃ code payee code', g = .saved code payee code') .begun := by
  refine .bind ?_
  -- the read, which may fail
  refine .attempt ⟨fun row hrow => ?_, fun s _ => ?_⟩
  · cases hrow
    exact .fail _
  cases hs : s (.code key) with
  | none =>
    refine ⟨.begun, .read s, fun row hrow => ?_⟩
    cases hrow
    simp only [hs]
    exact .fail _
  | some code =>
    by_cases henabled : code.status = .enabled
    · refine ⟨.seen code, .see s code hs henabled, fun row hrow => ?_⟩
      cases hrow
      simp only [hs]
      rw [if_neg (not_not.2 henabled)]
      refine .bind (.now fun now => ?_)
      refine .ite (fun _ => .fail _) fun _ => ?_
      refine .bind (.mono (R := fun _ g => ∃ payee, g = .credited code payee) ?_ ?_)
      · refine .row (fun s _ _ => ⟨_, .miss s code, none, rfl⟩) fun s v _ hv => ?_
        obtain ⟨quota, hquota, hv⟩ := bind_eq_some_iff.1 hv
        cases hv
        exact ⟨_, .credit s code userId quota hquota, some userId, rfl⟩
      · rintro _ _ ⟨payee, rfl⟩
        refine .bind (.now fun redeemedTime => ?_)
        refine .bind (.row (fun s _ hnone => (nomatch hnone)) fun s v _ hv => ?_)
        cases hv
        exact ⟨_, .save s code payee _ rfl, .pure ⟨code, payee, _, rfl⟩⟩
    · refine ⟨.begun, .read s, fun row hrow => ?_⟩
      cases hrow
      simp only [hs]
      rw [if_pos henabled]
      exact .fail _

lemma redeem_follows (key : String) (userId : ℕ) :
    (codeProtocol key).Follows (Tx.discard (redeem key userId)) (fun _ g => g = .out) .out := by
  refine .discard ?_
  refine .ite (fun _ => rfl) fun _ => .ite (fun _ => rfl) fun _ => ?_
  have htransaction : (codeProtocol key).Follows (transaction (redeemTx key userId)) (fun _ g => g = .out) .out := by
    refine .ofBody rfl .start (redeemTx_body key userId) (fun g _ => ⟨.out, .rollback g, rfl⟩) ?_
    rintro _ _ ⟨code, payee, code', rfl⟩ _
    exact ⟨.out, .commit code payee code', rfl⟩
  refine .attempt_bind (htransaction.mono ?_)
  rintro result _ rfl
  cases result with
  | error e => exact rfl
  | ok code => exact fun _ => ⟨.out, .emit _, rfl⟩

/-! ### The books -/

section books

variable (key : String) (r : Snap schema)

def quotaOf : ℤ := ((r (.code key)).map Code.quota).getD 0

def balance (payee : Option ℕ) (u : ℕ) : Option ℤ :=
  (r (.user u)).map (· + if payee = some u then quotaOf key r else 0)

/-- The rows after `payee` has been paid. -/
structure Books (payee : Option ℕ) (rows : Snap schema) : Prop where
  users : ∀ u, rows (.user u) = balance key r payee u
  code : ∀ c, rows (.code key) = some c → c.status = .enabled → r (.code key) = some c ∧ payee = none

/-- What a call has written and not committed. -/
def Phase.wrote (g : Phase) : (k : Key) → Option (Val k)
  | .user u => if g.payee = some u then some (balance key r (some u) u) else none
  | .code key' => if key' = key then g.written.map some else none

variable {key r} {g g' : Phase}

lemma Phase.wrote_congr (hpayee : g.payee = g'.payee) (hwritten : g.written = g'.written) :
    g.wrote key r = g'.wrote key r := by
  funext k
  cases k <;> simp [Phase.wrote, hpayee, hwritten]

lemma Phase.wrote_of_unread (h : g.code = none) (k : Key) : g.wrote key r k = none := by
  cases g with
  | out | begun => cases k <;> simp [Phase.wrote, Phase.payee, Phase.written]
  | seen | credited | saved => cases h

/-- A user whose balance is as in `r` has been paid the quota of the code. -/
lemma balance_paid {c : Code} (hc : r (.code key) = some c) {u : ℕ} {quota : ℤ} (h : balance key r none u = some quota) :
    balance key r (some u) u = some (quota + c.quota) := by
  obtain ⟨q, hq, rfl⟩ := map_eq_some_iff.1 h
  simp [balance, hq, quotaOf, hc]

end books

/-! ### All interleavings -/

section runs

variable {T : Type} [DecidableEq T] {key : String} {r : Snap schema}

/-- A call reads the code only while no other call has its transaction open. -/
def ReadsAlone (σ : Sys schema T) (t : T) : Move schema → Prop
  | .read _ _ => ∀ u, u ≠ t → σ.db.active u = false
  | _ => True

/-- At most one call is between its read of the code and the end of its transaction, the code that it has read is still the
one of the table, and only it has written. -/
structure Kept (key : String) (r : Snap schema) (d : Db schema T) (γ : T → Phase) : Prop where
  books : ∃ payee, Books key r payee d.rows
  active : ∀ t, γ t ≠ .out → d.active t = true
  alone : ∀ t u, (γ t).code ≠ none → (γ u).code ≠ none → t = u
  current : ∀ t c, (γ t).code = some c → d.rows (.code key) = some c ∧ c.status = .enabled
  used : ∀ t c, (γ t).written = some c → c.status = .used
  dirty : ∀ t k v, d.dirty k = some (t, v) ↔ (γ t).wrote key r k = some v

variable {γ : T → Phase} {d d' : Db schema T} {t u : T} {g : Phase} {c : Code} {k : Key}

section

variable (h : Kept key r d γ)

include h

lemma Kept.view (hk : (γ t).wrote key r k = none) : d.view t k = d.rows k := by
  refine d.view_of_not_holder fun v hv => ?_
  rw [(h.dirty t k v).1 hv] at hk
  cases hk

omit [DecidableEq T] in
lemma Kept.unread (ht : (γ t).code ≠ none) (hu : u ≠ t) : (γ u).code = none := by
  by_contra hne
  exact hu (h.alone u t hne ht)

/-- A statement of `t` after which it is in the phase `g`. -/
lemma Kept.step (hbooks : ∃ payee, Books key r payee d'.rows) (hothers : ∀ u, u ≠ t → d'.active u = d.active u)
    (hself : g ≠ .out → d'.active t = true) (halone : g.code ≠ none → ∀ u, u ≠ t → (γ u).code = none)
    (hcurrent : ∀ c, g.code = some c → d'.rows (.code key) = some c ∧ c.status = .enabled)
    (hrows : ∀ u, u ≠ t → (γ u).code ≠ none → d'.rows (.code key) = d.rows (.code key))
    (hused : ∀ c, g.written = some c → c.status = .used)
    (hmine : ∀ k v, d'.dirty k = some (t, v) ↔ g.wrote key r k = some v)
    (hdirty : ∀ u, u ≠ t → ∀ k v, d'.dirty k = some (u, v) ↔ d.dirty k = some (u, v)) :
    Kept key r d' (update γ t g) where
  books := hbooks
  active := (forall_update_iff γ fun u g => g ≠ .out → d'.active u = true).2
    ⟨hself, fun u hu hne => (hothers u hu).trans (h.active u hne)⟩
  alone u v hu hv := by
    by_cases hut : u = t <;> by_cases hvt : v = t
    · rw [hut, hvt]
    · rw [hut, update_self] at hu
      rw [update_of_ne hvt] at hv
      exact absurd (halone hu v hvt) hv
    · rw [hvt, update_self] at hv
      rw [update_of_ne hut] at hu
      exact absurd (halone hv u hut) hu
    · rw [update_of_ne hut] at hu
      rw [update_of_ne hvt] at hv
      exact h.alone u v hu hv
  current := by
    refine (forall_update_iff γ fun _ g => ∀ c, g.code = some c → d'.rows (.code key) = some c ∧ c.status = .enabled).2
      ⟨hcurrent, fun u hu c hc => ?_⟩
    rw [hrows u hu (by simp [hc])]
    exact h.current u c hc
  used := (forall_update_iff γ fun _ g => ∀ c, g.written = some c → c.status = .used).2 ⟨hused, fun u _ => h.used u⟩
  dirty := by
    refine (forall_update_iff γ fun u g => ∀ k v, d'.dirty k = some (u, v) ↔ g.wrote key r k = some v).2 ⟨hmine, ?_⟩
    exact fun u hu k v => (hdirty u hu k v).trans (h.dirty u k v)

/-- A statement of `t` that neither reads an enabled code nor writes. -/
lemma Kept.phase {g₀ : Phase} (hγ : γ t = g₀) (hrows : d'.rows = d.rows) (hdirty : d'.dirty = d.dirty)
    (hothers : ∀ u, u ≠ t → d'.active u = d.active u) (hself : g ≠ .out → d'.active t = true) (hcode : g.code = g₀.code)
    (hpayee : g.payee = g₀.payee) (hwritten : g.written = g₀.written) : Kept key r d' (update γ t g) := by
  subst hγ
  refine h.step (hrows ▸ h.books) hothers hself (fun hc u => h.unread (hcode ▸ hc)) (fun c hc => ?_) (fun _ _ _ => by rw [hrows])
    (fun c hc => h.used t c (hwritten ▸ hc)) (fun k v => ?_) fun _ _ _ _ => by rw [hdirty]
  · rw [hrows]
    exact h.current t c (hcode ▸ hc)
  · rw [hdirty, Phase.wrote_congr hpayee hwritten]
    exact h.dirty t k v

/-- The call that has read the code writes a row. -/
lemma Kept.write {g₀ : Phase} (hγ : γ t = g₀) (hread : g₀.code ≠ none) (hcode : g.code = g₀.code) {v : Val k}
    (hwrote : g.wrote key r k = some v) (hsame : ∀ k', k' ≠ k → g.wrote key r k' = g₀.wrote key r k')
    (hused : ∀ c, g.written = some c → c.status = .used) : Kept key r (d.write t [⟨k, v⟩]) (update γ t g) := by
  subst hγ
  have hself : (d.write t [⟨k, v⟩]).dirty k = some (t, v) := update_self _ _ _
  have hother : ∀ k', k' ≠ k → (d.write t [⟨k, v⟩]).dirty k' = d.dirty k' := fun k' hk' => update_of_ne hk' _ _
  have hactive : d.active t = true := h.active t fun hout => hread (by rw [hout]; rfl)
  refine h.step h.books (fun _ _ => rfl) (fun _ => hactive) (fun _ u => h.unread hread) (fun c hc => h.current t c (hcode ▸ hc))
    (fun _ _ _ => rfl) hused (fun k' v' => ?_) fun u hu k' v' => ?_
  · by_cases hk : k' = k
    · subst hk
      simp [hself, hwrote]
    · rw [hother k' hk, hsame k' hk]
      exact h.dirty t k' v'
  · by_cases hk : k' = k
    · subst hk
      rw [h.dirty, Phase.wrote_of_unread (h.unread hread hu), hself]
      simp [hu.symm]
    · rw [hother k' hk]

/-- The transaction of `t` ends. -/
lemma Kept.close (hbooks : ∃ payee, Books key r payee d'.rows) (hdirty : d'.dirty = d.release t)
    (hothers : ∀ u, u ≠ t → d'.active u = d.active u)
    (hrows : ∀ u, u ≠ t → (γ u).code ≠ none → d'.rows (.code key) = d.rows (.code key)) : Kept key r d' (update γ t .out) := by
  refine h.step hbooks hothers (absurd rfl) (absurd rfl) nofun hrows nofun (fun k v => ?_) fun u hu k v => ?_
  · rw [hdirty, d.release_eq_some, Phase.wrote_of_unread rfl]
    simp
  · rw [hdirty, d.release_eq_some]
    exact and_iff_left hu

lemma Kept.commit {payee : Option ℕ} {c' : Code} (hγ : γ t = .saved c payee c') :
    ∃ payee, Books key r payee (d.commit t).rows := by
  obtain ⟨paid, hbooks⟩ := h.books
  have hcode : (d.commit t).rows (.code key) = some c' :=
    d.view_of_self ((h.dirty t _ _).2 (by simp [hγ, Phase.wrote, Phase.written]))
  have hused : c'.status = .used := h.used t c' (by rw [hγ]; rfl)
  have hnot : ∀ c'', (d.commit t).rows (.code key) = some c'' → c''.status ≠ .enabled := by
    intro c'' hc''
    cases hcode.symm.trans hc''
    simp [hused]
  have hother : ∀ u, payee ≠ some u → (d.commit t).rows (.user u) = balance key r paid u := fun u hu =>
    (h.view (by simp [hγ, Phase.wrote, Phase.payee, hu])).trans (hbooks.users u)
  cases payee with
  | none => exact ⟨paid, fun u => hother u nofun, fun c'' hc'' henabled => absurd henabled (hnot c'' hc'')⟩
  | some p =>
    -- the code was enabled, so that nobody had been paid
    obtain ⟨hc, henabled⟩ := h.current t c (by rw [hγ]; rfl)
    obtain ⟨-, rfl⟩ := hbooks.code c hc henabled
    refine ⟨some p, fun u => ?_, fun c'' hc'' henabled => absurd henabled (hnot c'' hc'')⟩
    by_cases hu : p = u
    · subst hu
      exact d.view_of_self ((h.dirty t _ _).2 (by simp [hγ, Phase.wrote, Phase.payee]))
    · rw [hother u (by simpa using hu)]
      simp [balance, hu]

end

/-- **Every statement of a call keeps the books**, if the code is read by one call at a time. -/
lemma codeProtocol_keeps (key : String) (r : Snap schema) :
    (codeProtocol key).Keeps (ReadsAlone (T := T)) (Kept key r) where
  sees _ _ _ _ _ _ _ := trivial
  stay _ _ h := h
  tick _ _ _ h := { h with }
  read σ γ t ℓ g h hok hgo := by
    generalize hγ : γ t = g₀ at hgo
    have hactive : g₀ ≠ .out → σ.db.active t = true := fun hne => h.active t (hγ ▸ hne)
    cases hgo with
    | read => exact h.phase hγ rfl rfl (fun _ _ => rfl) (fun _ => hactive nofun) rfl rfl rfl
    | see _ c hs henabled =>
      rw [h.view (Phase.wrote_of_unread (by rw [hγ]; rfl) _)] at hs
      -- the transactions of the others are closed, so that they have not read
      have hout : ∀ u, u ≠ t → γ u = .out := fun u hu => by
        by_contra hne
        exact nomatch (hok u hu).symm.trans (h.active u hne)
      refine h.step h.books (fun _ _ => rfl) (fun _ => hactive nofun) (fun _ u hu => by rw [hout u hu]; rfl) ?_
        (fun _ _ _ => rfl) nofun (fun k v => ?_) fun _ _ _ _ => .rfl
      · rintro _ ⟨⟩
        exact ⟨hs, henabled⟩
      · rw [h.dirty, hγ]
        exact .of_eq (congrArg (· k = some v) (Phase.wrote_congr rfl rfl))
  update σ γ t ℓ ws g h _ hfree hgo := by
    generalize hγ : γ t = g₀ at hgo
    cases hgo with
    | miss _ c =>
      have hactive : σ.db.active t = true := h.active t (by simp [hγ])
      exact h.phase hγ rfl rfl (fun _ _ => rfl) (fun _ => hactive) rfl rfl rfl
    | credit _ c u quota hs =>
      obtain ⟨payee, hbooks⟩ := h.books
      obtain ⟨hc, henabled⟩ := h.current t c (by rw [hγ]; rfl)
      obtain ⟨hrc, rfl⟩ := hbooks.code c hc henabled
      rw [h.view (by simp [hγ, Phase.wrote, Phase.payee]), hbooks.users] at hs
      rw [← balance_paid hrc hs]
      refine h.write (g := .credited c (some u)) (k := .user u) hγ nofun rfl (by simp [Phase.wrote, Phase.payee])
        (fun k hk => ?_) nofun
      cases k with
      | code key' => rfl
      | user u' => simpa [Phase.wrote, Phase.payee, eq_comm] using hk
    | save _ c payee c' hused =>
      refine h.write (g := .saved c payee c') (k := .code key) hγ nofun rfl (by simp [Phase.wrote, Phase.written])
        (fun k hk => ?_) ?_
      · cases k with
        | code key' => simp [Phase.wrote, show key' ≠ key by simpa using hk]
        | user u' => rfl
      · rintro _ ⟨⟩
        exact hused
  auto σ γ t ℓ ws g _ _ _ hgo := by
    generalize γ t = g₀ at hgo
    cases hgo
  start d γ t g h hgo := by
    generalize hγ : γ t = g₀ at hgo
    cases hgo
    exact h.phase hγ rfl rfl (fun _ hu => update_of_ne hu _ _) (fun _ => update_self _ _ _) rfl rfl rfl
  commit σ γ t g h _ hgo := by
    generalize hγ : γ t = g₀ at hgo
    cases hgo with
    | commit c payee c' =>
      -- nobody else has read the code that is committed over
      refine h.close (h.commit hγ) rfl (fun _ hu => update_of_ne hu _ _) fun u hu hread => absurd (h.unread ?_ hu) hread
      simp [hγ, Phase.code]
  rollback d γ t g h hgo := by
    generalize γ t = g₀ at hgo
    cases hgo
    exact h.close h.books rfl (fun _ hu => update_of_ne hu _ _) fun _ _ _ => rfl
  emit σ γ t e g h _ hgo := by
    generalize hγ : γ t = g₀ at hgo
    cases hgo
    exact h.phase hγ rfl rfl (fun _ _ => rfl) (absurd rfl) rfl rfl rfl
  lock _ _ _ m := Empty.elim m
  unlock _ _ _ m := Empty.elim m
  stop d γ t h hstop := h.phase hstop rfl rfl (fun _ _ => rfl) (absurd rfl) rfl rfl rfl
  die _ _ _ h := h.close h.books rfl (fun _ hu => update_of_ne hu _ _) fun _ _ _ => rfl

end runs

/-! ### Once -/

def paid (before rows : Snap schema) (u : ℕ) : ℤ := (rows (.user u)).getD 0 - (before (.user u)).getD 0

/-- At most the quota of the code has been paid, and to at most one user. -/
structure PaidOnce (key : String) (before rows : Snap schema) : Prop where
  total : ∀ users : Finset ℕ, ∑ u ∈ users, paid before rows u ≤ max 0 (quotaOf key before)
  one : ∀ u v, rows (.user u) ≠ before (.user u) → rows (.user v) ≠ before (.user v) → u = v

variable {key : String} {before rows : Snap schema}

lemma paid_balance {payee : Option ℕ}
    (h : ∀ u, rows (.user u) = balance key before payee u) (u : ℕ) :
    paid before rows u = if payee = some u ∧ (before (.user u)).isSome then quotaOf key before else 0 := by
  rw [paid, h, balance]
  cases before (.user u) <;> simp

lemma PaidOnce.of_balance {payee : Option ℕ}
    (h : ∀ u, rows (.user u) = balance key before payee u) : PaidOnce key before rows := by
  constructor
  · intro users
    simp only [paid_balance h]
    cases payee with
    | none => simp
    | some p =>
      have hsum : ∑ u ∈ users, (if some p = some u ∧ (before (.user u)).isSome then quotaOf key before else 0) =
          if p ∈ users then (if (before (.user p)).isSome then quotaOf key before else 0) else 0 := by
        rw [← Finset.sum_ite_eq users p fun u => if (before (.user u)).isSome then quotaOf key before else 0]
        refine Finset.sum_congr rfl fun u _ => ?_
        by_cases hu : p = u
        all_goals simp [hu]
      omega
  · -- only the payee has another balance
    have hpayee : ∀ u, rows (.user u) ≠ before (.user u) → payee = some u := by
      intro u hu
      by_contra hne
      refine hu ?_
      rw [h]
      unfold balance
      simp [hne]
    intro u v hu hv
    exact Option.some.inj ((hpayee u hu).symm.trans (hpayee v hv))

def CallFor (key : String) (p : Prog schema Unit) : Prop := ∃ userId, p = Tx.discard (redeem key userId)

/-- **A code pays once** in every run of calls for it where each reads the code while no other has its transaction
open. -/
theorem redeemed_once {T : Type} [DecidableEq T] (key : String) (r : Snap schema) (z : ℤ) {acts : List (Act schema T)}
    {τ : Sys schema T}
    (hok : Along Sys.step (fun σ a => σ.Performs ReadsAlone a ∧ σ.Calls (fun _ p => CallFor key p) a)
      (Sys.rest r z) acts)
    (hrun : runs Sys.step (Sys.rest r z) acts = some τ) : PaidOnce key r τ.db.rows := by
  have hinit : Kept key r (.rest r z : Db schema T) fun _ => .out := by
    refine ⟨⟨none, fun u => ?_, fun c hc _ => ⟨hc, rfl⟩⟩, fun _ hu => absurd rfl hu, fun _ _ hu => absurd rfl hu, nofun, nofun,
      fun t k v => ?_⟩
    · show r (.user u) = _
      simp [balance]
    · rw [Phase.wrote_of_unread rfl]
      exact iff_of_false nofun nofun
  have hcode : ∀ (t : T) p, CallFor key p → (codeProtocol key).Follows p (fun _ g => (codeProtocol key).stops g)
      (codeProtocol key).idle := by
    rintro t _ ⟨userId, rfl⟩
    exact redeem_follows key userId
  obtain ⟨γ, ⟨⟨payee, hbooks⟩, -⟩⟩ := Protocol.run_inv (codeProtocol_keeps key r) hcode hinit hok hrun
  exact .of_balance hbooks.users

lemma callFor_of_mem {T : Type} [DecidableEq T] {acts : List (Act schema T)}
    (h : ∀ a ∈ acts, (∃ t u, a = .call t (Tx.discard (redeem key u))) ∨ ∃ t, a = .step t) (σ : Sys schema T) :
    Along step (Sys.Calls fun _ p => CallFor key p) σ acts := by
  refine .of_forall (fun σ a ha => ?_) σ
  rcases h a ha with ⟨t, u, rfl⟩ | ⟨t, rfl⟩
  · exact ⟨u, rfl⟩
  · trivial

def twoUsers : Snap schema
  | .code key => if key = "K" then some { id := 1, status := .enabled, quota := 100 } else none
  | .user u => if u = 1 ∨ u = 2 then some 0 else none

/-- The second call opens its transaction while the first has one, and reads when the first has committed. -/
def oneByOne : List (Act schema Bool) :=
  [.call false (Tx.discard (redeem "K" 1)), .step false, .step false, .call true (Tx.discard (redeem "K" 2)), .step true] ++
    List.replicate 6 (.step false) ++ List.replicate 2 (.step true)

lemma oneByOne_runs : (runs step (rest twoUsers 0) oneByOne).isSome := by decide +kernel

instance (σ : Sys schema Bool) (t : Bool) : ∀ m, Decidable (ReadsAlone σ t m)
  | .read _ _ => inferInstanceAs (Decidable (∀ u, u ≠ t → σ.db.active u = false))
  | .update .. | .auto .. | .start | .commit | .rollback | .emit _ | .lock _ | .unlock _ => .isTrue trivial

theorem redeemed_once_oneByOne :
    ∃ τ, runs Sys.step (Sys.rest twoUsers 0) oneByOne = some τ ∧ (∀ t, (τ.pc t).done) ∧
      τ.db.rows (.user 1) = some 100 ∧ τ.db.rows (.user 2) = some 0 ∧ PaidOnce "K" twoUsers τ.db.rows := by
  have hrun := (some_get oneByOne_runs).symm
  have hcalls : Along step (Sys.Calls fun _ p => CallFor "K" p) (.rest twoUsers 0) oneByOne :=
    callFor_of_mem (by simpa [oneByOne] using ⟨⟨1, rfl⟩, 2, rfl⟩) _
  have hok : Along step (Sys.Performs ReadsAlone) (.rest twoUsers 0) oneByOne := by decide +kernel
  exact ⟨_, hrun, by decide +kernel, by decide +kernel, by decide +kernel,
    redeemed_once "K" twoUsers 0 (hok.and hcalls) hrun⟩

def atOnce : List (Act schema Bool) :=
  [.call false (Tx.discard (redeem "K" 1)), .call true (Tx.discard (redeem "K" 2)), .step false, .step false, .step true,
    .step true] ++ List.replicate 6 (.step false) ++ List.replicate 6 (.step true)

lemma atOnce_runs : (runs step (rest twoUsers 0) atOnce).isSome := by decide +kernel

/-- **Paid twice.**  The reads take no lock and the code is saved as a whole row, so both users get the quota of the
code. -/
theorem redeemed_twice :
    Along Sys.step (Sys.Calls fun _ p => CallFor "K" p) (Sys.rest twoUsers 0) atOnce ∧
    ∃ τ, runs Sys.step (Sys.rest twoUsers 0) atOnce = some τ ∧ (∀ t, (τ.pc t).done) ∧
      τ.db.rows (.user 1) = some 100 ∧ τ.db.rows (.user 2) = some 100 ∧ ¬PaidOnce "K" twoUsers τ.db.rows := by
  refine ⟨callFor_of_mem (by simpa [atOnce] using ⟨⟨1, rfl⟩, 2, rfl⟩) _, _, (some_get atOnce_runs).symm,
    by decide +kernel, by decide +kernel,
    by decide +kernel, fun h => ?_⟩
  have hone := h.one 1 2 (by decide +kernel) (by decide +kernel)
  cases hone

end StarNexus.Redemption
