import Mathlib.Algebra.BigOperators.Group.List.Basic
import Mathlib.Algebra.Order.Field.Rat
import StarNexus.Account.Schema

/-!
# The affiliate programme

`model/user_affiliate.go`: an inviter accrues a rebate for the orders of the invited users, frozen for some time or available
at once, and transfers what is available to the own balance.  The record of a user is created when it is first needed, by
a statement of its own outside the transaction.

Affiliate codes, the detail texts of the audits and the columns of the ledger that repeat the balances are left out.
-/

namespace StarNexus.Account

open Lib Lib.Tx

/-- `Round(8)`: half a unit is rounded away from zero. -/
def round8 (x : ℚ) : ℚ := intPart (x * 10 ^ 8 + if x < 0 then -1 / 2 else 1 / 2) / 10 ^ 8

/-- The settings of the programme; `inviteeCount` is the `COUNT` of the records with an inviter. -/
structure AffiliateSettings where
  enabled : Bool := true
  rebateRate : ℚ := 0
  agentRebateRate : ℚ := 0
  rebateFreezeHours : ℤ := 0
  rebateDurationDays : ℤ := 0
  rebatePerInviteeCapUSD : ℚ := 0
  quotaPerUnit : ℚ := 500000
  inviteeCount : Snap schema → ℕ → ℤ := fun _ _ => 0

/-! ### Records -/

def ensureUserAffiliateRecord (userID : ℕ) : Tx UserAffiliate :=
  if userID = 0 then fail (.msg "invalid user id")
  else do
    let row ← select (S := schema) Label.plain fun s => s (.affiliate userID)
    match row with
    | some existing => pure existing
    | none => do
      let now ← now
      let n ← execAuto (S := schema) Label.plain (rowWrite (S := schema) (.affiliate userID)
        (ifAbsent { createdAt := now }))
      if n = 0 then fail (.msg "failed to allocate affiliate code") else pure { createdAt := now }

def firstAffiliate (userID : ℕ) : Tx UserAffiliate := do
  let row ← select (S := schema) Label.plain fun s => s (.affiliate userID)
  match row with
  | some profile => pure profile
  | none => fail .recordNotFound

def saveAffiliate (userID : ℕ) (profile : UserAffiliate) : Tx ℕ :=
  Lib.Tx.exec (S := schema) Label.plain (rowWrite (S := schema) (.affiliate userID) fun _ => some (some profile))

/-! ### Inviters -/

def updateAffiliate (userID : ℕ) (f : UserAffiliate → Option UserAffiliate) : Tx ℕ :=
  Lib.Tx.exec (S := schema) Label.plain (rowWrite (S := schema) (.affiliate userID) (onRow f))

def updateUser (userID : ℕ) (f : User → Option User) : Tx ℕ :=
  Lib.Tx.exec (S := schema) Label.plain (rowWrite (S := schema) (.user userID) (onRow f))

def bindAffiliateInviterTx (userID inviterID : ℕ) : Tx Bool := do
  let _ ← updateAffiliate userID fun x => if x.inviterId = 0 then some { x with inviterId := inviterID } else none
  let _ ← updateUser userID fun x => if x.inviterId = 0 then some { x with inviterId := inviterID } else none
  let _ ← updateAffiliate inviterID fun x => some { x with affCount := x.affCount + 1 }
  let _ ← updateUser inviterID fun x => some { x with affCount := x.affCount + 1 }
  pure true

def errInvalidInviter : Err := .msg "invalid inviter binding"

def bindAffiliateInviter (g : AffiliateSettings) (userID inviterID : ℕ) : Tx Bool :=
  if userID = 0 ∨ inviterID = 0 ∨ userID = inviterID then fail errInvalidInviter
  else if g.enabled = false then pure false
  else do
    let profile ← ensureUserAffiliateRecord userID
    if 0 < profile.inviterId then pure false else transaction (bindAffiliateInviterTx userID inviterID)

def recountInvitees (g : AffiliateSettings) : List ℕ → Tx Unit
  | [] => pure ()
  | id :: ids =>
    if id = 0 then recountInvitees g ids
    else do
      let count ← select (S := schema) Label.plain fun s => g.inviteeCount s id
      let _ ← updateAffiliate id fun x => some { x with affCount := count }
      let _ ← updateUser id fun x => some { x with affCount := count }
      recountInvitees g ids

def updateUserInviterTx (g : AffiliateSettings) (userID inviterID : ℕ) : Tx Unit := do
  let oldProfile ← firstAffiliate userID
  if oldProfile.inviterId = inviterID then pure ()
  else do
    let _ ← updateAffiliate userID fun x => some { x with inviterId := inviterID }
    let _ ← updateUser userID fun x => some { x with inviterId := inviterID }
    recountInvitees g [oldProfile.inviterId, inviterID]

/-- `UpdateUserInviter`: the change of an inviter by an administrator, `0` for none. -/
def updateUserInviter (g : AffiliateSettings) (userID inviterID : ℕ) : Tx Unit :=
  if userID = 0 ∨ userID = inviterID then fail errInvalidInviter
  else do
    if 0 < inviterID then
      let _ ← ensureUserAffiliateRecord inviterID
    let _ ← ensureUserAffiliateRecord userID
    transaction (updateUserInviterTx g userID inviterID)

/-! ### The ledger -/

def ledgerRows (s : Snap schema) : List (ℕ × UserAffiliateLedger) :=
  (List.range (s .affLedgerSeq : ℕ)).filterMap fun id => (s (.affLedger id) : Option UserAffiliateLedger).map (id, ·)

/-- An entry of a rebate that is frozen until the time `now` at most. -/
def UserAffiliateLedger.matured (userID : ℕ) (now : ℤ) (e : UserAffiliateLedger) : Bool :=
  e.userId = userID ∧ e.action = .accrue ∧ e.frozenUntil.any fun until' => until' ≤ now

/-- `Find(&entries)`: the rebates of a user that are to be thawed. -/
def maturedEntries (userID : ℕ) (now : ℤ) (s : Snap schema) : List (ℕ × UserAffiliateLedger) :=
  (ledgerRows s).filter fun e => e.2.matured userID now

def thawEntries : List ℕ → Tx Unit
  | [] => pure ()
  | id :: ids => do
    let _ ← Lib.Tx.exec (S := schema) Label.plain (rowWrite (S := schema) (.affLedger id)
      (onRow fun e => some { e with frozenUntil := none }))
    thawEntries ids

def createLedger (entry : UserAffiliateLedger) : Tx ℕ :=
  Lib.Tx.exec (S := schema) Label.plain fun s =>
    let id : ℕ := s .affLedgerSeq
    [⟨.affLedger id, some entry⟩, ⟨.affLedgerSeq, id + 1⟩]

def total (entries : List (ℕ × UserAffiliateLedger)) : ℚ := (entries.map fun e => e.2.amountUSD).sum

def UserAffiliate.unclamped (profile : UserAffiliate) (entries : List (ℕ × UserAffiliateLedger)) : ℚ :=
  profile.affFrozenQuotaUSD - total entries

def UserAffiliate.thaw (profile : UserAffiliate) (entries : List (ℕ × UserAffiliateLedger)) : UserAffiliate :=
  { profile with
    affQuotaUSD := profile.affQuotaUSD + total entries
    affFrozenQuotaUSD := if profile.unclamped entries < 0 then 0 else profile.unclamped entries }

/-! ### Thawing -/

def thawAffiliateFrozenQuotaTx (userID : ℕ) : Tx ℚ := do
  let profile ← firstAffiliate userID
  let now ← now
  let entries ← select (S := schema) Label.plain (maturedEntries userID now)
  thawEntries (entries.map Prod.fst)
  if total entries = 0 then pure 0
  else do
    let _ ← saveAffiliate userID (profile.thaw entries)
    pure (total entries)

def thawAffiliateFrozenQuota (userID : ℕ) : Tx ℚ := transaction (thawAffiliateFrozenQuotaTx userID)

/-! ### Accruing -/

def clampAffiliateRebateRate (v : ℚ) : ℚ := if v < 0 then 0 else if 100 < v then 100 else v

def roleAgentUser : ℕ := 5

def resolveAffiliateRebateRatePercent (g : AffiliateSettings) (userID : ℕ) (profile : UserAffiliate) : Tx ℚ :=
  match profile.affRebateRatePercent with
  | some rate => pure (clampAffiliateRebateRate rate)
  | none => do
    let row ← attempt (select (S := schema) Label.plain fun s => s (.user userID))
    match row with
    | .ok (some user) =>
      pure (clampAffiliateRebateRate (if user.role = roleAgentUser then g.agentRebateRate else g.rebateRate))
    | _ => pure (clampAffiliateRebateRate g.rebateRate)

/-- `tx.Create(&TopUpAffiliateAudit{...})`, which has a unique index. -/
def createAudit (topUpId : ℕ) (action : TopUpAudit) : Tx Unit := do
  let n ← Lib.Tx.exec (S := schema) Label.plain (rowWrite (S := schema) (.audit topUpId) (ifAbsent action))
  if n = 0 then fail .database else pure ()

def skipRebate (topUpId : ℕ) : Tx ℚ := do
  createAudit topUpId .skipped
  pure 0

def UserAffiliate.accrue (inviter : UserAffiliate) (frozen : Bool) (rebate : ℚ) : UserAffiliate :=
  { inviter with
    affQuotaUSD := if frozen then inviter.affQuotaUSD else inviter.affQuotaUSD + rebate
    affFrozenQuotaUSD := if frozen then inviter.affFrozenQuotaUSD + rebate else inviter.affFrozenQuotaUSD
    affHistoryQuotaUSD := inviter.affHistoryQuotaUSD + rebate }

/-- The end of `AccrueAffiliateRebateForTopUp`: the rebate is entered. -/
def bookRebate (g : AffiliateSettings) (topUpId userId inviterID : ℕ) (inviter : UserAffiliate) (rebate : ℚ) : Tx ℚ := do
  let now ← now
  let frozen := decide (0 < g.rebateFreezeHours)
  let _ ← saveAffiliate inviterID (inviter.accrue frozen rebate)
  let _ ← createLedger
    { userId := inviterID, action := .accrue, amountUSD := rebate, sourceUserId := some userId, sourceTopUpId := some topUpId
      frozenUntil := if frozen then some (now + g.rebateFreezeHours * 3600) else none }
  createAudit topUpId .applied
  pure rebate

/-- `SUM(amount_usd)` of the rebates for one invited user. -/
def rebatesFor (inviterID userId : ℕ) (s : Snap schema) : ℚ :=
  total ((ledgerRows s).filter fun e => e.2.userId = inviterID ∧ e.2.action = .accrue ∧ e.2.sourceUserId = some userId)

def cutRebate (rebate remaining : ℚ) : ℚ := if remaining < rebate then remaining else rebate

/-- The rebate is entered if there is one, up to the limit for one invited user. -/
def capRebate (g : AffiliateSettings) (topUpId userId inviterID : ℕ) (inviter : UserAffiliate) (rebate : ℚ) : Tx ℚ :=
  if rebate ≤ 0 then skipRebate topUpId
  else if 0 < g.rebatePerInviteeCapUSD then do
    let existing ← select (S := schema) Label.plain (rebatesFor inviterID userId)
    if g.rebatePerInviteeCapUSD ≤ existing then skipRebate topUpId
    else bookRebate g topUpId userId inviterID inviter (cutRebate rebate (g.rebatePerInviteeCapUSD - existing))
  else bookRebate g topUpId userId inviterID inviter rebate

/-- `AccrueAffiliateRebateForTopUp` once the invited user is known. -/
def accrueForInvitee (g : AffiliateSettings) (topUpId userId : ℕ) (rechargeUSD : ℚ) (invitee : UserAffiliate) : Tx ℚ :=
  if invitee.inviterId = 0 then skipRebate topUpId
  else do
    let now ← now
    if 0 < g.rebateDurationDays ∧ g.rebateDurationDays * 86400 < now - invitee.createdAt then skipRebate topUpId
    else do
      let inviter ← firstAffiliate invitee.inviterId
      let rate ← resolveAffiliateRebateRatePercent g invitee.inviterId inviter
      capRebate g topUpId userId invitee.inviterId inviter (round8 (rechargeUSD * (rate / 100)))

def accrueAffiliateRebateForTopUpTx (g : AffiliateSettings) (topUpId userId : ℕ) (rechargeUSD : ℚ) : Tx ℚ := do
  let audit ← select (S := schema) Label.plain fun s => (s (.audit topUpId) : Option TopUpAudit).isSome
  if audit = true then pure 0
  else do
    let invitee ← ensureUserAffiliateRecord userId
    accrueForInvitee g topUpId userId rechargeUSD invitee

def accrueAffiliateRebateForTopUp (g : AffiliateSettings) (topUpId userId : ℕ) (rechargeUSD : ℚ) : Tx ℚ :=
  if topUpId = 0 ∨ g.enabled = false ∨ rechargeUSD ≤ 0 then pure 0
  else transaction (accrueAffiliateRebateForTopUpTx g topUpId userId rechargeUSD)

/-! ### Transferring -/

/-- `tx.Save(&user)` with the copy `user` and a balance that is higher by `quota`. -/
def saveUser (userID : ℕ) (user : User) (quota : ℤ) : Tx ℕ :=
  Lib.Tx.exec (S := schema) (Label.saveUser userID user.quota) (rowWrite (S := schema) (.user userID) fun row =>
    some (some { user with
      quota := user.quota + quota
      ledger := ((row.map User.ledger).getD []) ++ [⟨.affTransfer, quota⟩] }))

def firstUser (userID : ℕ) : Tx User := do
  let row ← select (S := schema) Label.plain fun s => s (.user userID)
  match row with
  | some user => pure user
  | none => fail .recordNotFound

def transferAvailable (g : AffiliateSettings) (userID : ℕ) (user : User) (profile : UserAffiliate) : Tx (ℤ × ℚ) :=
  if profile.affQuotaUSD ≤ 0 then fail (.msg "no affiliate rebate available")
  else if g.quotaPerUnit ≤ 0 then fail (.msg "invalid quota per unit")
  else if intPart (profile.affQuotaUSD * g.quotaPerUnit) ≤ 0 then fail (.msg "transfer amount too small")
  else do
    let _ ← saveUser userID user (intPart (profile.affQuotaUSD * g.quotaPerUnit))
    let _ ← saveAffiliate userID { profile with affQuotaUSD := 0 }
    let _ ← createLedger { userId := userID, action := .transfer, amountUSD := profile.affQuotaUSD }
    pure (intPart (profile.affQuotaUSD * g.quotaPerUnit), profile.affQuotaUSD)

def transferAffiliateUSDToQuotaTx (g : AffiliateSettings) (userID : ℕ) : Tx (ℤ × ℚ) := do
  let user ← firstUser userID
  let profile ← firstAffiliate userID
  let now ← now
  let entries ← select (S := schema) Label.plain (maturedEntries userID now)
  thawEntries (entries.map Prod.fst)
  transferAvailable g userID user (profile.thaw entries)

def transferAffiliateUSDToQuota (g : AffiliateSettings) (userID : ℕ) : Tx (ℤ × ℚ) :=
  if userID = 0 then fail (.msg "invalid user") else transaction (transferAffiliateUSDToQuotaTx g userID)

end StarNexus.Account
