import StarNexus.Lib.Exec
import Mathlib.Data.Rat.Defs

/-!
# Accounts

The tables behind the balance of a user outside of billing: `users`, `top_ups`, `user_affiliates`,
`user_affiliate_ledger` and `topup_affiliate_audits`, one field per column that some modelled function reads or writes.
Orders are found by their trade number, which has a unique index; all other rows by their primary key.  Decimal columns
and floating-point settings are rationals.

As in the tables of billing, a user carries a column `ledger` that the database does not have: what was added to the
balance by the operations that have been completed, each with its reason.
-/

namespace StarNexus.Account

open Lib (Snap)

inductive TopUpStatus where
  | pending
  | success
  | failed
  | expired
  deriving DecidableEq

/-- `PaymentProvider*`; the column is empty for orders that were created before it was there. -/
inductive PaymentProvider where
  | epay
  | stripe
  | creem
  | waffo
  | waffoPancake
  | epusdt
  | unset
  deriving DecidableEq

structure TopUp where
  id : ℕ := 1
  userId : ℕ
  amount : ℤ
  money : ℚ := 0
  paymentAmount : ℚ := 0
  paymentMethod : String := ""
  paymentProvider : PaymentProvider
  completeTime : ℤ := 0
  status : TopUpStatus := .pending

inductive Cause where
  | topUp (tradeNo : String)
  | adjust
  | affTransfer
  deriving DecidableEq

structure Entry where
  cause : Cause
  delta : ℤ

structure User where
  username : String := ""
  displayName : String := ""
  email : String := ""
  setting : String := ""
  stripeCustomer : String := ""
  role : ℕ := 1
  quota : ℤ := 0
  usedQuota : ℤ := 0
  requestCount : ℤ := 0
  affCount : ℤ := 0
  inviterId : ℕ := 0
  ledger : List Entry := []

def User.add (user : User) (cause : Cause) (delta : ℤ) : User :=
  { user with quota := user.quota + delta, ledger := user.ledger ++ [⟨cause, delta⟩] }

variable (user : User) (cause : Cause) (delta : ℤ)

@[simp] lemma User.add_quota : (user.add cause delta).quota = user.quota + delta :=
  rfl

@[simp] lemma User.add_ledger : (user.add cause delta).ledger = user.ledger ++ [⟨cause, delta⟩] := rfl

/-- `UserAffiliate`; an `inviterId` of `0` stands for `NULL` as well. -/
structure UserAffiliate where
  inviterId : ℕ := 0
  affCount : ℤ := 0
  affQuotaUSD : ℚ := 0
  affFrozenQuotaUSD : ℚ := 0
  affHistoryQuotaUSD : ℚ := 0
  affRebateRatePercent : Option ℚ := none
  createdAt : ℤ := 0
  deriving DecidableEq

/-- `AffiliateLedgerAction*`. -/
inductive LedgerAction where
  | accrue
  | transfer
  deriving DecidableEq

structure UserAffiliateLedger where
  userId : ℕ
  action : LedgerAction
  amountUSD : ℚ
  sourceUserId : Option ℕ := none
  sourceTopUpId : Option ℕ := none
  frozenUntil : Option ℤ := none

/-- `AffiliateTopUpAudit*`, the action of a `TopUpAffiliateAudit`. -/
inductive TopUpAudit where
  | applied
  | skipped

/-- The rows, by table and key; `affLedgerSeq` is the next free id of the affiliate ledger. -/
inductive Key where
  | user (id : ℕ)
  | topUp (tradeNo : String)
  | affiliate (userId : ℕ)
  | affLedger (id : ℕ)
  | affLedgerSeq
  | audit (topUpId : ℕ)
  deriving DecidableEq

abbrev Val : Key → Type
  | .user _ => Option User
  | .topUp _ => Option TopUp
  | .affiliate _ => Option UserAffiliate
  | .affLedger _ => Option UserAffiliateLedger
  | .affLedgerSeq => ℕ
  | .audit _ => Option TopUpAudit

inductive Label where
  | plain
  | saveUser (id : ℕ) (quota : ℤ)
  | updateUser (id : ℕ) (quota : ℤ)

/-- The database of accounts; a mutex is the lock of an order in the memory of one process. -/
abbrev schema : Lib.Schema where
  Key := Key
  Val := Val
  Event := Empty
  Label := Label
  Mutex := ℕ × String

abbrev Tx (α : Type) := Lib.Tx schema α

def noRows : Snap schema
  | .user _ | .topUp _ | .affiliate _ | .affLedger _ | .audit _ => none
  | .affLedgerSeq => (1 : ℕ)

/-- `decimal.IntPart`: the fraction is dropped. -/
def intPart (x : ℚ) : ℤ := x.num.tdiv x.den

/-- Settings that the functions read, and how the database makes an integer of a value with a fraction. -/
structure Settings where
  quotaPerUnit : ℚ := 500000
  column : ℚ → ℤ := intPart

end StarNexus.Account
