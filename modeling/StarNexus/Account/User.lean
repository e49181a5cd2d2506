import StarNexus.Account.Schema

/-!
# Users

The functions of `model/user.go` and `model/utils.go` that change the row of a user: the statements that add to the balance,
the batch that collects them, and `User.Update`, which writes back a copy of the row that was read some time before.

The store that the batch collects in is memory of the process; a batch gets what it has found there.
-/

namespace StarNexus.Account

open Lib Lib.Tx

/-! ### The balance -/

def increaseUserQuota (cause : Cause) (id : ℕ) (quota : ℤ) : Tx Unit := do
  let _ ← execAuto (S := schema) Label.plain (rowWrite (S := schema) (.user id)
    (onRow fun user => some (user.add cause quota)))
  pure ()

def decreaseUserQuota (cause : Cause) (id : ℕ) (quota : ℤ) : Tx Unit := do
  let _ ← execAuto (S := schema) Label.plain (rowWrite (S := schema) (.user id)
    (onRow fun user => some (user.add cause (-quota))))
  pure ()

def errNegativeQuota : Err := .msg "quota 不能为负数！"

def increaseUserQuotaDb (cause : Cause) (id : ℕ) (quota : ℤ) : Tx Unit :=
  if quota < 0 then fail errNegativeQuota else increaseUserQuota cause id quota

/-- `batchUpdate` for `BatchUpdateTypeUserQuota`: the errors are only logged. -/
def batchUpdate : List (ℕ × ℤ) → Tx Unit
  | [] => pure ()
  | (id, value) :: store => do
    let _ ← attempt (increaseUserQuota .adjust id value)
    batchUpdate store

/-! ### Copies of a row -/

/-- `Updates(newUser)`: every column of the copy that is not the zero value of its type is written. -/
def User.updated (row newUser : User) : User where
  username := if newUser.username = "" then row.username else newUser.username
  displayName := if newUser.displayName = "" then row.displayName else newUser.displayName
  email := if newUser.email = "" then row.email else newUser.email
  setting := if newUser.setting = "" then row.setting else newUser.setting
  stripeCustomer := if newUser.stripeCustomer = "" then row.stripeCustomer else newUser.stripeCustomer
  role := if newUser.role = 0 then row.role else newUser.role
  quota := if newUser.quota = 0 then row.quota else newUser.quota
  usedQuota := if newUser.usedQuota = 0 then row.usedQuota else newUser.usedQuota
  requestCount := if newUser.requestCount = 0 then row.requestCount else newUser.requestCount
  affCount := if newUser.affCount = 0 then row.affCount else newUser.affCount
  inviterId := if newUser.inviterId = 0 then row.inviterId else newUser.inviterId
  ledger := row.ledger

/-- `User.Update`: the row is read again, but what is written is the copy. -/
def userUpdate (id : ℕ) (newUser : User) : Tx Unit := do
  let _ ← attempt (select (S := schema) Label.plain fun s => s (.user id))
  let _ ← execAuto (S := schema) (Label.updateUser id newUser.quota) (rowWrite (S := schema) (.user id)
    (onRow fun row => some (row.updated newUser)))
  pure ()

/-- A handler that reads a user, changes the profile in its copy and calls `User.Update`. -/
def profileEdit (id : ℕ) (edit : User → User) : Tx Unit := do
  let row ← select (S := schema) Label.plain fun s => s (.user id)
  match row with
  | none => fail .recordNotFound
  | some user => userUpdate id (edit user)

end StarNexus.Account
