import StarNexus.Model.DurableBilling

/-!
# Unguarded balance updates

`IncreaseUserQuota` and its relatives of `model/user.go` and `model/token.go`, as they act on the database: one
`UPDATE` outside any transaction, which matches no row (and returns no error) for an unknown id.  The Redis copies
of the balances and the batching of the updates are not modelled.
-/

namespace StarNexus.Model

open Lib Lib.Tx

def addUserQuota (why : Cause) (id : ℕ) (delta : ℤ) : Tx Unit := do
  let _ ← autoRow (.user id) (onRow fun u => some (u.add why delta))
  pure ()

def addTokenQuota (why : Cause) (id : ℕ) (delta : ℤ) : Tx Unit := do
  let now ← now
  let _ ← autoRow (.token id) (onRow fun t => some (t.add why delta now))
  pure ()

def errNegativeQuota : Err := .msg "quota 不能为负数！"

def increaseUserQuota (why : Cause) (id : ℕ) (quota : ℤ) : Tx Unit :=
  if quota < 0 then fail errNegativeQuota else addUserQuota why id quota

def decreaseUserQuota (why : Cause) (id : ℕ) (quota : ℤ) : Tx Unit :=
  if quota < 0 then fail errNegativeQuota else addUserQuota why id (-quota)

def increaseTokenQuota (why : Cause) (id : ℕ) (quota : ℤ) : Tx Unit :=
  if quota < 0 then fail errNegativeQuota else addTokenQuota why id quota

def decreaseTokenQuota (why : Cause) (id : ℕ) (quota : ℤ) : Tx Unit :=
  if quota < 0 then fail errNegativeQuota else addTokenQuota why id (-quota)

def updateUserUsedQuota (id : ℕ) (quota count : ℤ) : Tx Unit := do
  let _ ← autoRow (.user id) (onRow fun u =>
    some { u with usedQuota := u.usedQuota + quota, requestCount := u.requestCount + count })
  pure ()

def updateChannelUsedQuota (id : ℕ) (quota : ℤ) : Tx Unit := do
  let _ ← autoRow (.channelUsed id) fun used => some (used + quota : ℤ)
  pure ()

/-- `GetUserQuota`: an unknown user has no quota. -/
def getUserQuota (id : ℕ) : Tx ℤ :=
  select (S := schema) Label.plain fun s => ((s (.user id)).map User.quota).getD 0

def preConsumeUserSubscription (reset : ResetRule) (why : Why) (requestId : String) (userId : ℕ) (amount : ℤ) :
    Tx PreConsumeResult :=
  if userId = 0 then fail (.msg "invalid userId")
  else if blank requestId then fail (.msg "requestId is empty")
  else if amount ≤ 0 then fail (.msg "amount must be > 0")
  else transaction (preConsumeUserSubscriptionTx reset why requestId userId amount)

end StarNexus.Model
