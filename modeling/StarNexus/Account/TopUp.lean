import StarNexus.Account.User

/-!
# Orders

The completion of top-up orders: `model/topup.go`, and from `controller/topup.go` the lock of an order and the
notification of Epay.  Every completion reads the order, looks at its provider and its status, saves it as successful
and adds to the balance of the buyer.  All but the one of Epay do so in one transaction; the option `FOR UPDATE` of their
reads has no effect, so that a read takes no lock.

Log lines and the affiliate rebate that follows a completed order are not part of these functions.
-/

namespace StarNexus.Account

open Lib Lib.Tx

/-! ### Statements -/

/-- `tx.Set("gorm:query_option", "FOR UPDATE").Where("trade_no = ?").First(topUp)`, with the error of the caller. -/
def firstTopUp (tradeNo : String) (notFound : String) : Tx TopUp := do
  let row ← attempt (select (S := schema) Label.plain fun s => s (.topUp tradeNo))
  match row with
  | .ok (some topUp) => pure topUp
  | _ => fail (.msg notFound)

def saveTopUp (tradeNo : String) (topUp : TopUp) : Tx ℕ :=
  Lib.Tx.exec (S := schema) Label.plain (rowWrite (S := schema) (.topUp tradeNo) fun _ => some (some topUp))

/-- `UPDATE users SET quota = quota + ?, ... WHERE id = ?`; `f` are the other columns. -/
def creditUser (tradeNo : String) (id : ℕ) (quota : ℤ) (f : User → User) : Tx ℕ :=
  Lib.Tx.exec (S := schema) Label.plain (rowWrite (S := schema) (.user id)
    (onRow fun user => some ((f user).add (.topUp tradeNo) quota)))

def TopUp.completed (topUp : TopUp) (now : ℤ) : TopUp := { topUp with completeTime := now, status := .success }

/-! ### Completions -/

def errPaymentMethodMismatch : Err := .msg "payment method mismatch"

def errNoTradeNo : Err := .msg "未提供支付单号"

def errTopUpFailed : Err := .msg "充值失败，请稍后重试"

def callback (tradeNo : String) (body : Tx Unit) : Tx Unit :=
  if tradeNo = "" then fail errNoTradeNo
  else do
    let result ← attempt (transaction body)
    match result with
    | .ok _ => pure ()
    | .error _ => fail errTopUpFailed

def rechargeTx (g : Settings) (tradeNo customerId : String) (paymentAmount : ℚ) : Tx Unit := do
  let topUp ← firstTopUp tradeNo "充值订单不存在"
  if topUp.paymentProvider ≠ .stripe then fail errPaymentMethodMismatch
  else if topUp.status ≠ .pending then fail (.msg "充值订单状态错误")
  else do
    let now ← now
    let _ ← saveTopUp tradeNo { topUp.completed now with
      paymentAmount := if 0 < paymentAmount then paymentAmount else topUp.paymentAmount }
    let _ ← creditUser tradeNo topUp.userId (g.column (topUp.money * g.quotaPerUnit)) fun user =>
      { user with stripeCustomer := customerId }
    pure ()

def recharge (g : Settings) (tradeNo customerId : String) (paymentAmount : ℚ) : Tx Unit :=
  callback tradeNo (rechargeTx g tradeNo customerId paymentAmount)

/-- Whether `RechargeCreem` sets the email address: it looks at the user only if it was given one. -/
def creemEmail (userId : ℕ) (customerEmail : String) : Tx Bool :=
  if customerEmail = "" then pure false
  else do
    let row ← select (S := schema) Label.plain fun s => s (.user userId)
    match row with
    | none => fail .recordNotFound
    | some user => pure (user.email = "")

/-- The transaction of `RechargeCreem`: the amount of the order is a number of quota units. -/
def rechargeCreemTx (tradeNo customerEmail : String) : Tx Unit := do
  let topUp ← firstTopUp tradeNo "充值订单不存在"
  if topUp.paymentProvider ≠ .creem then fail errPaymentMethodMismatch
  else if topUp.status ≠ .pending then fail (.msg "充值订单状态错误")
  else do
    let now ← now
    let _ ← saveTopUp tradeNo (topUp.completed now)
    let setEmail ← creemEmail topUp.userId customerEmail
    let _ ← creditUser tradeNo topUp.userId topUp.amount fun user =>
      if setEmail then { user with email := customerEmail } else user
    pure ()

def rechargeCreem (tradeNo customerEmail : String) : Tx Unit := callback tradeNo (rechargeCreemTx tradeNo customerEmail)

def quotaOfAmount (g : Settings) (topUp : TopUp) : ℤ := intPart (topUp.amount * g.quotaPerUnit)

def completeByQuota (tradeNo : String) (topUp : TopUp) (quotaToAdd : ℤ) : Tx Unit :=
  if quotaToAdd ≤ 0 then fail (.msg "无效的充值额度")
  else do
    let now ← now
    let _ ← saveTopUp tradeNo (topUp.completed now)
    let _ ← creditUser tradeNo topUp.userId quotaToAdd id
    pure ()

/-- The transaction of the callbacks that are content with an order that is already successful. -/
def rechargeByAmountTx (g : Settings) (provider : PaymentProvider) (tradeNo : String) : Tx Unit := do
  let topUp ← firstTopUp tradeNo "充值订单不存在"
  if topUp.paymentProvider ≠ provider then fail errPaymentMethodMismatch
  else if topUp.status = .success then pure ()
  else if topUp.status ≠ .pending then fail (.msg "充值订单状态错误")
  else completeByQuota tradeNo topUp (quotaOfAmount g topUp)

def rechargeWaffo (g : Settings) (tradeNo : String) : Tx Unit := callback tradeNo (rechargeByAmountTx g .waffo tradeNo)

def rechargeWaffoPancake (g : Settings) (tradeNo : String) : Tx Unit :=
  callback tradeNo (rechargeByAmountTx g .waffoPancake tradeNo)

def rechargeEpusdt (g : Settings) (tradeNo : String) : Tx Unit := callback tradeNo (rechargeByAmountTx g .epusdt tradeNo)

/-- What an administrator adds: the money of an order of Stripe, and the amount of all others. -/
def manualQuota (g : Settings) (topUp : TopUp) : ℤ :=
  if topUp.paymentProvider = .stripe then intPart (topUp.money * g.quotaPerUnit) else quotaOfAmount g topUp

/-- The transaction of `ManualCompleteTopUp`: the provider does not matter. -/
def manualCompleteTopUpTx (g : Settings) (tradeNo : String) : Tx Unit := do
  let topUp ← firstTopUp tradeNo "充值订单不存在"
  if topUp.status = .success then pure ()
  else if topUp.status ≠ .pending then fail (.msg "订单状态不是待支付，无法补单")
  else completeByQuota tradeNo topUp (manualQuota g topUp)

def manualCompleteTopUp (g : Settings) (tradeNo : String) : Tx Unit :=
  if tradeNo = "" then fail (.msg "未提供订单号") else transaction (manualCompleteTopUpTx g tradeNo)

/-- The transaction of `MarkTopUpExpired`; a provider that is not given fits every order. -/
def markTopUpExpiredTx (tradeNo : String) (expectedProvider : Option PaymentProvider) : Tx Unit := do
  let topUp ← firstTopUp tradeNo "充值订单不存在"
  if (expectedProvider.any fun p => p ≠ topUp.paymentProvider) = true then fail errPaymentMethodMismatch
  else if topUp.status ≠ .pending then pure ()
  else do
    let _ ← saveTopUp tradeNo { topUp with status := .expired }
    pure ()

def markTopUpExpired (tradeNo : String) (expectedProvider : Option PaymentProvider) : Tx Unit :=
  if tradeNo = "" then fail errNoTradeNo else transaction (markTopUpExpiredTx tradeNo expectedProvider)

/-! ### The handlers -/

/-- `LockOrder` and the deferred `UnlockOrder` around the rest of a handler that runs in the process `node`. -/
def withOrderLock {α : Type} (node : ℕ) (tradeNo : String) (p : Tx α) : Tx α :=
  .lock (node, tradeNo) (Prog.bind p fun result => .unlock (node, tradeNo) (.pure result))

/-- `EpayNotify`, once the notification is verified: the order and the balance are two statements. -/
def epayNotify (g : Settings) (tradeNo paymentType : String) : Tx Unit := do
  let row ← attempt (select (S := schema) Label.plain fun s => s (.topUp tradeNo))
  match row with
  | .ok (some topUp) =>
    if topUp.paymentProvider = .epay ∧ topUp.status = .pending then do
      let saved ← attempt (execAuto (S := schema) Label.plain (rowWrite (S := schema) (.topUp tradeNo) fun _ =>
        some (some { topUp with paymentMethod := paymentType, status := .success })))
      match saved with
      | .ok _ => do
        let _ ← attempt (increaseUserQuotaDb (.topUp tradeNo) topUp.userId (quotaOfAmount g topUp))
        pure ()
      | .error _ => pure ()
    else pure ()
  | _ => pure ()

end StarNexus.Account
