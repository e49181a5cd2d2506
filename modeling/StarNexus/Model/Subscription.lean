import Mathlib.Data.List.Sort
import StarNexus.Model.Schema

/-!
# Subscriptions

The functions of `model/subscription.go` that billing calls: pre-consuming from an active subscription under an
idempotency record, adjusting what has been consumed, and refunding the record.  `SELECT ... FOR UPDATE` is a
statement that locks the row by writing it unchanged, followed by a read.

When a subscription's quota is reset depends on its plan and on the calendar; here it is a parameter `reset`,
which answers the new `amount_used`, `last_reset_time` and `next_reset_time`, or `none` if the plan cannot be
loaded.
-/

namespace StarNexus.Model

open Lib Lib.Tx

/-- The new `amount_used`, `last_reset_time` and `next_reset_time` of a subscription at some time. -/
abbrev ResetRule := UserSubscription → ℤ → Option (ℤ × ℤ × ℤ)

def blank (s : String) : Bool := s.toList.all Char.isWhitespace

def updateRow (k : Key) (f : Val k → Option (Val k)) : Tx ℕ :=
  Lib.Tx.exec (S := schema) Label.plain (rowWrite (S := schema) k f)

/-- The reason of a balance change, computed from what the statement sees, such as the id that a row will get. -/
abbrev Why := Snap schema → Cause

def balanceRow (k : Key) (why : Why) (f : Cause → Val k → Option (Val k)) : Tx ℕ :=
  Lib.Tx.exec (S := schema) Label.plain fun s => rowWrite (S := schema) k (f (why s)) s

def UserSubscription.setUsed (sub : UserSubscription) (why : Cause) (used : ℤ) : UserSubscription :=
  { sub with amountUsed := used, ledger := sub.ledger ++ [⟨why, used - sub.amountUsed⟩] }

def postConsumeUserSubscriptionDeltaTx (why : Why) (userSubscriptionId : ℕ) (delta : ℤ) : Tx Unit :=
  if userSubscriptionId = 0 then fail (.msg "invalid userSubscriptionId")
  else if delta = 0 then pure ()
  else do
    let _ ← updateRow (.subscription userSubscriptionId) some
    let row ← select (S := schema) Label.plain fun s => s (.subscription userSubscriptionId)
    match row with
    | none => fail .recordNotFound
    | some sub =>
      let newUsed := max 0 (sub.amountUsed + delta)
      if 0 < sub.amountTotal ∧ sub.amountTotal < newUsed then
        fail (.msg s!"subscription used exceeds total, used={newUsed} total={sub.amountTotal}")
      else do
        let _ ← balanceRow (.subscription userSubscriptionId) why fun c _ => some (some (sub.setUsed c newUsed))
        pure ()

def postConsumeUserSubscriptionDelta (why : Why) (userSubscriptionId : ℕ) (delta : ℤ) : Tx Unit :=
  if userSubscriptionId = 0 then fail (.msg "invalid userSubscriptionId")
  else if delta = 0 then pure ()
  else transaction (postConsumeUserSubscriptionDeltaTx why userSubscriptionId delta)

def activeSubscriptions (s : Snap schema) (userId : ℕ) (now : ℤ) : List (ℕ × UserSubscription) :=
  ((List.range (s .subscriptionSeq)).filterMap fun id =>
    (s (.subscription id)).bind fun sub =>
      if sub.userId = userId ∧ sub.active ∧ now < sub.endTime then some (id, sub) else none).insertionSort
    fun a b => a.2.endTime < b.2.endTime ∨ (a.2.endTime = b.2.endTime ∧ a.1 ≤ b.1)

lemma row_of_mem_activeSubscriptions {s : Snap schema} {userId : ℕ} {now : ℤ} {x : ℕ × UserSubscription}
    (h : x ∈ activeSubscriptions s userId now) : s (.subscription x.1) = some x.2 := by
  unfold activeSubscriptions at h
  rw [List.mem_insertionSort] at h
  obtain ⟨i, -, hi⟩ := List.mem_filterMap.1 h
  obtain ⟨sub, hsub, hx⟩ := Option.bind_eq_some_iff.1 hi
  obtain ⟨-, ⟨⟩⟩ := Option.ite_none_right_eq_some.1 hx
  exact hsub

lemma put_activeSubscriptions (s : Snap schema) (userId : ℕ) (now : ℤ) :
    s.put ((activeSubscriptions s userId now).map fun c => ⟨.subscription c.1, some c.2⟩) = s := by
  funext k
  rcases Snap.put_cases s _ k with ⟨-, hsame⟩ | ⟨v, hmem, hv⟩
  · exact hsame
  · obtain ⟨x, hx, heq⟩ := List.mem_map.1 hmem
    cases heq
    exact hv.trans (row_of_mem_activeSubscriptions hx).symm

def hasActiveUserSubscription (userId : ℕ) : Tx Bool :=
  if userId = 0 then fail (.msg "invalid userId") else do
    let now ← now
    select (S := schema) Label.plain fun s => !(activeSubscriptions s userId now).isEmpty

structure PreConsumeResult where
  userSubscriptionId : ℕ
  preConsumed : ℤ

/-- The loop of `preConsumeUserSubscriptionTx`: the first subscription with enough left is charged. -/
def preConsumeFrom (reset : ResetRule) (why : Why) (requestId : String) (userId : ℕ) (now amount : ℤ) :
    List (ℕ × UserSubscription) → Tx PreConsumeResult
  | [] => fail (.msg s!"subscription quota insufficient, need={amount}")
  | (id, candidate) :: rest =>
    match reset candidate now with
    | none => fail .recordNotFound
    | some (used, last, next) => do
      let sub := { candidate with amountUsed := used, lastResetTime := last, nextResetTime := next }
      let _ ← updateRow (.subscription id) fun _ => some (some sub)
      if 0 < sub.amountTotal ∧ sub.amountTotal - sub.amountUsed < amount then
        preConsumeFrom reset why requestId userId now amount rest
      else do
        let created ← updateRow (.preConsumeRecord requestId)
          (ifAbsent { userId, userSubscriptionId := id, preConsumed := amount, refunded := false })
        if created = 0 then fail (.msg "duplicate request id")
        else do
          let _ ← balanceRow (.subscription id) why fun c _ => some (some (sub.setUsed c (sub.amountUsed + amount)))
          pure { userSubscriptionId := id, preConsumed := amount }

def preConsumeUserSubscriptionTx (reset : ResetRule) (why : Why) (requestId : String) (userId : ℕ) (amount : ℤ) :
    Tx PreConsumeResult :=
  if userId = 0 ∨ blank requestId ∨ amount ≤ 0 then fail (.msg "invalid subscription pre-consume arguments")
  else do
    let now ← now
    let existing ← select (S := schema) Label.plain fun s => s (.preConsumeRecord requestId)
    match existing with
    | some record =>
      if record.refunded then fail (.msg "subscription pre-consume already refunded")
      else do
        let sub ← select (S := schema) Label.plain fun s => s (.subscription record.userSubscriptionId)
        match sub with
        | none => fail .recordNotFound
        | some _ => pure { userSubscriptionId := record.userSubscriptionId, preConsumed := record.preConsumed }
    | none => do
      let _ ← Lib.Tx.exec (S := schema) Label.plain fun s =>
        (activeSubscriptions s userId now).map fun c => ⟨.subscription c.1, some c.2⟩
      let subs ← select (S := schema) Label.plain fun s => activeSubscriptions s userId now
      if subs.isEmpty then fail (.msg "no active subscription")
      else preConsumeFrom reset why requestId userId now amount subs

def refundSubscriptionPreConsumeTx (why : Why) (requestId : String) : Tx Unit := do
  let _ ← updateRow (.preConsumeRecord requestId) some
  let row ← select (S := schema) Label.plain fun s => s (.preConsumeRecord requestId)
  match row with
  | none => fail .recordNotFound
  | some record =>
    if record.refunded then pure ()
    else if record.preConsumed ≤ 0 then do
      let _ ← updateRow (.preConsumeRecord requestId) fun _ => some (some { record with refunded := true })
      pure ()
    else do
      postConsumeUserSubscriptionDeltaTx why record.userSubscriptionId (-record.preConsumed)
      let _ ← updateRow (.preConsumeRecord requestId) fun _ => some (some { record with refunded := true })
      pure ()

def refundSubscriptionPreConsume (why : Why) (requestId : String) : Tx Unit :=
  if blank requestId then fail (.msg "requestId is empty")
  else transaction (refundSubscriptionPreConsumeTx why requestId)

end StarNexus.Model
