import Mathlib.Data.List.Dedup
import Mathlib.Data.List.Sort
import StarNexus.Lib.Calendar
import StarNexus.Lib.Prog
import StarNexus.Lib.Text

/-!
# Subscriptions that upgrade the group of their user

The functions of `model/subscription.go` that create a subscription from a plan and end it, as far as they concern the
group of the user: a plan can name a group to which the user is upgraded, the subscription remembers the group before,
and when it ends the user may be put back.  Each function is one transaction per user and is given here as a function of
the tables.
-/

namespace StarNexus.Subscription

open Lib List

/-! ### Tables -/

inductive Status where
  | active
  | expired
  | cancelled
  deriving DecidableEq

structure UserSubscription where
  userId : ℕ
  planId : ℕ
  endTime : ℤ
  status : Status
  upgradeGroup : String
  prevUserGroup : String
  deriving DecidableEq

inductive DurationUnit where
  | year
  | month
  | day
  | hour
  | custom
  | other (unit : String)
  deriving DecidableEq

structure SubscriptionPlan where
  id : ℕ
  durationUnit : DurationUnit
  durationValue : ℤ
  customSeconds : ℤ := 0
  maxPurchasePerUser : ℤ := 0
  upgradeGroup : String

/-- The clock, the groups of the users, the subscriptions by id and the next id. -/
structure Tables where
  now : ℤ
  group : ℕ → Option String
  sub : ℕ → Option UserSubscription := fun _ => none
  seq : ℕ := 1

namespace Tables

variable (t : Tables)

def select (p : ℕ → UserSubscription → Bool) : List (ℕ × UserSubscription) :=
  (List.range t.seq).filterMap fun id => (t.sub id).bind fun sub => if p id sub then some (id, sub) else none

/-- `getUserGroupByIdTx`: a user who is not found has the empty group. -/
def getUserGroupById (userId : ℕ) : String := (t.group userId).getD ""

def setGroup (userId : ℕ) (group : String) : Tables :=
  { t with group := Function.update t.group userId ((t.group userId).map fun _ => group) }

def setSub (id : ℕ) (sub : Option UserSubscription) : Tables := { t with sub := Function.update t.sub id sub }

variable {t} {u v : ℕ} {g g' : String}

@[simp] lemma setGroup_sub : (t.setGroup u g).sub = t.sub := rfl

@[simp] lemma setGroup_now : (t.setGroup u g).now = t.now := rfl

@[simp] lemma setGroup_seq : (t.setGroup u g).seq = t.seq := rfl

lemma setGroup_group_of_ne (h : u ≠ v) : (t.setGroup v g).group u = t.group u := Function.update_of_ne h _ _

lemma setGroup_group_self (h : t.group u = some g) : (t.setGroup u g').group u = some g' := by
  simp [setGroup, h]

lemma getUserGroupById_of_eq (h : t.group u = some g) : t.getUserGroupById u = g := by
  simp [getUserGroupById, h]

end Tables

/-! ### Creating a subscription -/

/-- `calcPlanEndTime`: years and months are those of the zone of the server, and the other durations wrap around. -/
def calcPlanEndTime (zone : Zone) (start : ℤ) (plan : SubscriptionPlan) : Except Err ℤ :=
  if plan.durationValue ≤ 0 ∧ plan.durationUnit ≠ .custom then .error (.msg "duration_value must be > 0")
  else match plan.durationUnit with
    | .year => .ok (zone.addMonths start (12 * plan.durationValue))
    | .month => .ok (zone.addMonths start plan.durationValue)
    | .day => .ok (start + durationSeconds (plan.durationValue * 24 * 3600))
    | .hour => .ok (start + durationSeconds (plan.durationValue * 3600))
    | .custom =>
      if plan.customSeconds ≤ 0 then .error (.msg "custom_seconds must be > 0")
      else .ok (start + durationSeconds plan.customSeconds)
    | .other unit => .error (.msg s!"invalid duration_unit: {unit}")

/-- The group that a new subscription remembers: the one the user is taken out of. -/
@[irreducible] def prevGroupFor (upgradeGroup currentGroup : String) : String :=
  if upgradeGroup ≠ "" ∧ currentGroup ≠ upgradeGroup then currentGroup else ""

def createUserSubscriptionFromPlan (zone : Zone) (userId : ℕ) (plan : SubscriptionPlan) (t : Tables) :
    Except Err Tables :=
  if plan.id = 0 then .error (.msg "invalid plan")
  else if userId = 0 then .error (.msg "invalid user id")
  else if 0 < plan.maxPurchasePerUser ∧
      plan.maxPurchasePerUser ≤ (t.select fun _ sub => sub.userId == userId && sub.planId == plan.id).length then
    .error (.msg "已达到该套餐购买上限")
  else do
    let endUnix ← calcPlanEndTime zone t.now plan
    let upgradeGroup := trimSpace plan.upgradeGroup
    let currentGroup := t.getUserGroupById userId
    let t' := if upgradeGroup ≠ "" ∧ currentGroup ≠ upgradeGroup then t.setGroup userId upgradeGroup else t
    let sub := { userId, planId := plan.id, endTime := endUnix, status := .active, upgradeGroup
                 prevUserGroup := prevGroupFor upgradeGroup currentGroup }
    pure { t'.setSub t.seq (some sub) with seq := t.seq + 1 }

/-! ### Ending a subscription -/

/-- The user has an active subscription with an upgrade that has not ended, other than `except`. -/
def hasActiveUpgrade (t : Tables) (userId : ℕ) (except : Option ℕ) : Bool :=
  !(t.select fun id sub => sub.userId == userId && sub.status == .active && decide (t.now < sub.endTime) &&
    sub.upgradeGroup != "" && except != some id).isEmpty

/-- `downgradeUserGroupForSubscriptionTx`: the new tables, and the group to which the user was put back. -/
def downgradeUserGroupForSubscription (id : ℕ) (sub : UserSubscription) (t : Tables) : Tables × String :=
  let upgradeGroup := trimSpace sub.upgradeGroup
  let currentGroup := t.getUserGroupById sub.userId
  let prevGroup := trimSpace sub.prevUserGroup
  if upgradeGroup = "" then (t, "")
  else if currentGroup ≠ upgradeGroup then (t, "")
  else if hasActiveUpgrade t sub.userId (some id) then (t, "")
  else if prevGroup = "" ∨ prevGroup = currentGroup then (t, "")
  else (t.setGroup sub.userId prevGroup, prevGroup)

def downgradeMessage (group : String) : String := if group = "" then "" else s!"用户分组将回退到 {group}"

def adminInvalidateUserSubscription (id : ℕ) (t : Tables) : Except Err (Tables × String) :=
  if id = 0 then .error (.msg "invalid userSubscriptionId")
  else match t.sub id with
    | none => .error .recordNotFound
    | some sub =>
      let sub := { sub with status := .cancelled, endTime := t.now }
      let (t', target) := downgradeUserGroupForSubscription id sub (t.setSub id (some sub))
      .ok (t', downgradeMessage target)

def adminDeleteUserSubscription (id : ℕ) (t : Tables) : Except Err (Tables × String) :=
  if id = 0 then .error (.msg "invalid userSubscriptionId")
  else match t.sub id with
    | none => .error .recordNotFound
    | some sub =>
      let (t', target) := downgradeUserGroupForSubscription id sub t
      .ok (t'.setSub id none, downgradeMessage target)

def UserSubscription.due (sub : UserSubscription) (now : ℤ) : Bool :=
  sub.status == .active && decide (0 < sub.endTime) && decide (sub.endTime ≤ now)

def later (a b : ℕ × UserSubscription) : ℕ × UserSubscription :=
  if b.2.endTime < a.2.endTime ∨ (a.2.endTime = b.2.endTime ∧ b.1 ≤ a.1) then a else b

/-- The first subscription in the order `end_time desc, id desc`. -/
def latest : List (ℕ × UserSubscription) → Option (ℕ × UserSubscription)
  | [] => none
  | a :: rest => some ((latest rest).elim a (later a))

def UserSubscription.marked (sub : UserSubscription) (userId : ℕ) (now : ℤ) : UserSubscription :=
  if sub.userId = userId ∧ sub.due now then { sub with status := .expired } else sub

def markExpired (userId : ℕ) (t : Tables) : Tables :=
  { t with sub := fun id => (t.sub id).map fun sub => sub.marked userId t.now }

def expiredUpgrades (userId : ℕ) (t : Tables) : List (ℕ × UserSubscription) :=
  t.select fun _ sub => sub.userId == userId && sub.status == .expired && sub.upgradeGroup != ""

def expireUser (userId : ℕ) (t : Tables) : Tables :=
  let t := markExpired userId t
  if hasActiveUpgrade t userId none then t
  else match latest (expiredUpgrades userId t) with
    | none => t
    | some (_, lastExpired) =>
      let upgradeGroup := trimSpace lastExpired.upgradeGroup
      let prevGroup := trimSpace lastExpired.prevUserGroup
      let currentGroup := t.getUserGroupById userId
      if upgradeGroup = "" ∨ prevGroup = "" then t
      else if currentGroup ≠ upgradeGroup ∨ currentGroup = prevGroup then t
      else t.setGroup userId prevGroup

def dueUsers (limit : ℕ) (t : Tables) : List ℕ :=
  ((((t.select fun _ sub => sub.due t.now).insertionSort fun a b =>
    a.2.endTime < b.2.endTime ∨ (a.2.endTime = b.2.endTime ∧ a.1 ≤ b.1)).take (if limit = 0 then 200 else limit)).map
      fun x => x.2.userId).filter (0 < ·) |>.dedup

/-- `ExpireDueSubscriptions`, with the users in the order in which the map yields them. -/
def expireDueSubscriptions (users : List ℕ) (t : Tables) : Tables := users.foldl (fun t userId => expireUser userId t) t

end StarNexus.Subscription
