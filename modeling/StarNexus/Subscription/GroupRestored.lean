import StarNexus.Lib.Run
import StarNexus.Subscription.Upgrade

/-!
# The group of a user after the last upgrade has ended

A subscription that upgrades its user remembers the group the user had when it was created, which need not be the group
the user had without any upgrade.  As long as an upgrading subscription is only created when no other one is active, every
subscription remembers the original group.  It has to end in the future as well: a duration can wrap around to a negative one,
and the expiry then takes an older subscription for the last one.
-/

namespace StarNexus.Subscription

open Lib Option Tables UserSubscription
open Function (update update_of_ne update_self)

/-! ### Runs -/

inductive GroupOp where
  | create (userId : ℕ) (plan : SubscriptionPlan)
  | invalidate (id : ℕ)
  | delete (id : ℕ)
  | expire (limit : ℕ) (users : List ℕ)
  | wait (seconds : ℕ)

/-- One step.  A transaction that returns an error changes nothing; the users with due subscriptions come in any order. -/
def groupStep (zone : Zone) (t : Tables) : GroupOp → Option Tables
  | .create userId plan =>
    match createUserSubscriptionFromPlan zone userId plan t with
    | .ok t' => some t'
    | .error _ => some t
  | .invalidate id =>
    match adminInvalidateUserSubscription id t with
    | .ok (t', _) => some t'
    | .error _ => some t
  | .delete id =>
    match adminDeleteUserSubscription id t with
    | .ok (t', _) => some t'
    | .error _ => some t
  | .expire limit users => if users.Perm (dueUsers limit t) then some (expireDueSubscriptions users t) else none
  | .wait seconds => some { t with now := t.now + seconds }

def Upgrades (u : ℕ) (sub : UserSubscription) : Prop := sub.userId = u ∧ sub.upgradeGroup ≠ ""

def NoneActive (u : ℕ) (t : Tables) : Prop :=
  ∀ id < t.seq, ∀ sub ∈ t.sub id, Upgrades u sub → sub.status ≠ .active

/-- A subscription to the plan that is created at `start` ends later. -/
def SubscriptionPlan.lasts (zone : Zone) (start : ℤ) (plan : SubscriptionPlan) : Bool :=
  match calcPlanEndTime zone start plan with
  | .ok endUnix => start < endUnix
  | .error _ => true

/-- An upgrading subscription is created only when no other one is active, for a user in a proper group, and lasts. -/
def OneAtATime (zone : Zone) (u : ℕ) (t : Tables) : GroupOp → Prop
  | .create userId plan => userId = u → trimSpace plan.upgradeGroup ≠ "" →
      NoneActive u t ∧ trimSpace (t.getUserGroupById u) = t.getUserGroupById u ∧ t.getUserGroupById u ≠ "" ∧
        plan.lasts zone t.now = true
  | _ => True

instance (u : ℕ) (sub : UserSubscription) : Decidable (Upgrades u sub) := inferInstanceAs (Decidable (_ ∧ _))

instance (u : ℕ) (t : Tables) : Decidable (NoneActive u t) :=
  inferInstanceAs (Decidable (∀ id < t.seq, ∀ sub ∈ t.sub id, Upgrades u sub → sub.status ≠ .active))

instance (zone : Zone) (u : ℕ) (t : Tables) (op : GroupOp) : Decidable (OneAtATime zone u t op) :=
  match op with
  | .create userId plan => inferInstanceAs (Decidable (userId = u → trimSpace plan.upgradeGroup ≠ "" →
      NoneActive u t ∧ trimSpace (t.getUserGroupById u) = t.getUserGroupById u ∧ t.getUserGroupById u ≠ "" ∧
        plan.lasts zone t.now = true))
  | .invalidate _ => isTrue trivial
  | .delete _ => isTrue trivial
  | .expire _ _ => isTrue trivial
  | .wait _ => isTrue trivial

/-! ### Queries -/

section queries

variable {t : Tables} {p : ℕ → UserSubscription → Bool} {x : ℕ × UserSubscription}

lemma mem_select : x ∈ t.select p ↔ x.1 < t.seq ∧ t.sub x.1 = some x.2 ∧ p x.1 x.2 = true :=
  Lib.mem_select

lemma exists_of_hasActiveUpgrade {u : ℕ} {except : Option ℕ} (h : hasActiveUpgrade t u except = true) :
    ∃ id sub, t.sub id = some sub ∧ Upgrades u sub ∧ sub.status = .active ∧ t.now < sub.endTime ∧ except ≠ some id := by
  unfold hasActiveUpgrade at h
  obtain ⟨x, hx⟩ := List.exists_mem_of_ne_nil _ (by simpa using h)
  obtain ⟨-, hsub, hp⟩ := mem_select.1 hx
  simp only [Bool.and_eq_true, beq_iff_eq, bne_iff_ne, decide_eq_true_eq] at hp
  obtain ⟨⟨⟨⟨huser, hactive⟩, hend⟩, hup⟩, hexcept⟩ := hp
  exact ⟨x.1, x.2, hsub, ⟨huser, hup⟩, hactive, hend, hexcept⟩

variable (a b : ℕ × UserSubscription)

lemma endTime_le_later :
    a.2.endTime ≤ (later a b).2.endTime ∧ b.2.endTime ≤ (later a b).2.endTime := by
  unfold later
  split <;> omega

lemma later_mem : later a b = a ∨ later a b = b := by
  unfold later
  split
  · exact .inl rfl
  · exact .inr rfl

variable {l : List (ℕ × UserSubscription)}

lemma latest_spec (h : latest l = some x) :
    x ∈ l ∧ ∀ y ∈ l, y.2.endTime ≤ x.2.endTime := by
  induction l generalizing x with
  | nil => cases h
  | cons a rest ih =>
    cases h
    cases hrest : latest rest with
    | none =>
      have hnil : rest = [] := by
        cases rest with
        | nil => rfl
        | cons b rest => cases hrest
      subst hnil
      simp
    | some b =>
      obtain ⟨hmem, hmax⟩ := ih hrest
      obtain ⟨hla, hlb⟩ := endTime_le_later a b
      rw [elim_some]
      constructor
      · rcases later_mem a b with heq | heq
        · rw [heq]
          exact (.head _)
        · rw [heq]
          exact List.mem_cons_of_mem _ hmem
      · intro y hy
        rcases List.mem_cons.1 hy with rfl | hy
        · exact hla
        · exact (hmax y hy).trans hlb

lemma latest_ne_none (h : l ≠ []) : latest l ≠ none := by
  cases l with
  | nil => exact absurd rfl h
  | cons a rest => simp [latest]

end queries

/-! ### What the subscriptions of a user remember -/

/-- What holds of the subscriptions of the user `u`, who was in the group `g₀` before the first upgrade. -/
structure Sound (u : ℕ) (g₀ : String) (t : Tables) : Prop where
  /-- Ids are given out in order. -/
  bounded : ∀ id sub, t.sub id = some sub → id < t.seq
  /-- An upgrading subscription remembers the original group, if it took the user out of it. -/
  origin : ∀ id sub, t.sub id = some sub → Upgrades u sub → trimSpace sub.upgradeGroup = sub.upgradeGroup ∧
    ((sub.prevUserGroup = "" ∧ sub.upgradeGroup = g₀) ∨
      (sub.prevUserGroup = g₀ ∧ sub.upgradeGroup ≠ g₀ ∧ trimSpace g₀ = g₀ ∧ g₀ ≠ ""))
  /-- At most one is active. -/
  once : ∀ id sub id' sub', t.sub id = some sub → t.sub id' = some sub' → Upgrades u sub → Upgrades u sub' →
    sub.status = .active → sub'.status = .active → id = id'
  /-- What has expired ended in the past. -/
  ended : ∀ id sub, t.sub id = some sub → Upgrades u sub → sub.status = .expired → sub.endTime ≤ t.now
  /-- The active one ends after those that have expired. -/
  before : ∀ id sub id' sub', t.sub id = some sub → t.sub id' = some sub' → Upgrades u sub → Upgrades u sub' →
    sub.status = .expired → sub'.status = .active → sub.endTime < sub'.endTime

/-- The user is in the original group, or in the group of the active upgrade. -/
def Held (u : ℕ) (g₀ : String) (t : Tables) : Prop :=
  t.group u = some g₀ ∨ ∃ id sub, t.sub id = some sub ∧ Upgrades u sub ∧ sub.status = .active ∧
    t.group u = some sub.upgradeGroup

variable {sub : UserSubscription} {id : ℕ}

section ending

variable {u : ℕ} {g₀ : String} {t t' : Tables}

lemma Sound.of_rows (h : Sound u g₀ t) (hbounded : ∀ id x, t'.sub id = some x → id < t'.seq) (hnow : t.now ≤ t'.now)
    (hrows : ∀ id x, t'.sub id = some x → Upgrades u x → ∃ y, t.sub id = some y ∧ Upgrades u y ∧
      x.upgradeGroup = y.upgradeGroup ∧ x.prevUserGroup = y.prevUserGroup ∧ (x.status ≠ .cancelled → x.endTime = y.endTime) ∧
      (x.status = .active → y.status = .active) ∧
      (x.status = .expired → y.status = .expired ∨ y.status = .active ∧ y.endTime ≤ t.now)) : Sound u g₀ t' := by
  refine ⟨hbounded, fun id x hx hup => ?_, fun id a id' b ha hb hua hub hsa hsb => ?_, fun id a ha hua hsa => ?_,
    fun id a id' b ha hb hua hub hsa hsb => ?_⟩
  · obtain ⟨y, hy, huy, hgroup, hprev, -⟩ := hrows id x hx hup
    rw [hgroup, hprev]
    exact h.origin id y hy huy
  · obtain ⟨y, hy, huy, -, -, -, hya, -⟩ := hrows id a ha hua
    obtain ⟨z, hz, huz, -, -, -, hza, -⟩ := hrows id' b hb hub
    exact h.once id y id' z hy hz huy huz (hya hsa) (hza hsb)
  · obtain ⟨y, hy, huy, -, -, hend, -, hexpired⟩ := hrows id a ha hua
    rw [hend (by simp [hsa])]
    rcases hexpired hsa with hold | ⟨-, hdue⟩
    · exact (h.ended id y hy huy hold).trans hnow
    · exact hdue.trans hnow
  · obtain ⟨y, hy, huy, -, -, hend, -, hexpired⟩ := hrows id a ha hua
    obtain ⟨z, hz, huz, -, -, hend', hza, -⟩ := hrows id' b hb hub
    rw [hend (by simp [hsa]), hend' (by simp [hsb])]
    rcases hexpired hsa with hold | ⟨hactive, -⟩
    · exact h.before id y id' z hy hz huy huz hold (hza hsb)
    · -- the active one is not the one that has just expired
      obtain rfl := h.once id y id' z hy hz huy huz hactive (hza hsb)
      obtain rfl : a = b := Option.some.inj (ha.symm.trans hb)
      rw [hsa] at hsb
      cases hsb

lemma downgrade_cases (id : ℕ) (sub : UserSubscription) (t : Tables) :
    ((downgradeUserGroupForSubscription id sub t).1 = t ∧
      (trimSpace sub.upgradeGroup = "" ∨ t.getUserGroupById sub.userId ≠ trimSpace sub.upgradeGroup ∨
        hasActiveUpgrade t sub.userId (some id) = true ∨ trimSpace sub.prevUserGroup = "" ∨
        trimSpace sub.prevUserGroup = t.getUserGroupById sub.userId)) ∨
    ((downgradeUserGroupForSubscription id sub t).1 = t.setGroup sub.userId (trimSpace sub.prevUserGroup) ∧
      trimSpace sub.upgradeGroup ≠ "" ∧ trimSpace sub.prevUserGroup ≠ "") := by
  unfold downgradeUserGroupForSubscription
  dsimp only
  split
  · next h => exact .inl ⟨rfl, .inl h⟩
  next hup =>
  split
  · next h => exact .inl ⟨rfl, .inr (.inl h)⟩
  split
  · next h => exact .inl ⟨rfl, .inr (.inr (.inl h))⟩
  split
  · next h => exact .inl ⟨rfl, .inr (.inr (.inr h))⟩
  next hprev => exact .inr ⟨rfl, hup, fun h => hprev (.inl h)⟩

lemma upgrades_of_trimSpace_ne (huser : sub.userId = u) (h : trimSpace sub.upgradeGroup ≠ "") :
    Upgrades u sub := by
  refine ⟨huser, fun hempty => h ?_⟩
  rw [hempty]
  rfl

lemma Sound.prev_eq (h : Sound u g₀ t) (hsub : t.sub id = some sub)
    (hup : Upgrades u sub) (hprev : trimSpace sub.prevUserGroup ≠ "") : trimSpace sub.prevUserGroup = g₀ := by
  rcases (h.origin id sub hsub hup).2 with ⟨hnone, -⟩ | ⟨hsome, -, htrim, -⟩
  · rw [hnone] at hprev
    exact absurd rfl hprev
  · rw [hsome, htrim]

/-- **The end of a subscription.** -/
lemma Sound.ending (h : Sound u g₀ t) (hheld : Held u g₀ t) (w : Tables) {sub sub' : UserSubscription}
    (hsub : t.sub id = some sub) (huser : sub'.userId = sub.userId) (hgroup : sub'.upgradeGroup = sub.upgradeGroup)
    (hprev : sub'.prevUserGroup = sub.prevUserGroup) (hgroups : w.group = t.group)
    (hothers : ∀ other, other ≠ id → w.sub other = t.sub other) :
    (downgradeUserGroupForSubscription id sub' w).1.group u = some g₀ ∨
      ∃ other U, other ≠ id ∧ t.sub other = some U ∧ Upgrades u U ∧ U.status = .active ∧
        (downgradeUserGroupForSubscription id sub' w).1.group u = some U.upgradeGroup := by
  have hcases := downgrade_cases id sub' w
  rw [huser, hgroup, hprev] at hcases
  have hknown : ∃ g, w.group u = some g := by
    rw [hgroups]
    rcases hheld with hg | ⟨_, U, -, -, -, hg⟩
    all_goals exact ⟨_, hg⟩
  obtain ⟨g, hg⟩ := hknown
  rcases hcases with ⟨heq, hwhy⟩ | ⟨heq, hup, hprev₀⟩
  · -- nothing was done, so the group was not that of the ended subscription
    rw [heq]
    rcases hheld with hsame | ⟨other, U, hU, hUup, hactive, hgroupU⟩
    · exact .inl (by rw [hgroups, hsame])
    by_cases hid : other = id
    · subst hid
      obtain rfl : U = sub := Option.some.inj (hU.symm.trans hsub)
      obtain ⟨htrim, horigin⟩ := h.origin other U hU hUup
      have hcurrent : w.getUserGroupById U.userId = U.upgradeGroup := by
        rw [hUup.1]
        exact getUserGroupById_of_eq (by rw [hgroups, hgroupU])
      rw [htrim, hcurrent] at hwhy
      rcases horigin with ⟨-, hback⟩ | ⟨hprevU, hne, htrim₀, hne₀⟩
      · exact .inl (by rw [hgroups, hgroupU, hback])
      rw [hprevU, htrim₀] at hwhy
      rcases hwhy with hempty | hdiff | hother | hempty | hback
      · exact absurd hempty hUup.2
      · exact absurd rfl hdiff
      · obtain ⟨other', V, hV, hVup, hVactive, -, hne'⟩ := exists_of_hasActiveUpgrade hother
        have hdiff : other' ≠ other := fun h => hne' (by rw [h])
        rw [hothers other' hdiff] at hV
        rw [hUup.1] at hVup
        exact absurd (h.once other' V other U hV hU hVup hUup hVactive hactive) hdiff
      · exact absurd hempty hne₀
      · exact absurd hback.symm hne
    · exact .inr ⟨other, U, hid, hU, hUup, hactive, by rw [hgroups, hgroupU]⟩
  · rw [heq]
    by_cases hu : sub.userId = u
    · left
      rw [hu, h.prev_eq hsub (upgrades_of_trimSpace_ne hu hup) hprev₀]
      exact setGroup_group_self hg
    · rw [setGroup_group_of_ne (.symm hu), hgroups]
      rcases hheld with hsame | ⟨other, U, hU, hUup, hactive, hgroupU⟩
      · exact .inl hsame
      · refine .inr ⟨other, U, fun hid => hu ?_, hU, hUup, hactive, hgroupU⟩
        rw [hid] at hU
        obtain rfl : U = sub := Option.some.inj (hU.symm.trans hsub)
        exact hUup.1

lemma downgrade_sub (id : ℕ) (sub : UserSubscription) (t : Tables) :
    (downgradeUserGroupForSubscription id sub t).1.sub = t.sub ∧
      (downgradeUserGroupForSubscription id sub t).1.seq = t.seq ∧
      (downgradeUserGroupForSubscription id sub t).1.now = t.now := by
  rcases downgrade_cases id sub t with ⟨heq, -⟩ | ⟨heq, -⟩
  all_goals
    rw [heq]
    exact ⟨rfl, rfl, rfl⟩

structure Good (u : ℕ) (g₀ : String) (t : Tables) : Prop where
  sound : Sound u g₀ t
  held : Held u g₀ t

lemma Good.ended (h : Good u g₀ t) (hsub : t.sub id = some sub) (w : Tables) {sub' : UserSubscription}
    (hsame : sub'.userId = sub.userId ∧ sub'.upgradeGroup = sub.upgradeGroup ∧ sub'.prevUserGroup = sub.prevUserGroup)
    (hgroups : w.group = t.group) (hothers : ∀ other, other ≠ id → w.sub other = t.sub other) (hseq : t'.seq = t.seq)
    (hnow : t'.now = t.now) (hrows : ∀ other, other ≠ id → t'.sub other = t.sub other)
    (hself : ∀ x, t'.sub id = some x → x = sub' ∧ sub'.status = .cancelled)
    (hgroup : t'.group = (downgradeUserGroupForSubscription id sub' w).1.group) : Good u g₀ t' := by
  refine ⟨h.sound.of_rows (fun other x hx => ?_) hnow.ge fun other x hx hup => ?_, ?_⟩
  · rw [hseq]
    by_cases hid : other = id
    · exact hid ▸ h.sound.bounded id sub hsub
    · exact h.sound.bounded other x (hrows other hid ▸ hx)
  · by_cases hid : other = id
    · subst hid
      obtain ⟨rfl, hcancelled⟩ := hself x hx
      obtain ⟨huser, hup', hprev⟩ := hsame
      refine ⟨sub, hsub, ⟨huser ▸ hup.1, hup' ▸ hup.2⟩, hup', hprev, fun hne => absurd hcancelled hne, ?_⟩
      simp [hcancelled]
    · exact ⟨x, hrows other hid ▸ hx, hup, rfl, rfl, fun _ => rfl, fun hs => hs, .inl⟩
  · unfold Held
    rw [hgroup]
    rcases h.sound.ending h.held w hsub hsame.1 hsame.2.1 hsame.2.2 hgroups hothers with hback | ⟨other, U, hne, hU, hrest⟩
    · exact .inl hback
    · exact .inr ⟨other, U, (hrows other hne).trans hU, hrest⟩

lemma Good.invalidate (h : Good u g₀ t) {message : String}
    (hstep : adminInvalidateUserSubscription id t = .ok (t', message)) : Good u g₀ t' := by
  unfold adminInvalidateUserSubscription at hstep
  split at hstep
  · cases hstep
  cases hsub : t.sub id with
  | none =>
    rw [hsub] at hstep
    cases hstep
  | some sub =>
    rw [hsub] at hstep
    dsimp only at hstep
    obtain rfl := congrArg Prod.fst (Except.ok.inj hstep)
    generalize hsub' : ({ sub with status := .cancelled, endTime := t.now } : UserSubscription) = sub'
    have hothers : ∀ other, other ≠ id → (t.setSub id (some sub')).sub other = t.sub other :=
      fun other hne => update_of_ne hne _ _
    obtain ⟨hsubs, hseq, hnow⟩ := downgrade_sub id sub' (t.setSub id (some sub'))
    generalize hd : (downgradeUserGroupForSubscription id sub' (t.setSub id (some sub'))).1 = d at hsubs hseq hnow ⊢
    refine h.ended hsub (t.setSub id _) ?_ rfl hothers hseq hnow (hsubs ▸ hothers) (fun x hx => ?_) (by rw [hd])
    · rw [← hsub']
      exact ⟨rfl, rfl, rfl⟩
    · rw [hsubs] at hx
      exact ⟨(Option.some.inj ((update_self id _ _).symm.trans hx)).symm, by rw [← hsub']⟩

lemma Good.delete (h : Good u g₀ t) {message : String}
    (hstep : adminDeleteUserSubscription id t = .ok (t', message)) : Good u g₀ t' := by
  unfold adminDeleteUserSubscription at hstep
  split at hstep
  · cases hstep
  cases hsub : t.sub id with
  | none =>
    rw [hsub] at hstep
    cases hstep
  | some sub =>
    rw [hsub] at hstep
    dsimp only at hstep
    obtain rfl := congrArg Prod.fst (Except.ok.inj hstep)
    obtain ⟨hsubs, hseq, hnow⟩ := downgrade_sub id sub t
    generalize hd : (downgradeUserGroupForSubscription id sub t).1 = d at hsubs hseq hnow ⊢
    refine h.ended hsub t ⟨rfl, rfl, rfl⟩ rfl (fun _ _ => rfl) hseq hnow (fun other hne => ?_) (fun x hx => ?_) (by rw [hd]; rfl)
    · rw [← hsubs]
      exact update_of_ne hne _ _
    · exact nomatch (update_self id _ _).symm.trans hx

end ending

section creating

variable {u : ℕ} {g₀ : String} {t t' : Tables} {zone : Zone} {plan : SubscriptionPlan}

structure Created (zone : Zone) (userId : ℕ) (plan : SubscriptionPlan) (sub : UserSubscription) (t t' : Tables) : Prop where
  user : sub.userId = userId
  active : sub.status = .active
  later : plan.lasts zone t.now = true → t.now < sub.endTime
  up : sub.upgradeGroup = trimSpace plan.upgradeGroup
  prev : sub.prevUserGroup = prevGroupFor (trimSpace plan.upgradeGroup) (t.getUserGroupById userId)
  subs : t'.sub = update t.sub t.seq (some sub)
  seq : t'.seq = t.seq + 1
  now : t'.now = t.now
  group : t'.group = if sub.upgradeGroup ≠ "" ∧ t.getUserGroupById userId ≠ sub.upgradeGroup then
    (t.setGroup userId sub.upgradeGroup).group else t.group

lemma create_created {userId : ℕ} (h : createUserSubscriptionFromPlan zone userId plan t = .ok t') :
    ∃ sub, Created zone userId plan sub t t' := by
  unfold createUserSubscriptionFromPlan at h
  split at h
  · cases h
  split at h
  · cases h
  split at h
  · cases h
  cases hend : calcPlanEndTime zone t.now plan with
  | error e =>
    rw [hend] at h
    cases h
  | ok endUnix =>
    rw [hend] at h
    cases h
    refine ⟨{ userId, planId := plan.id, endTime := endUnix, status := .active
              upgradeGroup := trimSpace plan.upgradeGroup
              prevUserGroup := prevGroupFor (trimSpace plan.upgradeGroup) (t.getUserGroupById userId) },
      rfl, rfl, fun hlasts => ?_, rfl, rfl, ?_, rfl, ?_, ?_⟩
    · simpa [SubscriptionPlan.lasts, hend] using hlasts
    all_goals
      split <;> rfl

variable {x : UserSubscription}

lemma Created.sub_cases {userId id : ℕ} (hc : Created zone userId plan sub t t') (hx : t'.sub id = some x) :
    id = t.seq ∧ x = sub ∨ t.sub id = some x := by
  rw [hc.subs, Tx.update_eq_some, some_inj] at hx
  exact hx.imp (fun h => ⟨h.1, h.2.symm⟩) And.right

lemma Created.bounded {userId id : ℕ} (hc : Created zone userId plan sub t t') (h : Sound u g₀ t)
    (hx : t'.sub id = some x) : id < t'.seq := by
  rw [hc.seq]
  rcases hc.sub_cases hx with ⟨rfl, -⟩ | hold
  · omega
  · have hlt := h.bounded id x hold
    omega

lemma Good.createOther (h : Good u g₀ t) {userId : ℕ} (hc : Created zone userId plan sub t t')
    (hother : ¬Upgrades u sub) : Good u g₀ t' := by
  have hgroup : t'.group u = t.group u := by
    rw [hc.group]
    split
    · next hset => exact setGroup_group_of_ne fun hu => hother ⟨hc.user.trans hu.symm, hset.1⟩
    · rfl
  have hold : ∀ id x, t.sub id = some x → t'.sub id = some x := by
    intro id x hx
    rw [hc.subs, update_of_ne (h.sound.bounded id x hx).ne, hx]
  have hback : ∀ id x, t'.sub id = some x → Upgrades u x → t.sub id = some x := by
    intro id x hx hup
    rcases hc.sub_cases hx with ⟨-, rfl⟩ | hold
    · exact absurd hup hother
    · exact hold
  refine ⟨h.sound.of_rows (fun id x hx => hc.bounded h.sound hx) hc.now.ge fun id x hx hup =>
    ⟨x, hback id x hx hup, hup, rfl, rfl, fun _ => rfl, fun hs => hs, .inl⟩, ?_⟩
  rcases h.held with hg | ⟨id, U, hU, hup, hactive, hg⟩
  · exact .inl (by rw [hgroup, hg])
  · exact .inr ⟨id, U, hold id U hU, hup, hactive, by rw [hgroup, hg]⟩

/-- **A new upgrade** of a user who has none active. -/
lemma Good.createUpgrade (h : Good u g₀ t) (hc : Created zone u plan sub t t')
    (hup : Upgrades u sub) (hnone : NoneActive u t) (htrim : trimSpace (t.getUserGroupById u) = t.getUserGroupById u)
    (hne : t.getUserGroupById u ≠ "") (hlasts : plan.lasts zone t.now = true) : Good u g₀ t' := by
  have hg : t.group u = some g₀ := by
    rcases h.held with hg | ⟨id, U, hU, hU', hactive, -⟩
    · exact hg
    · exact absurd hactive (hnone id (h.sound.bounded id U hU) U hU hU')
  have hcurrent : t.getUserGroupById u = g₀ := getUserGroupById_of_eq hg
  rw [hcurrent] at htrim hne
  have hnew : t'.sub t.seq = some sub := by rw [hc.subs, update_self]
  have hactive : ∀ id x, t'.sub id = some x → Upgrades u x → x.status = .active → id = t.seq ∧ x = sub := by
    intro id x hx hux hsx
    rcases hc.sub_cases hx with hnew | hold
    · exact hnew
    · exact absurd hsx (hnone id (h.sound.bounded id x hold) x hold hux)
  have hexpired : ∀ id x, t'.sub id = some x → x.status = .expired → t.sub id = some x := by
    intro id x hx hsx
    rcases hc.sub_cases hx with ⟨-, rfl⟩ | hold
    · rw [hc.active] at hsx
      cases hsx
    · exact hold
  refine ⟨⟨fun id x hx => hc.bounded h.sound hx, fun id x hx hux => ?_, fun id a id' b ha hb hua hub hsa hsb => ?_,
    fun id a ha hua hsa => ?_, fun id a id' b ha hb hua hub hsa hsb => ?_⟩, ?_⟩
  · rcases hc.sub_cases hx with ⟨-, rfl⟩ | hold
    · refine ⟨by rw [hc.up, trimSpace_trimSpace], ?_⟩
      have hprev := hc.prev
      rw [hcurrent, ← hc.up] at hprev
      by_cases hsame : g₀ = x.upgradeGroup
      · left
        rw [hprev, prevGroupFor, if_neg fun hboth => hboth.2 hsame]
        exact ⟨rfl, hsame.symm⟩
      · right
        rw [hprev, prevGroupFor, if_pos ⟨hux.2, hsame⟩]
        exact ⟨rfl, .symm hsame, htrim, hne⟩
    · exact h.sound.origin id x hold hux
  · rw [(hactive id a ha hua hsa).1, (hactive id' b hb hub hsb).1]
  · rw [hc.now]
    exact h.sound.ended id a (hexpired id a ha hsa) hua hsa
  · obtain ⟨-, rfl⟩ := hactive id' b hb hub hsb
    exact (h.sound.ended id a (hexpired id a ha hsa) hua hsa).trans_lt (hc.later hlasts)
  · refine .inr ⟨t.seq, sub, hnew, hup, hc.active, ?_⟩
    rw [hc.group]
    split
    · exact setGroup_group_self hg
    · next hkeep =>
      have hsame : g₀ = sub.upgradeGroup := by
        by_contra hdiff
        exact hkeep ⟨hup.2, by rwa [hcurrent]⟩
      rw [hg, hsame]

end creating

section expiring

variable {u v : ℕ} {g₀ : String} {t : Tables}

lemma expireUser_cases (v : ℕ) (t : Tables) :
    (expireUser v t = markExpired v t ∧
      (hasActiveUpgrade (markExpired v t) v none = true ∨ latest (expiredUpgrades v (markExpired v t)) = none ∨
        ∃ x, latest (expiredUpgrades v (markExpired v t)) = some x ∧
          (trimSpace x.2.upgradeGroup = "" ∨ trimSpace x.2.prevUserGroup = "" ∨
            (markExpired v t).getUserGroupById v ≠ trimSpace x.2.upgradeGroup ∨
            (markExpired v t).getUserGroupById v = trimSpace x.2.prevUserGroup))) ∨
    ∃ x, latest (expiredUpgrades v (markExpired v t)) = some x ∧
      expireUser v t = (markExpired v t).setGroup v (trimSpace x.2.prevUserGroup) ∧ trimSpace x.2.prevUserGroup ≠ "" := by
  unfold expireUser
  dsimp only
  split
  · next hactive => exact .inl ⟨rfl, .inl hactive⟩
  cases hlatest : latest (expiredUpgrades v (markExpired v t)) with
  | none => simp
  | some x =>
    dsimp only
    split
    · next hblank =>
      refine .inl ⟨rfl, .inr (.inr ⟨_, rfl, ?_⟩)⟩
      rcases hblank with h | h
      · exact .inl h
      · exact .inr (.inl h)
    next hblank =>
    split
    · next hkeep => exact .inl ⟨rfl, .inr (.inr ⟨_, rfl, .inr (.inr hkeep)⟩)⟩
    · exact .inr ⟨_, rfl, rfl, fun h => hblank (.inr h)⟩

lemma markExpired_sub {x : UserSubscription} (h : (markExpired v t).sub id = some x) :
    ∃ sub, t.sub id = some sub ∧ sub.marked v t.now = x := map_eq_some_iff.1 h

section

variable (sub : UserSubscription) (v : ℕ) (now : ℤ)

lemma marked_user : (sub.marked v now).userId = sub.userId := by
  unfold marked
  split <;> rfl

lemma marked_up : (sub.marked v now).upgradeGroup = sub.upgradeGroup := by
  unfold marked
  split <;> rfl

lemma marked_prev : (sub.marked v now).prevUserGroup = sub.prevUserGroup := by
  unfold marked
  split <;> rfl

lemma marked_endTime : (sub.marked v now).endTime = sub.endTime := by
  unfold marked
  split <;> rfl

end

variable {now : ℤ}

lemma upgrades_marked : Upgrades u (sub.marked v now) ↔ Upgrades u sub := by
  unfold Upgrades
  rw [marked_user, marked_up]

lemma active_of_marked (h : (sub.marked v now).status = .active) :
    sub.status = .active ∧ sub.marked v now = sub := by
  unfold marked at h ⊢
  split at h
  · cases h
  · next hnot => exact ⟨h, if_neg hnot⟩

lemma expired_of_marked (h : (sub.marked v now).status = .expired) :
    sub.status = .expired ∨ (sub.status = .active ∧ sub.endTime ≤ now) := by
  unfold marked at h
  split at h
  · next hdue =>
    have hd := hdue.2
    simp only [due, Bool.and_eq_true, beq_iff_eq, decide_eq_true_eq] at hd
    exact .inr ⟨hd.1.1, hd.2⟩
  · exact .inl h

lemma Sound.mark (h : Sound u g₀ t) (v : ℕ) : Sound u g₀ (markExpired v t) := by
  refine h.of_rows (fun id x hx => ?_) le_rfl fun id x hx hux => ?_
  · obtain ⟨sub, hsub, -⟩ := markExpired_sub hx
    exact h.bounded id sub hsub
  · obtain ⟨sub, hsub, rfl⟩ := markExpired_sub hx
    exact ⟨sub, hsub, upgrades_marked.1 hux, marked_up _ _ _, marked_prev _ _ _, fun _ => marked_endTime _ _ _,
      fun hactive => (active_of_marked hactive).1, expired_of_marked⟩

lemma mem_expiredUpgrades {x : ℕ × UserSubscription} :
    x ∈ expiredUpgrades v t ↔ x.1 < t.seq ∧ t.sub x.1 = some x.2 ∧ Upgrades v x.2 ∧ x.2.status = .expired := by
  unfold expiredUpgrades Upgrades
  rw [mem_select]
  simp only [Bool.and_eq_true, beq_iff_eq, bne_iff_ne]
  tauto

lemma Sound.expired_last (h : Sound u g₀ t) {U : UserSubscription} (hU : t.sub id = some U)
    (hup : Upgrades u U) (hactive : U.status = .active) (hmarked : (U.marked u t.now).status = .expired) :
    hasActiveUpgrade (markExpired u t) u none = false ∧
      ∃ x, latest (expiredUpgrades u (markExpired u t)) = some x ∧ x.2 = U.marked u t.now := by
  have hrow : (markExpired u t).sub id = some (U.marked u t.now) := by
    simp [markExpired, hU]
  constructor
  · rw [Bool.eq_false_iff]
    intro hother
    obtain ⟨id', x, hx, hxup, hxactive, -⟩ := exists_of_hasActiveUpgrade hother
    obtain ⟨y, hy, rfl⟩ := markExpired_sub hx
    obtain rfl := h.once id' y id U hy hU (upgrades_marked.1 hxup) hup (active_of_marked hxactive).1 hactive
    obtain rfl : y = U := Option.some.inj (hy.symm.trans hU)
    rw [hmarked] at hxactive
    cases hxactive
  · have hmem : (id, U.marked u t.now) ∈ expiredUpgrades u (markExpired u t) :=
      mem_expiredUpgrades.2 ⟨h.bounded id U hU, hrow, upgrades_marked.2 hup, hmarked⟩
    obtain ⟨x, hx⟩ := ne_none_iff_exists'.1 (latest_ne_none (List.ne_nil_of_mem hmem))
    obtain ⟨hxmem, hmax⟩ := latest_spec hx
    obtain ⟨-, hxrow, hxup, hxexpired⟩ := mem_expiredUpgrades.1 hxmem
    refine ⟨x, hx, ?_⟩
    obtain ⟨y, hy, hyx⟩ := markExpired_sub hxrow
    rw [← hyx] at hxup hxexpired
    rcases expired_of_marked hxexpired with hold | ⟨hyactive, -⟩
    · -- one that had expired before ended earlier
      have hlt := h.before x.1 y id U hy hU (upgrades_marked.1 hxup) hup hold hactive
      have hle := hmax _ hmem
      rw [← hyx, marked_endTime, marked_endTime] at hle
      omega
    · have hid := h.once x.1 y id U hy hU (upgrades_marked.1 hxup) hup hyactive hactive
      rw [hid] at hy
      obtain rfl : y = U := Option.some.inj (hy.symm.trans hU)
      exact hyx.symm

/-- **The expiry of the subscriptions of a user.** -/
lemma Good.expire (h : Good u g₀ t) (v : ℕ) : Good u g₀ (expireUser v t) := by
  have hsound := h.sound.mark v
  have hgroup : (markExpired v t).group = t.group := rfl
  rcases expireUser_cases v t with ⟨heq, hwhy⟩ | ⟨x, hx, heq, hprev⟩
  · rw [heq]
    refine ⟨hsound, ?_⟩
    rcases h.held with hg | ⟨id, U, hU, hup, hactive, hg⟩
    · exact .inl hg
    have hrow : (markExpired v t).sub id = some (U.marked v t.now) := by
      simp [markExpired, hU]
    by_cases hkept : (U.marked v t.now).status = .active
    · exact .inr ⟨id, _, hrow, upgrades_marked.2 hup, hkept, by rw [marked_up, hgroup, hg]⟩
    -- the active upgrade was due, and the user is the one whose subscriptions were marked
    have hdue : U.userId = v ∧ (U.marked v t.now).status = .expired := by
      unfold marked at hkept ⊢
      split
      · next hmark => exact ⟨hmark.1, rfl⟩
      · next hmark =>
        rw [if_neg hmark] at hkept
        exact absurd hactive hkept
    obtain rfl : u = v := hup.1.symm.trans hdue.1
    obtain ⟨hnone, x, hx, hxU⟩ := h.sound.expired_last hU hup hactive hdue.2
    obtain ⟨htrim, horigin⟩ := h.sound.origin id U hU hup
    rcases horigin with ⟨-, hback⟩ | ⟨hprevU, hne, htrim₀, hne₀⟩
    · exact .inl (by rw [hgroup, hg, hback])
    have hcurrent : (markExpired u t).getUserGroupById u = U.upgradeGroup := getUserGroupById_of_eq (by rw [hgroup, hg])
    rcases hwhy with hother | hlast | ⟨x', hx', hwhy⟩
    · rw [hnone] at hother
      cases hother
    · rw [hx] at hlast
      cases hlast
    · obtain rfl : x = x' := Option.some.inj (hx.symm.trans hx')
      rw [hxU, marked_up, marked_prev, htrim, hprevU, htrim₀, hcurrent] at hwhy
      rcases hwhy with h' | h' | h' | h'
      · exact absurd h' hup.2
      · exact absurd h' hne₀
      · exact absurd rfl h'
      · exact absurd h' hne
  · rw [heq]
    have hsame : Sound u g₀ ((markExpired v t).setGroup v (trimSpace x.2.prevUserGroup)) := ⟨hsound.bounded, hsound.origin,
      hsound.once, hsound.ended, hsound.before⟩
    refine ⟨hsame, ?_⟩
    obtain ⟨-, hxrow, hxup, -⟩ := mem_expiredUpgrades.1 (latest_spec hx).1
    by_cases hu : u = v
    · subst hu
      rw [hsound.prev_eq hxrow hxup hprev]
      rcases h.held with hg | ⟨id, U, -, -, -, hg⟩
      all_goals exact .inl (setGroup_group_self (by rw [hgroup, hg]))
    · unfold Held
      rw [setGroup_group_of_ne hu]
      rcases h.held with hg | ⟨id, U, hU, hup, hactive, hg⟩
      · exact .inl hg
      · have hsameU : U.marked v t.now = U := if_neg fun hmark => hu (hup.1.symm.trans hmark.1)
        refine .inr ⟨id, U, ?_, hup, hactive, hg⟩
        simp [markExpired, hU, hsameU]

lemma Good.expireAll (h : Good u g₀ t) (users : List ℕ) : Good u g₀ (expireDueSubscriptions users t) := by
  induction users generalizing t with
  | nil => exact h
  | cons v users ih => exact ih (h.expire v)

end expiring

/-! ### Whole runs -/

lemma Good.step {u : ℕ} {g₀ : String} {zone : Zone} {t t' : Tables} {op : GroupOp} (h : Good u g₀ t)
    (hok : OneAtATime zone u t op) (hstep : groupStep zone t op = some t') : Good u g₀ t' := by
  unfold groupStep at hstep
  cases op with
  | create userId plan =>
    dsimp only at hstep
    split at hstep
    · next t₁ hcreate =>
      cases hstep
      obtain ⟨sub, hc⟩ := create_created hcreate
      by_cases hup : Upgrades u sub
      · have huser : userId = u := hc.user.symm.trans hup.1
        subst huser
        obtain ⟨hnone, htrim, hne, hlasts⟩ := hok rfl (hc.up ▸ hup.2)
        exact h.createUpgrade hc hup hnone htrim hne hlasts
      · exact h.createOther hc hup
    · cases hstep
      exact h
  | invalidate id =>
    dsimp only at hstep
    split at hstep
    · next hcall =>
      cases hstep
      exact h.invalidate hcall
    · cases hstep
      exact h
  | delete id =>
    dsimp only at hstep
    split at hstep
    · next hcall =>
      cases hstep
      exact h.delete hcall
    · cases hstep
      exact h
  | expire limit users =>
    dsimp only at hstep
    split at hstep
    · cases hstep
      exact h.expireAll users
    · cases hstep
  | wait seconds =>
    cases hstep
    refine ⟨h.sound.of_rows h.sound.bounded (Int.le_add_of_nonneg_right (Int.natCast_nonneg seconds)) fun id x hx hup => ?_, h.held⟩
    exact ⟨x, hx, hup, rfl, rfl, fun _ => rfl, fun hs => hs, .inl⟩

def hourPlan (id : ℕ) (group : String) : SubscriptionPlan :=
  { id, durationUnit := .hour, durationValue := 1, upgradeGroup := group }

def defaultUser : Tables where
  now := 100
  group u := if u = 1 then some "default" else none

def oneByOne : List GroupOp :=
  [.create 1 (hourPlan 1 "vip"), .wait 3600, .expire 0 [1], .create 1 (hourPlan 2 "svip"), .invalidate 2]

lemma oneByOne_runs : (runs (groupStep (.fixed 0)) defaultUser oneByOne).isSome := by decide +kernel

end StarNexus.Subscription
