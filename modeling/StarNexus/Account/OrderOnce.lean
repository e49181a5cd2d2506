import StarNexus.Account.OrderMachine

/-!
# An order is credited once

The completions of an order and its expiry, in any interleaving.  The handlers hold the lock of the order, which is
a lock of their process: two processes can both read the order as pending and credit it twice.
-/

namespace StarNexus.Account

open Lib Lib.Protocol Lib.Tx Sys

section functions

variable {α β : Type} (node : ℕ) (tradeNo : String)

/-- The phase of a client that is busy with the order `other`. -/
def Phase.of (tradeNo other : String) (g : Phase) : Phase := if other = tradeNo then g else .out

/-- Part of a transaction on the order `other`: after an error the transaction can be ended. -/
def Works (other : String) (p : Tx α) (R : α → Phase → Prop) (g : Phase) : Prop :=
  (orderProtocol node tradeNo).Follows p (fun x g' => (∀ e, x = .error e → g'.ended = Phase.of tradeNo other .inside) ∧
    ∀ a, x = .ok a → R a g') g

variable {node tradeNo} {other : String} {g : Phase}

lemma ended_of (g : Phase) (hg : g ≠ .out) : (Phase.of tradeNo other g).ended = Phase.of tradeNo other .inside := by
  unfold Phase.of
  split
  · cases g with
    | out => exact absurd rfl hg
    | _ => rfl
  · rfl

lemma Works.bind {p : Tx α} {f : α → Tx β} {R : β → Phase → Prop}
    (h : Works node tradeNo other p (fun a g' => Works node tradeNo other (f a) R g') g) :
    Works node tradeNo other (p >>= f : Tx β) R g := by
  refine .tx_bind (.mono h fun x g' hx => ⟨fun e he => ?_, hx.2⟩)
  exact ⟨fun _ _ => hx.1 e he, nofun⟩

lemma Works.mono {p : Tx α} {R R' : α → Phase → Prop} (h : Works node tradeNo other p R g)
    (hR : ∀ a g', R a g' → R' a g') : Works node tradeNo other p R' g :=
  Follows.mono h fun _ _ hx => ⟨hx.1, fun a ha => hR _ _ (hx.2 a ha)⟩

variable {R : α → Phase → Prop}

lemma Works.pure {a : α} (h : R a g) : Works node tradeNo other (Pure.pure a : Tx α) R g :=
  ⟨fun _ he => (nomatch he), fun _ hb => (Except.ok.inj hb) ▸ h⟩

lemma Works.fail (e : Err) (hg : g.ended = Phase.of tradeNo other .inside) :
    Works node tradeNo other (Tx.fail e : Tx α) R g :=
  ⟨fun _ _ => hg, nofun⟩

lemma Works.now {R : ℤ → Phase → Prop} (h : ∀ z, R z g) : Works node tradeNo other (Tx.now : Tx ℤ) R g := by
  intro z
  refine ⟨fun _ he => (nomatch he), fun b hb => ?_⟩
  cases hb
  exact h z

/-- From the phase `g` of its order on, the transaction works and can end where it began. -/
abbrev Ends (node : ℕ) (tradeNo other : String) (p : Tx α) (g : Phase) : Prop :=
  Works node tradeNo other p (fun _ g => g.ended = Phase.of tradeNo other .inside) (Phase.of tradeNo other g)

/-! ### Statements -/

def Phase.afterRead (row : TopUp) : Phase := if row.status = .pending then .seen row else .inside

lemma Phase.afterRead_ne (row : TopUp) : Phase.afterRead row ≠ .out := by
  unfold Phase.afterRead
  split <;> simp

lemma firstTopUp_works (msg : String) :
    Works node tradeNo other (firstTopUp other msg) (fun row g => g = Phase.of tradeNo other (.afterRead row))
      (Phase.of tradeNo other .inside) := by
  have hended : (Phase.of tradeNo other .inside).ended = .of tradeNo other .inside := ended_of .inside (by simp)
  refine .tx_bind (.attempt ⟨?_, fun s _ => ?_⟩)
  · refine ⟨fun _ he => (nomatch he), fun x hx => ?_⟩
    cases hx
    exact Works.fail _ hended
  · cases hs : s (.topUp other) with
    | none =>
      refine ⟨_, .read _ _ _, fun _ he => (nomatch he), fun x hx => ?_⟩
      cases hx
      simp only [hs]
      exact Works.fail _ hended
    | some row =>
      refine ⟨.of tradeNo other (.afterRead row), ?_, fun _ he => (nomatch he), fun x hx => ?_⟩
      · unfold Phase.of Phase.afterRead
        split
        · next heq =>
          subst heq
          split
          · next hp => exact .see _ _ _ hs hp
          · exact .read _ _ _
        · exact .read _ _ _
      · cases hx
        simp only [hs]
        exact Works.pure rfl

lemma saveTopUp_works {row row' : TopUp} (h : row'.status = .success ∨ row'.status = .expired) :
    Works node tradeNo other (saveTopUp other row') (fun _ g => g = Phase.of tradeNo other (.saved row'))
      (Phase.of tradeNo other (.seen row)) := by
  refine ⟨⟨fun _ _ => ended_of _ (by simp), fun _ ha => (nomatch ha)⟩, fun s _ => ⟨.of tradeNo other (.saved row'), ?_, ?_⟩⟩
  · unfold Phase.of
    split
    · next heq =>
      subst heq
      exact .save _ _ _ _ h
    · next hne =>
      refine .neutral _ _ _ _ fun k v hv => ?_
      obtain ⟨rfl, -⟩ := Sigma.mk.inj (List.mem_singleton.1 hv)
      exact ⟨fun hk => hne (Key.topUp.inj hk), rfl⟩
  · exact ⟨fun _ he => (nomatch he), fun _ _ => rfl⟩

lemma creditsAt_add (tradeNo : String) (id : ℕ) (user : User) (other : String) (quota : ℤ) :
    creditsAt tradeNo (.user id) (some (user.add (.topUp other) quota)) =
      creditsAt tradeNo (.user id) (some user) + if other = tradeNo then 1 else 0 := by
  simp [creditsAt, List.countP_append]

variable {row : TopUp} (id : ℕ)

lemma creditUser_works (quota : ℤ) {f : User → User} (hf : ∀ u, (f u).ledger = u.ledger)
    (hrow : row.status = .success) :
    Ends node tradeNo other (creditUser other id quota f) (.saved row) := by
  have hcount : ∀ user, creditsAt tradeNo (.user id) (some (f user)) = creditsAt tradeNo (.user id) (some user) := by
    simp [creditsAt, hf]
  refine ⟨⟨fun _ _ => ended_of _ (by simp), nofun⟩, fun s _ => ?_⟩
  simp only [rowWrite]
  cases hs : s (.user id) with
  | none =>
    refine ⟨_, .neutral _ _ _ _ nofun, nofun, fun _ _ => ended_of _ (by simp)⟩
  | some user =>
    refine ⟨.of tradeNo other (.posted row id), ?_, nofun, fun _ _ => ended_of _ (by simp)⟩
    unfold Phase.of
    split
    · next heq =>
      refine .post _ _ _ _ _ hrow ?_
      rw [hs, creditsAt_add, hcount, if_pos heq]
    · next hne =>
      refine .neutral _ _ _ _ fun k v hv => ?_
      cases List.mem_singleton.1 hv
      rw [hs, creditsAt_add, hcount, if_neg hne]
      exact ⟨by simp, rfl⟩

/-! ### Transactions -/

lemma creemEmail_works (email : String) (hg : g.ended = Phase.of tradeNo other .inside) :
    Works node tradeNo other (creemEmail id email) (fun _ g' => g' = g) g := by
  unfold creemEmail
  split
  · exact .pure rfl
  · refine .bind ⟨⟨fun _ _ => hg, fun _ ha => (nomatch ha)⟩, fun s _ => ⟨g, .read _ _ _, fun _ he => (nomatch he), ?_⟩⟩
    intro row _
    cases row with
    | none => exact .fail _ hg
    | some user => exact .pure rfl

variable {settings : Settings}

lemma ended_afterRead (row : TopUp) :
    (Phase.of tradeNo other (.afterRead row)).ended = Phase.of tradeNo other .inside :=
  ended_of _ (Phase.afterRead_ne row)

lemma works_of_read {msg : String} {f : TopUp → Tx Unit}
    (hf : ∀ row, Ends node tradeNo other (f row) (.afterRead row)) :
    Ends node tradeNo other (firstTopUp other msg >>= f : Tx Unit) .inside := by
  refine .bind ((firstTopUp_works msg).mono ?_)
  rintro row _ rfl
  exact hf row

lemma completion_works {row row' : TopUp} (hp : row.status = .pending) (hs : row'.status = .success) {f : ℕ → Tx Unit}
    (hf : ∀ n, Ends node tradeNo other (f n) (.saved row')) :
    Ends node tradeNo other (saveTopUp other row' >>= f : Tx Unit) (.afterRead row) := by
  rw [Phase.afterRead, if_pos hp]
  refine .bind ((saveTopUp_works (.inl hs)).mono ?_)
  rintro n _ rfl
  exact hf n

lemma creditUser_pure_works (quota : ℤ) {f : User → User} (hf : ∀ u, (f u).ledger = u.ledger)
    (hrow : row.status = .success) :
    Ends node tradeNo other (creditUser other id quota f >>= fun _ => Pure.pure () : Tx Unit) (.saved row) :=
  .bind ((creditUser_works id quota hf hrow).mono fun _ _ hg => .pure hg)

lemma rechargeTx_works (customerId : String) (paymentAmount : ℚ) :
    Ends node tradeNo other (rechargeTx settings other customerId paymentAmount) .inside := by
  refine works_of_read fun row => ?_
  split
  · exact .fail _ (ended_afterRead row)
  · split
    · exact .fail _ (ended_afterRead row)
    · next hp =>
      refine .bind (.now fun now => ?_)
      exact completion_works (not_not.1 hp) rfl fun _ => creditUser_pure_works _ _ (fun _ => rfl) rfl

lemma rechargeCreemTx_works (email : String) : Ends node tradeNo other (rechargeCreemTx other email) .inside := by
  refine works_of_read fun row => ?_
  split
  · exact .fail _ (ended_afterRead row)
  · split
    · exact .fail _ (ended_afterRead row)
    · next hp =>
      refine .bind (.now fun now => ?_)
      refine completion_works (not_not.1 hp) rfl fun _ => .bind ((creemEmail_works _ _ (ended_of _ (by simp))).mono ?_)
      rintro setEmail _ rfl
      refine creditUser_pure_works _ _ (fun user => ?_) rfl
      cases setEmail <;> rfl

lemma completeByQuota_works (hp : row.status = .pending) (quota : ℤ) :
    Ends node tradeNo other (completeByQuota other row quota) (.afterRead row) := by
  unfold completeByQuota
  split
  · exact .fail _ (ended_afterRead row)
  · refine .bind (.now fun now => ?_)
    exact completion_works hp rfl fun _ => creditUser_pure_works _ _ (fun _ => rfl) rfl

lemma rechargeByAmountTx_works (provider : PaymentProvider) :
    Ends node tradeNo other (rechargeByAmountTx settings provider other) .inside := by
  refine works_of_read fun row => ?_
  split
  · exact .fail _ (ended_afterRead row)
  · split
    · exact .pure (ended_afterRead row)
    · split
      · exact .fail _ (ended_afterRead row)
      · next hp => exact completeByQuota_works (not_not.1 hp) _

lemma manualCompleteTopUpTx_works : Ends node tradeNo other (manualCompleteTopUpTx settings other) .inside := by
  refine works_of_read fun row => ?_
  split
  · exact .pure (ended_afterRead row)
  · split
    · exact .fail _ (ended_afterRead row)
    · next hp => exact completeByQuota_works (not_not.1 hp) _

lemma markTopUpExpiredTx_works (expected : Option PaymentProvider) :
    Ends node tradeNo other (markTopUpExpiredTx other expected) .inside := by
  refine works_of_read fun row => ?_
  split
  · exact .fail _ (ended_afterRead row)
  · split
    · exact .pure (ended_afterRead row)
    · next hp =>
      rw [Phase.afterRead, if_pos (not_not.1 hp)]
      refine .bind ((saveTopUp_works (.inr rfl)).mono ?_)
      rintro _ _ rfl
      exact .pure (ended_of _ (by simp))

/-! ### Calls -/

def Locked (node : ℕ) (tradeNo other : String) (p : Tx α) : Prop :=
  (orderProtocol node tradeNo).Follows p (fun _ g => g = Phase.of tradeNo other .inside) (Phase.of tradeNo other .inside)

lemma transaction_locked {body : Tx α}
    (h : Ends node tradeNo other body .inside) : Locked node tradeNo other (transaction body) := by
  refine .transaction rfl ⟨_, .start _, .mono h fun x g hx => ⟨fun e he => ?_, fun a ha => ?_⟩⟩
  · exact ⟨_, .rollback _, hx.1 e he⟩
  · exact ⟨⟨_, .rollback _, hx.2 a ha⟩, fun _ => ⟨_, .commit _, hx.2 a ha⟩⟩

lemma callback_locked {body : Tx Unit}
    (h : Ends node tradeNo other body .inside) : Locked node tradeNo other (callback other body) := by
  refine .ite (fun _ => rfl) fun _ => .tx_bind (.attempt ((transaction_locked h).mono ?_))
  rintro x _ rfl
  refine ⟨fun _ _ => rfl, fun y hy => ?_⟩
  cases y <;> rfl

end functions

inductive OrderCall (tradeNo : String) : Tx Unit → Prop
  | recharge g customerId paymentAmount : OrderCall tradeNo (recharge g tradeNo customerId paymentAmount)
  | rechargeCreem email : OrderCall tradeNo (rechargeCreem tradeNo email)
  | rechargeWaffo g : OrderCall tradeNo (rechargeWaffo g tradeNo)
  | rechargeWaffoPancake g : OrderCall tradeNo (rechargeWaffoPancake g tradeNo)
  | rechargeEpusdt g : OrderCall tradeNo (rechargeEpusdt g tradeNo)
  | manualCompleteTopUp g : OrderCall tradeNo (manualCompleteTopUp g tradeNo)
  | markTopUpExpired provider : OrderCall tradeNo (markTopUpExpired tradeNo provider)

variable {node : ℕ}

lemma OrderCall.locked {tradeNo other : String} {p : Tx Unit} (h : OrderCall other p) :
    Locked node tradeNo other p := by
  cases h with
  | recharge g customerId paymentAmount => exact callback_locked (rechargeTx_works _ _)
  | rechargeCreem email => exact callback_locked (rechargeCreemTx_works _)
  | rechargeWaffo g | rechargeWaffoPancake g | rechargeEpusdt g => exact callback_locked (rechargeByAmountTx_works _)
  | manualCompleteTopUp g => exact .ite (fun _ => rfl) fun _ => transaction_locked manualCompleteTopUpTx_works
  | markTopUpExpired provider => exact .ite (fun _ => rfl) fun _ => transaction_locked (markTopUpExpiredTx_works _)

def Handler (node : ℕ) (tradeNo : String) (p : Prog schema Unit) : Prop :=
  ∃ q, OrderCall tradeNo q ∧ p = Tx.discard (withOrderLock node tradeNo q)

def OneProcess (node : ℕ) (tradeNo : String) (p : Prog schema Unit) : Prop :=
  ∃ n other, Handler n other p ∧ (other = tradeNo → n = node)

lemma OneProcess.follows {tradeNo : String} {p : Prog schema Unit} (h : OneProcess node tradeNo p) :
    (orderProtocol node tradeNo).Follows p (fun _ g => g = .out) .out := by
  obtain ⟨n, other, ⟨q, hq, rfl⟩, hn⟩ := h
  refine .discard ⟨.of tradeNo other .inside, ?_, .bind (hq.locked.mono ?_)⟩
  · unfold Phase.of
    split
    · next heq =>
      obtain rfl := hn heq
      subst heq
      exact .lock
    · next hne => exact .lockOther _ _ hne
  · rintro x _ rfl
    refine ⟨.out, ?_, rfl⟩
    unfold Phase.of
    split
    · next heq =>
      obtain rfl := hn heq
      subst heq
      exact .unlock
    · next hne => exact .unlockOther _ _ hne

/-! ### At most one credit -/

section runs

variable {T : Type} [DecidableEq T] {tradeNo : String} {J : Order → Prop} {σ τ : Sys schema T}
  {acts : List (Act schema T)}

/-- Every call keeps to the lock of the order, and the order as it is stored satisfies `J`. -/
def Ordered (node : ℕ) (tradeNo : String) (J : Order → Prop) (σ : Sys schema T) : Prop :=
  (orderProtocol node tradeNo).Holds (fun d γ => Base node tradeNo d γ ∧ J (orderOf tradeNo d.rows)) σ

lemma run_order (hJ : ∀ A B, J A → Order.Step A B → J B) (h : Ordered node tradeNo J σ)
    (hcalls : Along step (Sys.Calls fun _ p => OneProcess node tradeNo p) σ acts)
    (hrun : runs step σ acts = some τ) : Ordered node tradeNo J τ :=
  h.runs (orderProtocol_keeps hJ) (fun _ _ hp => hp.follows) (Protocol.performs_of_calls hcalls) hrun

lemma run_once {r : Snap schema} {z : ℤ}
    (hcalls : Along step (Sys.Calls fun _ p => OneProcess node tradeNo p) (rest r z) acts)
    (hrun : runs step (rest r z) acts = some σ) : Ordered node tradeNo (Order.Once (orderOf tradeNo r).credits) σ := by
  have hrest : Ordered node tradeNo (Order.Once (orderOf tradeNo r).credits) (rest r z : Sys schema T) :=
    ⟨fun _ => .out, ⟨.rest r z, ⟨.inl rfl, fun _ => rfl⟩⟩, fun _ => rfl⟩
  exact run_order (fun _ _ hA hAB => hA.step hAB) hrest hcalls hrun

lemma run_same (h : Ordered node tradeNo J σ)
    (hfinal : ∀ B, Order.Step (orderOf tradeNo σ.db.rows) B → B = orderOf tradeNo σ.db.rows)
    (hcalls : Along step (Sys.Calls fun _ p => OneProcess node tradeNo p) σ acts)
    (hrun : runs step σ acts = some τ) : orderOf tradeNo τ.db.rows = orderOf tradeNo σ.db.rows := by
  obtain ⟨γ, ⟨hbase, -⟩, hall⟩ := h
  have hτ : Ordered node tradeNo (· = orderOf tradeNo σ.db.rows) τ := by
    refine run_order ?_ ⟨γ, ⟨hbase, rfl⟩, hall⟩ hcalls hrun
    rintro _ B rfl
    exact hfinal B
  obtain ⟨γ', ⟨-, hsame⟩, -⟩ := hτ
  exact hsame

end runs

/-- **At most one credit**, however the calls interleave. -/
theorem order_credited_once {T : Type} [DecidableEq T] (node : ℕ) (tradeNo : String) (r : Snap schema) (z : ℤ)
    (acts acts' : List (Act schema T)) (σ τ : Sys schema T)
    (hcalls : Along Sys.step (Sys.Calls fun _ p => OneProcess node tradeNo p) (Sys.rest r z) acts)
    (hrun : runs Sys.step (Sys.rest r z) acts = some σ)
    (hcalls' : Along Sys.step (Sys.Calls fun _ p => OneProcess node tradeNo p) σ acts')
    (hrun' : runs Sys.step σ acts' = some τ) :
    AddedOnce (orderOf tradeNo r).credits (orderOf tradeNo τ.db.rows).credits ∧
      ((orderOf tradeNo σ.db.rows).status = some .expired →
        (orderOf tradeNo τ.db.rows).credits = (orderOf tradeNo r).credits) := by
  have hσ := run_once hcalls hrun
  refine ⟨?_, fun hexpired => ?_⟩
  · obtain ⟨γ, ⟨-, honce⟩, -⟩ := run_order (fun _ _ hA hAB => hA.step hAB) hσ hcalls' hrun'
    exact honce.added
  · rw [run_same hσ (fun _ hAB => hAB.of_not_pending (by simp [hexpired])) hcalls' hrun']
    obtain ⟨γ, ⟨-, honce⟩, -⟩ := hσ
    exact honce.uncredited (by simp [hexpired])

/-- **An order is final** once it is not pending, and is credited only as it is completed. -/
theorem order_final {T : Type} [DecidableEq T] (node : ℕ) (tradeNo : String) (r : Snap schema) (z : ℤ)
    (acts acts' : List (Act schema T)) (σ τ : Sys schema T)
    (hcalls : Along Sys.step (Sys.Calls fun _ p => OneProcess node tradeNo p) (Sys.rest r z) acts)
    (hrun : runs Sys.step (Sys.rest r z) acts = some σ)
    (hcalls' : Along Sys.step (Sys.Calls fun _ p => OneProcess node tradeNo p) σ acts')
    (hrun' : runs Sys.step σ acts' = some τ) :
    ((orderOf tradeNo σ.db.rows).status ≠ some .success →
      (orderOf tradeNo σ.db.rows).credits = (orderOf tradeNo r).credits) ∧
    ((orderOf tradeNo σ.db.rows).status ≠ some .pending → orderOf tradeNo τ.db.rows = orderOf tradeNo σ.db.rows) := by
  have hσ := run_once hcalls hrun
  refine ⟨?_, fun hfinal => run_same hσ (fun _ hAB => hAB.of_not_pending hfinal) hcalls' hrun'⟩
  obtain ⟨γ, ⟨-, honce⟩, -⟩ := hσ
  exact honce.uncredited

/-! ### Two processes -/

def oneOrder : Snap schema
  | .user u => if u = 1 then some { } else none
  | .topUp tradeNo => if tradeNo = "A" then
      some { id := 1, userId := 1, amount := 2, money := 2, paymentProvider := .waffo, status := .pending } else none
  | k => noRows k

def notified (node : ℕ) : Act schema Bool :=
  .call false (Tx.discard (withOrderLock node "A" (rechargeWaffo { } "A")))

def administered (node : ℕ) : Act schema Bool :=
  .call true (Tx.discard (withOrderLock node "A" (manualCompleteTopUp { } "A")))

lemma handlers_of_mem {code : Prog schema Unit → Prop} {m n : ℕ} (hm : ∀ p, Handler m "A" p → code p)
    (hn : ∀ p, Handler n "A" p → code p) {acts : List (Act schema Bool)}
    (h : ∀ a ∈ acts, a = notified m ∨ a = administered n ∨ ∃ t, a = .step t) (σ : Sys schema Bool) :
    Along step (Sys.Calls fun _ p => code p) σ acts := by
  refine .of_forall (fun σ a ha => ?_) σ
  rcases h a ha with rfl | rfl | ⟨t, rfl⟩
  · exact hm _ ⟨_, .rechargeWaffo _, rfl⟩
  · exact hn _ ⟨_, .manualCompleteTopUp _, rfl⟩
  · trivial

def inOneProcess : List (Act schema Bool) :=
  notified 0 :: administered 0 :: (List.replicate 8 (.step false) ++ List.replicate 5 (.step true))

lemma inOneProcess_runs : (runs step (rest oneOrder 100) inOneProcess).isSome := by decide +kernel

theorem order_credited_once_inOneProcess :
    ∃ σ, runs Sys.step (Sys.rest oneOrder 100) inOneProcess = some σ ∧ (∀ t, (σ.pc t).done) ∧
      (σ.db.rows (.user 1)).map User.quota = some 1000000 ∧
      AddedOnce (orderOf "A" oneOrder).credits (orderOf "A" σ.db.rows).credits := by
  have hrun := (Option.some_get inOneProcess_runs).symm
  have hcode : ∀ p, Handler 0 "A" p → OneProcess 0 "A" p := fun p hp => ⟨0, "A", hp, fun _ => rfl⟩
  have hcalls : Along step (Sys.Calls fun _ p => OneProcess 0 "A" p) (.rest oneOrder 100) inOneProcess :=
    handlers_of_mem hcode hcode (by simp [inOneProcess]) _
  exact ⟨_, hrun, by decide +kernel, by decide +kernel,
    (order_credited_once 0 "A" oneOrder 100 inOneProcess [] _ _ hcalls hrun trivial rfl).1⟩

theorem order_final_inOneProcess :
    ∃ σ τ, runs Sys.step (Sys.rest oneOrder 100) inOneProcess = some σ ∧
      runs Sys.step σ [administered 0, .step true, .step true, .step true] = some τ ∧
      orderOf "A" τ.db.rows = orderOf "A" σ.db.rows := by
  have hcode : ∀ p, Handler 0 "A" p → OneProcess 0 "A" p := fun p hp => ⟨0, "A", hp, fun _ => rfl⟩
  have hrun := (Option.some_get inOneProcess_runs).symm
  have hrun' := (Option.some_get (x := runs step (Option.get _ inOneProcess_runs)
    [administered 0, .step true, .step true, .step true]) (by decide +kernel)).symm
  exact ⟨_, _, hrun, hrun', (order_final 0 "A" oneOrder 100 _ _ _ _
    (handlers_of_mem hcode hcode (by simp [inOneProcess]) _) hrun (handlers_of_mem hcode hcode (by simp) _) hrun').2
    (by decide +kernel)⟩

/-- Each in its own process: both read the order before one of them saves it. -/
def inTwoProcesses : List (Act schema Bool) :=
  notified 0 :: administered 1 :: (List.replicate 3 (.step false) ++ List.replicate 3 (.step true) ++
    List.replicate 5 (.step false) ++ List.replicate 5 (.step true))

lemma inTwoProcesses_runs : (runs step (rest oneOrder 100) inTwoProcesses).isSome := by decide +kernel

/-- **Credited twice.** The user gets the two units of the order twice. -/
theorem inTwoProcesses_not_addedOnce :
    Along Sys.step (Sys.Calls fun _ p => ∃ node, Handler node "A" p) (Sys.rest oneOrder 100) inTwoProcesses ∧
    ∃ σ, runs Sys.step (Sys.rest oneOrder 100) inTwoProcesses = some σ ∧ (∀ t, (σ.pc t).done) ∧
      (σ.db.rows (.user 1)).map User.quota = some 2000000 ∧
      ¬AddedOnce (orderOf "A" oneOrder).credits (orderOf "A" σ.db.rows).credits := by
  refine ⟨handlers_of_mem (fun _ hp => ⟨0, hp⟩) (fun _ hp => ⟨1, hp⟩) (by simp [inTwoProcesses]) _, _,
    (Option.some_get inTwoProcesses_runs).symm, by decide +kernel, by decide +kernel,
    fun honce => absurd (honce.le 1) ?_⟩
  decide +kernel

end StarNexus.Account
