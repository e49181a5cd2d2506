import Mathlib.Algebra.BigOperators.Group.List.Basic
import Mathlib.Tactic.Ring
import StarNexus.Ledger.Writes

/-!
# The books

What a billing transaction has contributed to a balance is the sum of the ledger entries made for it.  `Books`
relates the ledgers of all users and tokens to a table of *accounts* (for each id, the row as far as it says whose
balances it draws on) and to the amounts that each account holds back from the wallet and from the token.  The
table is separate from `billing_transactions`, so that `Books` can be followed through a transaction whose
statements have moved money but not yet written the row.

`Conserved` is the property of the committed rows: every row holds back exactly what its state says.
-/

namespace StarNexus.Ledger

open Lib Lib.Tx Model Service
open Function (update update_of_ne update_self)

/-! ### Ledgers -/

def rowOf : Cause → Option ℕ
  | .durable _ row => some row
  | _ => none

def contribution (id : ℕ) (l : List Entry) : ℤ := (l.map fun e => if rowOf e.cause = some id then e.delta else 0).sum

def total (l : List Entry) : ℤ := (l.map Entry.delta).sum

@[simp] lemma contribution_nil (id : ℕ) : contribution id [] = 0 := rfl

@[simp] lemma contribution_append_one (id : ℕ) (l : List Entry) (e : Entry) :
    contribution id (l ++ [e]) = contribution id l + if rowOf e.cause = some id then e.delta else 0 := by
  simp [contribution]

@[simp] lemma total_append_one (l : List Entry) (e : Entry) : total (l ++ [e]) = total l + e.delta := by
  simp [total]

def ledgerOf : (k : Key) → Val k → List Entry
  | .user _, x => (x.map User.ledger).getD []
  | .token _, x => (x.map Token.ledger).getD []
  | .subscription _, x => (x.map UserSubscription.ledger).getD []
  | _, _ => []

inductive FundKey where
  | user (id : ℕ)
  | subscription (id : ℕ)
  deriving DecidableEq

def FundKey.key : FundKey → Key
  | .user id => .user id
  | .subscription id => .subscription id

lemma FundKey.key_inj {a b : FundKey} (h : a.key = b.key) : a = b := by
  cases a <;> cases b <;> simp_all [FundKey.key]

lemma FundKey.key_ne_task (a : FundKey) (id : ℕ) : a.key ≠ .task id := by
  cases a <;> simp [FundKey.key]

def userLedger (s : Snap schema) (u : ℕ) : List Entry := ((s (.user u)).map User.ledger).getD []

def tokenLedger (s : Snap schema) (n : ℕ) : List Entry := ((s (.token n)).map Token.ledger).getD []

/-! ### Accounts -/

def walletShare (row : Option BillingTransaction) (u : ℕ) (held : ℤ) : ℤ :=
  match row with
  | some row => if row.fundingSource = .wallet ∧ row.userID = u then -held else 0
  | none => 0

def tokenShare (row : Option BillingTransaction) (n : ℕ) (held : ℤ) : ℤ :=
  match row with
  | some row => if row.skipTokenQuota = false ∧ row.tokenID = n then -held else 0
  | none => 0

structure Base where
  quota : ℕ → ℤ
  remain : ℕ → ℤ

/-- The ledgers agree with the accounts and the balances with the ledgers. -/
structure Books (base : Base) (acct : ℕ → Option BillingTransaction) (hw ht : ℕ → ℤ) (s : Snap schema) : Prop where
  wallet : ∀ id u, 0 < u → contribution id (userLedger s u) = walletShare (acct id) u (hw id)
  token : ∀ id n, 0 < n → contribution id (tokenLedger s n) = tokenShare (acct id) n (ht id)
  quota : ∀ u x, s (.user u) = some x → x.quota = base.quota u + total x.ledger
  remain : ∀ n x, s (.token n) = some x → x.remainQuota = base.remain n + total x.ledger

section books

variable {base : Base} {acct acct' : ℕ → Option BillingTransaction} {hw ht hw' ht' : ℕ → ℤ} {s s' : Snap schema}

lemma Books.congr (h : Books base acct hw ht s)
    (hwallet : ∀ id u, 0 < u → walletShare (acct' id) u (hw' id) = walletShare (acct id) u (hw id))
    (htoken : ∀ id n, 0 < n → tokenShare (acct' id) n (ht' id) = tokenShare (acct id) n (ht id)) :
    Books base acct' hw' ht' s :=
  ⟨fun id u hu => (h.wallet id u hu).trans (hwallet id u hu).symm,
    fun id n hn => (h.token id n hn).trans (htoken id n hn).symm, h.quota, h.remain⟩

lemma Books.transfer (h : Books base acct hw ht s)
    (huser : ∀ u, (s' (.user u)).map booksOf = (s (.user u)).map booksOf)
    (htoken : ∀ n, s' (.token n) = s (.token n)) : Books base acct hw ht s' := by
  have hledger : ∀ u, userLedger s' u = userLedger s u := by
    intro u
    have hproj : ∀ t : Snap schema, userLedger t u = (((t (.user u)).map booksOf).map Prod.snd).getD [] := by
      simp [userLedger, booksOf, Function.comp_def]
    rw [hproj, hproj, huser u]
  have htl : ∀ n, tokenLedger s' n = tokenLedger s n := fun n => by simp [tokenLedger, htoken n]
  refine ⟨fun id u hu => ?_, fun id n hn => ?_, fun u x hx => ?_, fun n x hx => ?_⟩
  · rw [hledger u, h.wallet id u hu]
  · rw [htl n, h.token id n hn]
  · have hx' := huser u
    rw [hx, Option.map_some, eq_comm, Option.map_eq_some_iff] at hx'
    obtain ⟨y, hy, hyx⟩ := hx'
    obtain ⟨hq, hl⟩ := Prod.mk.inj hyx
    rw [← hq, ← hl, h.quota u y hy]
  · rw [htoken n] at hx
    exact h.remain n x hx

lemma shares_post {ledger ledger' : ℕ → List Entry} {share : Option BillingTransaction → ℕ → ℤ → ℤ} {held : ℕ → ℤ}
    (h : ∀ i v, 0 < v → contribution i (ledger v) = share (acct i) v (held i)) {id : ℕ} (u : ℕ) (op : DurableOp) (delta : ℤ)
    (hself : ledger' u = ledger u ++ [⟨.durable op id, delta⟩]) (hother : ∀ v, v ≠ u → ledger' v = ledger v)
    (hown : ∀ v q, share (acct id) v q = if u = v then -q else 0) (i v : ℕ) (hv : 0 < v) :
    contribution i (ledger' v) = share (acct i) v (update held id (held id - delta) i) := by
  have hold := h i v hv
  by_cases hvu : v = u
  · subst hvu
    rw [hself, contribution_append_one, hold]
    by_cases hi : i = id
    · subst hi
      simp only [rowOf, if_true, update_self, hown]
      ring
    · simp [rowOf, hi, Ne.symm hi]
  · rw [hother v hvu, hold]
    by_cases hi : i = id
    · subst hi
      simp [hown, Ne.symm hvu]
    · simp [hi]

variable {row : BillingTransaction}

lemma Books.postUser (h : Books base acct hw ht s) {id u : ℕ} {x : User}
    (hx : s (.user u) = some x) (hrow : acct id = some row) (hsrc : row.fundingSource = .wallet)
    (hown : row.userID = u) (op : DurableOp) (delta : ℤ) :
    Books base acct (update hw id (hw id - delta)) ht
      (update s (.user u) (some (x.add (.durable op id) delta))) := by
  refine ⟨shares_post h.wallet u op delta (by simp [userLedger, User.add, hx])
    (fun v hv => by simp [userLedger, hv]) (by simp [hrow, walletShare, hsrc, hown]), fun i n hn => ?_,
    fun v y hy => ?_, fun n y hy => h.remain n y (by exact hy)⟩
  · exact (congrArg _ (by simp [tokenLedger])).trans (h.token i n hn)
  · by_cases hvu : v = u
    · subst hvu
      simp only [update_self, Option.some.injEq] at hy
      subst hy
      simp only [User.add, total_append_one, h.quota v x hx]
      ring
    · rw [update_of_ne (by simpa using hvu)] at hy
      exact h.quota v y hy

lemma Books.postToken (h : Books base acct hw ht s) {id n : ℕ} {x : Token}
    (hx : s (.token n) = some x) (hrow : acct id = some row) (hskip : row.skipTokenQuota = false)
    (hown : row.tokenID = n) (op : DurableOp) (delta z : ℤ) :
    Books base acct hw (update ht id (ht id - delta))
      (update s (.token n) (some (x.add (.durable op id) delta z))) := by
  refine ⟨fun i v hv => ?_, shares_post h.token n op delta (by simp [tokenLedger, Token.add, hx])
    (fun v hv => by simp [tokenLedger, hv]) (by simp [hrow, tokenShare, hskip, hown]),
    fun v y hy => h.quota v y (by exact hy), fun m y hy => ?_⟩
  · exact (congrArg _ (by simp [userLedger])).trans (h.wallet i v hv)
  · by_cases hmn : m = n
    · subst hmn
      simp only [update_self, Option.some.injEq] at hy
      subst hy
      simp only [Token.add, total_append_one, h.remain m x hx]
      ring
    · rw [update_of_ne (by simpa using hmn)] at hy
      exact h.remain m y hy

end books

end StarNexus.Ledger
