import StarNexus.Lib.Tally
import StarNexus.Lib.Unique
import StarNexus.Ledger.Books

/-!
# Settling against refunding

One reservation of a wallet request is settled by its request while refunds, the sweep of stale reservations and the
coordinators may want to give it back.  The settlement reads the row, moves the difference to the amount really
used, and then updates the row if it is still reserved; nobody looks at how many rows that update changed.  The
protocol of this module is what the functions do under the condition that the update finds the row still
reserved whenever the difference is not zero.

A reservation that has left the state `reserved` without being settled is *doomed*: no function leads it back.
-/

namespace StarNexus.Ledger.SettleRace

open Lib Lib.Tx Model Service Protocol
open Function (comp_update forall_update_iff update_eq_self update_of_ne update_self)

structure Reservation where
  id : ℕ
  user : ℕ
  quota : ℤ
  actual : ℤ

variable (ρ : Reservation)

def moved (k : Key) (v : Val k) : ℤ := if k = .user ρ.user then contribution ρ.id (ledgerOf k v) else 0

abbrev Reservation.outbox : Key := .outbox (.quotaCache ρ.id)

def doomed (row : BillingTransaction) : Prop := row.state ≠ .reserved ∧ row.state ≠ .settled

/-- The row of the reservation: what no function changes, and that a doomed row is to be refunded. -/
structure Shape (row : BillingTransaction) : Prop where
  source : row.fundingSource = .wallet
  user : row.userID = ρ.user
  quota : row.reservedQuota = ρ.quota
  unbound : row.taskDBID = 0
  target : doomed row → row.targetTaskStatus = .failure

/-- What the wallet has been charged when the row is in its state and the outbox row is there or not. -/
structure Meaning (row : BillingTransaction) (applied : Prop) (h : ℤ) : Prop where
  zero : applied → h = 0 ∧ doomed row
  settled : ¬applied → row.state = .settled → h = -ρ.actual
  other : ¬applied → row.state ≠ .settled → h = -ρ.quota
  refunded : ¬applied → row.state ≠ .refunded

/-! ### The protocol -/

inductive Wrote where
  | nothing
  | settle
  | finish
  deriving DecidableEq

/-- What the open transaction of a client has done about the reservation, and whether it has seen it doomed. -/
structure Phase where
  paid : ℤ := 0
  key : Bool := false
  doom : Bool := false
  wrote : Wrote := .nothing

def Phase.posted (g : Phase) (k : Key) : ℤ := if k = .user ρ.user then g.paid else 0

def Aside (s : Snap schema) (k : Key) (v : Val k) : Prop :=
  k ≠ ρ.outbox ∧ k ≠ .billing ρ.id ∧ k ≠ .task 0 ∧ moved ρ k v = moved ρ k (s k)

/-- What statements outside transactions do to the row: they doom it or keep it doomed. -/
def Dooms (row row' : BillingTransaction) : Prop :=
  row.state ≠ .settled ∧ row.state ≠ .refunded ∧ doomed row' ∧ row'.state ≠ .refunded ∧ Shape ρ row'

inductive Goes : Phase → Move schema → Phase → Prop
  | read g ℓ s : Goes g (.read ℓ s) g
  | readDoomed g ℓ s row (hg : g.wrote = .nothing) (hrow : s (.billing ρ.id) = some row) (h : doomed row) :
      Goes g (.read ℓ s) { g with doom := true }
  | start g : Goes g .start g
  | emit g e : Goes g (.emit e) g
  | aside g ℓ s ws (h : ∀ k v, (⟨k, v⟩ : Write schema) ∈ ws → Aside ρ s k v) : Goes g (.update ℓ s ws) g
  | auto g ℓ s ws
      (h : ∀ k v, (⟨k, v⟩ : Write schema) ∈ ws → Aside ρ s k v ∨ ∃ row row', s (.billing ρ.id) = some row ∧
        (⟨k, v⟩ : Write schema) = ⟨.billing ρ.id, some row'⟩ ∧ Dooms ρ row row') : Goes g (.auto ℓ s ws) g
  | pay g ℓ s v delta (h : moved ρ (.user ρ.user) v = moved ρ (.user ρ.user) (s (.user ρ.user)) + delta) :
      Goes g (.update ℓ s [⟨.user ρ.user, v⟩]) { g with paid := g.paid + delta }
  | settle g ℓ s row row' (hg : g.wrote = .nothing) (hrow : s (.billing ρ.id) = some row) (h : row.state = .reserved)
      (hshape : Shape ρ row') (hsettled : row'.state = .settled) :
      Goes g (.update ℓ s [⟨.billing ρ.id, some row'⟩]) { g with wrote := .settle }
  | finish g ℓ s row' (hg : g.wrote = .nothing) (hdoom : g.doom = true) (hshape : Shape ρ row')
      (hrefunded : row'.state = .refunded) :
      Goes g (.update ℓ s [⟨.billing ρ.id, some row'⟩]) { g with wrote := .finish }
  | key g ℓ s x (h : s ρ.outbox = none) : Goes g (.update ℓ s [⟨ρ.outbox, some x⟩]) { g with key := true }
  | commitNothing g (hkey : g.key = false) (hwrote : g.wrote = .nothing) (hpaid : g.paid = 0) : Goes g .commit {}
  | commitSettle g (hkey : g.key = false) (hwrote : g.wrote = .settle) (hpaid : g.paid = ρ.quota - ρ.actual) :
      Goes g .commit {}
  | commitRefund g (hkey : g.key = true) (hwrote : g.wrote ≠ .settle) (hdoom : g.doom = true)
      (hpaid : g.paid = ρ.quota) : Goes g .commit {}
  | rollback g : Goes g .rollback {}

/-- When the settlement of the reservation updates the row after having moved money, the row is still reserved. -/
def InTime : Move schema → Prop
  | .update (.settleState j delta) s _ =>
    j = ρ.id → delta ≠ 0 → (s (.billing ρ.id)).map BillingTransaction.state = some .reserved
  | _ => True

instance (m : Move schema) : Decidable (InTime ρ m) := by
  unfold InTime
  split <;> infer_instance

/-- What a client sees: the row in its shape, no task with id 0, and a row that is settled in time. -/
def Sees (_ : Phase) : Move schema → Prop
  | .read _ s => (∃ row, s (.billing ρ.id) = some row ∧ Shape ρ row) ∧ s (.task 0) = none
  | .update ℓ s ws => (∃ row, s (.billing ρ.id) = some row ∧ Shape ρ row) ∧ InTime ρ (.update ℓ s ws)
  | .auto _ s _ => ∃ row, s (.billing ρ.id) = some row ∧ Shape ρ row
  | _ => True

def settleRace : Protocol schema Phase where
  idle := {}
  sees := Sees ρ
  goes := Goes ρ
  stops g := g = {}
  stops_idle := rfl

/-! ### The invariant -/

section invariant

variable {T : Type} [DecidableEq T] {ρ} {d : Db schema T} {γ : T → Phase} {t : T}

def Written (ρ : Reservation) (g : Phase) (row : BillingTransaction) (v : Option BillingTransaction) : Prop :=
  ∃ row', v = some row' ∧ Shape ρ row' ∧
    (g.wrote = .settle ∧ row'.state = .settled ∧ row.state = .reserved ∨
      g.wrote = .finish ∧ row'.state = .refunded ∧ doomed row)

structure Inv (ρ : Reservation) (d : Db schema T) (γ : T → Phase) : Prop where
  tally : Tally (moved ρ) d (Phase.posted ρ ∘ γ)
  unique : Unique ρ.outbox (· = none) d (Phase.key ∘ γ)
  task : d.rows (.task 0) = none ∧ d.dirty (.task 0) = none
  row : ∃ row, d.rows (.billing ρ.id) = some row ∧ Shape ρ row ∧
    Meaning ρ row (d.rows ρ.outbox ≠ none) (moved ρ (.user ρ.user) (d.rows (.user ρ.user))) ∧
    (∀ t, (γ t).doom = true → doomed row) ∧
    ∀ t v, d.dirty (.billing ρ.id) = some (t, v) → Written ρ (γ t) row v
  holds : ∀ t, (γ t).wrote ≠ .nothing → ∃ v, d.dirty (.billing ρ.id) = some (t, v)

omit [DecidableEq T] in
lemma Inv.congr (h : Inv ρ d γ) {d' : Db schema T} (hrows : d'.rows = d.rows) (hdirty : d'.dirty = d.dirty) :
    Inv ρ d' γ := by
  refine ⟨h.tally.congr hrows hdirty, h.unique.congr (by rw [hrows]) (by rw [hdirty]), ?_, ?_, hdirty ▸ h.holds⟩
  all_goals rw [hrows, hdirty]
  exacts [h.task, h.row]

lemma Inv.view_row (h : Inv ρ d γ) (ht : (γ t).wrote = .nothing) :
    d.view t (.billing ρ.id) = d.rows (.billing ρ.id) := by
  obtain ⟨row, -, -, -, -, hwritten⟩ := h.row
  refine d.view_of_not_holder fun v hv => ?_
  obtain ⟨row', -, -, hcase⟩ := hwritten t v hv
  rw [ht] at hcase
  simp at hcase

lemma Inv.shape_view (h : Inv ρ d γ) (t : T) : ∃ row, d.view t (.billing ρ.id) = some row ∧ Shape ρ row := by
  obtain ⟨row, hrow, hshape, -, -, hwritten⟩ := h.row
  rcases d.view_cases t (.billing ρ.id) with hv | ⟨-, heq⟩
  · obtain ⟨row', hrow', hshape', -⟩ := hwritten t _ hv
    exact ⟨row', hrow', hshape'⟩
  · exact ⟨row, heq.trans hrow, hshape⟩

variable {ws : List (Write schema)} {g : Phase}

lemma Inv.write_other (h : Inv ρ d γ)
    (htally : Tally (moved ρ) (d.write t ws) (Function.update (Phase.posted ρ ∘ γ) t (g.posted ρ)))
    (hunique : Unique ρ.outbox (· = none) (d.write t ws) (Function.update (Phase.key ∘ γ) t g.key))
    (hws : ∀ w ∈ ws, w.1 ≠ .billing ρ.id ∧ w.1 ≠ .task 0) (hdoom : g.doom = (γ t).doom)
    (hwrote : g.wrote = (γ t).wrote) : Inv ρ (d.write t ws) (Function.update γ t g) := by
  have hdirty : (d.write t ws).dirty (.billing ρ.id) = d.dirty (.billing ρ.id) :=
    Db.dirty_write_of_not_mem fun w hw => (hws w hw).1
  have hdooms : ∀ u, (Function.update γ t g u).doom = (γ u).doom := congrFun (comp_update_of_eq hdoom)
  have hwrotes : ∀ u, (Function.update γ t g u).wrote = (γ u).wrote := congrFun (comp_update_of_eq hwrote)
  obtain ⟨row, hrow, hshape, hmeaning, hd, hwritten⟩ := h.row
  refine ⟨?_, ?_, ⟨h.task.1, ?_⟩, ⟨row, hrow, hshape, hmeaning, fun u hu => ?_, fun u v hv => ?_⟩, fun u hu => ?_⟩
  · rwa [comp_update]
  · rwa [comp_update]
  · rw [Db.dirty_write_of_not_mem fun w hw => (hws w hw).2]
    exact h.task.2
  · rw [hdooms] at hu
    exact hd u hu
  · rw [hdirty] at hv
    obtain ⟨row', hv', hshape', hcase⟩ := hwritten u v hv
    exact ⟨row', hv', hshape', by rwa [hwrotes]⟩
  · rw [hdirty]
    exact h.holds u (by rwa [hwrotes] at hu)

variable {row' : BillingTransaction}

lemma Inv.write_row (h : Inv ρ d γ)
    (hfree : d.free t [(⟨.billing ρ.id, some row'⟩ : Write schema)]) (hpaid : g.posted ρ = (γ t).posted ρ)
    (hkey : g.key = (γ t).key) (hdoom : g.doom = (γ t).doom)
    (hw : ∀ row, d.rows (.billing ρ.id) = some row → Written ρ g row (some row')) :
    Inv ρ (d.write t [⟨.billing ρ.id, some row'⟩]) (Function.update γ t g) := by
  have hself : (d.write t [⟨.billing ρ.id, some row'⟩]).dirty (.billing ρ.id) = some (t, some row') :=
    update_self _ _ _
  obtain ⟨row, hrow, hshape, hmeaning, hd, hwritten⟩ := h.row
  refine ⟨?_, ?_, ⟨h.task.1, ?_⟩, ⟨row, hrow, hshape, hmeaning, fun u hu => ?_, fun u v hv => ?_⟩, fun u hu => ?_⟩
  · rw [comp_update_of_eq hpaid]
    exact h.tally.update_one hfree rfl
  · rw [comp_update_of_eq hkey]
    exact h.unique.write_other (by simp)
  · exact h.task.2
  · have hdooms : (Function.update γ t g u).doom = (γ u).doom := congrFun (comp_update_of_eq hdoom) u
    exact hd u (hdooms.symm.trans hu)
  · rw [hself] at hv
    cases hv
    rw [update_self]
    exact hw row hrow
  · by_cases hut : u = t
    · subst hut
      exact ⟨_, hself⟩
    · obtain ⟨v, hv⟩ := h.holds u (by rwa [update_of_ne hut] at hu)
      exact absurd (Db.free_holder hfree (.head _) hv) hut

lemma posted_idle : ({} : Phase).posted ρ = 0 := by
  funext k
  simp [Phase.posted]

section

variable (h : Inv ρ d γ)

include h

lemma Inv.update {ℓ : Label} (hfree : d.free t ws)
    (hgo : Goes ρ (γ t) (.update ℓ (d.view t) ws) g) : Inv ρ (d.write t ws) (Function.update γ t g) := by
  cases hgo with
  | aside _ _ _ ha =>
    refine h.write_other ?_ ?_ (fun w hw => ⟨(ha w.1 w.2 hw).2.1, (ha w.1 w.2 hw).2.2.1⟩) rfl rfl
    · rw [← comp_update, update_eq_self]
      exact h.tally.update_neutral hfree fun k v hv => (ha k v hv).2.2.2
    · rw [← comp_update, update_eq_self]
      exact h.unique.write_other fun w hw => (ha w.1 w.2 hw).1
  | pay _ _ v delta hv =>
    refine h.write_other ?_ ?_ (by simp) rfl rfl
    · have hposted : ({ γ t with paid := (γ t).paid + delta } : Phase).posted ρ =
          (γ t).posted ρ + fun k => if k = .user ρ.user then delta else 0 := by
        funext k
        by_cases hk : k = .user ρ.user <;> simp [Phase.posted, hk]
      rw [hposted]
      exact h.tally.post hfree hv
    · rw [← comp_update, comp_update_of_eq (by rfl)]
      exact h.unique.write_other (by simp)
  | settle _ _ row row' hg hrow hres hshape hsettled =>
    rw [h.view_row hg] at hrow
    refine h.write_row hfree rfl rfl rfl fun r hr => ⟨row', rfl, hshape, .inl ⟨rfl, hsettled, ?_⟩⟩
    obtain rfl : row = r := Option.some.inj (hrow.symm.trans hr)
    exact hres
  | finish _ _ row' hg hdoom hshape hrefunded =>
    obtain ⟨row, hrow, -, -, hd, -⟩ := h.row
    refine h.write_row hfree rfl rfl rfl fun r hr => ⟨row', rfl, hshape, .inr ⟨rfl, hrefunded, ?_⟩⟩
    obtain rfl : row = r := Option.some.inj (hrow.symm.trans hr)
    exact hd t hdoom
  | key _ _ x hnone =>
    refine h.write_other ?_ (h.unique.insert hfree hnone (by simp)) (by simp) rfl rfl
    have hposted : ({ γ t with key := true } : Phase).posted ρ = (γ t).posted ρ := rfl
    rw [← comp_update, comp_update_of_eq hposted]
    exact h.tally.update_one hfree rfl

lemma Inv.rollback (t : T) : Inv ρ (d.rollback t) (Function.update γ t {}) := by
  obtain ⟨row, hrow, hshape, hmeaning, hd, hwritten⟩ := h.row
  have hnone : d.release t (.task 0) = none := by
    rw [d.release_of_not_holder fun v hv => by rw [h.task.2] at hv; cases hv]
    exact h.task.2
  refine ⟨?_, ?_, ⟨h.task.1, hnone⟩, ⟨row, hrow, hshape, hmeaning, ?_, fun u v hv => ?_⟩, ?_⟩
  · rw [comp_update, posted_idle]
    exact h.tally.rollback t
  · rw [comp_update]
    exact h.unique.rollback t
  · exact (forall_update_iff γ fun _ g => g.doom = true → doomed row).2 ⟨nofun, fun u _ => hd u⟩
  · obtain ⟨hv', hut⟩ := (d.release_eq_some).1 hv
    rw [update_of_ne hut]
    exact hwritten u v hv'
  · refine (forall_update_iff γ fun u g => g.wrote ≠ .nothing → ∃ v, d.release t _ = some (u, v)).2
      ⟨fun hu => absurd rfl hu, fun u hut hu => ?_⟩
    obtain ⟨v, hv⟩ := h.holds u hu
    exact ⟨v, (d.release_eq_some).2 ⟨hv, hut⟩⟩

lemma Inv.commit_row (hrow' : d.view t (.billing ρ.id) = some row')
    (hshape : Shape ρ row')
    (hmeaning : Meaning ρ row' (d.view t ρ.outbox ≠ none) (moved ρ (.user ρ.user) (d.view t (.user ρ.user))))
    (hdoom : ∀ u, u ≠ t → (γ u).doom = true → doomed row') : Inv ρ (d.commit t) (Function.update γ t {}) := by
  have hr := h.rollback t
  obtain ⟨row, hrow, -, -, -, hwritten⟩ := h.row
  have htask : d.view t (.task 0) = none := by
    rw [d.view_of_none h.task.2]
    exact h.task.1
  refine ⟨?_, ?_, ⟨htask, hr.task.2⟩, ⟨row', hrow', hshape, hmeaning, ?_, fun u v hv => ?_⟩, hr.holds⟩
  · rw [comp_update, posted_idle]
    exact h.tally.commit t
  · rw [comp_update]
    exact h.unique.commit t
  · exact (forall_update_iff γ fun _ g => g.doom = true → doomed row').2 ⟨nofun, hdoom⟩
  · obtain ⟨hv', hut⟩ := (d.release_eq_some).1 hv
    rw [d.view_of_other hv' hut, hrow] at hrow'
    cases hrow'
    rw [update_of_ne hut]
    exact hwritten u v hv'

lemma Inv.commit (hgo : Goes ρ (γ t) .commit g) :
    Inv ρ (d.commit t) (Function.update γ t g) := by
  have hmoved : moved ρ (.user ρ.user) (d.view t (.user ρ.user)) =
      moved ρ (.user ρ.user) (d.rows (.user ρ.user)) + (γ t).paid := by
    rw [h.tally.view t]
    simp [Phase.posted]
  obtain ⟨row, hrow, hshape, hmeaning, hd, hwritten⟩ := h.row
  cases hgo with
  | commitNothing hkey hwrote hpaid =>
    refine h.commit_row ((h.view_row hwrote).trans hrow) hshape ?_ fun u _ hu => hd u hu
    rw [hmoved, hpaid, add_zero, h.unique.view_of_not hkey]
    exact hmeaning
  | commitSettle hkey hwrote hpaid =>
    obtain ⟨v, hv⟩ := h.holds t (by rw [hwrote]; decide)
    obtain ⟨row', rfl, hshape', hcase⟩ := hwritten t v hv
    obtain ⟨hsettled, hres⟩ : row'.state = .settled ∧ row.state = .reserved := by
      rcases hcase with ⟨-, hs, hr⟩ | ⟨hf, -, -⟩
      · exact ⟨hs, hr⟩
      · rw [hwrote] at hf
        cases hf
    -- a reserved row is not doomed, so nobody is about to refund it and nobody has
    have hnot : ¬doomed row := fun hdoom => hdoom.1 hres
    have hfresh : ¬d.rows ρ.outbox ≠ none := fun happ => hnot (hmeaning.zero happ).2
    have hheld := hmeaning.other hfresh (by rw [hres]; decide)
    refine h.commit_row (d.view_of_self hv) hshape' ?_ fun u _ hu => absurd (hd u hu) hnot
    rw [hmoved, hpaid, hheld, h.unique.view_of_not hkey]
    refine ⟨fun happ => absurd happ hfresh, fun _ _ => by ring, fun _ hne => absurd hsettled hne, fun _ => ?_⟩
    rw [hsettled]
    decide
  | commitRefund hkey hwrote hdoom hpaid =>
    obtain ⟨habsent, hpresent⟩ := h.unique.absent_of_held hkey
    have hfresh : ¬d.rows ρ.outbox ≠ none := fun happ => happ habsent
    have hdoomed := hd t hdoom
    have hheld := hmeaning.other hfresh hdoomed.2
    have hzero : moved ρ (.user ρ.user) (d.view t (.user ρ.user)) = 0 := by
      rw [hmoved, hheld, hpaid]
      ring
    obtain ⟨row', hrow', hshape', hdoomed'⟩ :
        ∃ row', d.view t (.billing ρ.id) = some row' ∧ Shape ρ row' ∧ doomed row' := by
      rcases d.view_cases t (.billing ρ.id) with hv | ⟨-, heq⟩
      · obtain ⟨row', hrow', hshape', ⟨hs, -, -⟩ | ⟨-, hrefunded, -⟩⟩ := hwritten t _ hv
        · exact absurd hs hwrote
        · exact ⟨row', hrow', hshape', by rw [doomed, hrefunded]; decide⟩
      · exact ⟨row, heq.trans hrow, hshape, hdoomed⟩
    refine h.commit_row hrow' hshape' ⟨fun _ => ⟨hzero, hdoomed'⟩, ?_, ?_, ?_⟩ fun _ _ _ => hdoomed'
    all_goals exact fun hno => absurd hpresent hno

end

omit [DecidableEq T] in
lemma Inv.auto (h : Inv ρ d γ) (hclear : d.clear ws)
    (hws : ∀ k v, (⟨k, v⟩ : Write schema) ∈ ws → Aside ρ d.rows k v ∨ ∃ row row', d.rows (.billing ρ.id) = some row ∧
      (⟨k, v⟩ : Write schema) = ⟨.billing ρ.id, some row'⟩ ∧ Dooms ρ row row') :
    Inv ρ { d with rows := d.rows.put ws } γ := by
  have hkey : ∀ w ∈ ws, w.1 ≠ ρ.outbox := by
    rintro ⟨k, v⟩ hw
    rcases hws k v hw with ha | ⟨_, _, -, heq, -⟩
    · exact ha.1
    · rw [heq]
      simp
  have htask : ∀ w ∈ ws, w.1 ≠ .task 0 := by
    rintro ⟨k, v⟩ hw
    rcases hws k v hw with ha | ⟨_, _, -, heq, -⟩
    · exact ha.2.2.1
    · rw [heq]
      simp
  have hsame : ∀ k v, (⟨k, v⟩ : Write schema) ∈ ws → moved ρ k v = moved ρ k (d.rows k) := by
    intro k v hw
    rcases hws k v hw with ha | ⟨_, _, -, heq, -⟩
    · exact ha.2.2.2
    · obtain ⟨rfl, -⟩ := Sigma.mk.inj heq
      rfl
  have hm := Snap.count_put hsame (.user ρ.user)
  have hout : d.rows.put ws ρ.outbox = d.rows ρ.outbox := d.rows.put_of_not_mem ws _ hkey
  obtain ⟨row, hrow, hshape, hmeaning, hd, hwritten⟩ := h.row
  have hrow' : ∃ row', d.rows.put ws (.billing ρ.id) = some row' ∧ Shape ρ row' ∧
      Meaning ρ row' (d.rows ρ.outbox ≠ none) (moved ρ (.user ρ.user) (d.rows (.user ρ.user))) ∧
      (∀ t, (γ t).doom = true → doomed row') ∧
      ∀ t v, d.dirty (.billing ρ.id) = some (t, v) → Written ρ (γ t) row' v := by
    rcases d.rows.put_cases ws (.billing ρ.id) with ⟨-, heq⟩ | ⟨v, hv, heq⟩
    · exact ⟨row, heq.trans hrow, hshape, hmeaning, hd, hwritten⟩
    rcases hws _ v hv with ha | ⟨r, row', hr, hkv, hns, hnr, hdoomed, hrefunded, hshape'⟩
    · exact absurd rfl ha.2.1
    obtain rfl : row = r := Option.some.inj (hrow.symm.trans hr)
    obtain rfl : v = some row' := by simpa using hkv
    refine ⟨row', heq, hshape', ⟨fun happ => ⟨(hmeaning.zero happ).1, hdoomed⟩, fun _ hs => absurd hs hdoomed.2,
      fun hno _ => hmeaning.other hno hns, fun _ => hrefunded⟩, fun _ _ => hdoomed, fun t x hx => ?_⟩
    rw [Db.clear_none hclear hv] at hx
    cases hx
  refine ⟨h.tally.auto hclear, h.unique.auto hkey, ⟨?_, h.task.2⟩, ?_, h.holds⟩
  · exact (d.rows.put_of_not_mem ws _ htask).trans h.task.1
  · change ∃ row', d.rows.put ws (.billing ρ.id) = some row' ∧ Shape ρ row' ∧
      Meaning ρ row' (d.rows.put ws ρ.outbox ≠ none) (moved ρ (.user ρ.user) (d.rows.put ws (.user ρ.user))) ∧ _
    rw [hout, hm]
    exact hrow'

lemma Inv.read (h : Inv ρ d γ) {ℓ : Label} (hgo : Goes ρ (γ t) (.read ℓ (d.view t)) g) :
    Inv ρ d (Function.update γ t g) := by
  cases hgo with
  | read => rwa [update_eq_self]
  | readDoomed _ _ row hg hrow hdoomed =>
    rw [h.view_row hg] at hrow
    obtain ⟨r, hr, hshape, hmeaning, hd, hwritten⟩ := h.row
    obtain rfl : row = r := Option.some.inj (hrow.symm.trans hr)
    have hposted : ({ γ t with doom := true } : Phase).posted ρ = (γ t).posted ρ := rfl
    have hkey : ({ γ t with doom := true } : Phase).key = (γ t).key := rfl
    have hwrote : ∀ u, (Function.update γ t { γ t with doom := true } u).wrote = (γ u).wrote :=
      congrFun (comp_update_of_eq rfl)
    refine ⟨?_, ?_, h.task, ⟨row, hr, hshape, hmeaning, fun _ _ => hdoomed, fun u v hv => ?_⟩, fun u hu => ?_⟩
    · rw [comp_update_of_eq hposted]
      exact h.tally
    · rw [comp_update_of_eq hkey]
      exact h.unique
    · obtain ⟨row', hv', hshape', hcase⟩ := hwritten u v hv
      exact ⟨row', hv', hshape', by rwa [hwrote]⟩
    · rw [hwrote] at hu
      exact h.holds u hu

lemma settleRace_keeps (ρ : Reservation) : (settleRace ρ).Keeps (fun _ _ m => InTime ρ m) (Inv (T := T) ρ) where
  sees σ γ t m hI hok hm := by
    have hrow : ∃ row, σ.db.rows (.billing ρ.id) = some row ∧ Shape ρ row := by
      obtain ⟨row, hrow, hshape, -⟩ := hI.row
      exact ⟨row, hrow, hshape⟩
    generalize σ.pc t = p at hm
    cases p with
    | read ℓ n =>
      cases hm
      refine ⟨hI.shape_view t, ?_⟩
      rw [σ.db.view_of_none hI.task.2]
      exact hI.task.1
    | update ℓ f n =>
      cases hm
      exact ⟨hI.shape_view t, hok⟩
    | auto ℓ f n =>
      cases hm
      exact hrow
    | pure a | now n => cases hm
    | _ =>
      cases hm
      trivial
  stay _ _ hI := hI
  tick _ _ _ hI := hI.congr rfl rfl
  read _ _ _ _ _ hI _ hgo := hI.read hgo
  update _ _ _ _ _ _ hI _ hfree hgo := hI.update hfree hgo
  auto σ γ t ℓ ws g hI _ hclear hgo := by
    cases hgo with
    | auto _ _ _ h =>
      rw [update_eq_self]
      exact hI.auto hclear h
  start d γ t g hI hgo := by
    cases hgo
    rw [update_eq_self]
    exact hI.congr rfl rfl
  commit _ _ _ _ hI _ hgo := hI.commit hgo
  rollback d γ t g hI hgo := by
    cases hgo
    exact hI.rollback t
  emit σ γ t e g hI _ hgo := by
    cases hgo
    rw [update_eq_self]
    exact hI.congr rfl rfl
  lock _ _ _ m := nomatch m
  unlock _ _ _ m := nomatch m
  stop d γ t hI hstop := by
    have hidle : (settleRace ρ).idle = γ t := .symm hstop
    rw [hidle, update_eq_self]
    exact hI
  die d γ t hI := (hI.rollback t).congr rfl rfl

end invariant

end StarNexus.Ledger.SettleRace
