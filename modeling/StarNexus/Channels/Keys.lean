import Mathlib.Data.List.Rotate

/-!
# The choice of a channel's key

`Channel.GetNextEnabledKey` of `model/channel.go`.  With the memory cache on, the copy whose index a call reads is the one
it writes, and the lock of the channel makes a call one step, whoever calls.
-/

namespace StarNexus.Channels

open List

inductive MultiKeyMode where
  | random
  | polling
  | unknown

/-- What a call reads of a channel; `keys` is what `GetKeys` makes of its key. -/
structure KeyRing where
  isMultiKey : Bool
  key : String
  keys : List String
  statusList : List (ℕ × ℤ)
  mode : MultiKeyMode
  pollingIndex : ℤ

def KeyRing.enabled (c : KeyRing) (idx : ℕ) : Bool := (c.statusList.lookup idx).getD 1 = 1

def KeyRing.enabledIdx (c : KeyRing) : List ℕ := (range c.keys.length).filter c.enabled

def KeyRing.keyAt (c : KeyRing) (idx : ℕ) : String × ℕ := (c.keys.getD idx "", idx)

def KeyRing.start (c : KeyRing) : ℕ :=
  if c.pollingIndex < 0 ∨ c.keys.length ≤ c.pollingIndex then 0 else c.pollingIndex.toNat

/-- `draw` is the random number of the random mode. -/
def KeyRing.getNextEnabledKey (c : KeyRing) (draw : ℕ) : Except String (String × ℕ) × KeyRing :=
  if ¬c.isMultiKey then (.ok (c.key, 0), c)
  else if c.keys = [] then (.error "no keys available", c)
  else
    match c.enabledIdx with
    | [] => (.error "no enabled keys", c)
    | first :: rest =>
      match c.mode with
      | .random => (.ok (c.keyAt ((first :: rest).getD (draw % (rest.length + 1)) 0)), c)
      | .polling =>
        match ((range c.keys.length).map fun i => (c.start + i) % c.keys.length).find? c.enabled with
        | some idx => (.ok (c.keyAt idx), { c with pollingIndex := ((idx + 1) % c.keys.length : ℕ) })
        | none => (.ok (c.keyAt first), c)
      | .unknown => (.ok (c.keyAt first), c)

def KeyRing.calls {T : Type} (c : KeyRing) : List (T × ℕ) → List (T × Except String (String × ℕ))
  | [] => []
  | (caller, draw) :: rest => (caller, (c.getNextEnabledKey draw).1) :: (c.getNextEnabledKey draw).2.calls rest

def KeyRing.order (c : KeyRing) : List ℕ := ((range c.keys.length).rotate c.start).filter c.enabled

variable {c : KeyRing}

lemma KeyRing.order_perm (c : KeyRing) : c.order ~ c.enabledIdx := (rotate_perm ..).filter _

lemma map_mod_eq_rotate (n s : ℕ) : ((range n).map fun i => (s + i) % n) = (range n).rotate s :=
  ext_getElem (by simp) fun i _ _ => by simp [getElem_rotate, Nat.add_comm]

lemma rotate_range_succ {n s idx : ℕ} {before after : List ℕ} (h : (range n).rotate s = before ++ idx :: after) :
    (range n).rotate ((idx + 1) % n) = after ++ (before ++ [idx]) := by
  have hidx : idx = (before.length + s) % n := by
    have hget : ((range n).rotate s)[before.length]? = some idx := by simp [h]
    obtain ⟨hlt, hget⟩ := List.getElem?_eq_some_iff.1 hget
    simpa [getElem_rotate] using hget.symm
  rw [← rotate_append_length_eq, append_assoc, singleton_append, ← h, rotate_rotate, ← rotate_mod, ← rotate_mod _ (_ + _)]
  congr 1
  simp [hidx, Nat.add_comm, Nat.add_assoc]

lemma KeyRing.getNextEnabledKey_polling (hmulti : c.isMultiKey) (hmode : c.mode = .polling) {idx : ℕ} {rest : List ℕ}
    (h : c.order = idx :: rest) (draw : ℕ) : ∃ next : ℕ,
      c.getNextEnabledKey draw = (.ok (c.keyAt idx), { c with pollingIndex := next }) ∧
        KeyRing.order { c with pollingIndex := next } = rest ++ [idx] := by
  have hfind : ((range c.keys.length).rotate c.start).find? c.enabled = some idx := by
    rw [← head?_filter, ← order, h, head?_cons]
  obtain ⟨henabled, before, after, hsplit, hbefore⟩ := find?_eq_some_iff_append.1 hfind
  have hpos : 0 < c.keys.length := by
    by_contra hzero
    simp [Nat.eq_zero_of_not_pos hzero] at hsplit
  obtain ⟨first, others, hfirst⟩ : ∃ first others, c.enabledIdx = first :: others := by
    refine exists_cons_of_ne_nil fun hnil => ?_
    simpa [hnil, h] using c.order_perm.length_eq
  refine ⟨(idx + 1) % c.keys.length, ?_, ?_⟩
  · simp [getNextEnabledKey, hmulti, hmode, hfirst, map_mod_eq_rotate, hfind, ne_nil_of_length_pos hpos]
  · have hstart : KeyRing.start { c with pollingIndex := ((idx + 1) % c.keys.length : ℕ) } = (idx + 1) % c.keys.length := by
      have hlt := Nat.mod_lt (idx + 1) hpos
      rw [start, if_neg (by dsimp only; omega), Int.toNat_natCast]
    rw [order, hsplit, filter_append, filter_cons_of_pos henabled] at h
    have hnone : before.filter c.enabled = [] := filter_eq_nil_iff.2 fun a ha => by simpa using hbefore a ha
    rw [hnone, nil_append, cons.injEq] at h
    rw [order, hstart]
    show ((range c.keys.length).rotate _).filter c.enabled = _
    simp [rotate_range_succ hsplit, hnone, h.2, henabled]

lemma KeyRing.calls_eq {T : Type} (hmulti : c.isMultiKey) (hmode : c.mode = .polling) (schedule : List (T × ℕ))
    (hlen : schedule.length ≤ c.order.length) :
    (c.calls schedule).map Prod.snd = (c.order.take schedule.length).map fun idx => .ok (c.keyAt idx) := by
  induction schedule generalizing c with
  | nil => rfl
  | cons call calls ih =>
    obtain ⟨idx, rest, h⟩ := exists_cons_of_length_pos (Nat.lt_of_lt_of_le (Nat.succ_pos _) hlen)
    obtain ⟨next, hcall, hnext⟩ := getNextEnabledKey_polling hmulti hmode h call.2
    have hle : calls.length ≤ rest.length := by simpa [h] using hlen
    rw [KeyRing.calls, map_cons, hcall, ih (c := { c with pollingIndex := next }) hmulti hmode
      (by rw [hnext]; simp; omega), h, hnext]
    simp [take_append_of_le_length hle, keyAt]

/-- **Polling is fair**, from any index and whatever the pattern of disabled keys. -/
theorem polling_fair {T : Type} (c : KeyRing) (hmulti : c.isMultiKey) (hmode : c.mode = .polling)
    (schedule : List (T × ℕ)) (hlen : schedule.length = c.enabledIdx.length) :
    ∃ order, order ~ c.enabledIdx ∧ (c.calls schedule).map Prod.snd = order.map fun idx => .ok (c.keyAt idx) := by
  refine ⟨c.order, c.order_perm, ?_⟩
  rw [KeyRing.calls_eq hmulti hmode schedule (hlen.trans c.order_perm.length_eq.symm).le, hlen, ← c.order_perm.length_eq,
    take_length]

theorem polling_fair_three : ∃ order, order ~ [0, 2] ∧
    (KeyRing.calls ⟨true, "", ["a", "b", "c"], [(1, 3)], .polling, 7⟩ [((), 0), ((), 0)]).map Prod.snd =
      order.map fun idx => .ok (["a", "b", "c"].getD idx "", idx) :=
  polling_fair ⟨true, "", ["a", "b", "c"], [(1, 3)], .polling, 7⟩ rfl rfl _ rfl

end StarNexus.Channels
