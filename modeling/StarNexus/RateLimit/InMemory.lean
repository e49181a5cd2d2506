import Mathlib.Algebra.Order.Ring.Int
import StarNexus.Lib.Run
import StarNexus.Lib.Window

/-!
# The in-memory rate limiter

`InMemoryRateLimiter` keeps, for every key, a queue of the times of counted requests and a map of pending reservations.
`Request` counts a request at once, `Reserve` takes a place that `Finalize` later counts or gives back, and a goroutine
drops what is older than the expiration the limiter was first initialised with.  All of them hold the mutex, so a run is a
sequence of whole calls.
-/

namespace StarNexus.RateLimit

open Lib List
open Function (update update_of_ne update_self)

/-! ### The limiter -/

/-- `InMemoryRateLimiter`.  A `nil` store is `none`; a key without reservations has an empty map. -/
structure InMemoryRateLimiter where
  store : Option (String → Option (List ℤ)) := none
  reservations : String → List (ℕ × ℤ) := fun _ => []
  sequence : ℕ := 0
  /-- in nanoseconds -/
  expirationDuration : ℤ := 0

def removeExpiredRateLimitItems (queue : List ℤ) (now duration : ℤ) : List ℤ :=
  if duration ≤ 0 then [] else queue.dropWhile fun t => duration ≤ now - t

namespace InMemoryRateLimiter

variable (l : InMemoryRateLimiter)

def queue (key : String) : Option (List ℤ) := l.store.bind fun store => store key

def setQueue (key : String) (queue : List ℤ) : InMemoryRateLimiter :=
  { l with store := some (update (l.store.getD fun _ => none) key (some queue)) }

def setPending (key : String) (pending : List (ℕ × ℤ)) : InMemoryRateLimiter :=
  { l with reservations := update l.reservations key pending }

/-- `if l.store == nil { … }`: the maps are made when they are first needed. -/
def opened : InMemoryRateLimiter :=
  match l.store with
  | none => { l with store := some fun _ => none, reservations := fun _ => [] }
  | some _ => l

def init (expirationDuration : ℤ) : InMemoryRateLimiter :=
  match l.store with
  | none => { l.opened with expirationDuration := expirationDuration }
  | some _ => l

def expirationSeconds : ℤ := l.expirationDuration.tdiv 1000000000

def clearExpiredItems (now : ℤ) : InMemoryRateLimiter :=
  { l with
    store := l.store.map fun store key =>
      (store key).filter fun queue => !queue.getLast?.all fun t => l.expirationSeconds < now - t
    reservations := fun key => (l.reservations key).filter fun r => !decide (l.expirationSeconds < now - r.2) }

def request (key : String) (maxRequestNum duration now : ℤ) : Bool × InMemoryRateLimiter :=
  if maxRequestNum ≤ 0 then (true, l)
  else match l.opened.queue key with
    | some queue =>
      let queue := removeExpiredRateLimitItems queue now duration
      if queue.length < maxRequestNum then (true, l.opened.setQueue key (queue ++ [now]))
      else (false, l.opened.setQueue key queue)
    | none => (true, l.opened.setQueue key [now])

def pruneQueue (key : String) (now duration : ℤ) : InMemoryRateLimiter :=
  match l.queue key with
  | some queue => l.setQueue key (removeExpiredRateLimitItems queue now duration)
  | none => l

/-- The reservations of the key without those older than the window. -/
def prunePending (key : String) (now duration : ℤ) : InMemoryRateLimiter :=
  l.setPending key ((l.reservations key).filter fun r => !decide (duration ≤ now - r.2))

/-- The next token, a `uint64`, with its reservation; one that is in the map already is overwritten. -/
def issue (key : String) (now : ℤ) : ℕ × InMemoryRateLimiter :=
  let token := (l.sequence + 1) % 2 ^ 64
  (token, { l.setPending key ((token, now) :: (l.reservations key).filter fun r => r.1 ≠ token) with sequence := token })

def reserve (key : String) (maxRequestNum duration now : ℤ) : (ℕ × Bool) × InMemoryRateLimiter :=
  if maxRequestNum ≤ 0 ∨ duration ≤ 0 then ((0, true), l)
  else
    let l := (l.opened.pruneQueue key now duration).prunePending key now duration
    let queueSize := ((l.queue key).getD []).length
    if maxRequestNum ≤ queueSize + (l.reservations key).length then ((0, false), l)
    else (((l.issue key now).1, true), (l.issue key now).2)

def isPending (key : String) (token : ℕ) : Bool := decide (token ≠ 0) && (l.reservations key).any fun r => r.1 = token

def finalize (key : String) (token : ℕ) (success : Bool) (now : ℤ) : InMemoryRateLimiter :=
  if l.isPending key token then
    let l := l.setPending key ((l.reservations key).filter fun r => r.1 ≠ token)
    if success then l.setQueue key ((l.queue key).getD [] ++ [now]) else l
  else l

end InMemoryRateLimiter

/-! ### Runs -/

inductive Op where
  | init (expirationDuration : ℤ)
  | request (key : String) (maxRequestNum duration : ℤ)
  | reserve (key : String) (maxRequestNum duration : ℤ)
  | finalize (key : String) (token : ℕ) (success : Bool)
  | clearExpiredItems

/-- The limiter, the clock, and the times of the requests that have been counted for every key. -/
structure Window where
  limiter : InMemoryRateLimiter := {}
  clock : ℤ
  counted : String → List ℤ := fun _ => []

def Op.counts (l : InMemoryRateLimiter) (now : ℤ) : Op → Option String
  | .request key max duration => if 0 < max ∧ (l.request key max duration now).1 = true then some key else none
  | .finalize key token success => if l.isPending key token ∧ success = true then some key else none
  | _ => none

def Op.effect (l : InMemoryRateLimiter) (now : ℤ) : Op → InMemoryRateLimiter
  | .init expirationDuration => l.init expirationDuration
  | .request key max duration => (l.request key max duration now).2
  | .reserve key max duration => (l.reserve key max duration now).2
  | .finalize key token success => l.finalize key token success now
  | .clearExpiredItems => l.clearExpiredItems now

def Op.enabled (l : InMemoryRateLimiter) : Op → Bool
  | .clearExpiredItems => 0 < l.expirationDuration
  | _ => true

def Window.step (s : Window) : ℤ × Op → Option Window
  | (now, op) =>
    if s.clock ≤ now ∧ op.enabled s.limiter then
      some {
        limiter := op.effect s.limiter now
        clock := now
        counted := match op.counts s.limiter now with
          | some key => update s.counted key (s.counted key ++ [now])
          | none => s.counted }
    else none

def Uses (k : String) (max duration : ℤ) : Op → Prop
  | .request key m d => key = k → m = max ∧ d = duration
  | .reserve key m d => key = k → m = max ∧ d = duration
  | _ => True

/-- **The window of the key is respected**, and its last part also with the pending reservations. -/
def Bounded (k : String) (max duration : ℤ) (s : Window) : Prop :=
  Sparse duration max (s.counted k) ∧
    ((recent duration s.clock (s.counted k)).length : ℤ) + (s.limiter.reservations k).length ≤ max

/-! ### What the calls do to one key -/

section key

variable {k key : String} {max d now now' duration : ℤ} {l l' : InMemoryRateLimiter} {c : List ℤ}

namespace InMemoryRateLimiter

def items (l : InMemoryRateLimiter) (key : String) : List ℤ := (l.queue key).getD []

variable (q : List ℤ)

@[simp] lemma items_setQueue_self : (l.setQueue k q).items k = q := by
  simp [items, queue, setQueue]

@[simp] lemma items_setQueue_of_ne (h : k ≠ key) : (l.setQueue key q).items k = l.items k := by
  cases hs : l.store <;> simp [items, queue, setQueue, hs, h]

variable (pending : List (ℕ × ℤ))

@[simp] lemma items_setPending : (l.setPending key pending).items k = l.items k := rfl

@[simp] lemma reservations_setQueue : (l.setQueue key q).reservations = l.reservations := rfl

@[simp] lemma reservations_setPending_self : (l.setPending k pending).reservations k = pending :=
  update_self _ _ _

@[simp] lemma reservations_setPending_of_ne (h : k ≠ key) :
    (l.setPending key pending).reservations k = l.reservations k :=
  update_of_ne h _ _

@[simp] lemma items_opened : l.opened.items k = l.items k := by
  unfold opened
  split
  · next h => simp [items, queue, h]
  · rfl

lemma reservations_opened_le : (l.opened.reservations k).length ≤ (l.reservations k).length := by
  unfold opened
  split
  · simp
  · exact le_rfl

@[simp] lemma items_pruneQueue_self : (l.pruneQueue k now d).items k = removeExpiredRateLimitItems (l.items k) now d := by
  unfold pruneQueue
  cases hq : l.queue k with
  | none => simp [items, hq, removeExpiredRateLimitItems]
  | some q =>
    rw [items_setQueue_self, items, hq]
    rfl

@[simp] lemma items_pruneQueue_of_ne (h : k ≠ key) : (l.pruneQueue key now d).items k = l.items k := by
  unfold pruneQueue
  split
  · exact items_setQueue_of_ne _ h
  · rfl

@[simp] lemma reservations_pruneQueue : (l.pruneQueue key now d).reservations = l.reservations := by
  unfold pruneQueue
  split <;> rfl

@[simp] lemma items_prunePending : (l.prunePending key now d).items k = l.items k := rfl

lemma reservations_prunePending_le :
    ((l.prunePending key now d).reservations k).length ≤ (l.reservations k).length := by
  by_cases hk : k = key
  · subst hk
    rw [prunePending, reservations_setPending_self]
    exact length_filter_le _ _
  · rw [prunePending, reservations_setPending_of_ne _ hk]

@[simp] lemma items_issue : (l.issue key now).2.items k = l.items k := rfl

lemma reservations_issue_of_ne (h : k ≠ key) : (l.issue key now).2.reservations k = l.reservations k :=
  reservations_setPending_of_ne _ h

lemma reservations_issue_le : ((l.issue k now).2.reservations k).length ≤ (l.reservations k).length + 1 := by
  have hself : (l.issue k now).2.reservations k = ((l.sequence + 1) % 2 ^ 64, now) ::
      (l.reservations k).filter fun r => r.1 ≠ (l.sequence + 1) % 2 ^ 64 := reservations_setPending_self _
  rw [hself]
  exact Nat.succ_le_succ (length_filter_le _ _)

lemma request_eq (hmax : 0 < max) : l.request k max d now =
    if ((removeExpiredRateLimitItems (l.items k) now d).length : ℤ) < max then
      (true, l.opened.setQueue k (removeExpiredRateLimitItems (l.items k) now d ++ [now]))
    else (false, l.opened.setQueue k (removeExpiredRateLimitItems (l.items k) now d)) := by
  rw [request, if_neg (by omega), ← items_opened, items]
  cases l.opened.queue k with
  | none => simp [removeExpiredRateLimitItems, hmax]
  | some q => rfl

end InMemoryRateLimiter

open InMemoryRateLimiter

/-- The limiter knows the counted requests `c` of the last window of the key, and keeps room for the pending ones. -/
structure Tracks (k : String) (max d now : ℤ) (l : InMemoryRateLimiter) (c : List ℤ) : Prop where
  sorted : (l.items k).Pairwise (· ≤ ·)
  past : ∀ t ∈ l.items k, t ≤ now
  known : recent d now c = recent d now (l.items k)
  room : Room d max now c (l.reservations k).length

section

variable (h : Tracks k max d now l c)

include h

lemma Tracks.later (hnow : now ≤ now') : Tracks k max d now' l c := by
  refine ⟨h.sorted, fun t ht => (h.past t ht).trans hnow, ?_, h.room.later hnow⟩
  rw [← recent_recent hnow, h.known, recent_recent hnow]

lemma Tracks.drop (hitems : (l'.items k).Sublist (l.items k))
    (hrecent : recent d now (l'.items k) = recent d now (l.items k))
    (hpending : (l'.reservations k).length ≤ (l.reservations k).length) : Tracks k max d now l' c :=
  ⟨h.sorted.sublist hitems, fun t ht => h.past t (hitems.subset ht), h.known.trans hrecent.symm, h.room.release hpending⟩

lemma Tracks.take (hitems : l'.items k = l.items k) (hpending : (l'.reservations k).length ≤ (l.reservations k).length + 1)
    (hlt : ((recent d now (l.items k)).length : ℤ) + (l.reservations k).length < max) : Tracks k max d now l' c := by
  rw [← h.known] at hlt
  exact ⟨by rw [hitems]; exact h.sorted, by rw [hitems]; exact h.past, by rw [hitems]; exact h.known,
    (h.room.take hlt).release hpending⟩

lemma Tracks.count (hitems : l'.items k = l.items k ++ [now])
    (hpending : Room d max now c ((l'.reservations k).length + 1)) : Tracks k max d now l' (c ++ [now]) := by
  refine ⟨?_, ?_, ?_, hpending.count⟩
  · rw [hitems]
    exact pairwise_append.2 ⟨h.sorted, pairwise_singleton _ _, fun t ht u hu => by
      rw [mem_singleton.1 hu]
      exact h.past t ht⟩
  · intro t ht
    rw [hitems] at ht
    rcases mem_append.1 ht with ht | ht
    · exact h.past t ht
    · exact (mem_singleton.1 ht).le
  · rw [hitems, recent_append, recent_append, h.known]

lemma Tracks.removeExpired : removeExpiredRateLimitItems (l.items k) now d = recent d now (l.items k) := by
  unfold removeExpiredRateLimitItems
  split
  · refine (recent_eq_nil fun t ht => ?_).symm
    have hpast := h.past t ht
    omega
  · exact dropWhile_eq_recent h.sorted

lemma Tracks.prune (hitems : l'.items k = removeExpiredRateLimitItems (l.items k) now d)
    (hpending : (l'.reservations k).length ≤ (l.reservations k).length) : Tracks k max d now l' c := by
  rw [h.removeExpired] at hitems
  refine h.drop ?_ ?_ hpending
  · rw [hitems]
    exact filter_sublist
  · rw [hitems, recent_recent le_rfl]

end

/-! ### One call -/

section

variable (h : Tracks k max d now l c)

include h

lemma Tracks.opened : Tracks k max d now l.opened c :=
  h.drop (by simp) (by simp) reservations_opened_le

lemma Tracks.init (expirationDuration : ℤ) : Tracks k max d now (l.init expirationDuration) c := by
  unfold InMemoryRateLimiter.init
  split
  · exact h.opened.drop (.refl _) rfl le_rfl
  · exact h

lemma Tracks.request_of_ne (hk : k ≠ key) (m duration : ℤ) : Tracks k max d now (l.request key m duration now).2 c := by
  by_cases hm : 0 < m
  · rw [request_eq hm]
    split
    all_goals exact h.opened.drop (by simp [hk]) (by simp [hk]) (by simp)
  · rw [InMemoryRateLimiter.request, if_pos (by omega)]
    exact h

lemma Tracks.request (hpending : l.reservations k = []) : Tracks k max d now (l.request k max d now).2
      (if 0 < max ∧ (l.request k max d now).1 = true then c ++ [now] else c) := by
  by_cases hmax : 0 < max
  · rw [request_eq hmax]
    have hpruned : Tracks k max d now (l.opened.setQueue k (removeExpiredRateLimitItems (l.items k) now d)) c :=
      h.prune (by simp) (by exact reservations_opened_le)
    have hnone : (l.opened.reservations k).length = 0 := by
      have hle := reservations_opened_le (l := l) (k := k)
      rw [hpending] at hle
      exact Nat.le_zero.1 hle
    split
    · next hlt =>
      rw [if_pos ⟨hmax, rfl⟩]
      refine hpruned.count (by simp) ?_
      rw [h.removeExpired, ← h.known] at hlt
      have hfree := h.room.release (Nat.zero_le _)
      have hroom := hfree.take (by exact hlt)
      rw [reservations_setQueue, hnone]
      exact hroom
    · rw [if_neg (by simp)]
      exact hpruned
  · rw [InMemoryRateLimiter.request, if_pos (by omega), if_neg (fun h => hmax h.1)]
    exact h

lemma Tracks.reserve_of_ne (hk : k ≠ key) (m : ℤ) : Tracks k max d now (l.reserve key m duration now).2 c := by
  unfold InMemoryRateLimiter.reserve
  split
  · exact h
  have hpruned : Tracks k max d now ((l.opened.pruneQueue key now duration).prunePending key now duration) c :=
    h.opened.drop (by simp [hk]) (by simp [hk]) (reservations_prunePending_le.trans (by simp))
  dsimp only
  split
  · exact hpruned
  · exact hpruned.drop (by simp) rfl (by rw [reservations_issue_of_ne hk])

lemma Tracks.reserve : Tracks k max d now (l.reserve k max d now).2 c := by
  unfold InMemoryRateLimiter.reserve
  split
  · exact h
  have hpruned : Tracks k max d now ((l.opened.pruneQueue k now d).prunePending k now d) c :=
    h.opened.prune (by simp) (reservations_prunePending_le.trans (by simp))
  have hitems : ((l.opened.pruneQueue k now d).prunePending k now d).items k = recent d now (l.items k) := by
    rw [items_prunePending, items_pruneQueue_self, items_opened, h.removeExpired]
  dsimp only
  split
  · exact hpruned
  · next hlt =>
    refine hpruned.take items_issue reservations_issue_le ?_
    rw [hitems, recent_recent le_rfl, ← hitems]
    exact Int.not_le.1 hlt

lemma Tracks.finalize_of_ne (hk : k ≠ key) (token : ℕ) (success : Bool) :
    Tracks k max d now (l.finalize key token success now) c := by
  unfold InMemoryRateLimiter.finalize
  split
  · split
    · exact h.drop (by simp [hk]) (by simp [hk]) (by simp [hk])
    · exact h.drop (by simp) rfl (by simp [hk])
  · exact h

end

lemma length_filter_ne_lt {pending : List (ℕ × ℤ)} {token : ℕ} (h : (pending.any fun r => r.1 = token) = true) :
    (pending.filter fun r => r.1 ≠ token).length + 1 ≤ pending.length := by
  obtain ⟨r, hr, htoken⟩ := any_eq_true.1 h
  exact length_filter_lt_length_iff_exists.2 ⟨r, hr, by simpa using htoken⟩

lemma Tracks.finalize (h : Tracks k max d now l c) (token : ℕ) (success : Bool) :
    Tracks k max d now (l.finalize k token success now)
      (if l.isPending k token = true ∧ success = true then c ++ [now] else c) := by
  unfold InMemoryRateLimiter.finalize
  by_cases hpending : l.isPending k token = true
  · rw [if_pos hpending]
    have hless := length_filter_ne_lt (Bool.and_eq_true_iff.1 hpending).2
    cases success with
    | true =>
      rw [if_pos rfl, if_pos ⟨hpending, rfl⟩]
      refine h.count (items_setQueue_self _) (h.room.release ?_)
      simpa using hless
    | false =>
      rw [if_neg (by simp), if_neg (by simp)]
      refine h.drop (by simp) rfl ?_
      rw [reservations_setPending_self]
      omega
  · rw [if_neg hpending, if_neg (fun h => hpending h.1)]
    exact h

lemma le_getLast {q : List ℤ} (hsorted : q.Pairwise (· ≤ ·)) {t u : ℤ} (ht : t ∈ q) (hu : q.getLast? = some u) : t ≤ u := by
  obtain ⟨q', rfl⟩ := getLast?_eq_some_iff.1 hu
  rcases mem_append.1 ht with ht | ht
  · exact (pairwise_append.1 hsorted).2.2 t ht u (mem_singleton_self u)
  · exact (mem_singleton.1 ht).le

lemma Tracks.clearExpiredItems (h : Tracks k max d now l c) (hd : d ≤ l.expirationSeconds + 1) :
    Tracks k max d now (l.clearExpiredItems now) c := by
  have hpending : ((l.clearExpiredItems now).reservations k).length ≤ (l.reservations k).length :=
    length_filter_le _ _
  have hqueue : (l.clearExpiredItems now).queue k =
      (l.queue k).filter fun queue => !queue.getLast?.all fun t => l.expirationSeconds < now - t := by
    cases hs : l.store <;> simp [queue, InMemoryRateLimiter.clearExpiredItems, hs]
  cases hq : l.queue k with
  | none =>
    have hitems : (l.clearExpiredItems now).items k = l.items k := by simp [items, hqueue, hq]
    exact h.drop (by rw [hitems]) (by rw [hitems]) hpending
  | some q =>
    have hall : l.items k = q := by simp [items, hq]
    by_cases hold : (q.getLast?.all fun t => decide (l.expirationSeconds < now - t)) = true
    · -- the newest time is older than the expiration, so all of them are older than the window
      have hitems : (l.clearExpiredItems now).items k = [] := by simp [items, hqueue, hq, Option.filter, hold]
      refine h.drop (by simp [hitems]) ?_ hpending
      rw [hitems, recent_nil, recent_eq_nil]
      intro t ht
      rw [hall] at ht
      obtain ⟨u, hu⟩ := getLast?_isSome.2 (ne_nil_of_mem ht) |> Option.isSome_iff_exists.1
      rw [hu] at hold
      have hnewest := le_getLast (hall ▸ h.sorted) ht hu
      have hexpired : l.expirationSeconds < now - u := by simpa using hold
      omega
    · have hitems : (l.clearExpiredItems now).items k = l.items k := by simp [items, hqueue, hq, Option.filter, hold]
      exact h.drop (by rw [hitems]) (by rw [hitems]) hpending

/-! ### Runs of calls -/

/-- When a call is safe for the key; a time is dropped when it is more than the expiration old. -/
def Meets (k : String) (d : ℤ) (s : Window) : ℤ × Op → Prop
  | (_, .request key _ _) => key = k → s.limiter.reservations k = []
  | (_, .clearExpiredItems) => d ≤ s.limiter.expirationSeconds + 1
  | _ => True

lemma Window.step_eq_some {s s' : Window} {op : Op} (h : s.step (now, op) = some s') :
    s.clock ≤ now ∧ s' = { limiter := op.effect s.limiter now, clock := now
                           counted := match op.counts s.limiter now with
                             | some key => update s.counted key (s.counted key ++ [now])
                             | none => s.counted } := by
  obtain ⟨hle, ⟨⟩⟩ := Option.ite_none_right_eq_some.1 h
  exact ⟨hle.1, rfl⟩

lemma Tracks.counting {key : String} {p : Prop} [Decidable p] {counted : String → List ℤ}
    (hself : key = k → Tracks k max d now l (if p then counted k ++ [now] else counted k))
    (hother : k ≠ key → Tracks k max d now l (counted k)) :
    Tracks k max d now l ((match if p then some key else none with
      | some key => update counted key (counted key ++ [now])
      | none => counted) k) := by
  by_cases hk : key = k
  · subst hk
    have hcall := hself rfl
    split_ifs at hcall ⊢
    · simpa using hcall
    · exact hcall
  · have hcall := hother (.symm hk)
    split_ifs
    · simpa [update_of_ne (.symm hk)] using hcall
    · exact hcall

lemma Tracks.step {s s' : Window} {x : ℤ × Op} (h : Tracks k max d s.clock s.limiter (s.counted k))
    (huses : Uses k max d x.2) (hmeets : Meets k d s x) (hstep : s.step x = some s') :
    Tracks k max d s'.clock s'.limiter (s'.counted k) := by
  obtain ⟨now, op⟩ := x
  obtain ⟨hnow, rfl⟩ := Window.step_eq_some hstep
  have hlater := h.later hnow
  cases op with
  | init expirationDuration => exact hlater.init expirationDuration
  | clearExpiredItems => exact hlater.clearExpiredItems hmeets
  | reserve key m duration =>
    by_cases hk : key = k
    · subst hk
      obtain ⟨rfl, rfl⟩ := huses rfl
      exact hlater.reserve
    · exact hlater.reserve_of_ne (.symm hk) m
  | request key m duration =>
    refine .counting (fun hk => ?_) fun hk => hlater.request_of_ne hk m duration
    subst hk
    obtain ⟨rfl, rfl⟩ := huses rfl
    exact hlater.request (hmeets rfl)
  | finalize key token success =>
    refine .counting (fun hk => ?_) fun hk => hlater.finalize_of_ne hk token success
    subst hk
    exact hlater.finalize token success

/-- **The window of a key is respected** in every run of safe calls. -/
theorem window_bounded (hmax : 0 ≤ max) (z : ℤ) {calls : List (ℤ × Op)} {s : Window}
    (hrun : runs Window.step { clock := z } calls = some s) (huses : ∀ x ∈ calls, Uses k max d x.2)
    (hmeets : Along Window.step (Meets k d) { clock := z } calls) : Bounded k max d s := by
  have hstart : Tracks k max d z {} [] := ⟨.nil, by simp [items, queue], rfl, .start hmax⟩
  have huses' : Along Window.step (fun _ x => Uses k max d x.2) { clock := z } calls := .of_forall (fun _ => huses) _
  have htracks := runs_inv (fun s : Window => Tracks k max d s.clock s.limiter (s.counted k))
    (fun s x s' hs hok hstep => hs.step hok.1 hok.2 hstep) hstart (huses'.and hmeets) hrun
  exact ⟨htracks.room.sparse, htracks.room.fits⟩

end key

/-- Two reservations of three are counted in time, the third comes after the first has left the window. -/
def inTime : List (ℤ × Op) :=
  [(0, .init 60000000000), (0, .reserve "user" 2 60), (1, .reserve "user" 2 60), (5, .finalize "user" 1 true),
    (30, .finalize "user" 2 true), (64, .clearExpiredItems), (65, .reserve "user" 2 60)]

theorem window_bounded_inTime : ∃ s, runs Window.step { clock := 0 } inTime = some s ∧ s.counted "user" = [5, 30] ∧
    (s.limiter.reservations "user").length = 1 ∧ Bounded "user" 2 60 s := by
  have hrun : runs Window.step { clock := 0 } inTime = some _ := rfl
  refine ⟨_, rfl, rfl, rfl, window_bounded (by decide) 0 hrun ?_ ?_⟩
  · simp [inTime, Uses]
  · simp [inTime, Along, Meets]
    decide

/-- The limiter has been initialised with an expiration of a second, and the window is a minute. -/
def sweptEarly : List (ℤ × Op) :=
  [(0, .init 1000000000), (0, .request "user" 1 60), (2, .clearExpiredItems), (2, .request "user" 1 60)]

def requestedBeside : List (ℤ × Op) := [(0, .init 0), (0, .reserve "user" 1 60), (0, .request "user" 1 60)]

/-- Requests that the goroutine has forgotten are counted again, and a reservation does not keep its place. -/
theorem window_exceeded :
    (∃ s, runs Window.step { clock := 0 } sweptEarly = some s ∧ (∀ x ∈ sweptEarly, Uses "user" 1 60 x.2) ∧
      ¬Bounded "user" 1 60 s) ∧
    ∃ s, runs Window.step { clock := 0 } requestedBeside = some s ∧ (∀ x ∈ requestedBeside, Uses "user" 1 60 x.2) ∧
      ¬Bounded "user" 1 60 s := by
  refine ⟨⟨_, rfl, by simp [sweptEarly, Uses], fun h => ?_⟩, ⟨_, rfl, by simp [requestedBeside, Uses], fun h => ?_⟩⟩
  · have htwo := h.1 0
    revert htwo
    decide
  · have htwo := h.2
    revert htwo
    decide

end StarNexus.RateLimit
