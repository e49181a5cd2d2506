import StarNexus.Lib.Run
import StarNexus.Lib.Window

/-!
# The success limit on Redis

`redisRateLimitHandler` reads the list of the successful requests of a user, passes the request on, and pushes the time of
the success on the list when the request is over.  Every Redis command is atomic, and the commands of the requests of one
user interleave in any way: between the check and the record of one request, others may be checked against the same list.

The times on the list are texts, `timeFormat` of `time.Now()`: they show the local time of the server, with a `Z` behind it.
The time that has passed since then is the difference of two local times.
-/

namespace StarNexus.RateLimit

open Lib Function List

/-! ### Redis -/

/-- A time on the list: the local time that is written there, in milliseconds, and for the proofs the time at which it was. -/
structure Stamp where
  shown : ℤ
  time : ℤ

/-- A list of times, the newest first, and the time in milliseconds at which it expires.  No list is an empty one. -/
structure RedisList where
  items : List Stamp := []
  expiresAt : Option ℤ := none

namespace RedisList

variable (r : RedisList)

def expired (now : ℤ) : Bool := r.expiresAt.any (· ≤ now)

def live (now : ℤ) : RedisList := if r.expired now then {} else r

def llen (now : ℤ) : ℕ := (r.live now).items.length

def lindexLast (now : ℤ) : Option Stamp := (r.live now).items.getLast?

def lpush (now : ℤ) (x : Stamp) : RedisList := { r.live now with items := x :: (r.live now).items }

def ltrim (now stop : ℤ) : RedisList :=
  let items := (r.live now).items
  let items := items.take (if 0 ≤ stop then stop + 1 else items.length + stop + 1).toNat
  if items.isEmpty then {} else { r.live now with items := items }

/-- `EXPIRE key`, with the time to live in milliseconds; an expiry in the past deletes the list. -/
def expire (now ttl : ℤ) : RedisList :=
  if (r.live now).items.isEmpty then {} else { r.live now with expiresAt := some (now + ttl) }

end RedisList

/-- The bucket of the script `rate_limit.lua`: tokens and the last second, if the key is there. -/
abbrev Bucket := Option (ℤ × ℤ)

def Bucket.refilled (bucket : Bucket) (rate capacity now : ℤ) : ℤ :=
  match bucket with
  | none => capacity
  | some (tokens, lastTime) => min capacity (tokens + (now - lastTime) * rate)

def Bucket.allow (bucket : Bucket) (requested rate capacity now : ℤ) : Bool × Bucket :=
  let tokens := bucket.refilled rate capacity now
  if requested ≤ tokens then (true, some (tokens - requested, now)) else (false, some (tokens, now))

/-! ### The handler -/

structure Limit where
  durationMinutes : ℤ
  totalMaxCount : ℤ
  successMaxCount : ℤ

namespace Limit

variable (c : Limit)

def duration : ℤ := c.durationMinutes * 60

def window : ℤ := c.duration * 1000

def successLimitMessage : String :=
  let minutes := c.duration.tdiv 60
  let count := c.successMaxCount
  s!"您已达到请求数限制：{minutes}分钟内最多请求{count}次"

def totalLimitMessage : String :=
  let minutes := c.duration.tdiv 60
  let count := c.totalMaxCount
  s!"您已达到总请求数限制：{minutes}分钟内最多请求{count}次，包括失败次数，请检查您的请求是否正确"

end Limit

inductive Response where
  /-- the request has been passed on; whether its status is below 400 -/
  | served (success : Bool)
  /-- `429`, the success limit is reached -/
  | successLimit (message : String)
  /-- `429`, the limit of all requests is reached -/
  | totalLimit (message : String)
  /-- `500` -/
  | checkFailed (message : String)

inductive Stage where
  | waiting
  /-- the list is full: `LINDEX` is next -/
  | oldest
  /-- the oldest time has been read, and is compared with the clock next -/
  | compare (old : Stamp)
  /-- `EXPIRE` is next, then the request is rejected -/
  | renew
  /-- the token bucket is next -/
  | bucket
  /-- the request is passed on -/
  | serving
  /-- `recordRedisRequest` has read the clock: `LPUSH` is next -/
  | push (x : Stamp)
  /-- `LTRIM` is next -/
  | trim
  /-- `EXPIRE` is next -/
  | expire
  | done (response : Response)

def Stage.Idle : Stage → Prop
  | .waiting | .done _ => True
  | _ => False

/-- What the requests of a user share, and the times that have been counted, in order. -/
structure Shared where
  list : RedisList := {}
  bucket : Bucket := none
  counted : List ℤ := []

def Limit.admitted (c : Limit) : Stage := if 0 < c.totalMaxCount then .bucket else .serving

/-- The next step of a request at the time `now`, which its server shows as `shown`; `success` says how the request that is
passed on ends. -/
def Stage.next (c : Limit) (g : Shared) (now shown : ℤ) (success : Bool) : Stage → Option (Shared × Stage)
  | .waiting =>
    if c.successMaxCount = 0 then some (g, c.admitted)
    else if g.list.llen now < c.successMaxCount then some (g, c.admitted)
    else some (g, .oldest)
  | .oldest =>
    match g.list.lindexLast now with
    | none => some (g, .done (.checkFailed "rate_limit_check_failed"))
    | some old => some (g, .compare old)
  | .compare old => if (shown - old.shown).tdiv 1000 < c.duration then some (g, .renew) else some (g, c.admitted)
  | .renew => some ({ g with list := g.list.expire now c.window }, .done (.successLimit c.successLimitMessage))
  | .bucket =>
    let result := g.bucket.allow c.duration c.totalMaxCount (c.totalMaxCount * c.duration) (now / 1000)
    some ({ g with bucket := result.2 }, if result.1 then .serving else .done (.totalLimit c.totalLimitMessage))
  | .serving =>
    if success ∧ c.successMaxCount ≠ 0 then some (g, .push ⟨shown, now⟩) else some (g, .done (.served success))
  | .push x => some ({ g with list := g.list.lpush now x, counted := g.counted ++ [x.time] }, .trim)
  | .trim => some ({ g with list := g.list.ltrim now (c.successMaxCount - 1) }, .expire)
  | .expire => some ({ g with list := g.list.expire now c.window }, .done (.served true))
  | .done _ => none

/-- Any number of requests of one user, and the clock in milliseconds. -/
structure Gate where
  shared : Shared := {}
  clock : ℤ
  stage : ℕ → Stage := fun _ => .waiting

/-- A step of the request `i` at some time; the clock does not go back.  `clocks i` is the local time of its server. -/
def Gate.step (c : Limit) (clocks : ℕ → ℤ → ℤ) (s : Gate) : ℤ × ℕ × Bool → Option Gate
  | (now, i, success) =>
    if s.clock ≤ now then
      ((s.stage i).next c s.shared now (clocks i now) success).map fun x =>
        { shared := x.1, clock := now, stage := Function.update s.stage i x.2 }
    else none

/-! ### What the list knows -/

variable {w n now now' clock : ℤ} {items h : List ℤ} {r : RedisList}

/-- The list holds the newest of the counted times `h`; a shorter one misses only times outside the window `w`. -/
structure Covers (w n clock : ℤ) (items h : List ℤ) : Prop where
  sparse : Sparse w n h
  sorted : h.Pairwise (· ≤ ·)
  past : ∀ t ∈ h, t ≤ clock
  split : ∃ older, h = older ++ items.reverse ∧ ((items.length : ℤ) < n → ∀ t ∈ older, w ≤ clock - t)

structure Known (w n clock : ℤ) (r : RedisList) (h : List ℤ) : Prop extends Covers w n clock (r.items.map Stamp.time) h where
  fits : (r.items.length : ℤ) ≤ n
  ttl : ∀ e, r.expiresAt = some e → ∀ t ∈ r.items.map Stamp.time, t + w ≤ e

lemma Covers.later (hc : Covers w n clock items h) (hnow : clock ≤ now) : Covers w n now items h := by
  obtain ⟨older, hh, hold⟩ := hc.split
  refine ⟨hc.sparse, hc.sorted, fun t ht => (hc.past t ht).trans hnow, older, hh, fun hlt t ht => ?_⟩
  have hexpired := hold hlt t ht
  omega

lemma Known.later (hk : Known w n clock r h) (hnow : clock ≤ now) : Known w n now r h :=
  ⟨hk.toCovers.later hnow, hk.fits, hk.ttl⟩

lemma RedisList.expired_iff : r.expired now = true ↔ ∃ e, r.expiresAt = some e ∧ e ≤ now := by
  cases he : r.expiresAt <;> simp [expired, he]

lemma Covers.older_le {older : List ℤ} (hc : Covers w n clock items h) (hh : h = older ++ items.reverse) {t u : ℤ}
    (ht : t ∈ older) (hu : u ∈ items) : t ≤ u := by
  have hsorted := hc.sorted
  rw [hh] at hsorted
  exact (pairwise_append.1 hsorted).2.2 t ht u (mem_reverse.2 hu)

/-- **Expiry** loses only times that have left the window. -/
lemma Known.live (hk : Known w n clock r h) (hnow : clock ≤ now) (hn : 0 ≤ n) : Known w n now (r.live now) h := by
  have hlater := hk.later hnow
  unfold RedisList.live
  split
  · next hexpired =>
    obtain ⟨e, he, hle⟩ := RedisList.expired_iff.1 hexpired
    have hitems : ∀ t ∈ r.items.map Stamp.time, w ≤ now - t := fun t ht => by
      have httl := hk.ttl e he t ht
      omega
    refine ⟨⟨hk.sparse, hk.sorted, hlater.past, h, by simp, fun hpos t ht => ?_⟩, by exact hn, by simp⟩
    obtain ⟨older, hh, hold⟩ := hlater.split
    rw [hh] at ht
    rcases mem_append.1 ht with ht | ht
    · by_cases hlt : ((r.items.map Stamp.time).length : ℤ) < n
      · exact hold hlt t ht
      · -- the list is full, so it is not empty, and older times have left the window before its own
        obtain ⟨u, hu⟩ := exists_mem_of_length_pos (l := r.items.map Stamp.time) (by simp at hpos; omega)
        have hle := hk.toCovers.older_le hh ht hu
        have hexp := hitems u hu
        omega
    · exact hitems t (mem_reverse.1 ht)
  · exact hlater

section

variable (hc : Covers w n clock items h)

include hc

lemma Covers.room_of_length (hlt : (items.length : ℤ) < n) : Room w n clock h 1 := by
  obtain ⟨older, hh, hold⟩ := hc.split
  refine ⟨hc.sparse, ?_⟩
  rw [hh, recent_append, recent_eq_nil (hold hlt), nil_append]
  have hle : (recent w clock items.reverse).length ≤ items.reverse.length := length_recent_le
  rw [length_reverse] at hle
  omega

lemma Covers.room_of_oldest {old : ℤ} (hfits : (items.length : ℤ) ≤ n)
    (hold : items.getLast? = some old) (hexpired : w ≤ now - old) : Room w n now h 1 := by
  obtain ⟨newer, rfl⟩ := getLast?_eq_some_iff.1 hold
  obtain ⟨older, hh, -⟩ := hc.split
  have holder : ∀ t ∈ older, w ≤ now - t := fun t ht => by
    have hle := hc.older_le hh ht (mem_append_right newer (mem_singleton_self old))
    omega
  refine ⟨hc.sparse, ?_⟩
  rw [hh, recent_append, recent_eq_nil holder, nil_append, reverse_append, reverse_singleton,
    recent_append, recent_eq_nil (by simpa using hexpired), nil_append]
  have hle : (recent w now newer.reverse).length ≤ newer.reverse.length := length_recent_le
  rw [length_append, length_singleton] at hfits
  rw [length_reverse] at hle
  omega

lemma Covers.push {t : ℤ} (hroom : Room w n t h 1) (hle : t ≤ clock)
    (hpast : ∀ u ∈ h, u ≤ t) : Covers w n clock (t :: items) (h ++ [t]) := by
  obtain ⟨older, hh, hold⟩ := hc.split
  refine ⟨hroom.count.sparse, ?_, fun u hu => ?_, older, by simp [hh], fun hlt u hu => hold ?_ u hu⟩
  · exact pairwise_append.2 ⟨hc.sorted, pairwise_singleton _ _, fun u hu v hv => by
      rw [mem_singleton.1 hv]
      exact hpast u hu⟩
  · rcases mem_append.1 hu with hu | hu
    · exact hc.past u hu
    · exact (mem_singleton.1 hu).le.trans hle
  · rw [length_cons] at hlt
    omega

end

lemma Covers.take {m : ℕ} (hc : Covers w m clock items h) : Covers w m clock (items.take m) h := by
  obtain ⟨older, hh, hold⟩ := hc.split
  refine ⟨hc.sparse, hc.sorted, hc.past, older ++ (items.drop m).reverse, ?_, fun hlt t ht => ?_⟩
  · rw [hh, append_assoc, ← reverse_append, take_append_drop]
  · have hshort : items.length < m := by
      rw [length_take] at hlt
      omega
    rw [drop_eq_nil_of_le hshort.le, reverse_nil, append_nil] at ht
    exact hold (by exact_mod_cast hshort) t ht

lemma Known.expire (hc : Covers w n clock ((r.live clock).items.map Stamp.time) h) (hfits : ((r.live clock).items.length : ℤ) ≤ n) :
    Known w n clock (r.expire clock w) h := by
  unfold RedisList.expire
  split
  · next hempty =>
    rw [isEmpty_iff.1 hempty] at hc hfits
    exact ⟨hc, hfits, by simp⟩
  · refine ⟨hc, hfits, fun e he t ht => ?_⟩
    cases he
    obtain ⟨older, hh, -⟩ := hc.split
    have hpast := hc.past t (by rw [hh]; exact mem_append_right _ (mem_reverse.2 ht))
    omega

/-! ### One step of a request that is alone -/

variable {c : Limit} {g g' : Shared}

def Phase (c : Limit) (g : Shared) (clock : ℤ) : Stage → Prop
  | .waiting | .oldest | .renew | .done _ => Known c.window c.successMaxCount clock g.list g.counted
  | .compare old => Known c.window c.successMaxCount clock g.list g.counted ∧ old.time ≤ clock ∧
      ∀ now, c.window ≤ now - old.time → Room c.window c.successMaxCount now g.counted 1
  | .bucket | .serving => Known c.window c.successMaxCount clock g.list g.counted ∧
      (c.successMaxCount ≠ 0 → Room c.window c.successMaxCount clock g.counted 1)
  | .push x => Known c.window c.successMaxCount clock g.list g.counted ∧
      Room c.window c.successMaxCount x.time g.counted 1 ∧ x.time ≤ clock ∧ ∀ t ∈ g.counted, t ≤ x.time
  | .trim => Covers c.window c.successMaxCount clock (g.list.items.map Stamp.time) g.counted ∧ 0 < c.successMaxCount
  | .expire => Covers c.window c.successMaxCount clock (g.list.items.map Stamp.time) g.counted ∧
      (g.list.items.length : ℤ) ≤ c.successMaxCount

lemma Phase.covers {st : Stage} (hp : Phase c g clock st) :
    Covers c.window c.successMaxCount clock (g.list.items.map Stamp.time) g.counted := by
  cases st with
  | waiting | oldest | renew | done => exact Known.toCovers hp
  | compare | bucket | serving | push => exact hp.1.toCovers
  | trim | expire => exact hp.1

lemma Phase.of_idle {st : Stage} (hst : st.Idle) :
    Phase c g clock st ↔ Known c.window c.successMaxCount clock g.list g.counted := by
  cases st with
  | waiting | done => exact Iff.rfl
  | oldest | compare | renew | bucket | serving | push | trim | expire => exact hst.elim

lemma Phase.admitted (hk : Known c.window c.successMaxCount clock g.list g.counted)
    (hroom : c.successMaxCount ≠ 0 → Room c.window c.successMaxCount clock g.counted 1) : Phase c g clock c.admitted := by
  unfold Limit.admitted
  split
  all_goals exact ⟨hk, hroom⟩

lemma ltrim_items {m : ℕ} (hm : 0 < m) (hlive : r.expired now = false) :
    (r.ltrim now ((m : ℤ) - 1)).items = r.items.take m := by
  have hr : r.live now = r := if_neg (by simp [hlive])
  have hcount : (if 0 ≤ (m : ℤ) - 1 then (m : ℤ) - 1 + 1 else r.items.length + ((m : ℤ) - 1) + 1).toNat = m := by
    omega
  simp only [RedisList.ltrim, hr, hcount]
  split
  · next hempty => exact (isEmpty_iff.1 hempty).symm
  · rfl

variable {success : Bool} {shown : ℤ}

/-- **One step** of the request in flight, if the list does not expire in the middle of a record and the local time does not
show more time since the oldest success than has passed. -/
lemma Phase.next {st st' : Stage} (hp : Phase c g clock st) (hmax : 0 ≤ c.successMaxCount)
    (hnow : clock ≤ now) (hlive : st = .trim ∨ st = .expire → g.list.expired now = false)
    (hshown : ∀ old, st = .compare old → shown - old.shown ≤ now - old.time)
    (hnext : st.next c g now shown success = some (g', st')) : Phase c g' now st' := by
  cases st with
  | waiting =>
    have hk : Known c.window c.successMaxCount clock g.list g.counted := hp
    simp only [Stage.next] at hnext
    split_ifs at hnext with hzero hlt
    · cases hnext
      exact .admitted (hk.later hnow) fun hne => absurd hzero hne
    · cases hnext
      exact .admitted (hk.later hnow) fun _ => (hk.live hnow hmax).room_of_length (by rw [length_map]; exact hlt)
    · cases hnext
      exact hk.later hnow
  | oldest =>
    have hk : Known c.window c.successMaxCount clock g.list g.counted := hp
    have hfound := hk.live hnow hmax
    simp only [Stage.next] at hnext
    split at hnext
    · cases hnext
      exact hk.later hnow
    · next old hold =>
      cases hnext
      obtain ⟨older, hh, -⟩ := hfound.split
      have hlast : ((g.list.live now).items.map Stamp.time).getLast? = some old.time := by
        rw [getLast?_map, show (g.list.live now).items.getLast? = some old from hold]
        rfl
      have hmem : old.time ∈ g.counted := by
        rw [hh]
        exact mem_append_right _ (mem_reverse.2 (mem_of_getLast? hlast))
      exact ⟨hk.later hnow, hfound.past old.time hmem, fun now' hexpired =>
        hfound.toCovers.room_of_oldest (by rw [length_map]; exact hfound.fits) hlast hexpired⟩
  | compare old =>
    obtain ⟨hk, hold, hroom⟩ := hp
    simp only [Stage.next] at hnext
    split_ifs at hnext with hlt
    · cases hnext
      exact hk.later hnow
    · cases hnext
      refine .admitted (hk.later hnow) fun _ => hroom now ?_
      have hle := Int.tdiv_le_tdiv (show (0 : ℤ) < 1000 by decide) (hshown old rfl)
      rw [Int.tdiv_eq_ediv_of_nonneg (show 0 ≤ now - old.time by omega)] at hle
      unfold Limit.window
      omega
  | renew =>
    have hk : Known c.window c.successMaxCount clock g.list g.counted := hp
    cases hnext
    have hfound := hk.live hnow hmax
    exact .expire hfound.toCovers hfound.fits
  | bucket =>
    obtain ⟨hk, hroom⟩ := hp
    cases hnext
    split
    · exact ⟨hk.later hnow, fun hne => (hroom hne).later hnow⟩
    · exact hk.later hnow
  | serving =>
    obtain ⟨hk, hroom⟩ := hp
    simp only [Stage.next] at hnext
    split_ifs at hnext with hsuccess
    · cases hnext
      exact ⟨hk.later hnow, (hroom hsuccess.2).later hnow, le_rfl, (hk.later hnow).past⟩
    · cases hnext
      exact hk.later hnow
  | push x =>
    obtain ⟨hk, hroom, hle, hpast⟩ := hp
    cases hnext
    have hfits := hroom.fits
    exact ⟨(hk.live hnow hmax).toCovers.push hroom (hle.trans hnow) hpast, by omega⟩
  | trim =>
    obtain ⟨hc, hpos⟩ := hp
    cases hnext
    obtain ⟨m, hm⟩ := Int.eq_ofNat_of_zero_le hmax
    have hitems := ltrim_items (m := m) (by omega) (hlive (.inl rfl))
    have hlater := hc.later hnow
    simp only [Phase, hm, hitems, map_take] at hlater ⊢
    exact ⟨hlater.take, by rw [length_take]; omega⟩
  | expire =>
    obtain ⟨hc, hfits⟩ := hp
    cases hnext
    have hr : g.list.live now = g.list := if_neg (by simp [hlive (.inr rfl)])
    have hlater := hc.later hnow
    rw [← hr] at hlater hfits
    exact .expire hlater hfits
  | done => cases hnext

/-! ### Requests that do not overlap -/

/-- A request begins only when no other is in flight, the list does not expire between the `LPUSH` of a record and its `EXPIRE`,
and the local time has not been put forward since the oldest success on the list. -/
def Apart (clocks : ℕ → ℤ → ℤ) (s : Gate) : ℤ × ℕ × Bool → Prop
  | (now, i, _) =>
    match s.stage i with
    | .waiting => ∀ j, (s.stage j).Idle
    | .compare old => clocks i now - now ≤ old.shown - old.time
    | .trim | .expire => s.shared.list.expired now = false
    | _ => True

/-- At most one request is in flight, and what its stage promises holds. -/
structure Alone (c : Limit) (s : Gate) : Prop where
  unique : ∀ i j, ¬(s.stage i).Idle → i ≠ j → (s.stage j).Idle
  phase : ∀ i, (∀ j, j ≠ i → (s.stage j).Idle) → Phase c s.shared s.clock (s.stage i)

variable {clocks : ℕ → ℤ → ℤ}

lemma Gate.step_eq_some {s s' : Gate} {i : ℕ} (h : s.step c clocks (now, i, success) = some s') :
    s.clock ≤ now ∧ ∃ g st, (s.stage i).next c s.shared now (clocks i now) success = some (g, st) ∧
      s' = { shared := g, clock := now, stage := update s.stage i st } := by
  obtain ⟨hle, h⟩ := Option.ite_none_right_eq_some.1 h
  obtain ⟨⟨g, st⟩, hnext, rfl⟩ := Option.map_eq_some_iff.1 h
  exact ⟨hle, g, st, hnext, rfl⟩

lemma Alone.others {s : Gate} {i : ℕ} {x : Shared × Stage} (ha : Alone c s)
    (hapart : Apart clocks s (now, i, success)) (hnext : (s.stage i).next c s.shared now shown success = some x) :
    ∀ j, j ≠ i → (s.stage j).Idle := by
  intro j hj
  by_cases hidle : (s.stage i).Idle
  · cases hst : s.stage i with
    | waiting =>
      simp only [Apart, hst] at hapart
      exact hapart j
    | done =>
      rw [hst] at hnext
      cases hnext
    | oldest | compare | renew | bucket | serving | push | trim | expire =>
      rw [hst] at hidle
      exact hidle.elim
  · exact ha.unique i j hidle (.symm hj)

lemma Alone.step {s s' : Gate} {x : ℤ × ℕ × Bool} (hmax : 0 ≤ c.successMaxCount) (ha : Alone c s) (hapart : Apart clocks s x)
    (hstep : s.step c clocks x = some s') : Alone c s' := by
  obtain ⟨now, i, success⟩ := x
  obtain ⟨hnow, g, st, hnext, rfl⟩ := Gate.step_eq_some hstep
  have hothers := ha.others hapart hnext
  have hlive : s.stage i = .trim ∨ s.stage i = .expire → s.shared.list.expired now = false := by
    rintro (hst | hst)
    all_goals simpa [Apart, hst] using hapart
  have hshown : ∀ old, s.stage i = .compare old → clocks i now - old.shown ≤ now - old.time := by
    intro old hst
    simp only [Apart, hst] at hapart
    omega
  have hphase : Phase c g now st := (ha.phase i hothers).next hmax hnow hlive hshown hnext
  refine ⟨fun j j' hj hne => ?_, fun j hj => ?_⟩
  · by_cases hji : j = i
    · subst hji
      simpa [update_of_ne (.symm hne)] using hothers j' (.symm hne)
    · refine absurd ?_ hj
      simpa [update_of_ne hji] using hothers j hji
  · by_cases hji : j = i
    · subst hji
      simpa using hphase
    · -- the request that has taken the step is idle now, and the list is known
      have hidle : st.Idle := by simpa using hj i (.symm hji)
      simp only [update_of_ne hji]
      exact (Phase.of_idle (hothers j hji)).2 ((Phase.of_idle hidle).1 hphase)

lemma Alone.start (hmax : 0 ≤ c.successMaxCount) (z : ℤ) : Alone c { clock := z } := by
  refine ⟨fun i j hi _ => absurd trivial hi, fun i _ => ?_⟩
  exact ⟨⟨fun a => by exact hmax, .nil, by simp, [], rfl, by simp⟩, by exact hmax, by simp⟩

end StarNexus.RateLimit
