import Mathlib.Tactic.Linarith
import Mathlib.Tactic.Ring
import StarNexus.RateLimit.Redis

/-!
# The token bucket

What `rate_limit.lua` admits in an interval is paid for by the tokens at its beginning and those added since.
`AcquireModelRequestRateLimit` limits `totalMaxCount` requests per `duration` with a bucket that holds the tokens of a whole
window and is refilled during the window as well, so that a window can admit nearly twice the limit.
-/

namespace StarNexus.RateLimit

open List

structure Config where
  requested : ℤ
  rate : ℤ
  capacity : ℤ

def Limit.config (c : Limit) : Config := ⟨c.duration, c.totalMaxCount, c.totalMaxCount * c.duration⟩

variable (cfg : Config)

def Config.tokens (bucket : Bucket) (now : ℤ) : ℤ := bucket.refilled cfg.rate cfg.capacity now

/-- Calls at these times: how many are admitted, and the bucket afterwards. -/
def Config.serve : Bucket → List ℤ → ℕ × Bucket
  | bucket, [] => (0, bucket)
  | bucket, now :: times =>
    let result := bucket.allow cfg.requested cfg.rate cfg.capacity now
    let rest := serve result.2 times
    ((if result.1 then 1 else 0) + rest.1, rest.2)

def Within (t u : ℤ) (times : List ℤ) : Prop := times.Pairwise (· ≤ ·) ∧ ∀ x ∈ times, t ≤ x ∧ x ≤ u

def Config.Sound (t : ℤ) (bucket : Bucket) : Prop := ∀ p ∈ bucket, (0 ≤ p.1 ∧ p.1 ≤ cfg.capacity) ∧ p.2 ≤ t

structure Config.Nonneg : Prop where
  requested : 0 ≤ cfg.requested
  rate : 0 ≤ cfg.rate
  capacity : 0 ≤ cfg.capacity

variable {cfg} {bucket : Bucket} {t u now : ℤ} {times : List ℤ}

lemma Config.allow_eq : bucket.allow cfg.requested cfg.rate cfg.capacity now =
    if cfg.requested ≤ cfg.tokens bucket now then (true, some (cfg.tokens bucket now - cfg.requested, now))
    else (false, some (cfg.tokens bucket now, now)) := rfl

lemma Config.tokens_now {tokens : ℤ} (h : tokens ≤ cfg.capacity) : cfg.tokens (some (tokens, now)) now = tokens := by
  simp [Config.tokens, Bucket.refilled, h]

lemma Within.tail (h : Within t u (now :: times)) : Within now u times :=
  ⟨h.1.of_cons, fun x hx => ⟨rel_of_pairwise_cons h.1 hx, (h.2 x (.tail _ hx)).2⟩⟩

open Config

section

variable (hc : cfg.Nonneg)

include hc

lemma Config.Sound.tokens (hb : cfg.Sound t bucket) (h : t ≤ now) : 0 ≤ cfg.tokens bucket now ∧
    cfg.tokens bucket now ≤ cfg.capacity ∧ cfg.tokens bucket now ≤ cfg.tokens bucket t + cfg.rate * (now - t) := by
  have hcap := hc.capacity
  have hadd : 0 ≤ cfg.rate * (now - t) := mul_nonneg hc.rate (sub_nonneg.2 h)
  cases bucket with
  | none =>
    simp only [Config.tokens, Bucket.refilled]
    omega
  | some p =>
    obtain ⟨hp, hlast⟩ := hb p rfl
    have hsince : 0 ≤ (t - p.2) * cfg.rate := mul_nonneg (sub_nonneg.2 hlast) hc.rate
    have hsplit : (now - p.2) * cfg.rate = (t - p.2) * cfg.rate + cfg.rate * (now - t) := by ring
    simp only [Config.tokens, Bucket.refilled]
    omega

/-- **Calls in an interval**: what is admitted is paid for by the tokens at its beginning and those added since. -/
lemma Config.Sound.serve (hb : cfg.Sound t bucket) (h : Within t u times) (htu : t ≤ u) :
    cfg.Sound u (cfg.serve bucket times).2 ∧
      (cfg.serve bucket times).1 * cfg.requested ≤ cfg.tokens bucket t + cfg.rate * (u - t) := by
  have hreq := hc.requested
  induction times generalizing bucket t with
  | nil =>
    have := hb.tokens hc le_rfl
    have : 0 ≤ cfg.rate * (u - t) := mul_nonneg hc.rate (sub_nonneg.2 htu)
    refine ⟨fun p hp => ⟨(hb p hp).1, (hb p hp).2.trans htu⟩, ?_⟩
    simp only [serve]
    omega
  | cons now times ih =>
    obtain ⟨hnow, hle⟩ := h.2 now (.head _)
    obtain ⟨hpos, hmax, hfound⟩ := hb.tokens hc hnow
    have hsplit : cfg.rate * (u - t) = cfg.rate * (u - now) + cfg.rate * (now - t) := by ring
    have hsound : ∀ tokens, 0 ≤ tokens → tokens ≤ cfg.capacity → cfg.Sound now (some (tokens, now)) := by
      rintro tokens h₀ h₁ _ ⟨⟩
      exact ⟨⟨h₀, h₁⟩, le_rfl⟩
    by_cases hyes : cfg.requested ≤ cfg.tokens bucket now
    · obtain ⟨hrest, hpaid⟩ := ih (hsound (cfg.tokens bucket now - cfg.requested) (by omega) (by omega)) h.tail hle
      rw [tokens_now (by omega)] at hpaid
      simp only [serve, allow_eq, if_pos hyes, if_true, Nat.cast_add, add_mul]
      exact ⟨hrest, by omega⟩
    · obtain ⟨hrest, hpaid⟩ := ih (hsound _ hpos hmax) h.tail hle
      rw [tokens_now hmax] at hpaid
      simp only [serve, allow_eq, if_neg hyes, Bool.false_eq_true, if_false, zero_add]
      exact ⟨hrest, by omega⟩

lemma Config.serve_burst (k : ℕ) (hmax : cfg.tokens bucket now ≤ cfg.capacity)
    (h : (k + 1) * cfg.requested ≤ cfg.tokens bucket now) : cfg.serve bucket (.replicate (k + 1) now) =
      (k + 1, some (cfg.tokens bucket now - (k + 1) * cfg.requested, now)) := by
  have hreq := hc.requested
  have hyes : cfg.requested ≤ cfg.tokens bucket now := by nlinarith
  induction k generalizing bucket with
  | zero => simp [serve, allow_eq, hyes]
  | succ k ih =>
    have hsplit : ((k + 1 : ℕ) + 1) * cfg.requested = (k + 1) * cfg.requested + cfg.requested := by push_cast; ring
    have hrest := @ih (some (cfg.tokens bucket now - cfg.requested, now))
    rw [tokens_now (by omega)] at hrest
    rw [replicate_succ, serve, allow_eq, if_pos hyes]
    simp only [hrest (by omega) (by omega) (by nlinarith), if_true, hsplit, Int.sub_sub]
    rw [Nat.add_comm 1, Int.add_comm cfg.requested]

end

lemma Config.serve_append (xs ys : List ℤ) : cfg.serve bucket (xs ++ ys) =
    ((cfg.serve bucket xs).1 + (cfg.serve (cfg.serve bucket xs).2 ys).1, (cfg.serve (cfg.serve bucket xs).2 ys).2) := by
  induction xs generalizing bucket with
  | nil => simp [serve]
  | cons x xs ih => simp [serve, ih, add_assoc]

section

variable {c : Limit} {span : ℤ} (hn : 0 < c.totalMaxCount) (hd : 0 < c.duration)

include hn hd

lemma Limit.config_nonneg : c.config.Nonneg := ⟨hd.le, hn.le, (mul_pos hn hd).le⟩

lemma Limit.exists_burst (hspan : 0 ≤ span) (hle : span ≤ c.duration) (hs : c.config.Sound t bucket)
    (h : (c.totalMaxCount + 1) * c.duration ≤ c.config.tokens bucket t + c.totalMaxCount * span) :
    ∃ times, Within t (t + span) times ∧ c.totalMaxCount < (c.config.serve bucket times).1 := by
  have hc := c.config_nonneg hn hd
  have hmax := (hs.tokens hc le_rfl).2.1
  set found := c.config.tokens bucket t
  have hcap : found ≤ c.totalMaxCount * c.duration := hmax
  have hwindow : c.totalMaxCount * span ≤ c.totalMaxCount * c.duration := mul_le_mul_of_nonneg_left hle hn.le
  obtain ⟨k, hk⟩ := Int.le.dest (Int.le_ediv_of_mul_le hd (by linarith) : 1 ≤ found / c.duration)
  have hpaid : (k + 1) * c.duration ≤ found := by
    have := Int.ediv_mul_le found hd.ne'
    rwa [← hk, Int.add_comm] at this
  obtain ⟨m, hm⟩ := Int.le.dest (by nlinarith : (k + 1 : ℤ) ≤ c.totalMaxCount)
  have hrest : c.config.tokens (some (found - (k + 1) * c.duration, t)) (t + span) =
      min (c.totalMaxCount * c.duration) (found - (k + 1) * c.duration + c.totalMaxCount * span) := by
    simp [Config.tokens, Bucket.refilled, config, mul_comm]
  have hsecond : (m + 1) * c.duration ≤ c.config.tokens (some (found - (k + 1) * c.duration, t)) (t + span) := by
    rw [hrest]
    refine le_min ?_ ?_ <;> nlinarith
  refine ⟨.replicate (k + 1) t ++ .replicate (m + 1) (t + span), ⟨?_, ?_⟩, ?_⟩
  · simp only [pairwise_append, pairwise_replicate, mem_replicate]
    exact ⟨.inr le_rfl, .inr le_rfl, fun a ha b hb => by omega⟩
  · simp only [mem_append, mem_replicate]
    rintro x (hx | hx) <;> omega
  · have hlast := serve_burst hc m (hrest ▸ min_le_left _ _) hsecond
    rw [serve_append, serve_burst hc k hmax hpaid]
    show c.totalMaxCount < ((k + 1 + (c.config.serve (some (found - (k + 1) * c.duration, t)) _).1 : ℕ) : ℤ)
    rw [hlast]
    omega

end

/-- **The bucket.** A part of a window stays within the limit, whatever calls are made, exactly if the tokens at its beginning
and the refill do not pay for one request more. -/
theorem total_limit_iff (requested rate capacity : ℕ) (c : Limit) :
    (∀ s t times, Within s t times → s ≤ t → ∀ p ∈ (Config.serve ⟨requested, rate, capacity⟩ none times).2,
      0 ≤ p.1 ∧ p.1 ≤ capacity) ∧
    (∀ s t before times, ∀ span : ℕ, s ≤ t → Within s t before → Within t (t + span) times →
      (Config.serve ⟨requested, rate, capacity⟩ (Config.serve ⟨requested, rate, capacity⟩ none before).2 times).1 * requested ≤
        capacity + rate * span) ∧
    (0 < c.totalMaxCount → 0 < c.duration → ∀ bucket t, ∀ span : ℕ, span ≤ c.duration → c.config.Sound t bucket →
      ((∀ times, Within t (t + span) times → (c.config.serve bucket times).1 ≤ c.totalMaxCount) ↔
        c.config.tokens bucket t + c.totalMaxCount * span < (c.totalMaxCount + 1) * c.duration)) := by
  have hc : Config.Nonneg ⟨requested, rate, capacity⟩ :=
    ⟨Int.natCast_nonneg _, Int.natCast_nonneg _, Int.natCast_nonneg _⟩
  have hempty : ∀ s, Config.Sound ⟨requested, rate, capacity⟩ s none := nofun
  refine ⟨fun s t times h hst p hp => ?_, fun s t before times span hst hb h => ?_, fun hn hd bucket t span hle hs => ⟨?_, ?_⟩⟩
  · exact (((hempty s).serve hc h hst).1 p hp).1
  · have hbefore := ((hempty s).serve hc hb hst).1
    have hpaid := (hbefore.serve hc h (by omega)).2
    have hmax := (hbefore.tokens hc le_rfl).2.1
    rw [add_sub_cancel_left] at hpaid
    have := hpaid.trans (Int.add_le_add_right hmax _)
    dsimp only at this
    exact_mod_cast this
  · intro hall
    by_contra hnot
    obtain ⟨times, htimes, hmany⟩ := Limit.exists_burst hn hd (by omega) hle hs (not_lt.1 hnot)
    exact absurd (hall times htimes) (not_le.2 hmany)
  · intro hfew times htimes
    have hpaid := (hs.serve (c.config_nonneg hn hd) htimes (by omega)).2
    rw [add_sub_cancel_left] at hpaid
    exact Int.lt_add_one_iff.1 (lt_of_mul_lt_mul_right (hpaid.trans_lt hfew) hd.le)

/-- A limit of 2 requests per minute admits 3 within 30 seconds. -/
theorem total_limit_exceeded :
    let c : Limit := { durationMinutes := 1, totalMaxCount := 2, successMaxCount := 0 }
    Within 0 30 [0, 0, 30] ∧ (c.config.serve none [0, 0, 30]).1 = 3 := by
  exact ⟨⟨by decide, by decide⟩, by decide⟩

end StarNexus.RateLimit
