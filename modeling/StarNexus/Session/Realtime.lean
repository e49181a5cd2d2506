import StarNexus.Pricing.Monotone
import StarNexus.Service.Realtime
import StarNexus.Session.Net

/-!
# What a realtime session costs

The quota that `PreWssConsumeQuota` charges for a response is not known to the billing session, which at the end settles the
quota of all usage once more.  The funding source and the token therefore change by the charges plus the settled
quota (`finish_level`), and a usage whose charge was refused is added to the sum a second time.
-/

namespace StarNexus.Session

open Lib Lib.Tx Model Service Ledger Session.Account Realtime

/-! ### The quota of a usage -/

section quota

variable (r : AudioRates) (u : RealtimeUsage)

/-- The usage costs nothing: a ratio is zero, or the price rounds to zero. -/
def Unpriced : Prop := r.ratio = 0 ∨ (0 < r.exact u ∧ r.exact u < 1 / 2)

lemma quotaFromDecimal_pos_iff {d : ℚ} (hd : 0 ≤ d) : 0 < Pricing.quotaFromDecimal d ↔ 1 / 2 ≤ d := by
  have hround : 0 < roundAway d ↔ 1 / 2 ≤ d := by
    rw [roundAway, if_pos hd, Int.lt_iff_add_one_le, Int.le_floor]
    constructor
    all_goals
      intro h
      linarith
  rw [← hround, Pricing.quotaFromDecimal_eq]
  omega

lemma price_nonneg : 0 ≤ if r.ratio ≠ 0 ∧ r.exact u ≤ 0 then 1 else r.exact u := by
  split
  · exact zero_le_one
  · next h =>
    by_cases hratio : r.ratio = 0
    · exact (show r.exact u = 0 by simp [AudioRates.exact, hratio]).ge
    · exact (not_le.1 fun hle => h ⟨hratio, hle⟩).le

lemma calculateAudioQuota_nonneg : 0 ≤ r.calculateAudioQuota u := Pricing.quotaFromDecimal_nonneg (price_nonneg r u)

lemma calculateAudioQuota_eq_zero : r.calculateAudioQuota u = 0 ↔ Unpriced r u := by
  have hpos := quotaFromDecimal_pos_iff (price_nonneg r u)
  have hnonneg := calculateAudioQuota_nonneg r u
  have hzero : r.calculateAudioQuota u = 0 ↔ ¬1 / 2 ≤ if r.ratio ≠ 0 ∧ r.exact u ≤ 0 then 1 else r.exact u := by
    rw [← hpos]
    unfold AudioRates.calculateAudioQuota at hnonneg ⊢
    omega
  rw [hzero, Unpriced]
  split
  · next h =>
    constructor
    · intro hlt
      norm_num at hlt
    · rintro (h0 | ⟨hlt, -⟩)
      · exact absurd h0 h.1
      · exact absurd h.2 (not_le.2 hlt)
  · next h =>
    by_cases hratio : r.ratio = 0
    · have hexact : r.exact u = 0 := by simp [AudioRates.exact, hratio]
      norm_num [hexact, hratio]
    · have hgt : 0 < r.exact u := not_le.1 fun hle => h ⟨hratio, hle⟩
      simp [hratio, hgt]

end quota

/-! ### A charge -/

def FundingAffords (ses : BillingSession) (s : Snap schema) (quota : ℤ) : Prop :=
  match ses.funding with
  | .wallet _ _ => True
  | .subscription _ _ _ _ _ => ses.subscriptionId ≠ 0 ∧ (quota = 0 ∨ ∃ sub, s (.subscription ses.subscriptionId) = some sub ∧
      (0 < sub.amountTotal → max 0 (sub.amountUsed + quota) ≤ sub.amountTotal))

/-- `PreWssConsumeQuota` is not refused: the user, the token and the funding source have enough. -/
structure Affords (ses : BillingSession) (s : Snap schema) (quota : ℤ) : Prop where
  user : quota ≤ ((s (.user ses.relayInfo.userId)).map User.quota).getD 0
  token : ∃ token, s (.token ses.relayInfo.tokenId) = some token ∧
    (token.unlimitedQuota = false → quota ≤ token.remainQuota)
  funding : FundingAffords ses s quota

/-- The session draws on the purse, also where `PostConsumeQuota` reads the relay info. -/
structure Synced (p : Purse) (ses : BillingSession) : Prop extends Tied p ses where
  sync : p.source = .subscription → ses.subscriptionId = p.holder

section charge

variable {p : Purse} {start s : Snap schema} {used f t z : ℤ} {ses : BillingSession}

lemma Opened.synced {r : ℤ} (h : Opened p start used r ses s) : Synced p ses := by
  refine ⟨h.tied, fun hsrc => ?_⟩
  have hstock := h.stocked
  unfold Stocked at hstock
  rcases h.tied.funded with ⟨hwallet, -⟩ | ⟨-, requestId, userId, own, preConsumed, hfunding⟩
  · simp [hwallet] at hsrc
  · simp only [hfunding] at hstock
    exact hstock.2.2.2.2.1

lemma adjustUser_commits (c : Cause) (id : ℕ) (q : ℤ) :
    ∃ s', Commits z (if 0 < q then decreaseUserQuota c id q else increaseUserQuota c id (-q)) s (.ok ()) s' := by
  unfold decreaseUserQuota increaseUserQuota
  split
  all_goals
    rw [if_neg (by omega)]
    exact ⟨_, .bind (.execAuto _ _) (.pure ())⟩

lemma settleToken_commits (ses : BillingSession) (q : ℤ) : ∃ s', Commits z (ses.settleToken q) s (.ok ()) s' := by
  unfold BillingSession.settleToken decreaseTokenQuota increaseTokenQuota
  split
  · exact ⟨s, .pure ()⟩
  split
  all_goals
    rw [if_neg (by omega)]
    exact ⟨_, .bind .now (.bind (.execAuto _ _) (.pure ()))⟩

section

variable (hb : Synced p ses) (hused : 0 ≤ used) (hf : 0 ≤ f) (h : Level p start used f t s)

include hb hused hf h

lemma postConsumeFunding_commits {q : ℤ} (hq : 0 ≤ q) :
    (FundingAffords ses s q ∧ ∃ s', Commits z (ses.postConsumeFunding q) s (.ok ()) s' ∧ Level p start used (f + q) t s') ∨
      (¬FundingAffords ses s q ∧ ∃ e, Commits z (ses.postConsumeFunding q) s (.error e) s) := by
  unfold FundingAffords BillingSession.postConsumeFunding
  rcases hb.funded with ⟨hsrc, consumed, hfunding⟩ | ⟨hsrc, requestId, userId, own, preConsumed, hfunding⟩
  · simp only [hfunding]
    obtain ⟨s', hs'⟩ := adjustUser_commits .session p.holder q
    exact .inl ⟨trivial, s', hs', (hs'.yields (adjustUser_level h hsrc hb.mine q)).1⟩
  · have hsync := hb.sync hsrc
    simp only [hfunding]
    rw [hsync]
    by_cases hid : p.holder = 0
    · rw [if_pos hid]
      exact .inr ⟨fun ha => ha.1 hid, _, .fail _⟩
    rw [if_neg hid]
    by_cases h0 : q = 0
    · rw [h0, add_zero]
      exact .inl ⟨⟨hid, .inl rfl⟩, s, .pure (), h⟩
    rw [if_neg h0]
    obtain ⟨sub, hsub, -⟩ := h.backed_used hsrc
    have hbody : postConsumeUserSubscriptionDelta (fun _ => .session) p.holder q =
        transaction (postConsumeUserSubscriptionDeltaTx (fun _ => .session) p.holder q) := by
      rw [postConsumeUserSubscriptionDelta, if_neg hid, if_neg h0]
    by_cases hfits : 0 < sub.amountTotal → max 0 (sub.amountUsed + q) ≤ sub.amountTotal
    · obtain ⟨_, s', hret, -⟩ := postConsumeUserSubscriptionDeltaTx_succeeds hid h0 hsub
        hfits
      have hcommit : Commits z (postConsumeUserSubscriptionDelta (fun _ => .session) p.holder q) s (.ok ()) s' := by
        rw [hbody]
        exact .transaction hret
      obtain ⟨-, hlevel, -⟩ := hcommit.yields (postConsumeUserSubscriptionDelta_level h hsrc hb.mine h0)
      rw [p.floor_of_nonneg hused (by omega)] at hlevel
      exact .inl ⟨⟨hid, .inr ⟨sub, hsub, hfits⟩⟩, s', hcommit, hlevel⟩
    · have hover : 0 < sub.amountTotal ∧ sub.amountTotal < max 0 (sub.amountUsed + q) := by
        rw [Classical.not_imp] at hfits
        exact ⟨hfits.1, Int.not_le.1 hfits.2⟩
      obtain ⟨e, hret⟩ := postConsumeUserSubscriptionDeltaTx_refused hid h0 hsub hover
      refine .inr ⟨?_, e, ?_⟩
      · rintro ⟨-, h0' | ⟨sub', hsub', hfits'⟩⟩
        · exact h0 h0'
        · obtain rfl : sub = sub' := by simpa [hsub] using hsub'
          exact hfits hfits'
      · rw [hbody]
        exact .transaction_error hret

lemma preWssConsumeQuota_commits {q : ℤ} (hq : 0 ≤ q) (z : ℤ) :
    (Affords ses s q ∧ ∃ s', Commits z (ses.preWssConsumeQuota q) s (.ok ()) s' ∧ Level p start used (f + q) (t + q) s') ∨
      (¬Affords ses s q ∧ ∃ e, Commits z (ses.preWssConsumeQuota q) s (.error e) s) := by
  -- the two reads
  have hread : ∀ {x : Except Err Unit} {s' : Snap schema},
      Commits z (ses.preWssCharge q (((s (.user ses.relayInfo.userId)).map User.quota).getD 0)
        (s (.token ses.relayInfo.tokenId))) s x s' → Commits z (ses.preWssConsumeQuota q) s x s' :=
    fun hcharge => .bind (.select _ _) (.bind (.select _ _) hcharge)
  cases htoken : s (.token ses.relayInfo.tokenId) with
  | none =>
    rw [htoken] at hread
    refine .inr ⟨fun ha => ?_, .recordNotFound, hread (.fail _)⟩
    obtain ⟨token, hsome, -⟩ := ha.token
    simp [htoken] at hsome
  | some token =>
    rw [htoken] at hread
    simp only [BillingSession.preWssCharge] at hread
    by_cases huser : ((s (.user ses.relayInfo.userId)).map User.quota).getD 0 < q
    · rw [if_pos huser] at hread
      exact .inr ⟨fun ha => absurd ha.user (not_le.2 huser), _, hread (.fail _)⟩
    rw [if_neg huser] at hread
    by_cases hlimit : token.unlimitedQuota = false ∧ token.remainQuota < q
    · rw [if_pos hlimit] at hread
      refine .inr ⟨fun ha => ?_, _, hread (.fail _)⟩
      obtain ⟨token', hsome, hle⟩ := ha.token
      obtain rfl : token = token' := by simpa [htoken] using hsome
      exact absurd (hle hlimit.1) (not_le.2 hlimit.2)
    rw [if_neg hlimit] at hread
    rcases postConsumeFunding_commits hb hused hf h hq with ⟨ha, s', hs', hlevel⟩ | ⟨hna, e, he⟩
    · obtain ⟨s'', hs''⟩ := settleToken_commits ses q
      refine .inl ⟨⟨not_lt.1 huser, ⟨token, htoken, fun hlim => not_lt.1 fun hlt => hlimit ⟨hlim, hlt⟩⟩, ha⟩, s'', ?_, ?_⟩
      · exact hread (.bind hs' hs'')
      · exact hs''.yields (settleToken_level hb.toTied hlevel q)
    · exact .inr ⟨fun ha => hna ha.funding, e, hread (.bind_error he)⟩

end

end charge

/-! ### Events -/

/-- What a session keeps while it is open: the levels, and the sum of usages and counts, each once. -/
structure Live (p : Purse) (start : Snap schema) (used r : ℤ) (σ : Realtime) : Prop where
  level : Level p start used (r + σ.charged) (r + σ.charged) σ.rows
  charged : 0 ≤ σ.charged
  sum : σ.sumUsage = σ.reported + σ.counted
  usage : σ.targetReads = true → σ.usage = {}

/-- Nothing was charged, and no usage is left that would be added again. -/
def Clean (σ : Realtime) : Prop := σ.charged = 0 ∧ σ.usage.totalTokens = 0

/-- The event is charged once: what can be charged costs nothing, and no reported usage is refused. -/
def Once (ses : BillingSession) (σ : Realtime) : RealtimeEvent → Prop
  | .responseDone _ rates (some reported) _ _ =>
    (Affords ses σ.rows (rates.calculateAudioQuota reported) → Unpriced rates reported) ∧
      (reported.totalTokens ≠ 0 → Affords ses σ.rows (rates.calculateAudioQuota reported))
  | .responseDone _ rates none (some (text, audio)) _ =>
    Affords ses σ.rows (rates.calculateAudioQuota (σ.localUsage + RealtimeUsage.input text audio)) →
      Unpriced rates (σ.localUsage + RealtimeUsage.input text audio)
  | _ => True

section events

variable {p : Purse} {start : Snap schema} {used r : ℤ} {ses : BillingSession} {σ σ' : Realtime}

lemma preConsumeUsage_cases (hb : Synced p ses) (hused : 0 ≤ used) (hr : 0 ≤ r)
    (hlevel : Level p start used (r + σ.charged) (r + σ.charged) σ.rows) (hcharged : 0 ≤ σ.charged) (now : ℤ)
    (rates : AudioRates) (usage : RealtimeUsage) :
    ∃ ok rows charged, (ok = true ↔ Affords ses σ.rows (rates.calculateAudioQuota usage)) ∧
      preConsumeUsage ses now rates usage σ = (ok, { σ with sumUsage := σ.sumUsage + usage, rows, charged }) ∧
      Level p start used (r + charged) (r + charged) rows ∧ 0 ≤ charged ∧
      (charged = 0 ↔ σ.charged = 0 ∧ (ok = true → Unpriced rates usage)) := by
  have hq := calculateAudioQuota_nonneg rates usage
  dsimp only [preConsumeUsage]
  rcases preWssConsumeQuota_commits hb hused (by omega) hlevel hq now with ⟨ha, rows, hcommit, hlevel'⟩ | ⟨hna, e, hcommit⟩
  all_goals rw [show Prog.calm now _ σ.rows σ.rows = _ from hcommit]
  · rw [add_assoc] at hlevel'
    refine ⟨true, rows, _, iff_of_true rfl ha, rfl, hlevel', add_nonneg hcharged hq, ?_⟩
    simp only [forall_const, ← calculateAudioQuota_eq_zero]
    omega
  · exact ⟨false, σ.rows, σ.charged, iff_of_false nofun hna, rfl, hlevel, hcharged, by simp⟩

section

variable (hb : Synced p ses) (hused : 0 ≤ used) (hr : 0 ≤ r) (h : Live p start used r σ)

include hb hused hr h

lemma reportedDone_live
    (hreads : σ.targetReads = true) (now : ℤ) (rates : AudioRates) (reported : RealtimeUsage) (counted : Option (ℤ × ℤ))
    (written : Bool) :
    Live p start used r (reportedDone ses now rates reported written σ) ∧
      (Clean (reportedDone ses now rates reported written σ) ↔
        Clean σ ∧ Once ses σ (.responseDone now rates (some reported) counted written)) := by
  have hsum : σ.sumUsage + reported = σ.reported + reported + σ.counted := by
    rw [h.sum, RealtimeUsage.add_right_comm]
  obtain ⟨ok, rows, charged, hok, heq, hlevel, hcharged, hzero⟩ := preConsumeUsage_cases
    (σ := { σ with usage := reported, reported := σ.reported + reported }) hb hused hr h.level h.charged now rates reported
  unfold reportedDone Clean Once
  rw [h.usage hreads, RealtimeUsage.empty_add]
  dsimp only at hok hzero ⊢
  rw [heq, ← hok]
  cases ok with
  | true => exact ⟨⟨hlevel, hcharged, hsum, fun _ => rfl⟩, by simp [hzero]⟩
  | false => exact ⟨⟨hlevel, hcharged, hsum, nofun⟩, by simp [hzero]⟩

lemma countedDone_live (hreads : σ.targetReads = true) (now : ℤ) (rates : AudioRates) (text audio : ℤ) (written : Bool) :
    Live p start used r (countedDone ses now rates text audio written σ) ∧
      (Clean (countedDone ses now rates text audio written σ) ↔
        Clean σ ∧ Once ses σ (.responseDone now rates none (some (text, audio)) written)) := by
  dsimp only [countedDone, Clean, Once]
  generalize σ.localUsage + .input text audio = rest
  have hsum : σ.sumUsage + rest = σ.reported + (σ.counted + rest) := by
    rw [h.sum, RealtimeUsage.add_assoc]
  obtain ⟨ok, rows, charged, hok, heq, hlevel, hcharged, hzero⟩ := preConsumeUsage_cases
    (σ := { σ with localUsage := rest, counted := σ.counted + rest }) hb hused hr h.level h.charged now rates rest
  rw [heq, ← hok]
  cases ok with
  | true => exact ⟨⟨hlevel, hcharged, hsum, fun _ => h.usage hreads⟩, by simp [hzero, and_right_comm]⟩
  | false => exact ⟨⟨hlevel, hcharged, hsum, nofun⟩, by simp [hzero]⟩

lemma realtime_step {event : RealtimeEvent} (hstep : step ses σ event = some σ') :
    Live p start used r σ' ∧ (Clean σ' ↔ Clean σ ∧ Once ses σ event) := by
  -- an event that neither charges nor reports anything
  have hquiet : ∀ (localUsage : RealtimeUsage) (clientReads targetReads : Bool),
      (targetReads = true → σ.targetReads = true) →
      Live p start used r { σ with localUsage := localUsage, clientReads := clientReads, targetReads := targetReads } ∧
        (Clean { σ with localUsage := localUsage, clientReads := clientReads, targetReads := targetReads } ↔
          Clean σ ∧ True) :=
    fun _ _ _ hreads => ⟨{ h with usage := fun ht => h.usage (hreads ht) }, by simp [Clean]⟩
  cases event with
  | client counted written =>
    obtain ⟨-, hstep⟩ := Option.ite_none_left_eq_some.1 hstep
    cases counted
    all_goals
      cases hstep
      exact hquiet _ _ _ fun ht => ht
  | clientEnds =>
    obtain ⟨-, ⟨⟩⟩ := Option.ite_none_left_eq_some.1 hstep
    exact hquiet _ _ _ fun ht => ht
  | responseDone now rates usage counted written =>
    obtain ⟨hreads, hstep⟩ := Option.ite_none_left_eq_some.1 hstep
    have hreads' : σ.targetReads = true := by simpa using hreads
    match usage, counted with
    | some reported, counted =>
      cases hstep
      exact reportedDone_live hb hused hr h hreads' now rates _ counted written
    | none, none =>
      cases hstep
      exact hquiet _ _ _ nofun
    | none, some (text, audio) =>
      cases hstep
      exact countedDone_live hb hused hr h hreads' now rates _ _ written
  | sessionInfo written =>
    obtain ⟨hreads, ⟨⟩⟩ := Option.ite_none_left_eq_some.1 hstep
    exact hquiet _ _ _ fun _ => by simpa using hreads
  | upstream counted written =>
    obtain ⟨hreads, hstep⟩ := Option.ite_none_left_eq_some.1 hstep
    cases counted
    all_goals
      cases hstep
      exact hquiet _ _ _ fun _ => by simpa using hreads
  | upstreamEnds =>
    obtain ⟨-, ⟨⟩⟩ := Option.ite_none_left_eq_some.1 hstep
    exact hquiet _ _ _ nofun

lemma realtime_run {events : List RealtimeEvent} (hrun : runs (step ses) σ events = some σ') :
    Live p start used r σ' ∧ (Clean σ' ↔ Clean σ ∧ Along (step ses) (Once ses) σ events) := by
  induction events generalizing σ with
  | nil =>
    obtain rfl : σ = σ' := by simpa using hrun
    exact ⟨h, by simp [Along]⟩
  | cons event events ih =>
    obtain ⟨τ, hstep, hrest⟩ := runs_cons_eq_some.1 hrun
    obtain ⟨hlive, hclean⟩ := realtime_step hb hused hr h hstep
    obtain ⟨hlive', hclean'⟩ := ih hlive hrest
    refine ⟨hlive', ?_⟩
    have halong : Along (step ses) (Once ses) σ (event :: events) ↔
        Once ses σ event ∧ Along (step ses) (Once ses) τ events := by
      constructor
      · exact fun hal => ⟨hal.1, hal.2 τ hstep⟩
      · exact fun hal => .cons hal.1 hstep hal.2
    rw [hclean', hclean, halong, and_assoc]

end

end events

/-! ### The end of the session -/

/-- The local count that is left at the end is charged once: if it can be charged, it costs nothing. -/
def RestOnce (ses : BillingSession) (e : Ending) (σ : Realtime) : Prop :=
  σ.localUsage.totalTokens ≠ 0 → Affords ses σ.rows (e.localRates.calculateAudioQuota σ.localUsage) →
    Unpriced e.localRates σ.localUsage

section ending

variable {p : Purse} {start s : Snap schema} {used r : ℤ} {ses : BillingSession} {σ : Realtime} {e : Ending}

lemma preConsumeUsage_frame (ses : BillingSession) (now : ℤ) (rates : AudioRates) (usage : RealtimeUsage) (σ : Realtime) :
    (preConsumeUsage ses now rates usage σ).2.sumUsage = σ.sumUsage + usage ∧
      (preConsumeUsage ses now rates usage σ).2.reported = σ.reported ∧
      (preConsumeUsage ses now rates usage σ).2.counted = σ.counted := by
  dsimp only [preConsumeUsage]
  split <;> exact ⟨rfl, rfl, rfl⟩

lemma flushLocal_total (ses : BillingSession) (e : Ending) (σ : Realtime) :
    (flushLocal ses e σ).sumUsage.totalTokens - (flushLocal ses e σ).counted.totalTokens =
        σ.sumUsage.totalTokens - σ.counted.totalTokens ∧
      (flushLocal ses e σ).reported = σ.reported := by
  unfold flushLocal
  split
  · obtain ⟨hsum, hrep, hcount⟩ := preConsumeUsage_frame ses e.localNow e.localRates σ.localUsage
      { σ with counted := σ.counted + σ.localUsage }
    rw [hsum, hrep, hcount]
    dsimp only
    rw [RealtimeUsage.totalTokens_add, RealtimeUsage.totalTokens_add]
    exact ⟨by omega, rfl⟩
  · exact ⟨rfl, rfl⟩

lemma flush_twice (hsum : σ.sumUsage = σ.reported + σ.counted) (hrest : σ.usage.totalTokens ≠ 0) :
    (flush ses e σ).sumUsage ≠ (flush ses e σ).reported + (flush ses e σ).counted := by
  intro heq
  obtain ⟨htotal, hrep⟩ := flushLocal_total ses e (.flushUsage ses e σ)
  have hflush : .flushUsage ses e σ = (preConsumeUsage ses e.now e.rates σ.usage σ).2 := if_pos hrest
  obtain ⟨hsum', hrep', hcount'⟩ := preConsumeUsage_frame ses e.now e.rates σ.usage σ
  have htotals := congrArg RealtimeUsage.totalTokens heq
  unfold flush at htotals
  rw [RealtimeUsage.totalTokens_add, hrep, hflush, hrep'] at htotals
  rw [hflush, hsum', hcount', hsum, RealtimeUsage.totalTokens_add, RealtimeUsage.totalTokens_add] at htotal
  omega

lemma flush_live (hb : Synced p ses) (hused : 0 ≤ used) (hr : 0 ≤ r) (h : Live p start used r σ)
    (hrest : σ.usage.totalTokens = 0) :
    Level p start used (r + (flush ses e σ).charged) (r + (flush ses e σ).charged)
        (flush ses e σ).rows ∧
      0 ≤ (flush ses e σ).charged ∧
      (flush ses e σ).sumUsage = (flush ses e σ).reported + (flush ses e σ).counted ∧
      ((flush ses e σ).charged = 0 ↔ σ.charged = 0 ∧ RestOnce ses e σ) := by
  have hflush : flush ses e σ = .flushLocal ses e σ := by
    unfold flush flushUsage
    rw [if_neg (not_not.2 hrest)]
  rw [hflush]
  unfold flushLocal RestOnce
  by_cases hlocal : σ.localUsage.totalTokens ≠ 0
  swap
  · rw [if_neg hlocal]
    exact ⟨h.level, h.charged, h.sum, by simp [hlocal]⟩
  have hsum : σ.sumUsage + σ.localUsage = σ.reported + (σ.counted + σ.localUsage) := by
    rw [h.sum, RealtimeUsage.add_assoc]
  obtain ⟨ok, rows, charged, hok, heq, hlevel, hcharged, hzero⟩ := preConsumeUsage_cases
    (σ := { σ with counted := σ.counted + σ.localUsage }) hb hused hr h.level h.charged e.localNow e.localRates σ.localUsage
  rw [if_pos hlocal, heq]
  exact ⟨hlevel, hcharged, hsum, by simpa [hlocal, hok] using hzero⟩

lemma postWssConsumeQuota_level {f t : ℤ} (hopen : Opened p start used r ses s) {s' : Snap schema} (hf : p.floor used f = f)
    (h : Level p start used f t s') (channelId : ℕ) (rates : FinalRates) (usage : RealtimeUsage) :
    Yields (ses.postWssConsumeQuota channelId rates usage) s' (fun _ => True) fun out s'' => out.2 = [] →
      Level p start used (p.floor used (f + (rates.quota usage - r))) (t + (rates.quota usage - r)) s'' := by
  have hsettle : ∀ s₁, Level p start used f t s₁ → Yields (ses.settle (rates.quota usage)) s₁ (fun _ => True)
      fun out s'' => out.2 = [] →
        Level p start used (p.floor used (f + (rates.quota usage - r))) (t + (rates.quota usage - r)) s'' := fun s₁ h₁ =>
    (settle_moves hopen.tied hopen.settled hopen.fundingSettled hopen.preConsumed hf h₁ (rates.quota usage)).mono
      (fun _ h => h) fun out s'' hout hnil => (hout hnil).2.2
  refine .ite (fun _ => hsettle s' h) fun _ => ?_
  -- the statistics are not part of the books
  have huser : Keeps (updateUserUsedQuota ses.relayInfo.userId (rates.quota usage) 1) (Level p start used f t) := fun s₁ h₁ => by
    refine .bind (.autoRow h₁ (fun _ => .pure h₁) fun v hv => .pure ?_)
    obtain ⟨x, hx, hxv⟩ := Option.bind_eq_some_iff.1 hv
    obtain rfl : some _ = v := Option.some.inj hxv
    exact h₁.userRow hx rfl
  have hchannel : Keeps (updateChannelUsedQuota channelId (rates.quota usage)) (Level p start used f t) := fun s₁ h₁ =>
    .bind (.autoRow h₁ (fun _ => .pure h₁) fun v _ => .pure (h₁.write (k := .channelUsed channelId) v rfl))
  refine .bind ((huser.attempt s' h).mono (fun _ _ => trivial) fun _ s₁ h₁ => ?_)
  exact .bind ((hchannel.attempt s₁ h₁).mono (fun _ _ => trivial) fun _ s₂ h₂ => hsettle s₂ h₂)

lemma finish_level (hopen : Opened p start used r ses s) {charged : ℤ} (hf : p.floor used (r + charged) = r + charged)
    (h : Level p start used (r + charged) (r + charged) (flush ses e σ).rows) {last : Realtime} {settled : ℤ}
    (hfin : finish ses e σ = some (last, settled)) :
    Level p start used (p.floor used (charged + settled)) (charged + settled) last.rows := by
  have hyields := postWssConsumeQuota_level hopen hf h e.channelId e.final (flush ses e σ).sumUsage
  have hcancel : ∀ q, r + charged + (q - r) = charged + q := fun q => by omega
  simp only [hcancel] at hyields
  obtain ⟨x, rows, hcommit, -, hok⟩ := hyields.commits e.settleNow
  have hcalm : Prog.calm e.settleNow _ (flush ses e σ).rows (flush ses e σ).rows = (x, rows, rows) := hcommit
  unfold finish at hfin
  dsimp only at hfin
  rw [hcalm] at hfin
  dsimp only at hfin
  split at hfin
  · cases hfin
    exact hok _ rfl rfl
  · cases hfin

lemma finish_eq_some {last : Realtime} {settled : ℤ} (hfin : finish ses e σ = some (last, settled)) :
    settled = e.final.quota (flush ses e σ).sumUsage ∧ last.sumUsage = (flush ses e σ).sumUsage ∧
      last.reported = (flush ses e σ).reported ∧ last.counted = (flush ses e σ).counted := by
  unfold finish at hfin
  dsimp only at hfin
  split at hfin
  · cases hfin
    simp
  · cases hfin

lemma floor_add_iff (p : Purse) {used charged quota : ℤ} (hcharged : 0 ≤ charged) :
    (p.floor used (charged + quota) = quota ∧ (p.token.isSome → charged + quota = quota)) ↔
      charged = 0 ∧ p.floor used quota = quota := by
  unfold Purse.floor
  constructor
  · rintro ⟨hfloor, -⟩
    cases hsrc : p.source with
    | wallet =>
      simp only [hsrc] at hfloor
      exact ⟨by omega, rfl⟩
    | subscription =>
      simp only [hsrc] at hfloor ⊢
      omega
  · rintro ⟨rfl, hfloor⟩
    simp only [zero_add, implies_true, and_true]
    exact hfloor

end ending

/-- **A realtime session is charged once** under this condition, if a settlement below zero finds enough use to give back. -/
theorem realtime_charged_once (start : Snap schema) (o : Oracle) (opening : Opening) (info : RelayInfo)
    (source : FundingSource) (quota : ℤ) (acct : Account) (events : List RealtimeEvent) (σ : Realtime) (e : Ending)
    (last : Realtime) (settled : ℤ) (hknown : Known start opening info) (hplain : info.forcePreConsume = false)
    (hopen : opened start o opening info source quota = some acct)
    (hrun : runs (Realtime.step acct.ses) { rows := acct.rows } events = some σ)
    (hfin : Realtime.finish acct.ses e σ = some (last, settled)) :
    (Exact (purseOf acct.ses) start settled last.rows ∧ last.sumUsage = last.reported + last.counted) ↔
      Along (Realtime.step acct.ses) (Once acct.ses) { rows := acct.rows } events ∧ RestOnce acct.ses e σ ∧
        Covered acct (e.final.quota (Realtime.flush acct.ses e σ).sumUsage) := by
  have hstarted : Started start acct.ses acct.rows ∧ acct.ses.durableTxID = 0 := by
    simp only [opened] at hopen
    split at hopen
    · next ses hses =>
      cases hopen
      exact ((openSession_plain hknown hplain source quota).exec o).2 ses hses
    · cases hopen
  obtain ⟨⟨hused, hphase⟩, htx⟩ := hstarted
  rw [if_pos htx] at hphase
  have hopened : Opened (purseOf acct.ses) start (usedBefore acct.ses acct.rows) acct.ses.preConsumedQuota acct.ses
      acct.rows := hphase
  have hlive : Live (purseOf acct.ses) start (usedBefore acct.ses acct.rows) acct.ses.preConsumedQuota
      { rows := acct.rows } := by
    refine ⟨?_, le_rfl, rfl, fun _ => rfl⟩
    rw [add_zero]
    exact hopened.level
  obtain ⟨hlive', hclean⟩ := realtime_run hopened.synced hused hopened.nonneg hlive hrun
  have hstart : Clean { rows := acct.rows } := ⟨rfl, rfl⟩
  obtain ⟨hsettled, hsum, hrep, hcount⟩ := finish_eq_some hfin
  rw [hsum, hrep, hcount, ← hsettled]
  by_cases hrest : σ.usage.totalTokens = 0
  · obtain ⟨hlevel, hcharged, hflush, hzero⟩ := flush_live hopened.synced hused hopened.nonneg hlive' hrest
    have hf := (purseOf acct.ses).floor_of_nonneg hused (add_nonneg hopened.nonneg hcharged)
    have hend := finish_level hopened hf hlevel hfin
    rw [hend.exact_iff, floor_add_iff _ hcharged, hzero, ← floor_eq_iff_covered]
    have halong : σ.charged = 0 ↔ Along (step acct.ses) (Once acct.ses) { rows := acct.rows } events := by
      have hboth : Clean σ ↔ σ.charged = 0 := by simp [Clean, hrest]
      rw [← hboth, hclean]
      simp [hstart]
    rw [halong]
    simp only [hflush, and_true]
    exact and_assoc
  · -- the refused usage is in the sum twice
    refine ⟨fun h => absurd h.2 (flush_twice hlive'.sum hrest), fun h => ?_⟩
    exact absurd (hclean.2 ⟨hstart, h.1⟩).2 hrest

def textUsage (n : ℤ) : RealtimeUsage := { totalTokens := n, inputTokens := n, inputText := n }

def oneResponse (modelRatio : ℚ) (n : ℤ) : List RealtimeEvent :=
  [.responseDone 2 { modelRatio } (some (textUsage n)) none true]

def plainEnding (modelRatio : ℚ) : Ending where
  now := 3
  rates := { modelRatio }
  localNow := 3
  localRates := { modelRatio }
  final := { modelRatio }
  settleNow := 4
  channelId := 1

/-- The session of one response on the account with 100 pre-consumed: the state at its end, and the settled quota. -/
def oneResponseSession (modelRatio : ℚ) (n : ℤ) : Option (Realtime × ℤ) :=
  (runs (Realtime.step clientAccount.ses) { rows := clientAccount.rows } (oneResponse modelRatio n)).bind
    (Realtime.finish clientAccount.ses (plainEnding modelRatio))

/-- A response that is too small to be charged: the session costs what is settled for it, which is the minimum. -/
theorem realtime_charged_once_cheap :
    ∃ last, oneResponseSession (1 / 4) 1 = some (last, 500) ∧
      Exact (purseOf clientAccount.ses) clientRows 500 last.rows ∧ last.sumUsage = last.reported + last.counted := by
  have hsettled : (oneResponseSession (1 / 4) 1).map Prod.snd = some 500 := by decide +kernel
  obtain ⟨⟨last, settled⟩, hend, rfl⟩ := Option.map_eq_some_iff.1 hsettled
  obtain ⟨σ, hrun, hfin⟩ := Option.bind_eq_some_iff.1 hend
  refine ⟨last, hend, (realtime_charged_once clientRows (.calm 1) plainOpening clientInfo .wallet 100 clientAccount
    (oneResponse (1 / 4) 1) σ (plainEnding (1 / 4)) last 500 clientRows_known rfl (Option.some_get client_opens).symm hrun
    hfin).2 ⟨?_, ?_, ?_⟩⟩
  · have hcheap : Unpriced { modelRatio := 1 / 4 } (textUsage 1) := .inr (by decide +kernel)
    have htoken : (clientAccount.rows (.token 1)).map Token.remainQuota = some 900 := by decide
    obtain ⟨token, hrow, hremain⟩ := Option.map_eq_some_iff.1 htoken
    refine ⟨⟨fun _ => hcheap, fun _ => ⟨by decide +kernel, ⟨token, ?_, fun _ => ?_⟩, ?_⟩⟩, fun _ _ => trivial⟩
    · exact hrow
    · rw [hremain]
      decide +kernel
    · trivial
  · have hlocal : (runs (step clientAccount.ses) { rows := clientAccount.rows } (oneResponse (1 / 4) 1)).map
        (fun σ => σ.localUsage.totalTokens) = some 0 := by decide +kernel
    rw [hrun] at hlocal
    exact fun hne => absurd (Option.some.inj hlocal) hne
  · intro hsrc
    cases hsrc

/-- **Charged twice.** A session of 600 tokens costs 1200, and a usage that the user cannot pay is added to the sum twice. -/
theorem realtime_charged_twice :
    (∃ last, oneResponseSession 1 600 = some (last, 600) ∧
      (purseOf clientAccount.ses).funding last.rows - (purseOf clientAccount.ses).funding clientRows = 1200 ∧
      (purseOf clientAccount.ses).charge last.rows - (purseOf clientAccount.ses).charge clientRows = 1200) ∧
    ∃ last, oneResponseSession 1 2000 = some (last, 4000) ∧ last.reported = textUsage 2000 ∧
      last.sumUsage = textUsage 4000 ∧
      (purseOf clientAccount.ses).funding last.rows - (purseOf clientAccount.ses).funding clientRows = 4000 := by
  have hcharged : (oneResponseSession 1 600).map (fun x => (x.2,
      (purseOf clientAccount.ses).funding x.1.rows - (purseOf clientAccount.ses).funding clientRows,
      (purseOf clientAccount.ses).charge x.1.rows - (purseOf clientAccount.ses).charge clientRows)) =
        some (600, 1200, 1200) := by decide +kernel
  have hrefused : (oneResponseSession 1 2000).map (fun x => (x.2, x.1.reported, x.1.sumUsage,
      (purseOf clientAccount.ses).funding x.1.rows - (purseOf clientAccount.ses).funding clientRows)) =
        some (4000, textUsage 2000, textUsage 4000, 4000) := by decide +kernel
  obtain ⟨⟨last, settled⟩, hend, heq⟩ := Option.map_eq_some_iff.1 hcharged
  obtain ⟨⟨last', settled'⟩, hend', heq'⟩ := Option.map_eq_some_iff.1 hrefused
  simp only [Prod.mk.injEq] at heq heq'
  obtain ⟨rfl, hfunding, hcharge⟩ := heq
  obtain ⟨rfl, hreported, hsum, hfunding'⟩ := heq'
  exact ⟨⟨last, hend, hfunding, hcharge⟩, last', hend', hreported, hsum, hfunding'⟩

end StarNexus.Session
