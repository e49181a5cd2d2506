import StarNexus.Fetch.Protection

/-!
# The protected fetch client

`service/protected_fetch_client.go`: a client that checks the URL of a request and of every redirect, and checks again
in its dialer, where the name is looked up once more.
-/

namespace StarNexus.Fetch

open Lib List

/-! ### The dialer -/

structure Dial where
  /-- The settings in force. -/
  setting : FetchSetting := {}
  network : String := "tcp"
  /-- `net.SplitHostPort` of the address. -/
  addr : Option (String × String)
  /-- What the resolver answers. -/
  answer : Answer := none
  /-- What the system's dialer is answered when it looks the name up by itself. -/
  systemAnswer : List IP := []
  /-- Whether a connection to the address comes about. -/
  connects : IP → Bool := fun _ => true

structure Dialled where
  /-- The protection at that moment. -/
  protection : Option SSRFProtection
  /-- The host for which the address was dialled. -/
  host : String
  ip : IP
  port : ℤ

def Dial.each (d : Dial) (protection : Option SSRFProtection) (host : String) (port : ℤ) : List IP → List Dialled × Bool
  | [] => ([], false)
  | ip :: rest =>
    let dialled := { protection, host, ip, port }
    if d.connects ip then ([dialled], true)
    else (dialled :: (d.each protection host port rest).1, (d.each protection host port rest).2)

/-- The addresses that `net.Dialer` dials for a host: an address, also with a zone, stands for itself. -/
def Dial.systemAddresses (d : Dial) (host : String) : List IP :=
  match parseAddr host.toList with
  | some a => [a.ip]
  | none => d.systemAnswer

def networkAllowsIP (network : String) (ip : IP) : Bool :=
  if network = "tcp4" then ip.is4 else if network = "tcp6" then !ip.is4 else true

/-- The candidates among the addresses that were resolved; the first forbidden one fails. -/
def SSRFProtection.candidateIPs (p : SSRFProtection) (network host : String) :
    List (Option IP) → Except FetchError (List IP)
  | [] => .ok []
  | none :: rest => p.candidateIPs network host rest
  | some ip :: rest =>
    if !networkAllowsIP network ip then p.candidateIPs network host rest
    else do
      p.validateResolvedIP host (some ip)
      let others ← p.candidateIPs network host rest
      pure (ip :: others)

def Dial.system (d : Dial) : List Dialled × Except FetchError Unit :=
  match d.addr.bind fun (host, portText) => (atoi portText).map (host, ·) with
  | none => ([], .error .invalidDialAddress)
  | some (host, port) =>
    let (dialled, connected) := d.each none host port (d.systemAddresses host)
    (dialled, if connected then .ok () else .error .dialFailed)

/-- The part of `protectedFetchDialer.DialContext` after the target has been checked. -/
def SSRFProtection.dialTarget (p : SSRFProtection) (d : Dial) (host : String) (port : ℤ) :
    List Dialled × Except FetchError Unit :=
  let dial := fun ips =>
    let (dialled, connected) := d.each (some p) host port ips
    (dialled, if connected then .ok () else .error .dialFailed)
  match parseIP host with
  | some ip => dial [ip]
  | none =>
    if !p.applyIPFilterForDomain then dial (d.systemAddresses host)
    else
      match d.answer with
      | none => ([], .error (.dnsFailed host))
      | some resolved =>
        match p.candidateIPs d.network host resolved with
        | .error e => ([], .error e)
        | .ok [] => ([], .error (.noUsableAddress host))
        | .ok ips => dial ips

def dialContext (d : Dial) : List Dialled × Except FetchError Unit :=
  match currentFetchProtection d.setting with
  | .error e => ([], .error e)
  | .ok none => d.system
  | .ok (some p) =>
    match d.addr with
    | none => ([], .error .invalidDialAddress)
    | some (host, portText) =>
      match atoi portText with
      | none => ([], .error (.invalidPort portText))
      | some port =>
        match p.validateNetworkTarget host port with
        | .error e => ([], .error e)
        | .ok () => p.dialTarget d host port

/-! ### The client -/

/-- A request that is sent: the first one, or one to which the client was redirected. -/
structure Hop where
  url : Option URL
  /-- The settings and the answer to the lookup when the redirect is checked. -/
  redirectSetting : FetchSetting := {}
  redirectAnswer : Answer := none
  /-- The settings and the answer to the lookup when the request is checked. -/
  setting : FetchSetting := {}
  answer : Answer := none
  proxy : Except FetchError (Option String) := .ok none
  /-- The calls of the dialer; none if a connection is reused. -/
  dials : List Dial

def roundTrip (hop : Hop) : List Dialled × Except FetchError Unit :=
  match validateSSRFProtectedFetchURL hop.setting hop.url hop.answer with
  | .error e => ([], .error e)
  | .ok () =>
    match hop.proxy with
    | .error e => ([], .error e)
    | .ok proxyURL =>
      let tried := hop.dials.map (if proxyURL.isNone then dialContext else Dial.system)
      (tried.flatMap Prod.fst, if tried.all (·.2.isOk) then .ok () else .error .dialFailed)

def checkProtectedFetchRedirect (via : ℕ) (hop : Hop) : Except FetchError Unit :=
  match validateSSRFProtectedFetchURL hop.redirectSetting hop.url hop.redirectAnswer with
  | .error e => .error (.redirectBlocked e)
  | .ok () => if 10 ≤ via then .error .tooManyRedirects else .ok ()

/-- The requests of a redirect chain, after `via` of them, with the addresses that are dialled. -/
def follow (via : ℕ) : List Hop → List Dialled
  | [] => []
  | hop :: rest =>
    match if via = 0 then .ok () else checkProtectedFetchRedirect via hop with
    | .error _ => []
    | .ok () =>
      match roundTrip hop with
      | (dialled, .error _) => dialled
      | (dialled, .ok ()) => dialled ++ follow (via + 1) rest

def fetch (hops : List Hop) : List Dialled := follow 0 hops

/-! ### What is dialled -/

structure Dialled.Safe (d : Dialled) (p : SSRFProtection) : Prop where
  port : p.isAllowedPort d.port
  host : (parseIP (trimSpace d.host)).isSome ∨ p.isDomainAllowed (trimSpace d.host)
  filtered : p.applyIPFilterForDomain → p.isIPAccessAllowed (some d.ip)
  literal : ∀ ip, parseIP d.host = some ip → d.ip = ip ∧ p.isIPAccessAllowed (some ip)

lemma Dial.each_spec (d : Dial) (protection : Option SSRFProtection) (host : String) (port : ℤ) (ips : List IP) :
    ∀ x ∈ (d.each protection host port ips).1,
      x.protection = protection ∧ x.host = host ∧ x.port = port ∧ x.ip ∈ ips := by
  induction ips with
  | nil => exact forall_mem_nil _
  | cons ip rest ih =>
    unfold Dial.each
    split
    · simp
    · refine forall_mem_cons.2 ⟨⟨rfl, rfl, rfl, mem_cons_self⟩, fun x hx => ?_⟩
      obtain ⟨hp, hh, hport, hip⟩ := ih x hx
      exact ⟨hp, hh, hport, mem_cons_of_mem _ hip⟩

lemma SSRFProtection.candidateIPs_allowed {p : SSRFProtection} {network host : String} {resolved : List (Option IP)}
    {ips : List IP} (h : p.candidateIPs network host resolved = .ok ips) : ∀ ip ∈ ips, p.isIPAccessAllowed (some ip) := by
  induction resolved generalizing ips with
  | nil =>
    cases h
    exact forall_mem_nil _
  | cons first rest ih =>
    cases first with
    | none => exact ih h
    | some ip =>
      unfold candidateIPs validateResolvedIP at h
      split at h
      · exact ih h
      · split at h
        · next hallowed =>
          cases hrest : p.candidateIPs network host rest with
          | error e =>
            rw [hrest] at h
            cases h
          | ok others =>
            rw [hrest] at h
            cases h
            exact forall_mem_cons.2 ⟨hallowed, ih hrest⟩
        · cases h

lemma SSRFProtection.dialTarget_safe {p : SSRFProtection} {d : Dial} {host : String} {port : ℤ}
    (hvalid : p.validateNetworkTarget host port = .ok ()) :
    ∀ x ∈ (p.dialTarget d host port).1, x.protection = some p ∧ x.Safe p := by
  obtain ⟨hport, hhost⟩ := validateNetworkTarget_ok hvalid
  have hnamed : (parseIP (trimSpace host)).isSome ∨ p.isDomainAllowed (trimSpace host) := by
    rcases hhost with ⟨ip, hip, -⟩ | ⟨-, hdomain⟩
    · exact .inl (by rw [hip]; rfl)
    · exact .inr hdomain
  have hliteral : ∀ ip, parseIP host = some ip → p.isIPAccessAllowed (some ip) := by
    intro ip hip
    rw [trimSpace_of_parseIP hip] at hhost
    rcases hhost with ⟨ip', hip', hallowed⟩ | ⟨hnone, -⟩
    · exact Option.some.inj (hip'.symm.trans hip) ▸ hallowed
    · exact nomatch hip.symm.trans hnone
  -- it remains to know of which addresses the dialled one is
  have hsafe : ∀ ips : List IP, (p.applyIPFilterForDomain → ∀ ip ∈ ips, p.isIPAccessAllowed (some ip)) →
      (∀ ip, parseIP host = some ip → ips = [ip]) →
      ∀ x ∈ (d.each (some p) host port ips).1, x.protection = some p ∧ x.Safe p := by
    intro ips hfiltered hsame x hx
    obtain ⟨hprotection, rfl, rfl, hip⟩ := d.each_spec _ _ _ _ x hx
    refine ⟨hprotection, hport, hnamed, fun hon => hfiltered hon x.ip hip, fun ip hliteralIP => ?_⟩
    rw [hsame ip hliteralIP, mem_singleton] at hip
    exact ⟨hip, hliteral ip hliteralIP⟩
  unfold dialTarget
  cases hip : parseIP host with
  | some ip =>
    apply hsafe [ip]
    · exact fun _ => forall_mem_singleton.2 (hliteral ip hip)
    · intro ip' hip'
      rw [Option.some.inj (hip.symm.trans hip')]
  | none =>
    have hnoLiteral : ∀ (ips : List IP) ip, parseIP host = some ip → ips = [ip] :=
      fun ips ip hip' => nomatch hip.symm.trans hip'
    dsimp only
    split
    · next hoff =>
      apply hsafe _ _ (hnoLiteral _)
      intro hon
      rw [hon] at hoff
      cases hoff
    · cases d.answer with
      | none => exact forall_mem_nil _
      | some resolved =>
        dsimp only
        cases hcandidates : p.candidateIPs d.network host resolved with
        | error e => exact forall_mem_nil _
        | ok ips =>
          cases ips with
          | nil => exact forall_mem_nil _
          | cons ip rest => exact hsafe _ (fun _ => candidateIPs_allowed hcandidates) (hnoLiteral _)

lemma dialContext_safe {d : Dial} (hon : d.setting.enableSSRFProtection) :
    ∀ x ∈ (dialContext d).1, ∃ p, x.protection = some p ∧ x.Safe p := by
  intro x hx
  unfold dialContext at hx
  cases hprotection : currentFetchProtection d.setting with
  | error e =>
    rw [hprotection] at hx
    cases hx
  | ok protection =>
    rw [hprotection] at hx
    cases protection with
    | none =>
      unfold currentFetchProtection at hprotection
      rw [hon] at hprotection
      cases hports : parsePortRanges d.setting.allowedPorts <;> rw [hports] at hprotection <;> cases hprotection
    | some p =>
      dsimp only at hx
      split at hx
      · cases hx
      split at hx
      · cases hx
      split at hx
      · cases hx
      · next hvalid => exact ⟨p, p.dialTarget_safe hvalid x hx⟩

/-! ### Redirect chains -/

structure Hop.Protected (hop : Hop) : Prop where
  direct : ∀ proxyURL, hop.proxy ≠ .ok (some proxyURL)
  on : ∀ d ∈ hop.dials, d.setting.enableSSRFProtection

lemma roundTrip_safe {hop : Hop} (h : hop.Protected) :
    ∀ x ∈ (roundTrip hop).1, ∃ p, x.protection = some p ∧ x.Safe p := by
  intro x hx
  unfold roundTrip at hx
  split at hx
  · cases hx
  cases hproxy : hop.proxy with
  | error e =>
    rw [hproxy] at hx
    cases hx
  | ok proxyURL =>
    cases proxyURL with
    | some proxyURL => exact absurd hproxy (h.direct proxyURL)
    | none =>
      rw [hproxy] at hx
      change x ∈ (hop.dials.map dialContext).flatMap Prod.fst at hx
      rw [flatMap_map, mem_flatMap] at hx
      obtain ⟨d, hd, hx⟩ := hx
      exact dialContext_safe (h.on d hd) x hx

lemma follow_safe {via : ℕ} {hops : List Hop} (h : ∀ hop ∈ hops, hop.Protected) :
    ∀ x ∈ follow via hops, ∃ p, x.protection = some p ∧ x.Safe p := by
  induction hops generalizing via with
  | nil => exact forall_mem_nil _
  | cons hop rest ih =>
    intro x hx
    have hhop := roundTrip_safe (h hop (.head _))
    unfold follow at hx
    split at hx
    · cases hx
    · generalize roundTrip hop = r at hx hhop
      obtain ⟨dialled, result⟩ := r
      cases result with
      | error e => exact hhop x hx
      | ok _ =>
        rcases mem_append.1 hx with hx | hx
        · exact hhop x hx
        · exact ih (fun hop' hmem => h hop' (.tail _ hmem)) x hx

/-- **Nothing forbidden is dialled**, whatever the redirects and the answers to the lookups. -/
theorem fetch_safe {hops : List Hop} (h : ∀ hop ∈ hops, hop.Protected) :
    ∀ x ∈ fetch hops, ∃ p, x.protection = some p ∧ x.Safe p :=
  follow_safe h

def plainHop (setting : FetchSetting) (host : String) : Hop where
  url := some { scheme := "http", hostPort := none, hostname := host }
  redirectSetting := setting
  setting := setting
  dials := [{ setting, addr := some (host, "80") }]

theorem fetch_safe_redirect :
    (fetch [plainHop {} "8.8.8.8", plainHop {} "1.1.1.1"]).map (fun x => (x.ip, x.port)) =
        [(IP.v4 8 8 8 8, 80), (IP.v4 1 1 1 1, 80)] ∧
      ∀ x ∈ fetch [plainHop {} "8.8.8.8", plainHop {} "1.1.1.1"], ∃ p, x.protection = some p ∧ x.Safe p := by
  refine ⟨by decide, fetch_safe fun hop hhop => ?_⟩
  rcases mem_pair.1 hhop with rfl | rfl
  all_goals exact ⟨fun _ h => (nomatch h), fun d hd => by rw [mem_singleton.1 hd]⟩

/-- A link-local address with a zone passes as a domain; and an address is dialled although the filter lists only
`example.com`. -/
theorem forbidden_dialled :
    (fetch [plainHop { applyIPFilterForDomain := false } "fe80::1%eth0"]).map (fun x =>
        (x.host, x.ip, x.protection.map (·.isIPAccessAllowed (some x.ip)))) =
      [("fe80::1%eth0", IP.ofGroups [0xfe80, 0, 0, 0, 0, 0, 0, 1], some false)] ∧
    (fetch [plainHop { domainFilterMode := true, domainList := ["example.com"] } "8.8.8.8"]).map (fun x =>
        (x.host, x.ip, x.protection.map (·.isDomainAllowed x.host))) =
      [("8.8.8.8", IP.v4 8 8 8 8, some false)] := by
  all_goals decide +kernel

end StarNexus.Fetch
