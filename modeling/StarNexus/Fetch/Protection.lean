import StarNexus.Lib.NetIP

/-!
# The protection of fetched addresses

`common/ssrf_protection.go`: which hosts, ports and addresses a fetch may reach, and the check of a URL.
-/

namespace StarNexus.Fetch

open Lib

inductive FetchError where
  | invalidPortConfiguration (config : String)
  | invalidURL
  | unsupportedProtocol (scheme : String)
  | invalidHost
  | invalidPort (text : String)
  | portNotAllowed (port : ℤ)
  | privateIP (host : String) (ip : Option IP)
  | ipNotInWhitelist (host : String) (ip : Option IP)
  | ipInBlacklist (host : String) (ip : Option IP)
  | domainNotInWhitelist (host : String)
  | domainInBlacklist (host : String)
  | dnsFailed (host : String)
  | invalidDialAddress
  | noUsableAddress (host : String)
  | dialFailed
  | redirectBlocked (cause : FetchError)
  | tooManyRedirects
  | proxy

structure SSRFProtection where
  allowPrivateIp : Bool
  domainFilterMode : Bool
  domainList : List String
  ipFilterMode : Bool
  ipList : List String
  allowedPorts : List ℤ
  applyIPFilterForDomain : Bool

structure FetchSetting where
  enableSSRFProtection : Bool := true
  allowPrivateIp : Bool := false
  domainFilterMode : Bool := false
  ipFilterMode : Bool := false
  domainList : List String := []
  ipList : List String := []
  allowedPorts : List String := ["80", "443", "8080", "8443"]
  applyIPFilterForDomain : Bool := true

/-! ### Ports -/

def portInRange (port : ℤ) : Bool := 1 ≤ port && port ≤ 65535

def parsePortRange (config : String) : Except FetchError (List ℤ) :=
  let bad := Except.error (.invalidPortConfiguration config)
  if '-' ∈ config.toList then
    match config.toList.splitOn '-' with
    | [first, last] =>
      match atoi (trimSpace (String.ofList first)), atoi (trimSpace (String.ofList last)) with
      | some startPort, some endPort =>
        if endPort < startPort then bad
        else if !portInRange startPort || !portInRange endPort then bad
        else .ok ((List.range (endPort - startPort + 1).toNat).map (startPort + ·))
      | _, _ => bad
    | _ => bad
  else
    match atoi config with
    | some port => if portInRange port then .ok [port] else bad
    | none => bad

def parsePortRanges : List String → Except FetchError (List ℤ)
  | [] => .ok []
  | config :: rest =>
    if trimSpace config = "" then parsePortRanges rest
    else do
      let ports ← parsePortRange (trimSpace config)
      let others ← parsePortRanges rest
      pure (ports ++ others)

/-- `currentFetchProtection`: `none` if the protection is off. -/
def currentFetchProtection (setting : FetchSetting) : Except FetchError (Option SSRFProtection) :=
  if !setting.enableSSRFProtection then .ok none
  else do
    let allowedPorts ← parsePortRanges setting.allowedPorts
    pure (some
      { allowPrivateIp := setting.allowPrivateIp
        domainFilterMode := setting.domainFilterMode
        domainList := setting.domainList
        ipFilterMode := setting.ipFilterMode
        ipList := setting.ipList
        allowedPorts
        applyIPFilterForDomain := setting.applyIPFilterForDomain })

/-! ### Addresses -/

def privateIPv4Nets : List Net :=
  [.v4 0 0 0 0 8, .v4 10 0 0 0 8, .v4 100 64 0 0 10, .v4 127 0 0 0 8, .v4 169 254 0 0 16, .v4 172 16 0 0 12,
    .v4 192 0 0 0 24, .v4 192 0 2 0 24, .v4 192 168 0 0 16, .v4 198 18 0 0 15, .v4 198 51 100 0 24, .v4 203 0 113 0 24,
    .v4 224 0 0 0 4, .v4 240 0 0 0 4, .v4 255 255 255 255 32]

def privateIPv6Nets : List Net :=
  ["::/128", "::1/128", "::ffff:0:0/96", "64:ff9b::/96", "100::/64", "2001::/23", "2001:db8::/32", "fc00::/7", "fe80::/10",
    "ff00::/8"].filterMap parseCIDR

def isUnspecified (ip : IP) : Bool := ip == .v4 0 0 0 0 || ip == 0

def isLoopback (ip : IP) : Bool := (Net.v4 127 0 0 0 8).contains ip || ip == 1

/-- The low four bits of the second byte of an IPv6 multicast address. -/
def multicastScope (ip : IP) : Option (BitVec 4) := if ip.extractLsb' 120 8 = 0xff then some (ip.extractLsb' 112 4) else none

def isLinkLocalUnicast (ip : IP) : Bool :=
  (Net.v4 169 254 0 0 16).contains ip || (Net.ofPrefix (.ofGroups [0xfe80, 0, 0, 0, 0, 0, 0, 0]) 10).contains ip

def isLinkLocalMulticast (ip : IP) : Bool := (Net.v4 224 0 0 0 24).contains ip || multicastScope ip == some 2

def isInterfaceLocalMulticast (ip : IP) : Bool := multicastScope ip == some 1

def isPrivate6 (ip : IP) : Bool := (Net.ofPrefix (.ofGroups [0xfc00, 0, 0, 0, 0, 0, 0, 0]) 7).contains ip

def isPrivateIP : Option IP → Bool
  | none => true
  | some ip =>
    if isUnspecified ip then true
    else if isLoopback ip || isLinkLocalUnicast ip || isLinkLocalMulticast ip then true
    else if isInterfaceLocalMulticast ip then true
    else if ip.is4 then privateIPv4Nets.any (·.contains ip)
    else privateIPv6Nets.any (·.contains ip) || isPrivate6 ip

def isIpInCIDRList (ip : Option IP) (cidrList : List String) : Bool :=
  cidrList.any fun cidr =>
    match parseCIDR cidr with
    | none => (parseIP cidr).isSome && ip == parseIP cidr
    | some network => ip.any network.contains

/-! ### The filters -/

/-- An entry and a domain, both in lower case: the domain itself, or a wildcard for what is below it and for itself. -/
def listsDomain (domain item : List Char) : Bool :=
  item ≠ [] &&
    (domain == item ||
      ("*.".toList.isPrefixOf item && (('.' :: item.drop 2).isSuffixOf domain || domain == item.drop 2)))

def isDomainListed (domain : String) (list : List String) : Bool :=
  list.any fun item => listsDomain (toLower domain).toList (toLower (trimSpace item)).toList

namespace SSRFProtection

variable (p : SSRFProtection)

def isAllowedPort (port : ℤ) : Bool := p.allowedPorts == [] || port ∈ p.allowedPorts

def isDomainAllowed (domain : String) : Bool :=
  if p.domainFilterMode then isDomainListed domain p.domainList else !isDomainListed domain p.domainList

def isIPAccessAllowed (ip : Option IP) : Bool :=
  if isPrivateIP ip && !p.allowPrivateIp then false
  else if p.ipFilterMode then isIpInCIDRList ip p.ipList
  else !isIpInCIDRList ip p.ipList

def ipAccessError (host : String) (ip : Option IP) : FetchError :=
  if isPrivateIP ip && !p.allowPrivateIp then .privateIP host ip
  else if p.ipFilterMode then .ipNotInWhitelist host ip
  else .ipInBlacklist host ip

def validateNetworkTarget (host : String) (port : ℤ) : Except FetchError Unit :=
  let host := trimSpace host
  if host = "" then .error .invalidHost
  else if !portInRange port then .error (.invalidPort (toString port))
  else if !p.isAllowedPort port then .error (.portNotAllowed port)
  else
    match parseIP host with
    | some ip => if p.isIPAccessAllowed (some ip) then .ok () else .error (p.ipAccessError "" (some ip))
    | none =>
      if p.isDomainAllowed host then .ok ()
      else if p.domainFilterMode then .error (.domainNotInWhitelist host)
      else .error (.domainInBlacklist host)

def validateResolvedIP (host : String) (ip : Option IP) : Except FetchError Unit :=
  if p.isIPAccessAllowed ip then .ok () else .error (p.ipAccessError host ip)

end SSRFProtection

structure URL where
  scheme : String
  /-- `net.SplitHostPort(u.Host)`, if the host has a port. -/
  hostPort : Option (String × String)
  hostname : String

abbrev Answer := Option (List (Option IP))

def SSRFProtection.validateURL (p : SSRFProtection) (url : Option URL) (answer : Answer) : Except FetchError Unit :=
  match url with
  | none => .error .invalidURL
  | some u =>
    if u.scheme ≠ "http" ∧ u.scheme ≠ "https" then .error (.unsupportedProtocol u.scheme)
    else
      let (host, portStr) := u.hostPort.getD (u.hostname, if u.scheme = "https" then "443" else "80")
      match atoi portStr with
      | none => .error (.invalidPort portStr)
      | some port => do
        p.validateNetworkTarget host port
        if (parseIP host).isSome ∨ ¬p.applyIPFilterForDomain then .ok ()
        else
          match answer with
          | none => .error (.dnsFailed host)
          | some ips => ips.forM (p.validateResolvedIP host)

def validateSSRFProtectedFetchURL (setting : FetchSetting) (url : Option URL) (answer : Answer) : Except FetchError Unit :=
  match currentFetchProtection setting with
  | .error e => .error e
  | .ok none => .ok ()
  | .ok (some p) => p.validateURL url answer

/-! ### What a check establishes -/

lemma SSRFProtection.validateNetworkTarget_ok {p : SSRFProtection} {host : String} {port : ℤ}
    (h : p.validateNetworkTarget host port = .ok ()) :
    p.isAllowedPort port ∧
      ((∃ ip, parseIP (trimSpace host) = some ip ∧ p.isIPAccessAllowed (some ip)) ∨
        parseIP (trimSpace host) = none ∧ p.isDomainAllowed (trimSpace host)) := by
  unfold validateNetworkTarget at h
  dsimp only at h
  split at h
  · cases h
  split at h
  · cases h
  split at h
  · cases h
  next hport =>
  refine ⟨by simpa using hport, ?_⟩
  cases hip : parseIP (trimSpace host) with
  | some ip =>
    rw [hip] at h
    dsimp only at h
    split at h
    · next hallowed => exact .inl ⟨ip, rfl, hallowed⟩
    · cases h
  | none =>
    rw [hip] at h
    dsimp only at h
    split at h
    · next hallowed => exact .inr ⟨rfl, hallowed⟩
    · split at h <;> cases h

/-! ### White space -/

lemma isSpace_of_literalChar {c : Char} (h : literalChar c) : isSpace c = false := by
  have hbounds : 32 < c.toNat ∧ c.toNat < 128 := by
    unfold literalChar digit? at h
    simp only [Bool.or_eq_true, beq_iff_eq] at h
    rcases h with (h | rfl) | rfl
    · split at h
      · next hdigit =>
        have hlow : 48 ≤ c.toNat := hdigit.1
        have hhigh : c.toNat ≤ 57 := hdigit.2
        omega
      split at h
      · next hlower =>
        have hlow : 97 ≤ c.toNat := hlower.1
        have hhigh : c.toNat ≤ 102 := hlower.2
        omega
      split at h
      · next hupper =>
        have hlow : 65 ≤ c.toNat := hupper.1
        have hhigh : c.toNat ≤ 70 := hupper.2
        omega
      · cases h
    · decide
    · decide
  unfold isSpace
  simp only [Bool.or_eq_false_iff, Bool.and_eq_false_iff, decide_eq_false_iff_not, beq_eq_false_iff_ne]
  omega

/-- **A host that is an address has no white space around it.** -/
lemma trimSpace_of_parseIP {host : String} {ip : IP} (h : parseIP host = some ip) : trimSpace host = host :=
  trimSpace_of_forall fun c hc => isSpace_of_literalChar (literal_of_parseIP h c hc)

end StarNexus.Fetch
