import Mathlib.Data.List.Forall2
import StarNexus.Fetch.Client

/-!
# Spellings of a host

The domain filter of `common/ssrf_protection.go` compares names in lower case, but with the dot that may end them.
-/

namespace StarNexus.Fetch

open Lib List

/-- No address, and nothing that is trimmed. -/
structure IsHost (host : String) : Prop where
  noAddress : parseIP host = none
  visible : ∀ c ∈ host.toList, isSpace c = false
  nonempty : host ≠ ""

/-- A name as it is listed or asked for without the final dot. -/
structure IsName (name : String) : Prop where
  trimmed : trimSpace name = name
  noDot : (toLower name).toList.getLast? ≠ some '.'

/-- The name, perhaps with a dot at its end. -/
def dotted (name : List Char) (dot : Bool) : List Char := if dot then name ++ ['.'] else name

/-- Any letter case, and with or without the final dot; `s` has been trimmed. -/
def Spells (name s : String) : Prop := ∃ dot, (toLower s).toList = dotted (toLower name).toList dot

def SameEntry (a b : String) : Prop := toLower (trimSpace a) = toLower (trimSpace b)

/-- The list names the host, both without final dots; the entry `*` does with a dot, as a wildcard for every dotted name. -/
def Names (names : List String) (host : String) : Prop :=
  isDomainListed host names ∨ ∃ name ∈ names, toLower name = "*"

def FetchError.aboutDomain : FetchError → Bool
  | .domainNotInWhitelist _ | .domainInBlacklist _ => true
  | _ => false

def domainPasses {α : Type} : Except FetchError α → Bool
  | .error e => !e.aboutDomain
  | .ok _ => true

structure Target where
  https : Bool
  explicitPort : Option String
  answer : Answer
  dial : Dial

def Target.scheme (t : Target) : String := if t.https then "https" else "http"

def Target.portText (t : Target) : String := t.explicitPort.getD (if t.scheme = "https" then "443" else "80")

/-- The verdicts on the domain, of the check of the URL and of the dialer. -/
def Target.verdicts (t : Target) (setting : FetchSetting) (host : String) : Bool × Bool :=
  let url : URL := ⟨t.scheme, t.explicitPort.map (host, ·), host⟩
  (domainPasses (validateSSRFProtectedFetchURL setting (some url) t.answer),
    domainPasses (dialContext { t.dial with setting, addr := some (host, t.portText) }).2)

/-- The check comes to the domain: the protection is on and its ports are well formed, and the port is accepted. -/
def Target.reaches (t : Target) (setting : FetchSetting) : Prop :=
  ∃ p port, currentFetchProtection setting = .ok (some p) ∧ atoi t.portText = some port ∧ portInRange port ∧
    p.isAllowedPort port

/-! ### The verdict is that on the target -/

section

variable {p : SSRFProtection} {host : String} {port : ℤ}

lemma domainPasses_bind {α β : Type} {x : Except FetchError α} {f : α → Except FetchError β}
    (hf : ∀ a, domainPasses (f a)) : domainPasses (x >>= f) = domainPasses x := by
  cases x with
  | error e => rfl
  | ok a => exact hf a

lemma domainPasses_resolved (ip : Option IP) : domainPasses (p.validateResolvedIP host ip) := by
  unfold SSRFProtection.validateResolvedIP SSRFProtection.ipAccessError
  split_ifs <;> rfl

lemma domainPasses_forM (ips : List (Option IP)) : domainPasses (ips.forM (p.validateResolvedIP host)) := by
  induction ips with
  | nil => rfl
  | cons ip rest ih =>
    change domainPasses (p.validateResolvedIP host ip >>= fun _ => rest.forM _)
    rw [domainPasses_bind fun _ => ih]
    exact domainPasses_resolved ip

lemma domainPasses_candidateIPs (network : String) (resolved : List (Option IP)) :
    domainPasses (p.candidateIPs network host resolved) := by
  induction resolved with
  | nil => rfl
  | cons first rest ih =>
    cases first with
    | none => exact ih
    | some ip =>
      unfold SSRFProtection.candidateIPs
      split_ifs
      · exact ih
      · rw [domainPasses_bind fun _ => (domainPasses_bind fun _ => rfl).trans ih]
        exact domainPasses_resolved _

lemma domainPasses_dialTarget (d : Dial) : domainPasses (p.dialTarget d host port).2 := by
  unfold SSRFProtection.dialTarget
  dsimp only
  split
  · split_ifs <;> rfl
  · split_ifs
    · rfl
    · rfl
    · split
      · rfl
      · next resolved _ =>
        have hcandidates : domainPasses (p.candidateIPs d.network host resolved) := domainPasses_candidateIPs _ _
        split
        · next e he =>
          rw [he] at hcandidates
          exact hcandidates
        · rfl
        · split_ifs <;> rfl

lemma domainPasses_system (d : Dial) : domainPasses d.system.2 := by
  unfold Dial.system
  split
  · rfl
  · dsimp only
    split_ifs <;> rfl

lemma Target.verdicts_eq {t : Target} {setting : FetchSetting} (hp : currentFetchProtection setting = .ok (some p)) :
    t.verdicts setting host = ((atoi t.portText).all fun port => domainPasses (p.validateNetworkTarget host port),
      (atoi t.portText).all fun port => domainPasses (p.validateNetworkTarget host port)) := by
  have hscheme : ¬(t.scheme ≠ "http" ∧ t.scheme ≠ "https") := by
    unfold Target.scheme
    split_ifs <;> simp
  have htarget : (t.explicitPort.map (host, ·)).getD (host, if t.scheme = "https" then "443" else "80") =
      (host, t.portText) := by
    unfold Target.portText
    cases t.explicitPort <;> rfl
  simp only [Target.verdicts, validateSSRFProtectedFetchURL, dialContext, hp, SSRFProtection.validateURL, if_neg hscheme,
    htarget]
  cases atoi t.portText with
  | none => rfl
  | some port =>
    simp only [Option.all_some]
    refine congrArg₂ Prod.mk ?_ ?_
    · refine domainPasses_bind fun _ => ?_
      split_ifs
      · rfl
      · cases t.answer with
        | none => rfl
        | some ips => exact domainPasses_forM ips
    · cases p.validateNetworkTarget host port with
      | error e => rfl
      | ok _ => exact domainPasses_dialTarget _

end

/-! ### Letter case -/

variable {list₁ list₂ : List String} {host₁ host₂ : String}

lemma isDomainListed_of_case (hlist : Forall₂ SameEntry list₁ list₂) (hhost : toLower host₁ = toLower host₂) :
    isDomainListed host₁ list₁ = isDomainListed host₂ list₂ := by
  unfold isDomainListed
  rw [hhost]
  induction hlist with
  | nil => rfl
  | cons hentry _ ih =>
    rw [SameEntry] at hentry
    simp only [any_cons, hentry, ih]

lemma currentFetchProtection_list (setting : FetchSetting) (list : List String) :
    currentFetchProtection { setting with domainList := list } =
      (currentFetchProtection setting).map (·.map fun p => { p with domainList := list }) := by
  unfold currentFetchProtection
  split_ifs
  · rfl
  · cases parsePortRanges setting.allowedPorts <;> rfl

lemma SSRFProtection.domainPasses_target {p : SSRFProtection} {host : String} (h : IsHost host) (port : ℤ) :
    domainPasses (p.validateNetworkTarget host port) =
      (!portInRange port || !p.isAllowedPort port || p.isDomainAllowed host) := by
  simp only [validateNetworkTarget, trimSpace_of_forall h.visible, if_neg h.nonempty, h.noAddress]
  cases portInRange port <;> cases p.isAllowedPort port <;> cases p.isDomainAllowed host <;> cases p.domainFilterMode <;> rfl

/-- The verdicts depend on the host and on the list only through `isDomainListed`, if the check comes to it. -/
lemma Target.verdicts_eq_iff (t : Target) (setting : FetchSetting) (h₁ : IsHost host₁) (h₂ : IsHost host₂) :
    t.verdicts { setting with domainList := list₁ } host₁ = t.verdicts { setting with domainList := list₂ } host₂ ↔
      (t.reaches setting → isDomainListed host₁ list₁ = isDomainListed host₂ list₂) := by
  have hsettings := currentFetchProtection_list setting
  unfold Target.reaches
  cases hp : currentFetchProtection setting with
  | error e =>
    rw [hp] at hsettings
    simp [Target.verdicts, validateSSRFProtectedFetchURL, dialContext, hsettings, Except.map]
  | ok protection =>
    rw [hp] at hsettings
    cases protection with
    | none =>
      simp [Target.verdicts, validateSSRFProtectedFetchURL, dialContext, hsettings, Except.map, domainPasses_system]
    | some p =>
      rw [Target.verdicts_eq (hsettings list₁), Target.verdicts_eq (hsettings list₂)]
      cases hport : atoi t.portText with
      | none => simp
      | some port =>
        have hreached : (∃ p' port', (Except.ok (some p) : Except FetchError _) = .ok (some p') ∧ some port = some port' ∧
            portInRange port' ∧ p'.isAllowedPort port') ↔ portInRange port ∧ p.isAllowedPort port := by
          simp
        rw [hreached]
        have hports (list : List String) : { p with domainList := list }.isAllowedPort port = p.isAllowedPort port := rfl
        simp only [Option.all_some, SSRFProtection.domainPasses_target h₁, SSRFProtection.domainPasses_target h₂, hports,
          SSRFProtection.isDomainAllowed, Prod.mk.injEq, and_self]
        cases portInRange port <;> cases p.isAllowedPort port <;> cases p.domainFilterMode <;> simp

/-! ### The final dot -/

section

variable {domain item : List Char}

lemma listsDomain_iff : listsDomain domain item ↔
    item ≠ [] ∧ (domain = item ∨ ∃ below, item = '*' :: '.' :: below ∧ ('.' :: below <:+ domain ∨ domain = below)) := by
  match item with
  | [] => simp [listsDomain]
  | [a] => simp [listsDomain, isPrefixOf]
  | a :: b :: below =>
    have hwild : (∃ below', a :: b :: below = '*' :: '.' :: below' ∧ ('.' :: below' <:+ domain ∨ domain = below')) ↔
        (a = '*' ∧ b = '.') ∧ ('.' :: below <:+ domain ∨ domain = below) := by
      simp only [cons.injEq]
      constructor
      · rintro ⟨_, ⟨ha, hb, rfl⟩, h⟩
        exact ⟨⟨ha, hb⟩, h⟩
      · rintro ⟨⟨ha, hb⟩, h⟩
        exact ⟨below, ⟨ha, hb, rfl⟩, h⟩
    rw [hwild]
    simp [listsDomain, isPrefixOf, @eq_comm _ '*', @eq_comm _ '.']

/-- An entry matches a domain if both have the dot or neither has it; besides, `*.` matches what ends with a dot. -/
lemma listsDomain_dotted (hdomain : domain.getLast? ≠ some '.') (hitem : item.getLast? ≠ some '.') (hne : domain ≠ [])
    (dot dot' : Bool) : listsDomain (dotted domain dot') (dotted item dot) ↔
      dot = dot' ∧ (listsDomain domain item ∨ dot ∧ item = ['*']) := by
  have hlast {l m : List Char} (hl : l.getLast? ≠ some '.') : l ≠ m ++ ['.'] := fun h => hl (by simp [h])
  have hend {l m : List Char} (hl : l.getLast? ≠ some '.') : ¬m ++ ['.'] <:+ l := by
    rintro ⟨front, rfl⟩
    exact hl (by simp [← append_assoc])
  have hitem' (below : List Char) (h : item = '*' :: '.' :: below) : ('.' :: below).getLast? ≠ some '.' := by
    rw [h, getLast?_cons_cons] at hitem
    exact hitem
  rw [listsDomain_iff]
  cases dot <;> cases dot' <;> simp only [dotted, if_true, Bool.false_eq_true, if_false]
  · simp [listsDomain_iff]
  · -- the entry has no dot, the domain has one
    refine iff_of_false ?_ (by simp)
    rintro ⟨-, h | ⟨below, h, hsuffix | rfl⟩⟩
    · exact hlast hitem h.symm
    · rcases suffix_concat_iff.1 hsuffix with h' | ⟨t, ht, -⟩
      · cases h'
      · exact hlast (hitem' below h) ht
    · exact hlast (hitem' _ h) (m := '.' :: domain) rfl
  · -- the entry has a dot, the domain has none
    refine iff_of_false ?_ (by simp)
    rintro ⟨-, h | ⟨below, h, hmatch⟩⟩
    · exact hlast hdomain h
    match item with
    | [] => cases h
    | [a] =>
      obtain ⟨-, -, rfl⟩ : a = '*' ∧ '.' = '.' ∧ below = [] := by simpa [eq_comm] using h
      rcases hmatch with h' | h'
      · exact hend (m := []) hdomain h'
      · exact hne h'
    | a :: b :: rest =>
      obtain ⟨-, -, rfl⟩ : a = '*' ∧ b = '.' ∧ rest ++ ['.'] = below := by simpa using h
      rcases hmatch with h' | h'
      · exact hend (m := '.' :: rest) hdomain h'
      · exact hlast hdomain h'
  · rw [listsDomain_iff]
    match item with
    | [] => simp [hne]
    | [a] =>
      rw [append_left_inj]
      simp
    | a :: b :: rest =>
      have hsuffix : '.' :: (rest ++ ['.']) <:+ domain ++ ['.'] ↔ '.' :: rest <:+ domain :=
        @suffix_append_self_iff _ ('.' :: rest) _ _
      rw [append_left_inj]
      simp [hsuffix]

end

variable {names list : List String} {host host' : String}

lemma toLower_dot (name : String) : (toLower (name ++ ".")).toList = dotted (toLower name).toList true := by
  have hdot : Char.ofNat (lowerCode 46) = '.' := by decide
  simp [toLower, dotted, hdot]

lemma trimSpace_dot {name : String} (h : trimSpace name = name) : trimSpace (name ++ ".") = name ++ "." := by
  have hfront : (name.toList ++ ['.']).dropWhile isSpace = name.toList ++ ['.'] := by
    have hname := dropWhile_trimSpace name
    rw [h] at hname
    cases hl : name.toList with
    | nil => decide
    | cons a l =>
      rw [hl] at hname
      by_cases ha : isSpace a
      · have hle := (dropWhile_suffix isSpace (l := l)).length_le
        rw [dropWhile_cons_of_pos ha] at hname
        rw [hname, length_cons] at hle
        omega
      · exact dropWhile_cons_of_neg ha
  rw [trimSpace, String.toList_append]
  change String.ofList (((name.toList ++ ['.']).dropWhile isSpace).rdropWhile isSpace) = _
  rw [hfront, rdropWhile_concat_neg _ _ _ (by decide), ← String.toList_inj]
  simp

lemma IsName.spells {name : String} (h : IsName name) : Spells name (trimSpace name) := ⟨false, by rw [h.trimmed]; rfl⟩

lemma IsName.spells_dot {name : String} (h : IsName name) : Spells name (trimSpace (name ++ ".")) :=
  ⟨true, by rw [trimSpace_dot h.trimmed, toLower_dot]⟩

lemma exists_spelled (hlist : Forall₂ (fun name entry => Spells name (trimSpace entry)) names list) :
    ∀ entry ∈ list, ∃ name ∈ names, Spells name (trimSpace entry) := by
  induction hlist with
  | nil => simp
  | cons hfirst _ ih =>
    refine forall_mem_cons.2 ⟨⟨_, mem_cons_self, hfirst⟩, fun entry hentry => ?_⟩
    obtain ⟨name, hname, hspells⟩ := ih entry hentry
    exact ⟨name, mem_cons_of_mem _ hname, hspells⟩

/-- A name that the list does not name is on the list in no spelling. -/
lemma not_listed_of_spells (hname : IsName host) (hne : (toLower host).toList ≠ []) (hnames : ∀ name ∈ names, IsName name)
    (h : ¬Names names host) (hlist : Forall₂ (fun name entry => Spells name (trimSpace entry)) names list)
    (hhost : Spells host host') : isDomainListed host' list = false := by
  rw [isDomainListed, any_eq_false]
  intro entry hentry
  obtain ⟨name, hmem, dot, hdot⟩ := exists_spelled hlist entry hentry
  obtain ⟨dot', hdot'⟩ := hhost
  rw [hdot, hdot', listsDomain_dotted hname.noDot (hnames name hmem).noDot hne]
  rintro ⟨-, hmatch | ⟨-, hstar⟩⟩
  · refine h (.inl (any_eq_true.2 ⟨name, hmem, ?_⟩))
    rw [(hnames name hmem).trimmed]
    exact hmatch
  · exact h (.inr ⟨name, hmem, String.toList_inj.1 hstar⟩)

/-- With a dot it is on no list of names without one, and on the list with dots if `*` is one of the names. -/
lemma listed_dot (hname : IsName host) (hne : (toLower host).toList ≠ []) (hnames : ∀ name ∈ names, IsName name) :
    isDomainListed (host ++ ".") names = false ∧
      ((∃ name ∈ names, toLower name = "*") → isDomainListed (host ++ ".") (names.map (· ++ ".")) = true) := by
  constructor
  · rw [isDomainListed, any_eq_false]
    intro name hmem
    have hmatch := listsDomain_dotted hname.noDot (hnames name hmem).noDot hne false true
    rw [(hnames name hmem).trimmed, toLower_dot]
    exact fun h => absurd (hmatch.1 h).1 Bool.false_ne_true
  · rintro ⟨name, hmem, hstar⟩
    refine any_eq_true.2 ⟨name ++ ".", mem_map_of_mem hmem, ?_⟩
    rw [trimSpace_dot (hnames name hmem).trimmed, toLower_dot, toLower_dot]
    exact (listsDomain_dotted hname.noDot (hnames name hmem).noDot hne true true).2 ⟨rfl, .inr ⟨rfl, by rw [hstar]; rfl⟩⟩

/-- **Respelling.** Other letters change no verdict, of the host as well as of the list; and all spellings, with and without
final dots, get the same verdict exactly if the check does not come to the domain or the list does not name the host. -/
theorem respellings_iff (t : Target) (setting : FetchSetting) (hname : IsName host) (hhost : IsHost host)
    (hdotted : IsHost (host ++ ".")) (hnames : ∀ name ∈ names, IsName name) :
    (∀ list₁ list₂ host₁ host₂, Forall₂ SameEntry list₁ list₂ → toLower host₁ = toLower host₂ → IsHost host₁ →
      IsHost host₂ →
        t.verdicts { setting with domainList := list₁ } host₁ = t.verdicts { setting with domainList := list₂ } host₂) ∧
    ((∀ list₁ list₂ host₁ host₂, Forall₂ (fun name entry => Spells name (trimSpace entry)) names list₁ →
      Forall₂ (fun name entry => Spells name (trimSpace entry)) names list₂ → Spells host host₁ → Spells host host₂ →
      IsHost host₁ → IsHost host₂ →
        t.verdicts { setting with domainList := list₁ } host₁ = t.verdicts { setting with domainList := list₂ } host₂) ↔
      (t.reaches setting → ¬Names names host)) := by
  have hne : (toLower host).toList ≠ [] := by
    simpa [toLower] using hhost.nonempty
  refine ⟨fun list₁ list₂ host₁ host₂ hlist hlower h₁ h₂ => ?_, fun hall hreached hnamed => ?_,
    fun hnot list₁ list₂ host₁ host₂ hlist₁ hlist₂ hspells₁ hspells₂ h₁ h₂ => ?_⟩
  · exact (t.verdicts_eq_iff setting h₁ h₂).2 fun _ => isDomainListed_of_case hlist hlower
  · have hplain : Forall₂ (fun name entry => Spells name (trimSpace entry)) names names :=
      forall₂_same.2 fun name hmem => (hnames name hmem).spells
    have hwithDots : Forall₂ (fun name entry => Spells name (trimSpace entry)) names (names.map (· ++ ".")) :=
      forall₂_map_right_iff.2 (forall₂_same.2 fun name hmem => (hnames name hmem).spells_dot)
    have hself : Spells host host := ⟨false, rfl⟩
    have hdot : Spells host (host ++ ".") := ⟨true, toLower_dot host⟩
    obtain ⟨hoff, hon⟩ := listed_dot hname hne hnames
    -- the dot takes the host off a list that has it, and puts it on one with `*.`
    have htaken := (t.verdicts_eq_iff setting hhost hdotted).1 (hall names names _ _ hplain hplain hself hdot hhost hdotted)
      hreached
    have hput := (t.verdicts_eq_iff setting hhost hdotted).1
      (hall names _ _ _ hplain hwithDots hself hdot hhost hdotted) hreached
    rcases hnamed with hlisted | hstar
    · rw [hlisted, hoff] at htaken
      cases htaken
    · rw [htaken, hoff, hon hstar] at hput
      cases hput
  · refine (t.verdicts_eq_iff setting h₁ h₂).2 fun hreached => ?_
    rw [not_listed_of_spells hname hne hnames (hnot hreached) hlist₁ hspells₁,
      not_listed_of_spells hname hne hnames (hnot hreached) hlist₂ hspells₂]

def plainTarget : Target := ⟨true, none, none, { addr := none }⟩

/-- A host that the list does not name: the dot and the letters are of no account. -/
theorem respellings_iff_unnamed : plainTarget.verdicts { domainList := ["evil.com."] } "Good.org." =
    plainTarget.verdicts { domainList := [" EVIL.com"] } "good.org" := by
  have hgood : IsName "good.org" := ⟨by decide +kernel, by decide +kernel⟩
  have hevil : IsName "evil.com" := ⟨by decide +kernel, by decide +kernel⟩
  have hhost (host : String) (hip : parseIP host = none) (hspace : host.toList.all (! isSpace ·)) (hne : host ≠ "") :
      IsHost host := ⟨hip, by simpa using hspace, hne⟩
  have hplain := hhost "good.org" (by decide +kernel) (by decide +kernel) (by decide)
  have hdotted := hhost "good.org." (by decide +kernel) (by decide +kernel) (by decide)
  have hmixed := hhost "Good.org." (by decide +kernel) (by decide +kernel) (by decide)
  have hnames : ∀ name ∈ ["evil.com"], IsName name := by simpa using hevil
  refine (respellings_iff plainTarget {} hgood hplain hdotted hnames).2.2 ?_ _ _ _ _
    (.cons ⟨true, by decide +kernel⟩ .nil) (.cons ⟨false, by decide +kernel⟩ .nil) ⟨true, by decide +kernel⟩ ⟨false, rfl⟩
    hmixed hplain
  rintro - (hlisted | ⟨name, hmem, hstar⟩)
  · exact absurd hlisted (by decide +kernel)
  · obtain rfl := mem_singleton.1 hmem
    exact absurd (congrArg String.toList hstar) (by decide +kernel)

/-- The final dot takes a host off the list. -/
theorem dotted_host_passes : plainTarget.verdicts { domainList := ["evil.com"] } "evil.com" = (false, false) ∧
    plainTarget.verdicts { domainList := ["evil.com"] } "evil.com." = (true, true) := by
  decide +kernel

end StarNexus.Fetch
