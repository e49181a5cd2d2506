import Mathlib.Data.List.Perm.Subperm
import StarNexus.Lib.Text

/-!
# The model and the proxy of an upstream account

`service/upstream_account_router.go`: `resolveUpstreamAccountModelMapping` returns the target of the requested model itself,
or else that of the longest wildcard that matches it; `resolveUpstreamProxy` follows the backups of a proxy that cannot be
used.
-/

namespace StarNexus.Router

open Lib List

/-- A map, with its keys in the order in which they are iterated. -/
structure ModelMapping where
  keys : List String
  target : String → String

def ModelMapping.get (mapping : ModelMapping) (key : String) : String := if key ∈ mapping.keys then mapping.target key else ""

def byteLength (s : String) : ℕ := (s.toList.map Char.utf8Size).sum

def patternMatches (requestedModel pattern : String) : Bool :=
  pattern.toList.getLast? == some '*' && pattern.toList.dropLast.isPrefixOf requestedModel.toList

def betterPattern (requestedModel bestPattern pattern : String) : String :=
  if !patternMatches requestedModel pattern then bestPattern
  else if byteLength bestPattern < byteLength pattern ∨ byteLength pattern = byteLength bestPattern ∧ pattern < bestPattern then
    pattern
  else bestPattern

def bestPattern (keys : List String) (requestedModel : String) : String :=
  keys.foldl (fun best key => betterPattern requestedModel best (trimSpace key)) ""

def resolveUpstreamAccountModelMapping (mapping : ModelMapping) (requestedModel : String) : String × Bool :=
  if mapping.keys = [] then (requestedModel, false)
  else if requestedModel ∈ mapping.keys then (trimSpace (mapping.get requestedModel), true)
  else if bestPattern mapping.keys requestedModel = "" then (requestedModel, false)
  else (trimSpace (mapping.get (bestPattern mapping.keys requestedModel)), true)

/-- The key matches without the white space around it, and no longer one does. -/
structure Longest (keys : List String) (requestedModel key : String) : Prop where
  mem : key ∈ keys
  isMatch : patternMatches requestedModel (trimSpace key)
  longest : ∀ key' ∈ keys, patternMatches requestedModel (trimSpace key') →
    byteLength (trimSpace key') ≤ byteLength (trimSpace key)

inductive MostSpecific (mapping : ModelMapping) (requestedModel : String) : String × Bool → Prop
  | exact (h : requestedModel ∈ mapping.keys) :
      MostSpecific mapping requestedModel (trimSpace (mapping.target requestedModel), true)
  | wildcard {key : String} (hkey : requestedModel ∉ mapping.keys) (h : Longest mapping.keys requestedModel key) :
      MostSpecific mapping requestedModel (trimSpace (mapping.target key), true)
  | unmatched (hkey : requestedModel ∉ mapping.keys)
      (h : ∀ key ∈ mapping.keys, ¬patternMatches requestedModel (trimSpace key)) :
      MostSpecific mapping requestedModel (requestedModel, false)

variable {mapping : ModelMapping} {keys : List String} {requestedModel p q : String}

/-! ### The best pattern -/

lemma byteLength_pos (hp : patternMatches requestedModel p) : 0 < byteLength p := by
  simp only [patternMatches, Bool.and_eq_true, beq_iff_eq] at hp
  obtain ⟨a, ha⟩ := getLast?_eq_some_iff.1 hp.1
  have hstar : Char.utf8Size '*' = 1 := by decide
  simp [byteLength, ha, hstar]

lemma eq_nil_of_sum {l : List Char} (h : (l.map Char.utf8Size).sum = 0) : l = [] := by
  cases l with
  | nil => rfl
  | cons c l =>
    have := c.utf8Size_pos
    simp at h
    omega

/-- Patterns that match begin like the requested model, so that their length decides. -/
lemma eq_of_byteLength (hp : patternMatches requestedModel p) (hq : patternMatches requestedModel q)
    (h : byteLength p = byteLength q) : p = q := by
  simp only [patternMatches, Bool.and_eq_true, beq_iff_eq, isPrefixOf_iff_prefix] at hp hq
  obtain ⟨a, ha⟩ := getLast?_eq_some_iff.1 hp.1
  obtain ⟨b, hb⟩ := getLast?_eq_some_iff.1 hq.1
  rw [← String.toList_inj, ha, hb]
  have hprefix := prefix_or_prefix_of_prefix hp.2 hq.2
  simp only [byteLength, ha, hb, dropLast_concat] at h hprefix
  rcases hprefix with ⟨c, rfl⟩ | ⟨c, rfl⟩
  · rw [eq_nil_of_sum (l := c) (by simpa using h), append_nil]
  · rw [eq_nil_of_sum (l := c) (by simpa using h), append_nil]

/-- After the loop over the keys: none of them matches, or a longest one has been found. -/
lemma bestPattern_cases (keys : List String) (requestedModel : String) :
    (bestPattern keys requestedModel = "" ∧ ∀ key ∈ keys, ¬patternMatches requestedModel (trimSpace key)) ∨
      ∃ key, Longest keys requestedModel key ∧ bestPattern keys requestedModel = trimSpace key := by
  induction keys using reverseRecOn with
  | nil => exact .inl ⟨rfl, by simp⟩
  | append_singleton rest key ih =>
    have hbest : bestPattern (rest ++ [key]) requestedModel =
        betterPattern requestedModel (bestPattern rest requestedModel) (trimSpace key) := by
      simp [bestPattern]
    rw [hbest, betterPattern]
    by_cases hmatch : patternMatches requestedModel (trimSpace key)
    · rw [hmatch, Bool.not_true, if_neg Bool.false_ne_true]
      rcases ih with ⟨hnone, hrest⟩ | ⟨best, hbest, heq⟩
      · rw [hnone, if_pos (.inl (byteLength_pos hmatch))]
        exact .inr ⟨key, ⟨by simp, hmatch, forall_mem_append.2
          ⟨fun k hk hk' => absurd hk' (hrest k hk), forall_mem_singleton.2 fun _ => le_rfl⟩⟩, rfl⟩
      · rw [heq]
        split_ifs with hbetter
        · refine .inr ⟨key, ⟨by simp, hmatch, forall_mem_append.2 ⟨fun k hk hk' => ?_, forall_mem_singleton.2 fun _ => le_rfl⟩⟩, rfl⟩
          have := hbest.longest k hk hk'
          omega
        · exact .inr ⟨best, ⟨by simp [hbest.mem], hbest.isMatch, forall_mem_append.2
            ⟨hbest.longest, forall_mem_singleton.2 fun _ => by omega⟩⟩, rfl⟩
    · rw [Bool.eq_false_iff.2 hmatch, Bool.not_false, if_pos rfl]
      rcases ih with ⟨hnone, hrest⟩ | ⟨best, hbest, heq⟩
      · exact .inl ⟨hnone, forall_mem_append.2 ⟨hrest, forall_mem_singleton.2 hmatch⟩⟩
      · exact .inr ⟨best, ⟨by simp [hbest.mem], hbest.isMatch, forall_mem_append.2
          ⟨hbest.longest, forall_mem_singleton.2 fun h => absurd h hmatch⟩⟩, heq⟩

lemma bestPattern_perm {keys' : List String} (h : keys'.Perm keys) :
    bestPattern keys' requestedModel = bestPattern keys requestedModel := by
  rcases bestPattern_cases keys' requestedModel with ⟨hnone', hrest'⟩ | ⟨k, hk, heq⟩ <;>
    rcases bestPattern_cases keys requestedModel with ⟨hnone, hrest⟩ | ⟨k', hk', heq'⟩
  · rw [hnone, hnone']
  · exact absurd hk'.isMatch (hrest' k' (h.mem_iff.2 hk'.mem))
  · exact absurd hk.isMatch (hrest k (h.mem_iff.1 hk.mem))
  · rw [heq, heq']
    exact eq_of_byteLength hk.isMatch hk'.isMatch (le_antisymm (hk'.longest k (h.mem_iff.1 hk.mem) hk.isMatch)
      (hk.longest k' (h.mem_iff.2 hk'.mem) hk'.isMatch))

/-- The longest pattern stands in the table without white space, or its target is blank and so not missed. -/
def FindsPattern (mapping : ModelMapping) (requestedModel : String) : Prop :=
  (∀ key, Longest mapping.keys requestedModel key → trimSpace key ∈ mapping.keys) ∨
    ∃ key, Longest mapping.keys requestedModel key ∧ trimSpace (mapping.target key) = ""

lemma Longest.trimmed {key : String} (h : Longest keys requestedModel key) (hmem : trimSpace key ∈ keys) :
    Longest keys requestedModel (trimSpace key) := by
  refine ⟨hmem, ?_, ?_⟩ <;> rw [trimSpace_trimSpace]
  · exact h.isMatch
  · exact h.longest

lemma Longest.trimSpace_eq {key key' : String} (h : Longest keys requestedModel key)
    (h' : Longest keys requestedModel key') : trimSpace key' = trimSpace key :=
  eq_of_byteLength h'.isMatch h.isMatch
    (le_antisymm (h.longest key' h'.mem h'.isMatch) (h'.longest key h.mem h.isMatch))

/-- What is returned for a model that is no key, and whose longest pattern is `key`. -/
lemma resolve_of_longest {key : String} (hexact : requestedModel ∉ mapping.keys)
    (hkey : Longest mapping.keys requestedModel key) :
    resolveUpstreamAccountModelMapping mapping requestedModel = (trimSpace (mapping.get (trimSpace key)), true) := by
  have hkeys : mapping.keys ≠ [] := fun hempty => by simpa [hempty] using hkey.mem
  rcases bestPattern_cases mapping.keys requestedModel with ⟨-, hrest⟩ | ⟨best, hbest, heq⟩
  · exact absurd hkey.isMatch (hrest key hkey.mem)
  · have hne : trimSpace key ≠ "" := by
      intro hempty
      have hpos := byteLength_pos hkey.isMatch
      rw [hempty] at hpos
      exact absurd hpos (by decide)
    rw [resolveUpstreamAccountModelMapping, if_neg hkeys, if_neg hexact, heq, hkey.trimSpace_eq hbest, if_neg hne]

/-- **The most specific entry is found exactly if** the model is a key or the longest pattern is found; and the result is
the same in whatever order the keys are iterated. -/
theorem most_specific_iff (mapping : ModelMapping) (requestedModel : String) :
    (MostSpecific mapping requestedModel (resolveUpstreamAccountModelMapping mapping requestedModel) ↔
      requestedModel ∈ mapping.keys ∨ FindsPattern mapping requestedModel) ∧
    ∀ keys, keys.Perm mapping.keys → resolveUpstreamAccountModelMapping { mapping with keys } requestedModel =
      resolveUpstreamAccountModelMapping mapping requestedModel := by
  constructor
  · by_cases hexact : requestedModel ∈ mapping.keys
    · refine iff_of_true ?_ (.inl hexact)
      rw [resolveUpstreamAccountModelMapping, if_neg (ne_nil_of_mem hexact), if_pos hexact, ModelMapping.get,
        if_pos hexact]
      exact .exact hexact
    rw [or_iff_right hexact]
    rcases bestPattern_cases mapping.keys requestedModel with ⟨hnone, hrest⟩ | ⟨key, hkey, -⟩
    · refine iff_of_true ?_ (.inl fun key hkey => absurd hkey.isMatch (hrest key hkey.mem))
      rw [resolveUpstreamAccountModelMapping, if_neg hexact, if_pos hnone, ite_self]
      exact .unmatched hexact hrest
    rw [resolve_of_longest hexact hkey, ModelMapping.get]
    by_cases hlisted : trimSpace key ∈ mapping.keys
    · rw [if_pos hlisted]
      exact iff_of_true (.wildcard hexact (hkey.trimmed hlisted))
        (.inl fun key' hkey' => hkey.trimSpace_eq hkey' ▸ hlisted)
    rw [if_neg hlisted]
    have hblank : trimSpace "" = "" := by decide +kernel
    rw [hblank]
    generalize hresult : ("", true) = result
    constructor
    · intro h
      cases h with
      | exact h => exact absurd h hexact
      | @wildcard key' _ h => exact .inr ⟨key', h, (congrArg Prod.fst hresult).symm⟩
      | unmatched => exact absurd hresult (by simp)
    · rintro (hall | ⟨key', h, htarget⟩)
      · exact absurd (hall key hkey) hlisted
      · have hwildcard : MostSpecific mapping requestedModel _ := .wildcard hexact h
        rwa [htarget, hresult] at hwildcard
  · intro keys hperm
    simp only [resolveUpstreamAccountModelMapping, ModelMapping.get, bestPattern_perm hperm, hperm.mem_iff,
      ← length_eq_zero_iff, hperm.length_eq]

/-- A model that is a key is found beside a pattern with white space, in both orders of the keys. -/
theorem most_specific_iff_exact :
    MostSpecific ⟨["gpt-4", " gpt-*"], (· ++ "o")⟩ "gpt-4"
      (resolveUpstreamAccountModelMapping ⟨["gpt-4", " gpt-*"], (· ++ "o")⟩ "gpt-4") ∧
    resolveUpstreamAccountModelMapping ⟨[" gpt-*", "gpt-4"], (· ++ "o")⟩ "gpt-4" =
      resolveUpstreamAccountModelMapping ⟨["gpt-4", " gpt-*"], (· ++ "o")⟩ "gpt-4" := by
  have h := most_specific_iff ⟨["gpt-4", " gpt-*"], (· ++ "o")⟩ "gpt-4"
  exact ⟨h.1.2 (.inl (by simp)), h.2 _ (.swap _ _ _)⟩

/-- The longest pattern is looked up without the white space that it has in the table. -/
theorem spaced_pattern_lost : resolveUpstreamAccountModelMapping ⟨[" gpt-*"], fun _ => "gpt-4o"⟩ "gpt-4" = ("", true) ∧
    ¬MostSpecific ⟨[" gpt-*"], fun _ => "gpt-4o"⟩ "gpt-4" ("", true) := by
  refine ⟨by decide +kernel, ?_⟩
  have hne : ("", true) ≠ (trimSpace "gpt-4o", true) := by decide +kernel
  generalize hresult : ("", true) = result
  intro h
  cases h with
  | exact => exact hne hresult
  | wildcard => exact hne hresult
  | unmatched => exact absurd hresult (by decide)

/-! ### The proxy of an account -/

inductive FallbackMode where
  | none
  | proxy
  | direct

/-- A proxy as it is found: whether it can be used, and its address, unless that cannot be made. -/
structure UpstreamProxy where
  usable : Bool
  fallbackMode : FallbackMode
  backupProxyId : Option ℕ
  url : Option String

inductive ProxyError where
  | cycle
  | notLoaded
  | noURL
  | noFallback
  | exhausted

inductive Resolution where
  | proxy (id : ℕ) (url : String)
  | direct
  | channel (proxy : String)
  | error (e : ProxyError)

abbrev ProxyTable := List (ℕ × UpstreamProxy)

/-- The loop over the chain, within so many rounds, with the ids looked at, the last one first. -/
def followProxies (table : ProxyTable) : ℕ → List ℕ → Option ℕ → List ℕ × Option Resolution
  | 0, visited, _ => (visited, none)
  | _ + 1, visited, none => (visited, some (.error .exhausted))
  | n + 1, visited, some id =>
    if id ∈ visited then (visited, some (.error .cycle))
    else
      match table.lookup id with
      | none => (id :: visited, some (.error .notLoaded))
      | some proxy =>
        if proxy.usable then (id :: visited, some ((proxy.url.map (.proxy id)).getD (.error .noURL)))
        else
          match proxy.fallbackMode with
          | .proxy => followProxies table n (id :: visited) proxy.backupProxyId
          | .direct => (id :: visited, some .direct)
          | .none => (id :: visited, some (.error .noFallback))

structure ProxyAccount where
  proxyFallbackOriginId : Option ℕ
  proxyId : Option ℕ

/-- The proxy that the chain starts from, of the account or of the pool. -/
def proxyOrigin (account : Option ProxyAccount) (defaultProxyId : Option ℕ) : Option ℕ :=
  (account.bind (·.proxyFallbackOriginId)).or ((account.bind (·.proxyId)).or defaultProxyId)

def resolveUpstreamProxy (table : ProxyTable) (account : Option ProxyAccount) (defaultProxyId : Option ℕ)
    (channelProxy : String) : List ℕ × Option Resolution :=
  match proxyOrigin account defaultProxyId with
  | none => ([], some (.channel (trimSpace channelProxy)))
  | some id => followProxies table (table.length + 1) [] (some id)

/-- The proxy `id` cannot be used, and the chain goes on to its backup. -/
def Backs (table : ProxyTable) (next id : ℕ) : Prop :=
  ∃ proxy, table.lookup id = some proxy ∧ proxy.usable = false ∧ proxy.fallbackMode = .proxy ∧ proxy.backupProxyId = some next

/-- What the last proxy of a chain leads to, the ones before it having been passed. -/
def Ends (table : ProxyTable) (id : ℕ) (passed : List ℕ) : Resolution → Prop
  | .proxy i url => i = id ∧ ∃ proxy, table.lookup id = some proxy ∧ proxy.usable ∧ proxy.url = some url
  | .direct => ∃ proxy, table.lookup id = some proxy ∧ ¬proxy.usable ∧ proxy.fallbackMode = .direct
  | .channel _ => False
  | .error _ => ∀ proxy, table.lookup id = some proxy → proxy.usable ∧ proxy.url = none ∨ ¬proxy.usable ∧
      (proxy.fallbackMode = .none ∨ proxy.fallbackMode = .proxy ∧ ∀ next, proxy.backupProxyId = some next → next ∈ id :: passed)

/-- The proxies that were looked at are different, they are a chain that begins with `start`, and the last one decides. -/
def Walk (table : ProxyTable) (start : List ℕ) (outcome : List ℕ × Option Resolution) : Prop :=
  ∃ last passed result, outcome = (last :: passed, some result) ∧ (last :: passed).Nodup ∧
    IsChain (Backs table) (last :: passed) ∧ start <:+ last :: passed ∧ Ends table last passed result

variable {table : ProxyTable}

lemma length_le_of_loaded {ids : List ℕ} (hnodup : ids.Nodup) (h : ∀ id ∈ ids, table.lookup id ≠ none) :
    ids.length ≤ table.length := by
  have hsub : ids ⊆ table.map Prod.fst := by
    intro id hid
    by_contra hmem
    refine h id hid (lookup_eq_none_iff.2 fun entry hentry => ?_)
    simpa using fun heq => hmem (mem_map.2 ⟨entry, hentry, heq.symm⟩)
  simpa using (hnodup.subperm hsub).length_le

lemma loaded_of_isChain {id : ℕ} {visited : List ℕ} (h : IsChain (Backs table) (id :: visited)) :
    ∀ i ∈ visited, table.lookup i ≠ none := by
  induction visited generalizing id with
  | nil => simp
  | cons i rest ih =>
    obtain ⟨⟨proxy, hproxy, -⟩, hrest⟩ := isChain_cons_cons.1 h
    exact forall_mem_cons.2 ⟨by simp [hproxy], ih hrest⟩

/-- The rounds suffice, since the proxies that were passed are different ones of the table. -/
lemma followProxies_walk {n : ℕ} {visited : List ℕ} {id : ℕ} (hrounds : table.length < n + visited.length)
    (hnodup : (id :: visited).Nodup) (hchain : IsChain (Backs table) (id :: visited)) :
    Walk table (id :: visited) (followProxies table n visited (some id)) := by
  have hpassed := loaded_of_isChain hchain
  induction n generalizing visited id with
  | zero =>
    have := length_le_of_loaded hnodup.of_cons hpassed
    omega
  | succ n ih =>
    have hend {result : Resolution} (hends : Ends table id visited result) :
        Walk table (id :: visited) (id :: visited, some result) :=
      ⟨id, visited, result, rfl, hnodup, hchain, suffix_rfl, hends⟩
    rw [followProxies, if_neg (nodup_cons.1 hnodup).1]
    cases hproxy : table.lookup id with
    | none => exact hend (by simp [Ends, hproxy])
    | some proxy =>
      have hloaded : ∀ i ∈ id :: visited, table.lookup i ≠ none := forall_mem_cons.2 ⟨by simp [hproxy], hpassed⟩
      obtain ⟨m, rfl⟩ : ∃ m, n = m + 1 := by
        have := length_le_of_loaded hnodup hloaded
        exact Nat.exists_eq_succ_of_ne_zero (by simp at this; omega)
      dsimp only
      split_ifs with husable
      · cases hurl : proxy.url with
        | none => exact hend fun _ h => .inl (by simp_all)
        | some url => exact hend ⟨rfl, proxy, hproxy, husable, hurl⟩
      · cases hmode : proxy.fallbackMode with
        | none => exact hend fun _ h => .inr (by simp_all)
        | direct => exact hend ⟨proxy, hproxy, husable, hmode⟩
        | proxy =>
          cases hbackup : proxy.backupProxyId with
          | none => exact hend fun _ h => .inr (by simp_all)
          | some next =>
            by_cases hcycle : next ∈ id :: visited
            · dsimp only
              rw [followProxies, if_pos hcycle]
              exact hend fun _ h => .inr (by simp_all)
            · have hbacks : Backs table next id := ⟨proxy, hproxy, Bool.eq_false_iff.2 husable, hmode, hbackup⟩
              obtain ⟨last, passed, result, heq, hnodup', hchain', hsuffix, hends⟩ := @ih (id :: visited) next
                (by rw [length_cons]; omega) (nodup_cons.2 ⟨hcycle, hnodup⟩) (hchain.cons_cons hbacks) hloaded
              exact ⟨last, passed, result, heq, hnodup', hchain', (suffix_cons next _).trans hsuffix, hends⟩

/-- **Each proxy is looked at at most once, and the first one that does not pass the search on decides.** -/
theorem proxy_resolved (table : ProxyTable) (account : Option ProxyAccount) (defaultProxyId : Option ℕ) (channelProxy : String) :
    match proxyOrigin account defaultProxyId with
    | none => resolveUpstreamProxy table account defaultProxyId channelProxy = ([], some (.channel (trimSpace channelProxy)))
    | some id => Walk table [id] (resolveUpstreamProxy table account defaultProxyId channelProxy) := by
  cases horigin : proxyOrigin account defaultProxyId with
  | none => simp only [resolveUpstreamProxy, horigin]
  | some id =>
    simp only [resolveUpstreamProxy, horigin]
    exact followProxies_walk (Nat.lt_succ_self _) (by simp) (.singleton id)

/-- Without any proxy the connection is made as the channel says, and a usable proxy without an address is an error. -/
theorem no_proxy_direct : resolveUpstreamProxy [] none none "" = ([], some (.channel "")) ∧
    resolveUpstreamProxy [(1, ⟨true, .none, none, none⟩)] none (some 1) "" = ([1], some (.error .noURL)) := by
  exact ⟨rfl, rfl⟩

end StarNexus.Router
