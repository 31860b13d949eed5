import DataPortal.Config.Basic
import DataPortal.Proofs.Text.Words
/-!
# Where settings come from

What a configuration holds, setting by setting: the value that is given, else the one of the
environment, else the default. Addresses lose the slashes at their end, scopes that are written as
text are cut into words, and a name that is not known is refused.
-/
namespace DataPortal

/-! ## Known names -/

/-- All entries are under these names. -/
def HasOnly (names : List String) (entries : List (Value × Value)) : Prop :=
  ∀ entry ∈ entries, ∃ name ∈ names, entry.1 = .str name

namespace Value

theorem isKey_iff {name : String} {key : Value} : isKey name key = true ↔ key = .str name := by
  cases key <;> simp [isKey]

theorem find?_isKey (name : String) (entries : List (Value × Value)) :
    entries.find? (fun entry => isKey name entry.1) =
      (lookup name entries).map fun v => (.str name, v) := by
  rw [lookup]
  cases hfind : entries.find? fun entry => isKey name entry.1 with
  | none => rfl
  | some entry =>
    have hkey : isKey name entry.1 = true := by simpa using List.find?_some hfind
    simp [← isKey_iff.1 hkey]

theorem all_isKey_iff {names : List String} {entries : List (Value × Value)} :
    entries.all (fun (key, _) => names.any (isKey · key)) = true ↔ HasOnly names entries := by
  simp only [HasOnly, List.all_eq_true, List.any_eq_true, isKey_iff]

end Value

/-- A group of settings: none at all, or some under known names. -/
inductive IsGroup (names : List String) : Value → List (Value × Value) → Prop where
  | none : IsGroup names .null []
  | named {group : List (Value × Value)} : HasOnly names group → IsGroup names (.dict group) group

section Group

variable {names : List String} {group : List (Value × Value)} {v : Value}

theorem settingsGroup_of_isGroup (h : IsGroup names v group) :
    settingsGroup names v = .ok group := by
  cases h with
  | none => rfl
  | named hknown =>
    rw [settingsGroup, if_pos (Value.all_isKey_iff.2 hknown)]
    cases group <;> rfl

theorem settingsGroup_of_unknown (h : ¬ HasOnly names group) :
    settingsGroup names (.dict group) = .error .wrongType := by
  cases group with
  | nil => exact absurd (fun _ hmem => absurd hmem List.not_mem_nil) h
  | cons entry group =>
    rw [settingsGroup, if_neg fun hall => h (Value.all_isKey_iff.1 hall)]
    rfl

/-- A group is read, or is of the wrong type. -/
theorem settingsGroup_cases (names : List String) (v : Value) :
    (∃ group, settingsGroup names v = .ok group) ∨ settingsGroup names v = .error .wrongType := by
  unfold settingsGroup
  split
  · split
    · split
      · exact .inl ⟨_, rfl⟩
      · exact .inr rfl
    · exact .inr rfl
  · exact .inl ⟨_, rfl⟩

end Group

namespace Config

/-! ## What a setting comes to -/

/-- The names of the settings. -/
def settingNames : List String :=
  ["base_url", "auth_url", "client_id", "client_secret", "scopes", "timeout", "retry",
   "discovery"]

/-- The settings of a retry policy with their defaults. -/
def retryDefaults : List (String × Value) :=
  [("page_size", .int 100), ("initial_backoff_ms", .int 1000), ("max_backoff_ms", .int 30000),
   ("max_attempts", .int 5), ("no_retry", .bool false)]

/-- The limits of a walk over namespaces with their defaults. -/
def discoveryDefaults : List (String × Value) :=
  [("concurrency", .int 8), ("min_request_interval_ms", .int 50)]

/-- Defaults, each replaced by what a group has under its name. -/
def overridden (defaults : List (String × Value)) (group : List (Value × Value)) : Value :=
  settingsByName (defaults.map fun (name, default) =>
    (name, (Value.lookup name group).getD default))

/-- The first that there is: what is given, what the environment has, the default. -/
def firstOf (given : Option Value) (held : Option String) (default : Value) : Value :=
  (given.or (held.map .str)).getD default

/-- An address is a text without the slashes at its end. -/
def IsAddressOf (address : String) (v : Value) : Prop :=
  ∃ n, v = .str (address ++ String.ofList (List.replicate n '/')) ∧
    ∀ c ∈ address.toList.getLast?, c ≠ '/'

/-- The scopes are those that are given, where a text stands for its words; else those that the
environment has in a text that is not empty, with commas or white space between them; else the
usual ones. -/
inductive ScopesFrom (env : Environment) (entries : List (Value × Value)) : Value → Prop where
  | text {s : String} {words : List (List Char)} :
      Value.lookup "scopes" entries = some (.str s) →
      Text.HasWords Text.isBlank s.toList words → ScopesFrom env entries (wordList words)
  | brokenText {t : BrokenText} {words : List (List CodePoint)} :
      Value.lookup "scopes" entries = some (.broken t) →
      Text.HasWords CodePoint.isBlank t.points words →
      ScopesFrom env entries (.list (words.map .ofPoints))
  | given {v : Value} : Value.lookup "scopes" entries = some v → v.text? = none →
      ScopesFrom env entries v
  | environment {s : String} {words : List (List Char)} :
      Value.lookup "scopes" entries = none → env.lookup "LT_DATA_SCOPES" = some s → s ≠ "" →
      Text.HasWords (fun c => c == ',' || Text.isBlank c) s.toList words →
      ScopesFrom env entries (wordList words)
  | default : Value.lookup "scopes" entries = none →
      (∀ s, env.lookup "LT_DATA_SCOPES" = some s → s = "") →
      ScopesFrom env entries
        (textList ["spinta_getone", "spinta_getall", "spinta_search", "spinta_changes"])

/-- The timeout is the one that is given, else the number that the environment spells, else thirty
seconds. -/
inductive TimeoutFrom (env : Environment) (entries : List (Value × Value)) : Value → Prop where
  | given {v : Value} : Value.lookup "timeout" entries = some v → TimeoutFrom env entries v
  | environment {s : String} {x : Binary64} : Value.lookup "timeout" entries = none →
      env.lookup "LT_DATA_TIMEOUT" = some s → Binary64.ofText? s.toList = some x →
      TimeoutFrom env entries (.float x)
  | default {x : Binary64} : Value.lookup "timeout" entries = none →
      env.lookup "LT_DATA_TIMEOUT" = none → x.value? = some 30 →
      TimeoutFrom env entries (.float x)

/-- Settings of the kinds that are declared for them. A timeout of the environment has to be a
number where none is given. -/
structure IsSettings (env : Environment) (entries : List (Value × Value)) : Prop where
  known : HasOnly settingNames entries
  baseUrl : ∀ v, Value.lookup "base_url" entries = some v → ∃ s, v = .str s
  authUrl : ∀ v, Value.lookup "auth_url" entries = some v → ∃ s, v = .str s
  timeout : Value.lookup "timeout" entries = none → ∀ s, env.lookup "LT_DATA_TIMEOUT" = some s →
    ∃ x, Binary64.ofText? s.toList = some x
  retry : ∃ group, IsGroup (retryDefaults.map Prod.fst) (Value.entry "retry" entries) group
  discovery : ∃ group,
    IsGroup (discoveryDefaults.map Prod.fst) (Value.entry "discovery" entries) group

/-- A name that is not known is among the settings or in one of their groups. -/
inductive HasUnknown (entries : List (Value × Value)) : Prop where
  | setting : ¬ HasOnly settingNames entries → HasUnknown entries
  | retry {group : List (Value × Value)} : Value.lookup "retry" entries = some (.dict group) →
      ¬ HasOnly (retryDefaults.map Prod.fst) group → HasUnknown entries
  | discovery {group : List (Value × Value)} :
      Value.lookup "discovery" entries = some (.dict group) →
      ¬ HasOnly (discoveryDefaults.map Prod.fst) group → HasUnknown entries

/-- Each setting of a configuration comes from the first source that has it. -/
structure ChosenFrom (env : Environment) (entries : List (Value × Value)) (c : Config) : Prop where
  baseUrl : IsAddressOf c.baseUrl (firstOf (Value.lookup "base_url" entries)
    (env.lookup "LT_DATA_BASE_URL") (.str "https://get.data.gov.lt"))
  authUrl : IsAddressOf c.authUrl (firstOf (Value.lookup "auth_url" entries)
    (env.lookup "LT_DATA_AUTH_URL") (.str "https://put.data.gov.lt"))
  clientId : c.clientId =
    firstOf (Value.lookup "client_id" entries) (env.lookup "LT_DATA_CLIENT_ID") .null
  clientSecret : c.clientSecret =
    firstOf (Value.lookup "client_secret" entries) (env.lookup "LT_DATA_CLIENT_SECRET") .null
  scopes : ScopesFrom env entries c.scopes
  timeout : TimeoutFrom env entries c.timeout
  retry : ∃ group, IsGroup (retryDefaults.map Prod.fst) (Value.entry "retry" entries) group ∧
    c.retry.toValue = overridden retryDefaults group
  discovery : ∃ group,
    IsGroup (discoveryDefaults.map Prod.fst) (Value.entry "discovery" entries) group ∧
    c.discovery.toValue = overridden discoveryDefaults group

variable {env : Environment} {entries : List (Value × Value)}

/-! ## Addresses -/

theorem isAddressOf_dropEndWhile (s : String) :
    IsAddressOf (String.ofList (Text.dropEndWhile (· == '/') s.toList)) (.str s) := by
  refine ⟨(s.toList.reverse.takeWhile (· == '/')).length, ?_, ?_⟩
  · have hslashes : s.toList.reverse.takeWhile (· == '/') =
        List.replicate (s.toList.reverse.takeWhile (· == '/')).length '/' := by
      apply List.eq_replicate_of_mem
      intro c hc
      simpa using List.all_eq_true.1 List.all_takeWhile c hc
    have hsplit : Text.dropEndWhile (· == '/') s.toList ++
        (s.toList.reverse.takeWhile (· == '/')).reverse = s.toList := by
      rw [Text.dropEndWhile, ← List.reverse_append, List.takeWhile_append_dropWhile,
        List.reverse_reverse]
    rw [← String.ofList_append, ← List.reverse_replicate, ← hslashes, hsplit, String.ofList_toList]
  · intro c hc
    rw [String.toList_ofList, Text.dropEndWhile, List.getLast?_reverse] at hc
    have hhead := List.head?_dropWhile_not (· == '/') s.toList.reverse
    rw [hc] at hhead
    simpa using hhead

theorem exists_trimUrl {v : Value} (h : ∃ s, v = .str s) :
    ∃ address, trimUrl v = .ok address ∧ IsAddressOf address v := by
  obtain ⟨s, rfl⟩ := h
  exact ⟨_, rfl, isAddressOf_dropEndWhile s⟩

/-- An address is a text where the one that is given is. -/
theorem exists_str_firstOf {given : Option Value} (h : ∀ v, given = some v → ∃ s, v = .str s)
    (held : Option String) (default : String) :
    ∃ s, firstOf given held (.str default) = .str s := by
  cases given with
  | some v => exact h v rfl
  | none => cases held <;> exact ⟨_, rfl⟩

/-! ## Scopes -/

theorem splitScopeText_fst (entry : Value × Value) : (splitScopeText entry).1 = entry.1 := by
  unfold splitScopeText
  split <;> rfl

theorem splitScopeText_of_ne {name : String} (h : name ≠ "scopes") (v : Value) :
    splitScopeText (.str name, v) = (.str name, v) := by
  unfold splitScopeText
  split
  · rename_i heq
    cases heq
    exact absurd rfl h
  · rename_i heq
    cases heq
    exact absurd rfl h
  · rfl

theorem splitScopeText_of_no_text {key v : Value} (h : v.text? = none) :
    splitScopeText (key, v) = (key, v) := by
  unfold splitScopeText
  split
  · rename_i heq
    cases heq
    cases h
  · rename_i heq
    cases heq
    cases h
  · rfl

theorem hasOnly_map_splitScopeText {names : List String} :
    HasOnly names (entries.map splitScopeText) ↔ HasOnly names entries := by
  simp only [HasOnly, List.forall_mem_map, splitScopeText_fst]

theorem lookup_map_splitScopeText (name : String) (entries : List (Value × Value)) :
    Value.lookup name (entries.map splitScopeText) =
      (Value.lookup name entries).map fun v => (splitScopeText (.str name, v)).2 := by
  have hkeys : ((fun entry : Value × Value => Value.isKey name entry.1) ∘ splitScopeText) =
      fun entry => Value.isKey name entry.1 := by
    funext entry
    rw [Function.comp, splitScopeText_fst]
  rw [Value.lookup, List.find?_map, hkeys, Value.find?_isKey, Option.map_map, Option.map_map]
  rfl

/-- Other settings stay as they are. -/
theorem lookup_map_splitScopeText_of_ne {name : String} (h : name ≠ "scopes")
    (entries : List (Value × Value)) :
    Value.lookup name (entries.map splitScopeText) = Value.lookup name entries := by
  rw [lookup_map_splitScopeText]
  simp only [splitScopeText_of_ne h, Option.map_id_fun', id]

theorem scopesFrom_environment (hnone : Value.lookup "scopes" entries = none) :
    ScopesFrom env entries (environmentScopes env) := by
  unfold environmentScopes
  cases hs : env.lookup "LT_DATA_SCOPES" with
  | none => exact .default hnone (by simp [hs])
  | some s =>
    by_cases hempty : s = ""
    · simp only [if_pos hempty]
      exact .default hnone (by simp [hs, hempty])
    · simp only [if_neg hempty]
      exact .environment hnone hs hempty (Text.nonemptyPieces_eq_iff.1 rfl)

theorem scopesFrom (env : Environment) (entries : List (Value × Value)) :
    ScopesFrom env entries
      ((Value.lookup "scopes" (entries.map splitScopeText)).getD (environmentScopes env)) := by
  rw [lookup_map_splitScopeText]
  cases hgiven : Value.lookup "scopes" entries with
  | none => exact scopesFrom_environment hgiven
  | some v =>
    rw [Option.map_some]
    cases v with
    | str s => exact .text hgiven (Text.nonemptyPieces_eq_iff.1 rfl)
    | broken t => exact .brokenText hgiven (Text.nonemptyPieces_eq_iff.1 rfl)
    | _ =>
      rw [splitScopeText_of_no_text rfl]
      exact .given hgiven rfl

/-! ## Timeouts -/

theorem value?_defaultTimeout :
    ∃ x, Binary64.ofText? "30".toList = some x ∧ x.value? = some 30 := by
  have h : (Binary64.ofText? "30".toList).bind Binary64.value? = some 30 := by decide +kernel
  exact Option.bind_eq_some_iff.1 h

/-- Without a timeout that is given, the one of the environment. -/
theorem exists_environmentTimeout (hnone : Value.lookup "timeout" entries = none)
    (h : ∀ s, env.lookup "LT_DATA_TIMEOUT" = some s → ∃ x, Binary64.ofText? s.toList = some x) :
    ∃ timeout, environmentTimeout env = .ok timeout ∧ TimeoutFrom env entries timeout := by
  cases hs : env.lookup "LT_DATA_TIMEOUT" with
  | none =>
    obtain ⟨x, hx, hvalue⟩ := value?_defaultTimeout
    refine ⟨.float x, ?_, .default hnone hs hvalue⟩
    rw [environmentTimeout, hs, Option.getD_none, hx]
  | some s =>
    obtain ⟨x, hx⟩ := h s hs
    refine ⟨.float x, ?_, .environment hnone hs hx⟩
    rw [environmentTimeout, hs, Option.getD_some, hx]

theorem exists_timeout (h : Value.lookup "timeout" entries = none →
    ∀ s, env.lookup "LT_DATA_TIMEOUT" = some s → ∃ x, Binary64.ofText? s.toList = some x) :
    ∃ timeout, (Value.lookup "timeout" entries = some timeout ∨
      Value.lookup "timeout" entries = none ∧ environmentTimeout env = .ok timeout) ∧
      TimeoutFrom env entries timeout := by
  cases hgiven : Value.lookup "timeout" entries with
  | some timeout => exact ⟨timeout, .inl rfl, .given hgiven⟩
  | none =>
    obtain ⟨timeout, hread, hfrom⟩ := exists_environmentTimeout hgiven (h hgiven)
    exact ⟨timeout, .inr ⟨rfl, hread⟩, hfrom⟩

/-! ## All settings together -/

section Assemble

variable {ρ δ : Type} {retry : ρ} {discovery : δ}

theorem firstOf_str (given : Option Value) (held : Option String) (default : String) :
    firstOf given held (.str default) = given.getD (.str (held.getD default)) := by
  cases given <;> cases held <;> rfl

theorem firstOf_environmentText (given : Option Value) (env : Environment) (name : String) :
    firstOf given (env.lookup name) .null = given.getD (environmentText env name) := by
  unfold firstOf environmentText
  cases given <;> cases env.lookup name <;> rfl

theorem all_names_iff : entries.all (fun (key, _) => names.any (Value.isKey · key)) = true ↔
    HasOnly settingNames entries :=
  Value.all_isKey_iff

theorem assemble_of_unknown (h : ¬ HasOnly settingNames entries) :
    assemble env entries retry discovery = .error .wrongType := by
  unfold assemble
  rw [if_neg fun hall => h (all_names_iff.1 hall)]
  rfl

/-- What known settings come to, where the addresses and the timeout are found. -/
theorem assemble_of_known (hknown : HasOnly settingNames entries) {baseUrl authUrl : String}
    {timeout : Value}
    (hbase : trimUrl (firstOf (Value.lookup "base_url" entries) (env.lookup "LT_DATA_BASE_URL")
      (.str defaultBaseUrl)) = .ok baseUrl)
    (hauth : trimUrl (firstOf (Value.lookup "auth_url" entries) (env.lookup "LT_DATA_AUTH_URL")
      (.str defaultAuthUrl)) = .ok authUrl)
    (htimeout : Value.lookup "timeout" entries = some timeout ∨
      Value.lookup "timeout" entries = none ∧ environmentTimeout env = .ok timeout) :
    assemble env entries retry discovery = .ok
      { baseUrl, authUrl
        clientId :=
          firstOf (Value.lookup "client_id" entries) (env.lookup "LT_DATA_CLIENT_ID") .null
        clientSecret :=
          firstOf (Value.lookup "client_secret" entries) (env.lookup "LT_DATA_CLIENT_SECRET") .null
        scopes := (Value.lookup "scopes" entries).getD (environmentScopes env)
        timeout, retry, discovery } := by
  rw [firstOf_str] at hbase hauth
  simp only [firstOf_environmentText]
  unfold assemble
  rw [if_pos (all_names_iff.2 hknown)]
  rcases htimeout with hgiven | ⟨hnone, htimeout⟩
  · simp only [hgiven, hbase, hauth]
    rfl
  · simp only [hnone, htimeout, hbase, hauth]
    rfl

end Assemble

theorem overridden_retryDefaults (group : List (Value × Value)) :
    (RetryPolicy.ofEntries group).toValue = overridden retryDefaults group := rfl

theorem overridden_discoveryDefaults (group : List (Value × Value)) :
    (DiscoveryLimits.ofEntries group).toValue = overridden discoveryDefaults group := rfl

/-- The two groups are read first, then the settings that are in no group. -/
theorem ofValue_dict (env : Environment) (entries : List (Value × Value)) :
    ofValue env (.dict entries) = (do
      let retry ← settingsGroup (retryDefaults.map Prod.fst) (Value.entry "retry" entries)
      let discovery ←
        settingsGroup (discoveryDefaults.map Prod.fst) (Value.entry "discovery" entries)
      assemble env (entries.map splitScopeText) (RetryPolicy.ofEntries retry)
        (DiscoveryLimits.ofEntries discovery)) := by
  show ofEntries env entries = _
  unfold ofEntries RetryPolicy.ofValue DiscoveryLimits.ofValue
  show (settingsGroup (retryDefaults.map Prod.fst) _).map _ >>= _ = _
  cases settingsGroup (retryDefaults.map Prod.fst) (Value.entry "retry" entries) with
  | error e => rfl
  | ok retry =>
    show (settingsGroup (discoveryDefaults.map Prod.fst) _).map _ >>= _ = _
    cases settingsGroup (discoveryDefaults.map Prod.fst) (Value.entry "discovery" entries) with
    | error e => rfl
    | ok discovery => rfl

theorem ofValue_of_isSettings (h : IsSettings env entries) :
    ∃ c, ofValue env (.dict entries) = .ok c ∧ ChosenFrom env entries c := by
  obtain ⟨retry, hretry⟩ := h.retry
  obtain ⟨discovery, hdiscovery⟩ := h.discovery
  obtain ⟨baseUrl, hbase, hbaseFrom⟩ := exists_trimUrl
    (exists_str_firstOf h.baseUrl (env.lookup "LT_DATA_BASE_URL") defaultBaseUrl)
  obtain ⟨authUrl, hauth, hauthFrom⟩ := exists_trimUrl
    (exists_str_firstOf h.authUrl (env.lookup "LT_DATA_AUTH_URL") defaultAuthUrl)
  obtain ⟨timeout, htimeout, htimeoutFrom⟩ := exists_timeout h.timeout
  -- what is assembled has its scopes cut already; the other settings are those that were given
  have hsplit : ∀ {name : String}, name ≠ "scopes" →
      Value.lookup name (entries.map splitScopeText) = Value.lookup name entries :=
    fun hne => lookup_map_splitScopeText_of_ne hne entries
  rw [← hsplit (by decide)] at hbase hauth htimeout
  have hassembled := @assemble_of_known env (entries.map splitScopeText) _ _
    (RetryPolicy.ofEntries retry) (DiscoveryLimits.ofEntries discovery)
    (hasOnly_map_splitScopeText.2 h.known) _ _ _ hbase hauth htimeout
  rw [hsplit (by decide), hsplit (by decide)] at hassembled
  have hgroups : ofValue env (.dict entries) = assemble env (entries.map splitScopeText)
      (RetryPolicy.ofEntries retry) (DiscoveryLimits.ofEntries discovery) := by
    rw [ofValue_dict, settingsGroup_of_isGroup hretry, settingsGroup_of_isGroup hdiscovery]
    rfl
  exact ⟨_, hgroups.trans hassembled, {
    baseUrl := hbaseFrom
    authUrl := hauthFrom
    clientId := rfl
    clientSecret := rfl
    scopes := scopesFrom env entries
    timeout := htimeoutFrom
    retry := ⟨retry, hretry, overridden_retryDefaults retry⟩
    discovery := ⟨discovery, hdiscovery, overridden_discoveryDefaults discovery⟩ }⟩

/-- Whatever else there is, a name that is not known makes it the wrong type. -/
theorem ofValue_of_hasUnknown (h : HasUnknown entries) :
    ofValue env (.dict entries) = .error .wrongType := by
  -- a group that is not read fails alike, whichever of the names is the unknown one
  rw [ofValue_dict]
  rcases settingsGroup_cases (retryDefaults.map Prod.fst) (Value.entry "retry" entries) with
    ⟨retry, hretry⟩ | hretry
  · rcases settingsGroup_cases (discoveryDefaults.map Prod.fst)
      (Value.entry "discovery" entries) with ⟨discovery, hdiscovery⟩ | hdiscovery
    · cases h with
      | setting hunknown =>
        rw [hretry, hdiscovery]
        exact assemble_of_unknown (mt hasOnly_map_splitScopeText.1 hunknown)
      | retry hgiven hunknown =>
        rw [Value.entry, hgiven, Option.getD_some, settingsGroup_of_unknown hunknown] at hretry
        cases hretry
      | discovery hgiven hunknown =>
        rw [Value.entry, hgiven, Option.getD_some, settingsGroup_of_unknown hunknown]
          at hdiscovery
        cases hdiscovery
    · rw [hretry, hdiscovery]
      rfl
  · rw [hretry]
    rfl

/-- **Each setting comes from the first source that has it.** Settings of the declared kinds make a
configuration, in which each of them is the one that is given, else the one of the environment, else
the default; a single name that is not known, among the settings or in a group, makes it the wrong
type. -/
theorem ofValue_chooses_first (env : Environment) (entries : List (Value × Value)) :
    (IsSettings env entries →
      ∃ c, ofValue env (.dict entries) = .ok c ∧ ChosenFrom env entries c) ∧
    (HasUnknown entries → ofValue env (.dict entries) = .error .wrongType) :=
  ⟨ofValue_of_isSettings, ofValue_of_hasUnknown⟩

/-- The timeout of the environment is no number, but one is given; a page size is a setting of the
retry policy only. -/
theorem timeout_given_chosen_first :
    (∃ c, ofValue [("LT_DATA_SCOPES", "one,two"), ("LT_DATA_TIMEOUT", "never")]
        (.dict [(.str "timeout", .int 5), (.str "retry", .dict [(.str "page_size", .int 500)])]) =
          .ok c ∧
      ChosenFrom [("LT_DATA_SCOPES", "one,two"), ("LT_DATA_TIMEOUT", "never")]
        [(.str "timeout", .int 5), (.str "retry", .dict [(.str "page_size", .int 500)])] c) ∧
    ofValue [] (.dict [(.str "page_size", .int 500)]) = .error .wrongType := by
  constructor
  · apply (ofValue_chooses_first _ _).1
    exact {
      known := by simp [HasOnly, settingNames]
      baseUrl := by simp [Value.lookup, Value.isKey]
      authUrl := by simp [Value.lookup, Value.isKey]
      timeout := by simp [Value.lookup, Value.isKey]
      retry := ⟨_, .named (by simp [HasOnly, retryDefaults])⟩
      discovery := ⟨_, .none⟩ }
  · apply (ofValue_chooses_first _ _).2
    exact .setting (by simp [HasOnly, settingNames])

end Config
end DataPortal
