import DataPortal.Proofs.Client.Refreshing
import DataPortal.Proofs.Config.Sources
import DataPortal.Proofs.Outcome
/-!
# Scopes that are written as text

A text of scopes is cut at commas and white space where it comes from the environment, and at white
space alone where it is given as a setting. The two readings, and the requests for a token that show
them, agree on the texts without a comma and on no others.
-/
namespace DataPortal

namespace Credentials

theorem scopeText_words (words : List (List Char)) :
    scopeText ((words.map String.ofList).map Value.str) =
      .ok (String.ofList (Text.joinWith [' '] words)) := by
  have htexts : (words.map String.ofList).map String.toList = words := by
    rw [List.map_map]
    exact List.map_id'' (fun word => String.toList_ofList) words
  rw [scopeText, mapM_text?]
  simp only [htexts]

theorem request_with_scopes (a : Credentials) (scopes : List Value) :
    { a with scopes }.request = (scopeText scopes).map fun scope =>
      { url := a.authUrl ++ "/auth/token"
        headers := [("Authorization", "Basic " ++ String.ofList a.basic)]
        form := [("grant_type", "client_credentials"), ("scope", scope)] } := by
  unfold request
  cases scopeText scopes <;> rfl

/-- The scopes show in a request for a token as their text, and as nothing else. -/
theorem request_eq_iff (a : Credentials) {scopes scopes' : List Value} :
    { a with scopes := scopes }.request = { a with scopes := scopes' }.request ↔
      scopeText scopes = scopeText scopes' := by
  rw [request_with_scopes, request_with_scopes]
  cases scopeText scopes <;> cases scopeText scopes' <;> simp [Except.map]

end Credentials

namespace Config

open Text

variable {env : Environment} {entries : List (Value × Value)} {s : String}
  {words words' : List (List Char)}

/-! ## A text of the environment -/

theorem ScopesFrom.of_environment {v : Value} (h : ScopesFrom env entries v)
    (hnone : Value.lookup "scopes" entries = none)
    (hvariable : env.lookup "LT_DATA_SCOPES" = some s) (hs : s ≠ "") :
    ∃ words, v = wordList words ∧ HasWords (fun c => c == ',' || isBlank c) s.toList words := by
  cases h with
  | text hgiven _ => simp [hnone] at hgiven
  | brokenText hgiven _ => simp [hnone] at hgiven
  | given hgiven _ => simp [hnone] at hgiven
  | environment _ hfound _ hwords =>
    obtain rfl := Option.some.inj (hvariable.symm.trans hfound)
    exact ⟨_, rfl, hwords⟩
  | default _ hempty => exact absurd (hempty s hvariable) hs

/-! ## A text that is given -/

theorem isSettings_scopeText (h : ∀ t, env.lookup "LT_DATA_TIMEOUT" = some t →
    ∃ x, Binary64.ofText? t.toList = some x) (s : String) :
    IsSettings env [(.str "scopes", .str s)] where
  known := by simp [HasOnly, settingNames]
  baseUrl := by simp [Value.lookup, Value.isKey]
  authUrl := by simp [Value.lookup, Value.isKey]
  timeout := fun _ => h
  retry := ⟨_, .none⟩
  discovery := ⟨_, .none⟩

theorem ScopesFrom.of_scopeText {v : Value}
    (h : ScopesFrom env [(.str "scopes", .str s)] v) :
    ∃ words, v = wordList words ∧ HasWords isBlank s.toList words := by
  have hlookup : Value.lookup "scopes" [(.str "scopes", .str s)] = some (.str s) :=
    Value.lookup_cons_self _ _ _
  cases h with
  | text hgiven hwords =>
    cases hlookup.symm.trans hgiven
    exact ⟨_, rfl, hwords⟩
  | brokenText hgiven _ =>
    rw [hlookup] at hgiven
    cases hgiven
  | given hgiven hother =>
    cases hlookup.symm.trans hgiven
    cases hother
  | environment hnone => simp [hlookup] at hnone
  | default hnone => simp [hlookup] at hnone

/-! ## The two readings of one text -/

section Readings

variable {t : List Char} (hcommas : HasWords (fun c => c == ',' || isBlank c) t words)
  (hblanks : HasWords isBlank t words')

include hcommas hblanks

theorem words_eq_of_no_comma (h : ',' ∉ t) : words = words' := by
  have hsame : ∀ c ∈ t, (c == ',' || isBlank c) = isBlank c := by
    intro c hc
    have hne : c ≠ ',' := by
      rintro rfl
      exact h hc
    simp [hne]
  rw [← hcommas.nonemptyPieces_eq, ← hblanks.nonemptyPieces_eq, nonemptyPieces, nonemptyPieces,
    pieces_congr hsame]

/-- A comma is in the words of the one reading, and never in those of the other. -/
theorem joined_ne_of_comma (h : ',' ∈ t) : joinWith [' '] words ≠ joinWith [' '] words' := by
  intro hjoined
  obtain ⟨word, hword, hcomma⟩ := hblanks.exists_mem h (by decide)
  have hmem : ',' ∈ joinWith [' '] words := by
    rw [hjoined]
    exact mem_joinWith_of_mem [' '] hword hcomma
  rcases mem_joinWith hmem with hspace | ⟨word, hword, hcomma⟩
  · simp at hspace
  · rw [← hcommas.nonemptyPieces_eq] at hword
    simpa using not_separates_of_mem_nonemptyPieces hword ',' hcomma

/-- With a comma the scopes are others, and are others in a request for a token too. -/
theorem words_eq_iff_no_comma :
    ((words.map String.ofList).map Value.str = (words'.map String.ofList).map Value.str ↔
      ',' ∉ t) ∧
    ∀ a : Credentials,
      { a with scopes := (words.map String.ofList).map Value.str }.request =
        { a with scopes := (words'.map String.ofList).map Value.str }.request ↔ ',' ∉ t := by
  have hshown : Credentials.scopeText ((words.map String.ofList).map Value.str) =
      Credentials.scopeText ((words'.map String.ofList).map Value.str) → ',' ∉ t := by
    intro htext hcomma
    rw [Credentials.scopeText_words, Credentials.scopeText_words] at htext
    exact joined_ne_of_comma hcommas hblanks hcomma (String.ofList_injective (Except.ok.inj htext))
  have hsame : ',' ∉ t →
      (words.map String.ofList).map Value.str = (words'.map String.ofList).map Value.str := by
    intro h
    rw [words_eq_of_no_comma hcommas hblanks h]
  constructor
  · exact ⟨fun h => hshown (by rw [h]), hsame⟩
  · intro a
    rw [Credentials.request_eq_iff]
    exact ⟨hshown, fun h => by rw [hsame h]⟩

end Readings

/-! ## The scopes of a configuration -/

theorem scopes_of_assemble {ρ δ : Type} {retry : ρ} {discovery : δ} {c : ConfigWith ρ δ}
    (h : assemble env entries retry discovery = .ok c) :
    c.scopes = (Value.lookup "scopes" entries).getD (environmentScopes env) := by
  -- only known settings come to anything, and the timeout is read in two ways
  by_cases hknown : HasOnly settingNames entries
  · unfold assemble at h
    rw [if_pos (all_names_iff.2 hknown)] at h
    cases hgiven : Value.lookup "timeout" entries <;>
    · simp only [hgiven] at h
      obtain ⟨timeout, -, h⟩ := Outcome.bind_eq_ok.1 h
      obtain ⟨baseUrl, -, h⟩ := Outcome.bind_eq_ok.1 h
      obtain ⟨authUrl, -, h⟩ := Outcome.bind_eq_ok.1 h
      cases h
      rfl
  · rw [assemble_of_unknown hknown] at h
    cases h

/-- Where no scopes are given, the text of the environment is cut the same for settings that are
not converted. -/
theorem scopes_of_ofSettings {d : ConfigWith Value Value} (h : ofSettings env entries = .ok d)
    (hnone : Value.lookup "scopes" entries = none)
    (hvariable : env.lookup "LT_DATA_SCOPES" = some s) (hs : s ≠ "")
    (hcommas : HasWords (fun c => c == ',' || isBlank c) s.toList words) :
    d.scopes = wordList words := by
  obtain ⟨words', hscopes, hcommas'⟩ :=
    (scopesFrom_environment hnone).of_environment hnone hvariable hs
  rw [scopes_of_assemble h, hnone, Option.getD_none, hscopes, ← hcommas.nonemptyPieces_eq,
    ← hcommas'.nonemptyPieces_eq]

/-- **A text of scopes has one meaning exactly when it has no comma.** The scopes that it stands for
in the environment are those that it stands for in a setting, and a request for a token asks for the
same, if and only if there is no comma in it. -/
theorem scopes_agree_iff_no_comma {env env' : Environment} {entries : List (Value × Value)}
    {s : String} (hs : s ≠ "") (hvariable : env.lookup "LT_DATA_SCOPES" = some s)
    (hsettings : IsSettings env entries) (hnone : Value.lookup "scopes" entries = none)
    (htimeout : ∀ t, env'.lookup "LT_DATA_TIMEOUT" = some t →
      ∃ x, Binary64.ofText? t.toList = some x) :
    ∃ c c' items items',
      (ofValue env (.dict entries) = .ok c ∧ c.scopes = .list items) ∧
      (∀ settings d, Value.lookup "scopes" settings = none → ofSettings env settings = .ok d →
        d.scopes = .list items) ∧
      (ofValue env' (.dict [(.str "scopes", .str s)]) = .ok c' ∧ c'.scopes = .list items') ∧
      (items = items' ↔ ',' ∉ s.toList) ∧
      ∀ a : Credentials,
        { a with scopes := items }.request = { a with scopes := items' }.request ↔
          ',' ∉ s.toList := by
  obtain ⟨c, hc, hfrom⟩ := ofValue_of_isSettings hsettings
  obtain ⟨c', hc', hfrom'⟩ := ofValue_of_isSettings (isSettings_scopeText htimeout s)
  obtain ⟨words, hscopes, hcommas⟩ := hfrom.scopes.of_environment hnone hvariable hs
  obtain ⟨words', hscopes', hblanks⟩ := hfrom'.scopes.of_scopeText
  refine ⟨c, c', _, _, ⟨hc, hscopes⟩, ?_, ⟨hc', hscopes'⟩, words_eq_iff_no_comma hcommas hblanks⟩
  intro settings d hsettings hd
  exact scopes_of_ofSettings hd hsettings hvariable hs hcommas

/-- Scopes with spaces between them. -/
theorem spaced_scopes_agree :
    ∃ c c' items items',
      (ofValue [("LT_DATA_SCOPES", "one two")] (.dict []) = .ok c ∧ c.scopes = .list items) ∧
      (∀ settings d, Value.lookup "scopes" settings = none →
        ofSettings [("LT_DATA_SCOPES", "one two")] settings = .ok d → d.scopes = .list items) ∧
      (ofValue [] (.dict [(.str "scopes", .str "one two")]) = .ok c' ∧
        c'.scopes = .list items') ∧
      (items = items' ↔ ',' ∉ "one two".toList) ∧
      ∀ a : Credentials,
        { a with scopes := items }.request = { a with scopes := items' }.request ↔
          ',' ∉ "one two".toList := by
  apply scopes_agree_iff_no_comma (by decide) rfl _ rfl (by simp)
  exact {
    known := by simp [HasOnly]
    baseUrl := by simp
    authUrl := by simp
    timeout := by simp [List.lookup_cons]
    retry := ⟨_, .none⟩
    discovery := ⟨_, .none⟩ }

/-- With a comma between them, the environment has two scopes and the setting has one, whose name
has a comma. -/
theorem scopes_with_comma_differ :
    ∃ c c', ofValue [("LT_DATA_SCOPES", "spinta_getall,spinta_changes")] (.dict []) = .ok c ∧
      ofValue [] (.dict [(.str "scopes", .str "spinta_getall,spinta_changes")]) = .ok c' ∧
      c.scopes = textList ["spinta_getall", "spinta_changes"] ∧
      c'.scopes = textList ["spinta_getall,spinta_changes"] ∧ c.scopes ≠ c'.scopes := by
  refine ⟨_, _, rfl, rfl, rfl, rfl, ?_⟩
  intro h
  cases h

end Config
end DataPortal
