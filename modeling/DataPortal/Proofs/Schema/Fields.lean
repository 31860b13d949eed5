import DataPortal.Schema.Inference
import Mathlib.Data.List.Find
import Mathlib.Data.List.Induction
import Mathlib.Data.List.Perm.Basic
/-!
# The fields of records

The fields of some records are the names that occur in them, in the order in which they are first
met, and the type of a field is decided by which types its values show. So neither the order of
the records nor that of their entries matters to a type, nor how often a record comes, and a null
says nothing about a field that has been seen.
-/
namespace DataPortal

/-! ## One type of several -/

namespace FieldType

variable {seen seen' : List FieldType} {t u : FieldType}

theorem mem_known : t ∈ seen.filter (· ≠ unknown) ↔ t ∈ seen ∧ t ≠ unknown := by
  simp

theorem merge_eq_of_none (h : ∀ t ∈ seen, t = unknown) : merge seen = unknown := by
  have hknown : seen.filter (· ≠ unknown) = [] := by simpa using h
  rw [merge, hknown]

/-- A type that is the only known one is kept. -/
theorem merge_eq_of_only (hmem : t ∈ seen) (ht : t ≠ unknown)
    (honly : ∀ u ∈ seen, u = unknown ∨ u = t) : merge seen = t := by
  have hall : ∀ u ∈ seen.filter (· ≠ unknown), u = t := by
    intro u hu
    obtain ⟨hu, hne⟩ := mem_known.1 hu
    exact (honly u hu).resolve_left hne
  have hsome : t ∈ seen.filter (· ≠ unknown) := mem_known.2 ⟨hmem, ht⟩
  rw [merge]
  generalize seen.filter (· ≠ unknown) = known at hall hsome
  cases known with
  | nil => simp at hsome
  | cons v rest =>
    obtain rfl : v = t := hall v (by simp)
    have hrest : rest.all (· = v) = true := by
      simpa using fun w hw => hall w (by simp [hw])
    simp only [hrest, if_true]

/-- Of several known types the first one by priority is taken, and text where none of them has a
priority. -/
theorem merge_eq_of_several (hmem : t ∈ seen) (ht : t ≠ unknown) (hother : u ∈ seen)
    (hu : u ≠ unknown) (hne : u ≠ t) :
    merge seen = (byPriority.find? fun p => seen.contains p).getD string := by
  have hsame : byPriority.find? (fun p => (seen.filter (· ≠ unknown)).contains p) =
      byPriority.find? fun p => seen.contains p := by
    simp [byPriority, List.find?_cons]
  rw [merge, ← hsame]
  have ht : t ∈ seen.filter (· ≠ unknown) := mem_known.2 ⟨hmem, ht⟩
  have hu : u ∈ seen.filter (· ≠ unknown) := mem_known.2 ⟨hother, hu⟩
  generalize seen.filter (· ≠ unknown) = known at ht hu
  cases known with
  | nil => simp at ht
  | cons v rest =>
    have hseveral : ¬∀ w ∈ rest, w = v := by
      intro hall
      have heq : ∀ w ∈ v :: rest, w = v := by simpa using hall
      exact hne ((heq u hu).trans (heq t ht).symm)
    simp [hseveral]

/-- No known type was seen, or one, or several. -/
theorem seen_cases (seen : List FieldType) :
    (∀ t ∈ seen, t = unknown) ∨
      ∃ t ∈ seen, t ≠ unknown ∧
        ((∀ u ∈ seen, u = unknown ∨ u = t) ∨ ∃ u ∈ seen, u ≠ unknown ∧ u ≠ t) := by
  by_cases hnone : ∀ t ∈ seen, t = unknown
  · exact .inl hnone
  · push Not at hnone
    obtain ⟨t, hmem, ht⟩ := hnone
    refine .inr ⟨t, hmem, ht, ?_⟩
    by_cases honly : ∀ u ∈ seen, u = unknown ∨ u = t
    · exact .inl honly
    · push Not at honly
      exact .inr honly

theorem merge_eq_unknown_iff : merge seen = unknown ↔ ∀ t ∈ seen, t = unknown := by
  rcases seen_cases seen with hnone | ⟨t, hmem, ht, honly | ⟨u, hother, hu, hne⟩⟩
  · exact ⟨fun _ => hnone, fun _ => merge_eq_of_none hnone⟩
  · rw [merge_eq_of_only hmem ht honly]
    exact ⟨fun h => absurd h ht, fun h => h t hmem⟩
  · have hpriority : (byPriority.find? fun p => seen.contains p).getD string ≠ unknown := by
      cases hfind : byPriority.find? fun p => seen.contains p with
      | none => simp
      | some p =>
        have hp := List.mem_of_find?_eq_some hfind
        rintro rfl
        simp [byPriority] at hp
    rw [merge_eq_of_several hmem ht hother hu hne]
    exact ⟨fun h => absurd h hpriority, fun h => absurd (h t hmem) ht⟩

/-- Which known types were seen decides the one type, and nothing else about them does. -/
theorem merge_congr (h : ∀ t, t ≠ unknown → (t ∈ seen ↔ t ∈ seen')) :
    merge seen = merge seen' := by
  rcases seen_cases seen with hnone | ⟨t, hmem, ht, honly | ⟨u, hother, hu, hne⟩⟩
  · rw [merge_eq_of_none hnone, merge_eq_of_none]
    intro t hmem
    by_contra ht
    exact ht (hnone t ((h t ht).2 hmem))
  · rw [merge_eq_of_only hmem ht honly, merge_eq_of_only ((h t ht).1 hmem) ht]
    intro u hu
    by_cases hunknown : u = unknown
    · exact .inl hunknown
    · exact honly u ((h u hunknown).2 hu)
  · have hsame : byPriority.find? (fun p => seen.contains p) =
        byPriority.find? fun p => seen'.contains p := by
      apply List.find?_congr
      intro p hp
      have hknown : p ≠ unknown := by
        rintro rfl
        simp [byPriority] at hp
      simp [h p hknown]
    rw [merge_eq_of_several hmem ht hother hu hne,
      merge_eq_of_several ((h t ht).1 hmem) ht ((h u hu).1 hother) hu hne, hsame]

end FieldType

namespace Schema

open FieldType

/-! ## What records show -/

/-- A record: values under names, in their order. -/
abbrev Row := List (String × Value)

/-- The record as a value. -/
def objectOf (r : Row) : Value :=
  .dict (r.map fun e => (.str e.1, e.2))

/-- The names of some entries, as often as they occur. -/
def namesOf (entries : Row) : List String :=
  entries.map Prod.fst

/-- A name that is not left out as an internal one. -/
def isShown (name : String) : Bool :=
  name.toList.head? != some '_'

/-- The types that the values under a name show. -/
def typesUnder (entries : Row) (name : String) : List FieldType :=
  (entries.filter (·.1 = name)).map fun e => typeOf e.2

theorem startsWith_underscore (name : String) : name.startsWith "_" = !isShown name := by
  rw [Bool.eq_iff_iff, String.startsWith_string_iff]
  cases h : name.toList with
  | nil => simp [isShown, h]
  | cons c rest =>
    have hfirst : '_' = c ↔ c = '_' := eq_comm
    simp [isShown, h, hfirst]

theorem mem_typesUnder {entries : Row} {name : String} {t : FieldType} :
    t ∈ typesUnder entries name ↔ ∃ v, (name, v) ∈ entries ∧ typeOf v = t := by
  simp [typesUnder]

theorem typesUnder_concat (entries : Row) (name : String) (v : Value) (n : String) :
    typesUnder (entries ++ [(name, v)]) n =
      if n = name then typesUnder entries n ++ [typeOf v] else typesUnder entries n := by
  by_cases hn : n = name
  · simp [typesUnder, hn]
  · simp [typesUnder, hn, Ne.symm hn]

/-! ## The names in their order -/

/-- The shown names among some entries, each where it is first met. -/
def shownNames (entries : Row) : List String :=
  ((namesOf entries).filter isShown).eraseDups

theorem mem_shownNames {entries : Row} {name : String} :
    name ∈ shownNames entries ↔ name ∈ namesOf entries ∧ isShown name = true := by
  rw [shownNames, List.mem_eraseDups, List.mem_filter]

theorem eraseDups_concat (names : List String) (name : String) :
    (names ++ [name]).eraseDups =
      if name ∈ names then names.eraseDups else names.eraseDups ++ [name] := by
  rw [List.eraseDups_append]
  by_cases h : name ∈ names
  · simp [List.removeAll, h]
  · simp [List.removeAll, h, List.eraseDups_cons]

/-- A further entry adds its name, if that is shown and new. -/
theorem shownNames_concat (entries : Row) (name : String) (v : Value) :
    shownNames (entries ++ [(name, v)]) =
      if isShown name = true ∧ name ∉ shownNames entries then shownNames entries ++ [name]
      else shownNames entries := by
  have hnames : namesOf (entries ++ [(name, v)]) = namesOf entries ++ [name] := by
    simp [namesOf]
  rw [shownNames, hnames, List.filter_append]
  by_cases hshown : isShown name = true
  · have hmem : name ∈ shownNames entries ↔ name ∈ (namesOf entries).filter isShown := by
      rw [shownNames, List.mem_eraseDups]
    rw [List.filter_cons_of_pos hshown, List.filter_nil, eraseDups_concat]
    by_cases h : name ∈ (namesOf entries).filter isShown
    · rw [if_pos h, if_neg fun hnew => hnew.2 (hmem.2 h), shownNames]
    · rw [if_neg h, if_pos ⟨hshown, fun hold => h (hmem.1 hold)⟩, shownNames]
  · simp [hshown, shownNames]

theorem pairwise_shownNames (entries : Row) : (shownNames entries).Pairwise
    fun a b => (namesOf entries).idxOf a < (namesOf entries).idxOf b := by
  induction entries using List.reverseRecOn with
  | nil => exact .nil
  | append_singleton entries e ih =>
    obtain ⟨name, v⟩ := e
    have hnames : namesOf (entries ++ [(name, v)]) = namesOf entries ++ [name] := by
      simp [namesOf]
    have hold : ∀ a ∈ shownNames entries,
        (namesOf entries ++ [name]).idxOf a = (namesOf entries).idxOf a := by
      intro a ha
      rw [List.idxOf_append, if_pos (mem_shownNames.1 ha).1]
    have hpairs : (shownNames entries).Pairwise fun a b =>
        (namesOf entries ++ [name]).idxOf a < (namesOf entries ++ [name]).idxOf b := by
      apply ih.imp_of_mem
      intro a b ha hb hlt
      rwa [hold a ha, hold b hb]
    rw [hnames, shownNames_concat]
    by_cases hnew : isShown name = true ∧ name ∉ shownNames entries
    · have hlast : (namesOf entries ++ [name]).idxOf name = (namesOf entries).length := by
        have hfirst : name ∉ namesOf entries := fun h => hnew.2 (mem_shownNames.2 ⟨h, hnew.1⟩)
        simp [List.idxOf_append, hfirst]
      rw [if_pos hnew, List.pairwise_append]
      refine ⟨hpairs, by simp, ?_⟩
      intro a ha b hb
      rw [List.mem_singleton.1 hb, hlast, hold a ha]
      exact List.idxOf_lt_length_of_mem (mem_shownNames.1 ha).1
    · rwa [if_neg hnew]

theorem nodup_shownNames (entries : Row) : (shownNames entries).Nodup := by
  apply (pairwise_shownNames entries).imp
  rintro a b hlt rfl
  exact absurd hlt (Nat.lt_irrefl _)

/-! ## Noting the entries -/

/-- Notes the type of a value under a name. -/
def noteField (seen : Seen) (e : String × Value) : Seen :=
  if isShown e.1 then note e.1 (typeOf e.2) seen else seen

theorem note_of_not_mem {name : String} {seen : Seen} (h : name ∉ seen.map Prod.fst)
    (t : FieldType) : note name t seen = seen ++ [(name, [t])] := by
  induction seen with
  | nil => rfl
  | cons entry rest ih =>
    obtain ⟨n, ts⟩ := entry
    simp only [List.map_cons, List.mem_cons, not_or] at h
    simp [note, Ne.symm h.1, ih h.2]

theorem note_map {names : List String} {name : String} (hnodup : names.Nodup)
    (hmem : name ∈ names) (types : String → List FieldType) (t : FieldType) :
    note name t (names.map fun n => (n, types n)) =
      names.map fun n => (n, if n = name then types n ++ [t] else types n) := by
  induction names with
  | nil => simp at hmem
  | cons n names ih =>
    rw [List.nodup_cons] at hnodup
    by_cases hn : n = name
    · subst hn
      have hrest : ∀ m ∈ names, m ≠ n := by
        rintro m hm rfl
        exact hnodup.1 hm
      simp only [List.map_cons, note, if_true, List.cons.injEq, true_and]
      apply List.map_congr_left
      intro m hm
      simp [hrest m hm]
    · have hmem : name ∈ names := by simpa [Ne.symm hn] using hmem
      simp [note, hn, ih hnodup.2 hmem]

/-- What is noted of some entries: the types under each shown name. -/
theorem foldl_noteField (entries : Row) :
    entries.foldl noteField [] = (shownNames entries).map fun n => (n, typesUnder entries n) := by
  induction entries using List.reverseRecOn with
  | nil => rfl
  | append_singleton entries e ih =>
    obtain ⟨name, v⟩ := e
    -- under the names before, nothing changes unless it is the same name
    have hothers : name ∉ shownNames entries → (shownNames entries).map
        (fun n => (n, typesUnder (entries ++ [(name, v)]) n)) =
        (shownNames entries).map fun n => (n, typesUnder entries n) := by
      intro hnew
      apply List.map_congr_left
      rintro n hn
      have hne : n ≠ name := by
        rintro rfl
        exact hnew hn
      simp [typesUnder_concat, hne]
    rw [List.foldl_append, ih, List.foldl_cons, List.foldl_nil, noteField, shownNames_concat]
    by_cases hshown : isShown name = true
    · by_cases hmem : name ∈ shownNames entries
      · simp only [hshown, hmem, not_true_eq_false, and_false, if_true, if_false]
        rw [note_map (nodup_shownNames entries) hmem]
        simp only [typesUnder_concat]
      · have hnone : typesUnder entries name = [] := by
          rw [List.eq_nil_iff_forall_not_mem]
          intro t ht
          obtain ⟨w, hw, -⟩ := mem_typesUnder.1 ht
          exact hmem (mem_shownNames.2 ⟨List.mem_map_of_mem hw, hshown⟩)
        simp only [hshown, hmem, not_false_eq_true, and_self, if_true]
        rw [note_of_not_mem (by simpa using hmem), List.map_append, hothers hmem]
        simp [typesUnder_concat, hnone]
    · have hnew : name ∉ shownNames entries := fun h => hshown (mem_shownNames.1 h).2
      rw [if_neg hshown, if_neg fun h => hshown h.1, hothers hnew]

/-- The fields of some entries: the shown names, each with one type of those under it. -/
def fieldsOf (entries : Row) : List (String × FieldType) :=
  (shownNames entries).map fun n => (n, merge (typesUnder entries n))

theorem names_fieldsOf (entries : Row) : (fieldsOf entries).map Prod.fst = shownNames entries := by
  simp [fieldsOf, Function.comp_def]

theorem type_of_mem_fieldsOf {entries : Row} {name : String} {t : FieldType}
    (h : (name, t) ∈ fieldsOf entries) : t = merge (typesUnder entries name) := by
  obtain ⟨n, -, heq⟩ := List.mem_map.1 h
  cases heq
  rfl

theorem inferFields_eq (rows : List Row) :
    inferFields (rows.map objectOf) = .ok (fieldsOf rows.flatten) := by
  have hentry : ∀ seen e, noteEntry seen (.str e.1, e.2) = .ok (noteField seen e) := by
    intro seen e
    simp only [noteEntry, noteNamed, noteField, startsWith_underscore]
    by_cases h : isShown e.1 <;> simp [h]
  have hrecord : ∀ (r : Row) (seen : Seen), noteRecord seen (objectOf r) =
      .ok (r.foldl noteField seen) := by
    intro r
    induction r with
    | nil => intro seen; rfl
    | cons e r ih =>
      intro seen
      show (noteEntry seen (.str e.1, e.2) >>= fun seen => noteRecord seen (objectOf r)) = _
      rw [hentry]
      exact ih _
  have hrows : ∀ (rows : List Row) (seen : Seen), (rows.map objectOf).foldlM noteRecord seen =
      .ok (rows.flatten.foldl noteField seen) := by
    intro rows
    induction rows with
    | nil => intro seen; rfl
    | cons r rows ih =>
      intro seen
      rw [List.map_cons, List.foldlM_cons, hrecord, List.flatten_cons, List.foldl_append]
      exact ih _
  rw [inferFields, hrows, foldl_noteField]
  simp [fieldsOf, Function.comp_def, bind, Except.bind, pure, Except.pure]

/-! ## What a type does not depend on -/

/-- What the fields of some entries are: the shown names, in the order in which they are first met,
and under each of them one type. It is unknown where no value shows a known one, and where only one
known type is shown it is that one. -/
structure Describes (entries : Row) (fields : List (String × FieldType)) : Prop where
  mem_iff : ∀ name, name ∈ fields.map Prod.fst ↔ name ∈ namesOf entries ∧ isShown name = true
  in_order : (fields.map Prod.fst).Pairwise
    fun a b => (namesOf entries).idxOf a < (namesOf entries).idxOf b
  unknown_iff : ∀ name t, (name, t) ∈ fields →
    (t = .unknown ↔ ∀ u ∈ typesUnder entries name, u = .unknown)
  only : ∀ name t, (name, t) ∈ fields → ∀ u ∈ typesUnder entries name, u ≠ .unknown →
    (∀ u' ∈ typesUnder entries name, u' = .unknown ∨ u' = u) → t = u

/-- The same records in any order and any number, each with its entries in any order. -/
def Rearranges (rows rows' : List Row) : Prop :=
  (∀ r ∈ rows, ∃ r' ∈ rows', r.Perm r') ∧ ∀ r' ∈ rows', ∃ r ∈ rows, r.Perm r'

/-- The same records, and among them others that hold nothing but nulls, under names of these. -/
def AddsNulls (rows rows' : List Row) : Prop :=
  ∃ nulls, rows'.Perm (rows ++ nulls) ∧
    ∀ r ∈ nulls, ∀ e ∈ r, e.1 ∈ namesOf rows.flatten ∧ e.2 = .null

theorem Rearranges.mem_iff {rows rows' : List Row} (h : Rearranges rows rows')
    (e : String × Value) : e ∈ rows'.flatten ↔ e ∈ rows.flatten := by
  simp only [List.mem_flatten]
  constructor
  · rintro ⟨r', hr', he⟩
    obtain ⟨r, hr, hperm⟩ := h.2 r' hr'
    exact ⟨r, hr, hperm.mem_iff.2 he⟩
  · rintro ⟨r, hr, he⟩
    obtain ⟨r', hr', hperm⟩ := h.1 r hr
    exact ⟨r', hr', hperm.mem_iff.1 he⟩

theorem mem_namesOf {entries : Row} {name : String} :
    name ∈ namesOf entries ↔ ∃ v, (name, v) ∈ entries := by
  simp [namesOf]

/-- The same names, and under each of them the same known types, make the same fields. -/
theorem perm_fields {entries entries' : Row}
    (hnames : ∀ name, name ∈ namesOf entries' ↔ name ∈ namesOf entries)
    (htypes : ∀ e, e.2 ≠ .null → (e ∈ entries' ↔ e ∈ entries)) :
    (fieldsOf entries').Perm (fieldsOf entries) := by
  have hperm : (shownNames entries').Perm (shownNames entries) := by
    rw [List.perm_ext_iff_of_nodup (nodup_shownNames _) (nodup_shownNames _)]
    intro name
    rw [mem_shownNames, mem_shownNames, hnames]
  have hmerge : ∀ name, merge (typesUnder entries' name) = merge (typesUnder entries name) := by
    intro name
    apply merge_congr
    intro t ht
    have hvalue : ∀ v, typeOf v = t → ((name, v) ∈ entries' ↔ (name, v) ∈ entries) := by
      rintro v rfl
      apply htypes
      rintro rfl
      exact ht rfl
    simp only [mem_typesUnder]
    exact exists_congr fun v => and_congr_left (hvalue v)
  simp only [fieldsOf, hmerge]
  exact hperm.map _

theorem Rearranges.perm_fields {rows rows' : List Row} (h : Rearranges rows rows') :
    (fieldsOf rows'.flatten).Perm (fieldsOf rows.flatten) := by
  apply Schema.perm_fields
  · intro name
    simp only [mem_namesOf, h.mem_iff]
  · exact fun e _ => h.mem_iff e

theorem AddsNulls.perm_fields {rows rows' : List Row} (h : AddsNulls rows rows') :
    (fieldsOf rows'.flatten).Perm (fieldsOf rows.flatten) := by
  obtain ⟨nulls, hperm, hnulls⟩ := h
  have hflatten : rows'.flatten.Perm (rows.flatten ++ nulls.flatten) := by
    rw [← List.flatten_append]
    exact hperm.flatten
  apply Schema.perm_fields
  · intro name
    have hold : ∀ v, (name, v) ∈ nulls.flatten → name ∈ namesOf rows.flatten := by
      intro v hv
      obtain ⟨r, hr, hv⟩ := List.mem_flatten.1 hv
      exact (hnulls r hr _ hv).1
    simp only [mem_namesOf, hflatten.mem_iff, List.mem_append] at hold ⊢
    constructor
    · rintro ⟨v, hv | hv⟩
      · exact ⟨v, hv⟩
      · exact hold v hv
    · rintro ⟨v, hv⟩
      exact ⟨v, .inl hv⟩
  · intro e hvalue
    have hnot : e ∉ nulls.flatten := by
      intro he
      obtain ⟨r, hr, he⟩ := List.mem_flatten.1 he
      exact hvalue (hnulls r hr e he).2
    rw [hflatten.mem_iff, List.mem_append]
    simp [hnot]

theorem describes_fields (entries : Row) : Describes entries (fieldsOf entries) := by
  constructor
  · intro name
    rw [names_fieldsOf]
    exact mem_shownNames
  · rw [names_fieldsOf]
    exact pairwise_shownNames entries
  · intro name t h
    rw [type_of_mem_fieldsOf h]
    exact merge_eq_unknown_iff
  · intro name t h u hmem hu honly
    rw [type_of_mem_fieldsOf h]
    exact merge_eq_of_only hmem hu honly

/-- **The types of fields are decided by the types of their values.** Some records have as fields
the names that occur in them and are not internal, each once, in the order in which they are first
met. The type of a field is unknown where no value under it shows a known type, it is the known
type where there is only one, and it only depends on which types are shown, whatever the name of
the field is. So records that come in another order or more often, with their entries in another
order, have the same fields up to their order, and so have records among which others come that
hold nothing but nulls under names of these. -/
theorem fields_follow_types (rows : List Row) :
    ∃ fields, inferFields (rows.map objectOf) = .ok fields ∧ Describes rows.flatten fields ∧
      ∀ rows' fields', inferFields (rows'.map objectOf) = .ok fields' →
        (∀ name name' t t', (name, t) ∈ fields → (name', t') ∈ fields' →
          (∀ u, u ∈ typesUnder rows'.flatten name' ↔ u ∈ typesUnder rows.flatten name) →
            t' = t) ∧
        (Rearranges rows rows' → fields'.Perm fields) ∧
        (AddsNulls rows rows' → fields'.Perm fields) := by
  refine ⟨_, inferFields_eq rows, describes_fields _, ?_⟩
  intro rows' fields' h
  rw [inferFields_eq] at h
  obtain rfl := Except.ok.inj h
  refine ⟨?_, fun h => h.perm_fields, fun h => h.perm_fields⟩
  intro name name' t t' ht ht' hsame
  rw [type_of_mem_fieldsOf ht, type_of_mem_fieldsOf ht']
  exact merge_congr fun u _ => hsame u

/-- A town, and its code apart. -/
def townRows : List Row :=
  [[("_id", .str "1"), ("name", .str "Vilnius"), ("code", .null)], [("code", .int 13)]]

/-- The same, with the parts in another order, one of them twice, and nulls added. -/
def townRowsAgain : List Row :=
  [[("code", .int 13)], [("name", .str "Vilnius"), ("_id", .str "1"), ("code", .null)],
    [("code", .int 13)]]

theorem townRows_fields :
    Rearranges townRows townRowsAgain ∧
      inferFields (townRowsAgain.map objectOf) = .ok [("code", .integer), ("name", .string)] ∧
      ∃ fields, inferFields (townRows.map objectOf) = .ok fields ∧
        [("code", .integer), ("name", .string)].Perm fields ∧
        (fields.map Prod.fst).Pairwise fun a b =>
          (namesOf townRows.flatten).idxOf a < (namesOf townRows.flatten).idxOf b := by
  have hrearranges : Rearranges townRows townRowsAgain := by
    constructor
    · intro r hr
      simp only [townRows, List.mem_cons, List.not_mem_nil, or_false] at hr
      obtain rfl | rfl := hr
      · exact ⟨_, .tail _ (.head _), .swap _ _ _⟩
      · exact ⟨_, .head _, .refl _⟩
    · intro r hr
      simp only [townRowsAgain, List.mem_cons, List.not_mem_nil, or_false] at hr
      obtain rfl | rfl | rfl := hr
      · exact ⟨_, .tail _ (.head _), .refl _⟩
      · exact ⟨_, .head _, .swap _ _ _⟩
      · exact ⟨_, .tail _ (.head _), .refl _⟩
  have hagain : inferFields (townRowsAgain.map objectOf) =
      .ok [("code", .integer), ("name", .string)] := (inferFields_eq townRowsAgain).trans rfl
  obtain ⟨fields, hfields, hdescribes, hsame⟩ := fields_follow_types townRows
  exact ⟨hrearranges, hagain, fields, hfields, (hsame _ _ hagain).2.1 hrearranges,
    hdescribes.in_order⟩

end Schema

end DataPortal
