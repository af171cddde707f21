import TopicTable.Proofs.Resolution
import TopicTable.Sample

/-! Where the physical columns of a resolved table go. The key holds the declared key columns in
their declared order, the value holds the others or all of them in schema order, and no column
is lost between the two. -/

namespace TopicTable

theorem Column.field_name (c : Column) : c.field.name = c.name := by
  cases c <;> rfl

theorem Column.field_type (c : Column) : c.field.type = c.type := by
  cases c <;> rfl

theorem Schema.physicalNames_at {s : Schema} {p : Nat} {whole : Field}
    (h : s.physicalRow[p]? = some whole) : s.physicalNames[p]? = some whole.name := by
  rw [physicalRow, List.getElem?_map, Option.map_eq_some_iff] at h
  obtain ⟨column, hcolumn, rfl⟩ := h
  rw [physicalNames, List.getElem?_map, hcolumn, Option.map_some, Column.field_name]

/-- Nothing is left out where every element has its image. -/
theorem filterMap_forall {α β : Type} {f : α → Option β} {as : List α}
    (h : ∀ a ∈ as, (f a).isSome = true) :
    List.Forall₂ (fun a b => f a = some b) as (as.filterMap f) := by
  induction as with
  | nil => exact .nil
  | cons a as ih =>
    obtain ⟨b, hb⟩ := Option.isSome_iff_exists.mp (h a (List.mem_cons_self ..))
    rw [List.filterMap_cons_some hb]
    exact .cons hb (ih fun a' ha' => h a' (List.mem_cons_of_mem _ ha'))

/-- Positions within a list all have their entry in a projection. -/
theorem project_forall {α : Type} {entries : List α} {positions : List Nat}
    (h : ∀ p ∈ positions, p < entries.length) :
    List.Forall₂ (fun p a => entries[p]? = some a) positions
      (positions.filterMap fun p => entries[p]?) :=
  filterMap_forall fun p hp => by rw [List.getElem?_eq_getElem (h p hp), Option.isSome_some]

namespace RecordLayout

open Outcome

/-- The declared key fields, none where they are left out. -/
def keyFieldNames (options : OptionMap) : List String :=
  (options.get? Catalogue.keyFields.key).elim [] Text.listEntries

/-- The declared prefix of key fields, empty where it is left out. -/
def fieldPrefix (options : OptionMap) : String :=
  (options.get? Catalogue.keyFieldsPrefix.key).getD ""

theorem read_keyFields (options : OptionMap) : options.read? Catalogue.keyFields =
    .ok ((options.get? Catalogue.keyFields.key).map Text.listEntries) := by
  unfold OptionMap.read?
  cases options.get? Catalogue.keyFields.key <;> rfl

theorem read_keyFieldsPrefix (options : OptionMap) : options.read? Catalogue.keyFieldsPrefix =
    .ok (options.get? Catalogue.keyFieldsPrefix.key) := by
  unfold OptionMap.read?
  cases options.get? Catalogue.keyFieldsPrefix.key <;> rfl

theorem keyPosition_ok_iff {names : List String} {start field : String} {p : Nat} :
    keyPosition names start field = .ok p ↔
      names.findIdx? (· = field) = some p ∧ ∃ rest, field = start ++ rest := by
  rw [← Text.hasPrefix_iff]
  unfold keyPosition
  cases names.findIdx? (· = field) with
  | none => simp
  | some q => by_cases h : Text.hasPrefix start field = true <;> simp [h]

theorem repeated_none_iff {seen fields : List String} :
    repeated? seen fields = none ↔ fields.Nodup ∧ ∀ f ∈ fields, f ∉ seen := by
  induction fields generalizing seen with
  | nil => simp [repeated?]
  | cons f fields ih =>
    unfold repeated?
    by_cases h : f ∈ seen
    · simp [h]
    · rw [if_neg h, ih, List.nodup_cons]
      constructor
      · rintro ⟨hn, hs⟩
        refine ⟨⟨fun hf => hs f hf (List.mem_cons_self ..), hn⟩, ?_⟩
        intro g hg
        rcases List.mem_cons.mp hg with rfl | hg
        · exact h
        · exact fun hs' => hs g hg (List.mem_cons_of_mem _ hs')
      · rintro ⟨⟨hf, hn⟩, hs⟩
        refine ⟨hn, fun g hg hgs => ?_⟩
        rcases List.mem_cons.mp hgs with rfl | hgs
        · exact hf hg
        · exact hs g (List.mem_cons_of_mem _ hg) hgs

/-- A key is empty without a key format; with one, every declared field has its position. -/
theorem keyPositions_ok_iff {options : OptionMap} {names : List String} {start : String}
    {key : List Nat} : keyPositions options names start = .ok key ↔
      (options.contains Catalogue.keyFormat.key = false ∧
        options.get? Catalogue.keyFields.key = none ∧ key = []) ∨
      (options.contains Catalogue.keyFormat.key = true ∧ keyFieldNames options ≠ [] ∧
        (keyFieldNames options).Nodup ∧
        List.Forall₂ (fun field p => names.findIdx? (· = field) = some p ∧
          ∃ rest, field = start ++ rest) (keyFieldNames options) key) := by
  unfold keyPositions keyFieldNames
  rw [read_keyFields, bind_ok_iff]
  simp only [Except.ok.injEq, exists_eq_left']
  cases options.contains Catalogue.keyFormat.key with
  | false =>
    cases options.get? Catalogue.keyFields.key with
    | none => simp [pure, Except.pure, eq_comm]
    | some raw => simp
  | true =>
    cases options.get? Catalogue.keyFields.key with
    | none => simp
    | some raw =>
      simp only [Option.map_some, Option.elim_some, reduceCtorEq, false_and, and_false,
        Bool.true_eq_false, false_or, true_and]
      cases Text.listEntries raw with
      | nil => simp
      | cons field rest =>
        simp only [ne_eq, reduceCtorEq, not_false_eq_true, true_and]
        cases hr : repeated? [] (field :: rest) with
        | some f =>
          have hn : ¬ (field :: rest).Nodup := by
            intro hn
            rw [repeated_none_iff.mpr ⟨hn, by simp⟩] at hr
            cases hr
          simp [hn]
        | none =>
          have hn : (field :: rest).Nodup := (repeated_none_iff.mp hr).1
          simp only [hn, true_and, mapM_ok_iff, keyPosition_ok_iff]

/-- Which value positions belong to a choice and a key. -/
def valuePositions (choice : ValueFields) (n : Nat) (key : List Nat) : List Nat :=
  match choice with
  | .all => List.range n
  | .exceptKey => (List.range n).filter fun i => !key.contains i

theorem ofOptions_ok_iff {options : OptionMap} {schema : Schema} {layout : RecordLayout} :
    ofOptions options schema = .ok layout ↔
      ∃ choice, options.readOrDefault? Catalogue.valueFieldsInclude = .ok (some choice) ∧
        keyPositions options schema.physicalNames (fieldPrefix options) = .ok layout.key ∧
        layout.value = valuePositions choice schema.physicalNames.length layout.key ∧
        (choice = .all → fieldPrefix options = "") := by
  unfold ofOptions
  simp only [read_keyFieldsPrefix, bind_ok_iff, Except.ok.injEq, exists_eq_left']
  change (∃ key, keyPositions options schema.physicalNames (fieldPrefix options) = .ok key ∧ _) ↔ _
  constructor
  · rintro ⟨key, hkey, choice?, hchoice, h⟩
    obtain ⟨choice, rfl⟩ := OptionMap.readOrDefault_of_default rfl hchoice
    refine ⟨choice, hchoice, ?_⟩
    cases choice with
    | all =>
      simp only [Option.getD_some] at h
      split at h
      · cases h
      next hp =>
        cases h
        exact ⟨hkey, rfl, fun _ => not_not.mp hp⟩
    | exceptKey =>
      cases h
      refine ⟨hkey, rfl, fun hall => ?_⟩
      cases hall
  · rintro ⟨choice, hchoice, hkey, hvalue, hp⟩
    refine ⟨layout.key, hkey, some choice, hchoice, ?_⟩
    cases choice with
    | all =>
      have hn : ¬ (fieldPrefix options ≠ "") := not_not.mpr (hp rfl)
      change (if fieldPrefix options ≠ "" then _ else _) = _
      rw [if_neg hn, pure_ok_iff]
      exact congrArg (RecordLayout.mk layout.key) hvalue.symm
    | exceptKey =>
      change pure _ = _
      rw [pure_ok_iff]
      exact congrArg (RecordLayout.mk layout.key) hvalue.symm

theorem keyPrefix_ok_iff {options : OptionMap} {start? : Option String} :
    keyPrefix? options = .ok start? ↔
      start? = (options.get? Catalogue.keyFieldsPrefix.key).filter (· ≠ "") := by
  unfold keyPrefix?
  simp only [read_keyFieldsPrefix, bind_ok_iff, Except.ok.injEq, exists_eq_left', pure_ok_iff]
  exact eq_comm

/-- An empty prefix is none, so the two readings of the prefix agree. -/
theorem keyPrefix_getD {options : OptionMap} {start? : Option String}
    (h : keyPrefix? options = .ok start?) : start?.getD "" = fieldPrefix options := by
  rw [keyPrefix_ok_iff.mp h]
  unfold fieldPrefix
  cases options.get? Catalogue.keyFieldsPrefix.key with
  | none => rfl
  | some start => by_cases hs : start = "" <;> simp [Option.filter, hs]

theorem mem_valuePositions {choice : ValueFields} {n p : Nat} {key : List Nat} :
    p ∈ valuePositions choice n key ↔ p < n ∧ (choice = .exceptKey → p ∉ key) := by
  cases choice <;> simp [valuePositions]

theorem valuePositions_increasing (choice : ValueFields) (n : Nat) (key : List Nat) :
    (valuePositions choice n key).Pairwise (· < ·) := by
  cases choice with
  | all => exact List.pairwise_lt_range
  | exceptKey => exact List.pairwise_lt_range.filter _

/-- The options that decide where columns go. -/
def optionKeys : List String :=
  [Catalogue.keyFieldsPrefix.key, Catalogue.keyFields.key, Catalogue.keyFormat.key,
    Catalogue.valueFieldsInclude.key]

theorem ofOptions_reads (schema : Schema) : OptionMap.Reads optionKeys (ofOptions · schema) := by
  intro a b h
  dsimp only
  unfold ofOptions keyPositions
  rw [OptionMap.read_congr (h Catalogue.keyFields.key (by decide)),
    OptionMap.read_congr (h Catalogue.keyFieldsPrefix.key (by decide)),
    OptionMap.readOrDefault_congr (h Catalogue.valueFieldsInclude.key (by decide)),
    OptionMap.contains_congr (h Catalogue.keyFormat.key (by decide))]

theorem keyPrefix_reads : OptionMap.Reads optionKeys keyPrefix? := by
  intro a b h
  unfold keyPrefix?
  rw [OptionMap.read_congr (h Catalogue.keyFieldsPrefix.key (by decide))]

end RecordLayout

/-- Codec rows keep types and nullability; only the prefix leaves the names of key fields. -/
theorem RecordLayout.keyRow_named {layout : RecordLayout} {physical : RowType}
    {start? : Option String} (hb : ∀ p ∈ layout.key, p < physical.length)
    (hn : ∀ p ∈ layout.key, ∀ whole, physical[p]? = some whole →
      ∃ rest, whole.name = start?.getD "" ++ rest) :
    List.Forall₂ (fun p field => ∃ whole, physical[p]? = some whole ∧
      whole.name = start?.getD "" ++ field.name ∧ field.type = whole.type ∧
      field.nullable = whole.nullable) layout.key (layout.keyRow physical start?) := by
  have hrow := project_forall hb
  unfold keyRow
  cases start? with
  | none =>
    refine hrow.imp fun p field hp => ?_
    exact ⟨field, hp, by simp, rfl, rfl⟩
  | some start =>
    rw [List.forall₂_map_right_iff]
    have hpair : List.Forall₂ (fun p whole => p ∈ layout.key ∧ physical[p]? = some whole)
        layout.key (physical.project layout.key) :=
      (List.forall₂_and_left ..).mpr ⟨fun _ hp => hp, hrow⟩
    refine hpair.imp fun p whole hp => ⟨whole, hp.2, ?_, rfl, rfl⟩
    obtain ⟨rest, hrest⟩ := hn p hp.1 whole hp.2
    have hstrip : Text.stripPrefix? start whole.name = some rest :=
      Text.stripPrefix_iff.mpr hrest
    simpa [stripFieldPrefix, hstrip] using hrest

/-- What the codec rows and the layout of a resolved table say about its physical columns. -/
structure ColumnsPlaced (table : TableDefinition) (physical : RowType) (layout : RecordLayout)
    (keyPrefix? : Option String) (keyFormat? : Option FormatHandle)
    (valueFormat : FormatHandle) : Prop where
  physical_eq : physical = table.schema.physicalColumns.map Column.field
  key_distinct : layout.key.Nodup
  key_bound : ∀ p ∈ layout.key, p < table.schema.physicalColumns.length
  key_length : layout.key.length = (RecordLayout.keyFieldNames table.options).length
  key_named : List.Forall₂
    (fun p name => (table.schema.physicalColumns[p]?).map Column.name = some name)
    layout.key (RecordLayout.keyFieldNames table.options)
  key_empty : layout.key = [] ↔ keyFormat? = none
  value_increasing : layout.value.Pairwise (· < ·)
  value_bound : ∀ p ∈ layout.value, p < table.schema.physicalColumns.length
  covered : ∀ p < table.schema.physicalColumns.length, p ∈ layout.key ∨ p ∈ layout.value
  choice : ∃ choice,
    table.options.readOrDefault? Catalogue.valueFieldsInclude = .ok (some choice) ∧
    match choice with
    | .all => layout.value = List.range table.schema.physicalColumns.length
    | .exceptKey => ∀ p ∈ layout.key, p ∉ layout.value
  key_row : ∀ key, keyFormat? = some key → List.Forall₂
    (fun p field => ∃ whole, physical[p]? = some whole ∧
      whole.name = keyPrefix?.getD "" ++ field.name ∧ field.type = whole.type ∧
      field.nullable = whole.nullable)
    layout.key key.rowType
  value_row : List.Forall₂ (fun p field => physical[p]? = some field)
    layout.value (valueFormat.rowType.take layout.value.length)

namespace RecordLayout

variable {options : OptionMap} {schema : Schema} {layout : RecordLayout}

theorem key_names_of_ok (h : ofOptions options schema = .ok layout) : List.Forall₂
    (fun p name => schema.physicalNames[p]? = some name ∧
      ∃ rest, name = fieldPrefix options ++ rest)
    layout.key (keyFieldNames options) := by
  obtain ⟨_, _, hkey, _, _⟩ := ofOptions_ok_iff.mp h
  rcases keyPositions_ok_iff.mp hkey with ⟨_, hnone, hk⟩ | ⟨_, _, _, hk⟩
  · rw [hk, keyFieldNames, hnone]
    exact .nil
  · refine (hk.imp fun field p hp => ?_).flip
    obtain ⟨hlt, hat, _⟩ := List.findIdx?_eq_some_iff_getElem.mp hp.1
    simp only [decide_eq_true_eq] at hat
    exact ⟨by rw [List.getElem?_eq_getElem hlt, hat], hp.2⟩

theorem key_map_of_ok (h : ofOptions options schema = .ok layout) :
    layout.key.map (schema.physicalNames[·]?) = (keyFieldNames options).map some := by
  rw [← List.forall₂_eq_eq_eq, List.forall₂_map_left_iff, List.forall₂_map_right_iff]
  exact (key_names_of_ok h).imp fun _ _ hp => hp.1

theorem names_nodup_of_ok (h : ofOptions options schema = .ok layout) :
    (keyFieldNames options).Nodup := by
  obtain ⟨_, _, hkey, _, _⟩ := ofOptions_ok_iff.mp h
  rcases keyPositions_ok_iff.mp hkey with ⟨_, hnone, _⟩ | ⟨_, _, hn, _⟩
  · simp [keyFieldNames, hnone]
  · exact hn

/-- Distinct names have distinct first positions. -/
theorem key_nodup_of_ok (h : ofOptions options schema = .ok layout) : layout.key.Nodup := by
  have hs : ((keyFieldNames options).map some).Nodup :=
    (names_nodup_of_ok h).map fun _ _ hab => Option.some.inj hab
  rw [← key_map_of_ok h] at hs
  exact List.Nodup.of_map _ hs

theorem key_bound_of_ok (h : ofOptions options schema = .ok layout) :
    ∀ p ∈ layout.key, p < schema.physicalNames.length := by
  intro p hp
  have hm : schema.physicalNames[p]? ∈ (keyFieldNames options).map some := by
    rw [← key_map_of_ok h]
    exact List.mem_map_of_mem hp
  obtain ⟨name, _, hname⟩ := List.mem_map.mp hm
  exact (List.getElem?_eq_some_iff.mp hname.symm).1

theorem key_empty_of_ok (h : ofOptions options schema = .ok layout) :
    layout.key = [] ↔ options.contains Catalogue.keyFormat.key = false := by
  obtain ⟨_, _, hkey, _, _⟩ := ofOptions_ok_iff.mp h
  rcases keyPositions_ok_iff.mp hkey with ⟨hc, _, hk⟩ | ⟨hc, hne, _, hk⟩
  · simp [hc, hk]
  · have : layout.key ≠ [] := by
      intro he
      rw [he, List.forall₂_nil_right_iff] at hk
      exact hne hk
    simp [hc, this]

/-- No column comes into a key unless its name starts with the prefix. -/
theorem whole_prefixed_of_ok (h : ofOptions options schema = .ok layout) {p : Nat}
    (hp : p ∈ layout.key) {whole : Field} (hwhole : schema.physicalRow[p]? = some whole) :
    ∃ rest, whole.name = fieldPrefix options ++ rest := by
  obtain ⟨name, -, hname, rest, hrest⟩ := Outcome.partner_of_mem (key_names_of_ok h) hp
  rw [Schema.physicalNames_at hwhole, Option.some.injEq] at hname
  exact ⟨rest, hname.trans hrest⟩

/-- The fields of a key row stand for whole columns, whose names start with the prefix. -/
theorem keyRow_of_ok {keyPrefix? : Option String} (h : ofOptions options schema = .ok layout)
    (hstart : RecordLayout.keyPrefix? options = .ok keyPrefix?) : List.Forall₂
    (fun p field => ∃ whole, schema.physicalRow[p]? = some whole ∧
      whole.name = keyPrefix?.getD "" ++ field.name ∧ field.type = whole.type ∧
      field.nullable = whole.nullable)
    layout.key (layout.keyRow schema.physicalRow keyPrefix?) := by
  have hbound : ∀ p ∈ layout.key, p < schema.physicalRow.length := by
    intro p hp
    have hlt := key_bound_of_ok h p hp
    simpa [Schema.physicalNames, Schema.physicalRow] using hlt
  refine keyRow_named hbound fun p hp whole hwhole => ?_
  rw [keyPrefix_getD hstart]
  exact whole_prefixed_of_ok h hp hwhole

end RecordLayout

namespace Resolver

theorem resolveRows_reads (table : TableDefinition) (found : TableFormats)
    (access : MetadataAccess) :
    OptionMap.Reads RecordLayout.optionKeys (resolveRows table · found access) := by
  intro a b h
  dsimp only
  unfold resolveRows
  rw [(RecordLayout.ofOptions_reads table.schema).congr h, RecordLayout.keyPrefix_reads.congr h]

/-- The layout lemmas put together for one resolution. The completed options of a sink count only
through what they share with the table's own. -/
theorem RowsRun.columns_placed {table : TableDefinition} {options : OptionMap}
    {found : TableFormats} {access : MetadataAccess} {rows : ResolvedRows}
    (run : RowsRun table options found access rows)
    (hagree : options.AgreesOnCatalogue table.options)
    (hkey : found.key?.isSome = options.contains Catalogue.keyFormat.key) :
    ColumnsPlaced table table.schema.physicalRow rows.layout rows.keyPrefix? rows.keyFormat?
      rows.valueFormat := by
  have hlayout : RecordLayout.ofOptions table.options table.schema = .ok rows.layout := by
    rw [← run.layout_ok]
    exact (RecordLayout.ofOptions_reads table.schema).agree (by decide) hagree.symm
  have hprefix : RecordLayout.keyPrefix? table.options = .ok rows.keyPrefix? := by
    rw [← run.prefix_ok]
    exact RecordLayout.keyPrefix_reads.agree (by decide) hagree.symm
  have hcontains : options.contains Catalogue.keyFormat.key =
      table.options.contains Catalogue.keyFormat.key := hagree.contains_eq (by decide)
  have hlength : table.schema.physicalNames.length = table.schema.physicalColumns.length :=
    List.length_map ..
  have hrow : table.schema.physicalRow.length = table.schema.physicalColumns.length :=
    List.length_map ..
  have hbound := RecordLayout.key_bound_of_ok hlayout
  have hnames := RecordLayout.key_names_of_ok hlayout
  obtain ⟨choice, hchoice, -, hvalue, -⟩ := RecordLayout.ofOptions_ok_iff.mp hlayout
  have hmem : ∀ p, p ∈ rows.layout.value ↔ p < table.schema.physicalColumns.length ∧
      (choice = .exceptKey → p ∉ rows.layout.key) := by
    intro p
    rw [hvalue, hlength]
    exact RecordLayout.mem_valuePositions
  refine {
    physical_eq := rfl
    key_distinct := RecordLayout.key_nodup_of_ok hlayout
    key_bound := fun p hp => hlength ▸ hbound p hp
    key_length := hnames.length_eq
    key_named := hnames.imp fun p name hp => ?_
    key_empty := ?_
    value_increasing := hvalue ▸ RecordLayout.valuePositions_increasing ..
    value_bound := fun p hp => ((hmem p).mp hp).1
    covered := fun p hp => ?_
    choice := ⟨choice, hchoice, ?_⟩
    key_row := fun key hk => ?_
    value_row := ?_ }
  · simpa [Schema.physicalNames] using hp.1
  · rw [RecordLayout.key_empty_of_ok hlayout, ← hcontains, ← hkey, run.key_eq]
    cases found.key? <;> simp
  · by_cases hk : p ∈ rows.layout.key
    · exact Or.inl hk
    · exact Or.inr ((hmem p).mpr ⟨hp, fun _ => hk⟩)
  · cases choice with
    | all => rw [hvalue, hlength]; rfl
    | exceptKey => exact fun p hp hv => ((hmem p).mp hv).2 rfl hp
  · have hrows : key.rowType = rows.layout.keyRow table.schema.physicalRow rows.keyPrefix? := by
      rw [run.key_eq] at hk
      obtain ⟨format, -, rfl⟩ := Option.map_eq_some_iff.mp hk
      exact List.append_nil _
    rw [hrows]
    exact RecordLayout.keyRow_of_ok hlayout hprefix
  · have hproject : List.Forall₂ (fun p field => table.schema.physicalRow[p]? = some field)
        rows.layout.value (table.schema.physicalRow.project rows.layout.value) :=
      project_forall fun p hp => by rw [hrow]; exact ((hmem p).mp hp).1
    have htake : rows.valueFormat.rowType.take rows.layout.value.length =
        table.schema.physicalRow.project rows.layout.value := by
      rw [run.value_eq, hproject.length_eq]
      exact List.take_left ..
    rw [htake]
    exact hproject

theorem SourceRun.columns_placed {r : Resolver} {table : TableDefinition} {spec : SourceSpec}
    (run : SourceRun r table spec) : ColumnsPlaced table spec.physical spec.layout
      spec.keyPrefix? spec.keyFormat? spec.valueFormat := by
  obtain ⟨consumed, ⟨formats⟩, -⟩ := checkedFormats_run run.formats_ok
  have hsame : table.options.AgreesOnCatalogue table.options := fun _ _ => rfl
  rw [run.spec_eq]
  exact run.rows_run.columns_placed hsame formats.key_isSome

theorem SinkRun.columns_placed {r : Resolver} {table : TableDefinition} {spec : SinkSpec}
    (run : SinkRun r table spec) : ColumnsPlaced table spec.physical spec.layout
      spec.keyPrefix? spec.keyFormat? spec.valueFormat := by
  obtain ⟨consumed, ⟨formats⟩, -⟩ := checkedFormats_run run.formats_ok
  have hagree : run.options.AgreesOnCatalogue table.options := by
    rw [run.options_eq]
    exact table.options.withSubjects_agrees run.topic
  rw [run.spec_eq]
  exact run.rows_run.columns_placed hagree formats.key_isSome

/-- No column is lost, doubled or moved under another name, whichever way a table is used. -/
theorem resolved_columns_placed (r : Resolver) (table : TableDefinition) :
    (∀ spec, r.source table = .ok spec → ColumnsPlaced table spec.physical spec.layout
      spec.keyPrefix? spec.keyFormat? spec.valueFormat) ∧
    (∀ spec, r.sink table = .ok spec → ColumnsPlaced table spec.physical spec.layout
      spec.keyPrefix? spec.keyFormat? spec.valueFormat) := by
  constructor
  · intro spec h
    obtain ⟨run⟩ := source_run h
    exact run.columns_placed
  · intro spec h
    obtain ⟨run⟩ := sink_run h
    exact run.columns_placed

theorem prefixed_keys_placed :
    (∃ spec, Sample.delimitedOnly.source Sample.prefixedKeys = .ok spec ∧
      ColumnsPlaced Sample.prefixedKeys spec.physical spec.layout spec.keyPrefix?
        spec.keyFormat? spec.valueFormat) ∧
    (∃ spec, Sample.delimitedOnly.sink Sample.prefixedKeys = .ok spec ∧
      ColumnsPlaced Sample.prefixedKeys spec.physical spec.layout spec.keyPrefix?
        spec.keyFormat? spec.valueFormat) := by
  have hplaced := resolved_columns_placed Sample.delimitedOnly Sample.prefixedKeys
  obtain ⟨source, hsource⟩ := Outcome.exists_ok
    (x := Sample.delimitedOnly.source Sample.prefixedKeys) (by decide +kernel)
  obtain ⟨sink, hsink⟩ := Outcome.exists_ok
    (x := Sample.delimitedOnly.sink Sample.prefixedKeys) (by decide +kernel)
  exact ⟨⟨source, hsource, hplaced.1 source hsource⟩, ⟨sink, hsink, hplaced.2 sink hsink⟩⟩

end Resolver

end TopicTable
