import TopicTable.Proofs.Layout

/-! The fields of a key. The four options that lay out records resolve exactly under the conditions
that stand here, and these are what makes the prefix of key fields removable: it is taken off every
name, and put back it gives the declared names. -/

namespace TopicTable.RecordLayout

open Outcome

/-- Names that can be the fields of a key. -/
structure KeyFieldsFit (schema : Schema) (start : String) (fields : List String) : Prop where
  present : fields ≠ []
  distinct : fields.Nodup
  physical : ∀ field ∈ fields, field ∈ schema.physicalNames
  prefixed : ∀ field ∈ fields, ∃ rest, field = start ++ rest

/-- What the layout of a schema asks of its options. -/
structure OptionsFit (options : OptionMap) (schema : Schema) : Prop where
  choice : ∀ raw, options.get? "value.fields-include" = some raw →
    ∃ choice, ValueFields.parse raw = .ok choice
  key : (options.get? "key.format" = none ∧ options.get? "key.fields" = none) ∨
    ∃ format raw, options.get? "key.format" = some format ∧
      options.get? "key.fields" = some raw ∧
      KeyFieldsFit schema (fieldPrefix options) (Text.listEntries raw)
  exceptKey : fieldPrefix options ≠ "" → ∃ raw,
    options.get? "value.fields-include" = some raw ∧ ValueFields.parse raw = .ok .exceptKey

section Resolves

variable {options : OptionMap} {schema : Schema}

/-- The value has all columns unless something else is asked for. -/
theorem read_choice_iff {choice : ValueFields} :
    options.readOrDefault? Catalogue.valueFieldsInclude = .ok (some choice) ↔
      (options.get? "value.fields-include" = none ∧ choice = .all) ∨
      ∃ raw, options.get? "value.fields-include" = some raw ∧
        ValueFields.parse raw = .ok choice := by
  have hparse : ∀ raw, Catalogue.valueFieldsInclude.parse raw = .ok choice ↔
      ValueFields.parse raw = .ok choice := by
    intro raw
    rw [OptionMap.parse_ok_iff]
    exact and_iff_left rfl
  have hkey : Catalogue.valueFieldsInclude.key = "value.fields-include" := rfl
  have hdefault : Catalogue.valueFieldsInclude.default? = some "ALL" := rfl
  have hall : ValueFields.parse "ALL" = .ok .all := by decide +kernel
  simp only [OptionMap.readOrDefault_some_iff, hparse, hkey, hdefault]
  cases options.get? "value.fields-include" with
  | none => simp [hall, eq_comm]
  | some raw => simp

/-- Under a prefix, only the choice without the key columns is left. -/
theorem exists_choice_iff {start : String} :
    (∃ choice, options.readOrDefault? Catalogue.valueFieldsInclude = .ok (some choice) ∧
      (choice = .all → start = "")) ↔
    (∀ raw, options.get? "value.fields-include" = some raw →
      ∃ choice, ValueFields.parse raw = .ok choice) ∧
    (start ≠ "" → ∃ raw, options.get? "value.fields-include" = some raw ∧
      ValueFields.parse raw = .ok .exceptKey) := by
  simp only [read_choice_iff]
  cases options.get? "value.fields-include" with
  | none => simp
  | some raw =>
    simp only [reduceCtorEq, false_and, false_or, Option.some.injEq, exists_eq_left',
      forall_eq']
    constructor
    · rintro ⟨choice, hchoice, hall⟩
      refine ⟨⟨choice, hchoice⟩, fun hstart => ?_⟩
      cases choice with
      | all => exact absurd (hall rfl) hstart
      | exceptKey => exact hchoice
    · rintro ⟨⟨choice, hchoice⟩, hexcept⟩
      refine ⟨choice, hchoice, fun hall => ?_⟩
      by_contra hstart
      rw [hexcept hstart, hall] at hchoice
      cases hchoice

/-- A key is left out, or its fields are names of columns that can be told apart. -/
theorem exists_key_iff : (∃ key, keyPositions options schema.physicalNames (fieldPrefix options) =
      .ok key) ↔
    (options.get? "key.format" = none ∧ options.get? "key.fields" = none) ∨
    ∃ format raw, options.get? "key.format" = some format ∧
      options.get? "key.fields" = some raw ∧
      KeyFieldsFit schema (fieldPrefix options) (Text.listEntries raw) := by
  have hposition : ∀ field, (∃ p, schema.physicalNames.findIdx? (· = field) = some p ∧
      ∃ rest, field = fieldPrefix options ++ rest) ↔
      field ∈ schema.physicalNames ∧ ∃ rest, field = fieldPrefix options ++ rest := by
    intro field
    rw [exists_and_right, ← Option.isSome_iff_exists, List.findIdx?_isSome, List.any_eq_true]
    simp
  have hformat : Catalogue.keyFormat.key = "key.format" := rfl
  have hfields : Catalogue.keyFields.key = "key.fields" := rfl
  simp only [keyPositions_ok_iff, hformat, hfields, exists_or, exists_and_left, exists_eq,
    and_true, exists_partners, hposition, OrderedMap.contains_eq_isSome_get?, keyFieldNames]
  refine or_congr ?_ ?_
  · simp
  · constructor
    · rintro ⟨hset, hne, hdistinct, hfit⟩
      obtain ⟨format, hformat⟩ := Option.isSome_iff_exists.mp hset
      cases hraw : options.get? "key.fields" with
      | none => simp [hraw] at hne
      | some raw =>
        rw [hraw] at hne hdistinct hfit
        exact ⟨format, hformat, raw, rfl, hne, hdistinct, fun f hf => (hfit f hf).1,
          fun f hf => (hfit f hf).2⟩
    · rintro ⟨format, hformat, raw, hraw, hfit⟩
      rw [hformat, hraw]
      exact ⟨rfl, hfit.present, hfit.distinct, fun f hf => ⟨hfit.physical f hf, hfit.prefixed f hf⟩⟩

end Resolves

/-- The options of a layout resolve under these conditions and under no others. -/
theorem layout_resolves_iff (options : OptionMap) (schema : Schema) :
    (∃ layout, ofOptions options schema = .ok layout) ↔ OptionsFit options schema := by
  have hsplit : (∃ layout, ofOptions options schema = .ok layout) ↔
      (∃ choice, options.readOrDefault? Catalogue.valueFieldsInclude = .ok (some choice) ∧
        (choice = .all → fieldPrefix options = "")) ∧
      ∃ key, keyPositions options schema.physicalNames (fieldPrefix options) = .ok key := by
    simp only [ofOptions_ok_iff]
    constructor
    · rintro ⟨layout, choice, hchoice, hkey, -, hprefix⟩
      exact ⟨⟨choice, hchoice, hprefix⟩, layout.key, hkey⟩
    · rintro ⟨⟨choice, hchoice, hprefix⟩, key, hkey⟩
      exact ⟨⟨key, valuePositions choice _ key⟩, choice, hchoice, hkey, rfl, hprefix⟩
  rw [hsplit, exists_key_iff, exists_choice_iff]
  constructor
  · rintro ⟨⟨hchoice, hexcept⟩, hkey⟩
    exact ⟨hchoice, hkey, hexcept⟩
  · rintro ⟨hchoice, hkey, hexcept⟩
    exact ⟨⟨hchoice, hexcept⟩, hkey⟩

section Stripped

variable {options : OptionMap} {schema : Schema} {layout : RecordLayout} {start? : Option String}

/-- The key row of a layout has the declared fields, with nothing but their prefix taken off. -/
structure PrefixStripped (options : OptionMap) (schema : Schema) (layout : RecordLayout)
    (start? : Option String) : Prop where
  restored : List.Forall₂ (fun field name => start?.getD "" ++ field.name = name)
    (layout.keyRow schema.physicalRow start?) (keyFieldNames options)
  kept : List.Forall₂ (fun p field => ∃ column, schema.physicalColumns[p]? = some column ∧
    field.type = column.type ∧ field.nullable = column.field.nullable)
    layout.key (layout.keyRow schema.physicalRow start?)
  distinct : ((layout.keyRow schema.physicalRow start?).map (·.name)).Nodup
  strips : ∀ start, start? = some start → ∀ field ∈ schema.physicalRow.project layout.key,
    ∃ rest, Text.stripPrefix? start field.name = some rest

theorem prefixStripped_of_ok (h : ofOptions options schema = .ok layout)
    (hstart : keyPrefix? options = .ok start?) :
    PrefixStripped options schema layout start? := by
  have hrow := keyRow_of_ok h hstart
  have hrestored : List.Forall₂ (fun field name => start?.getD "" ++ field.name = name)
      (layout.keyRow schema.physicalRow start?) (keyFieldNames options) := by
    refine (compose_partners hrow.flip (key_names_of_ok h)).imp fun field name hp => ?_
    obtain ⟨p, ⟨whole, hwhole, hname, -, -⟩, hat, -⟩ := hp
    rw [Schema.physicalNames_at hwhole, Option.some.injEq] at hat
    rw [← hname, hat]
  refine ⟨hrestored, ?_, ?_, ?_⟩
  · refine hrow.imp fun p field hp => ?_
    obtain ⟨whole, hwhole, -, htype, hnullable⟩ := hp
    rw [Schema.physicalRow, List.getElem?_map, Option.map_eq_some_iff] at hwhole
    obtain ⟨column, hcolumn, rfl⟩ := hwhole
    exact ⟨column, hcolumn, htype.trans column.field_type, hnullable⟩
  · have hnames : ((layout.keyRow schema.physicalRow start?).map (·.name)).map
        (start?.getD "" ++ ·) = keyFieldNames options := by
      rw [List.map_map, ← List.forall₂_eq_eq_eq, List.forall₂_map_left_iff]
      exact hrestored
    have hdistinct := names_nodup_of_ok h
    rw [← hnames] at hdistinct
    exact List.Nodup.of_map _ hdistinct
  · rintro start rfl field hfield
    obtain ⟨p, hp, hwhole⟩ := List.mem_filterMap.mp hfield
    obtain ⟨rest, hrest⟩ := whole_prefixed_of_ok h hp hwhole
    rw [← keyPrefix_getD hstart] at hrest
    exact ⟨rest, Text.stripPrefix_iff.mpr hrest⟩

end Stripped

/-- What a layout has checked is what the removal of the prefix needs: no name loses more or less
than the prefix, and no two names become one. -/
theorem key_prefix_lossless (options : OptionMap) (schema : Schema) (layout : RecordLayout)
    (h : ofOptions options schema = .ok layout) :
    ∃ start?, keyPrefix? options = .ok start? ∧ PrefixStripped options schema layout start? := by
  have hstart : keyPrefix? options =
      .ok ((options.get? Catalogue.keyFieldsPrefix.key).filter (· ≠ "")) := keyPrefix_ok_iff.mpr rfl
  exact ⟨_, hstart, prefixStripped_of_ok h hstart⟩

theorem regional_key_stripped :
    ofOptions Sample.prefixedKeys.options Sample.prefixedKeys.schema = .ok ⟨[2, 0], [1, 3]⟩ ∧
    (keyRow ⟨[2, 0], [1, 3]⟩ Sample.prefixedKeys.schema.physicalRow (some "k_")).map (·.name) =
      ["region", "id"] ∧
    PrefixStripped Sample.prefixedKeys.options Sample.prefixedKeys.schema ⟨[2, 0], [1, 3]⟩
      (some "k_") := by
  have hlayout : ofOptions Sample.prefixedKeys.options Sample.prefixedKeys.schema =
      .ok ⟨[2, 0], [1, 3]⟩ := by
    decide +kernel
  have hprefix : keyPrefix? Sample.prefixedKeys.options = .ok (some "k_") := by decide +kernel
  obtain ⟨start?, hstart, hstripped⟩ := key_prefix_lossless _ _ _ hlayout
  cases hprefix.symm.trans hstart
  exact ⟨hlayout, by decide +kernel, hstripped⟩

end TopicTable.RecordLayout
