import TopicTable.Proofs.Scopes
import TopicTable.Sample

/-! The options that the formats of a resolved table are given. A source hands on the options of
each scope as they are; a sink adds a subject where a format with a schema registry has none, and
adds it to the one format that it is for. -/

namespace TopicTable

/-- The format looks its schema up under a subject. -/
def NeedsSubject (identifier : String) : Prop :=
  identifier = "avro-confluent" ∨ identifier = "debezium-avro-confluent"

instance (identifier : String) : Decidable (NeedsSubject identifier) :=
  inferInstanceAs (Decidable (_ ∨ _))

theorem needsSubject_iff {identifier : String} : NeedsSubject identifier ↔
    ∃ format : SchemaRegistryFormat, identifier = format.identifier := by
  constructor
  · rintro (h | h)
    · exact ⟨.avroConfluent, h⟩
    · exact ⟨.debeziumAvroConfluent, h⟩
  · rintro ⟨format, rfl⟩
    cases format
    · exact Or.inl rfl
    · exact Or.inr rfl

namespace OptionMap

variable {options : OptionMap} {slot : FormatSlot} {identifier : String}

theorem subjectKey_scope_iff (hnamed : options.get? slot.key = some identifier) (k : String) :
    options.subjectKey? slot = some (slot.scope identifier ++ k) ↔
      k = "subject" ∧ NeedsSubject identifier := by
  rw [subjectKey_iff, needsSubject_iff, hnamed]
  constructor
  · rintro ⟨format, hformat, hkey⟩
    rw [Option.some.injEq] at hformat
    subst hformat
    exact ⟨FormatSlot.scope_append_inj.mp hkey, format, rfl⟩
  · rintro ⟨rfl, format, rfl⟩
    exact ⟨format, rfl, rfl⟩

/-- Completion gives the format of the value no more than its own subject. -/
theorem SharedFormatApart.get_value_scope (h : options.SharedFormatApart)
    (hslot : options.valueSlot? = some slot) (hnamed : options.get? slot.key = some identifier)
    (topic k : String) :
    (options.withSubjects topic).get? (slot.scope identifier ++ k) =
      (options.get? (slot.scope identifier ++ k)).or
        (if k = "subject" ∧ NeedsSubject identifier then some (topic ++ "-value") else none) := by
  have hkeySide : options.subjectKey? .ofKey ≠ some (slot.scope identifier ++ k) := by
    intro hsubject
    obtain ⟨format, -, heq⟩ := options.subjectKey_iff.mp hsubject
    exact h.scope_ne hslot hnamed _ _ _ heq
  rw [get_withSubjects, if_neg hkeySide, Option.or_none, hslot, Option.bind_some]
  simp only [subjectKey_scope_iff hnamed]

theorem SharedFormatApart.get_key_scope (h : options.SharedFormatApart)
    (hnamed : options.get? FormatSlot.ofKey.key = some identifier) (topic k : String) :
    (options.withSubjects topic).get? (FormatSlot.ofKey.scope identifier ++ k) =
      (options.get? (FormatSlot.ofKey.scope identifier ++ k)).or
        (if k = "subject" ∧ NeedsSubject identifier then some (topic ++ "-key") else none) := by
  have hvalueSide : options.valueSlot?.bind options.subjectKey? ≠
      some (FormatSlot.ofKey.scope identifier ++ k) := by
    intro hsubject
    obtain ⟨slot, hslot, hsubject⟩ := Option.bind_eq_some_iff.mp hsubject
    obtain ⟨format, hformat, heq⟩ := options.subjectKey_iff.mp hsubject
    exact h.scope_ne hslot hformat _ _ _ heq.symm
  rw [get_withSubjects, if_neg hvalueSide, Option.or_none]
  simp only [subjectKey_scope_iff hnamed]

end OptionMap

/-- The format that a slot names has the options under its scope, and `subject?` where it needs
a subject and the scope has none. -/
structure Receives (options : OptionMap) (slot : FormatSlot) (subject? : Option String)
    (format : DiscoveredFormat) : Prop where
  named : options.get? slot.key = some format.identifier
  placed : format.optionPrefix = slot.optionPrefix
  own : ∀ k, format.options.get? k =
    (options.get? (format.optionPrefix ++ format.identifier ++ "." ++ k)).or
      (if k = "subject" ∧ NeedsSubject format.identifier then subject? else none)

/-- A discovery over completed options, seen from the table's own. -/
theorem Discovered.receives {formats : FormatRegistry} {options completed : OptionMap}
    {slot : FormatSlot} {consumed rest : List String} {format : DiscoveredFormat}
    {subject? : Option String} (d : Discovered formats completed slot consumed format rest)
    (hnamed : options.get? slot.key = some format.identifier)
    (hget : ∀ k, completed.get? (slot.scope format.identifier ++ k) =
      (options.get? (slot.scope format.identifier ++ k)).or
        (if k = "subject" ∧ NeedsSubject format.identifier then subject? else none)) :
    Receives options slot subject? format := by
  refine ⟨hnamed, d.prefix_eq, fun k => ?_⟩
  rw [d.options_eq, OptionMap.get_withPrefix, hget, d.prefix_eq]
  rfl

/-- The formats of both sides receive their options, each with its own default subject. -/
structure FormatsReceive (options : OptionMap) (value? key? : Option String)
    (keyFormat? : Option FormatHandle) (valueFormat : FormatHandle) : Prop where
  value : ∃ slot, options.valueSlot? = some slot ∧
    Receives options slot value? valueFormat.toDiscoveredFormat
  key : ∀ handle, keyFormat? = some handle →
    Receives options .ofKey key? handle.toDiscoveredFormat

namespace Resolver

theorem RowsRun.formats_receive {table : TableDefinition} {options : OptionMap}
    {found : TableFormats} {access : MetadataAccess} {rows : ResolvedRows}
    {value? key? : Option String} (run : RowsRun table options found access rows)
    (hvalue : ∃ slot, table.options.valueSlot? = some slot ∧
      Receives table.options slot value? found.value)
    (hkey : ∀ format, found.key? = some format → Receives table.options .ofKey key? format) :
    FormatsReceive table.options value? key? rows.keyFormat? rows.valueFormat := by
  constructor
  · rw [run.value_eq]
    exact hvalue
  · intro handle hhandle
    rw [run.key_eq] at hhandle
    obtain ⟨format, hformat, rfl⟩ := Option.map_eq_some_iff.mp hhandle
    exact hkey format hformat

theorem source_formats_receive {r : Resolver} {table : TableDefinition} {spec : SourceSpec}
    (h : r.source table = .ok spec) :
    FormatsReceive table.options none none spec.keyFormat? spec.valueFormat := by
  obtain ⟨run⟩ := source_run h
  obtain ⟨_, ⟨formats⟩, -⟩ := checkedFormats_run run.formats_ok
  rw [run.spec_eq]
  refine run.rows_run.formats_receive ⟨formats.slot, formats.slot_set, ?_⟩ fun format hformat => ?_
  · have d := find_some formats.value_found
    exact d.receives d.named fun k => by simp
  · have hfound := formats.key_found
    rw [hformat] at hfound
    have d := find_some hfound
    exact d.receives d.named fun k => by simp

theorem sink_formats_receive {r : Resolver} {table : TableDefinition} {spec : SinkSpec}
    (hapart : table.options.SharedFormatApart) (h : r.sink table = .ok spec) :
    FormatsReceive table.options (some (spec.topic ++ "-value")) (some (spec.topic ++ "-key"))
      spec.keyFormat? spec.valueFormat := by
  obtain ⟨run⟩ := sink_run h
  obtain ⟨_, ⟨formats⟩, -⟩ := checkedFormats_run run.formats_ok
  have hcompleted : ∀ key, run.options.get? key =
      (table.options.withSubjects run.topic).get? key := fun key => by rw [run.options_eq]
  have hagree : run.options.AgreesOnCatalogue table.options := fun key hkey =>
    (hcompleted key).trans (table.options.withSubjects_agrees run.topic key hkey)
  have hslot : table.options.valueSlot? = some formats.slot := by
    rw [← hagree.valueSlot_eq]
    exact formats.slot_set
  rw [run.spec_eq]
  refine run.rows_run.formats_receive ⟨formats.slot, hslot, ?_⟩ fun format hformat => ?_
  · have d := find_some formats.value_found
    have hnamed : table.options.get? formats.slot.key = some run.found.value.identifier := by
      rw [← hagree _ (OptionMap.valueSlot_mem_catalogue _ formats.slot_set)]
      exact d.named
    exact d.receives hnamed fun k =>
      (hcompleted _).trans (hapart.get_value_scope hslot hnamed run.topic k)
  · have hfound := formats.key_found
    rw [hformat] at hfound
    have d := find_some hfound
    have hnamed : table.options.get? FormatSlot.ofKey.key = some format.identifier := by
      rw [← hagree _ (by decide)]
      exact d.named
    exact d.receives hnamed fun k =>
      (hcompleted _).trans (hapart.get_key_scope hnamed run.topic k)

/-- The formats of a resolved table have the options of their own scopes and no others. Only a
sink adds to them, and only the subject of a side that needs one and has none. -/
theorem formats_receive_own_options (r : Resolver) (table : TableDefinition)
    (hapart : table.options.SharedFormatApart) :
    (∀ spec, r.source table = .ok spec →
      FormatsReceive table.options none none spec.keyFormat? spec.valueFormat) ∧
    (∀ spec, r.sink table = .ok spec →
      FormatsReceive table.options (some (spec.topic ++ "-value")) (some (spec.topic ++ "-key"))
        spec.keyFormat? spec.valueFormat) :=
  ⟨fun _ h => source_formats_receive h, fun _ h => sink_formats_receive hapart h⟩

theorem value_subject_added : ∃ source sink,
    Sample.ringed.source Sample.keySubject = .ok source ∧
    Sample.ringed.sink Sample.keySubject = .ok sink ∧
    FormatsReceive Sample.keySubject.options none none source.keyFormat? source.valueFormat ∧
    FormatsReceive Sample.keySubject.options (some "orders-value") (some "orders-key")
      sink.keyFormat? sink.valueFormat ∧
    source.valueFormat.options.get? "subject" = none ∧
    sink.valueFormat.options.get? "subject" = some "orders-value" ∧
    sink.keyFormat?.map (·.options.get? "subject") = some (some "people") := by
  have hrun : (Sample.ringed.source Sample.keySubject).map
        (·.valueFormat.options.get? "subject") = .ok none ∧
      (Sample.ringed.sink Sample.keySubject).map (fun spec => (spec.topic,
        spec.valueFormat.options.get? "subject",
        spec.keyFormat?.map (·.options.get? "subject"))) =
          .ok ("orders", some "orders-value", some (some "people")) ∧
      Sample.keySubject.options.SharedFormatApart := by decide +kernel
  obtain ⟨hscan, hwrite, hapart⟩ := hrun
  obtain ⟨source, hsource, hread⟩ := Outcome.map_ok_iff.mp hscan
  obtain ⟨sink, hsink, hwritten⟩ := Outcome.map_ok_iff.mp hwrite
  simp only [Prod.mk.injEq] at hwritten
  obtain ⟨htopic, hvalue, hkey⟩ := hwritten
  obtain ⟨hscanned, hstored⟩ := formats_receive_own_options Sample.ringed Sample.keySubject hapart
  have hreceived := hstored sink hsink
  rw [htopic] at hreceived
  exact ⟨source, sink, hsource, hsink, hscanned source hsource, hreceived, hread, hvalue, hkey⟩

end Resolver

end TopicTable
