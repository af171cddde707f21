import TopicTable.Proofs.Blame
import TopicTable.Proofs.SinkSafety
import TopicTable.Sample

/-! Tables with a primary key. A key asks one thing of a resolution, that the format of the value is
not one of inserts alone, and has no other part in it. A mode without any kind passes that check,
although it carries no changes either. -/

namespace TopicTable

open Outcome

namespace ChangelogMode

/-- Rows of the mode can stand for more than inserts. -/
def CarriesChanges (mode : ChangelogMode) : Prop :=
  ∃ kind, kind ≠ ChangeKind.insert ∧ mode.contains kind = true

instance (mode : ChangelogMode) : Decidable mode.CarriesChanges :=
  decidable_of_iff (∃ kind ∈ ChangeKind.all, kind ≠ .insert ∧ mode.contains kind = true) <| by
    constructor
    · rintro ⟨kind, -, h⟩
      exact ⟨kind, h⟩
    · rintro ⟨kind, h⟩
      exact ⟨kind, by cases kind <;> decide, h⟩

/-- All modes carry changes but two: that of inserts alone, and that of no kind. -/
theorem carriesChanges_iff (mode : ChangelogMode) :
    mode.CarriesChanges ↔ mode ≠ .insertOnly ∧ mode.kinds ≠ [] := by
  obtain ⟨insert, before, after, delete⟩ := mode
  revert insert before after delete
  decide

/-- What is read from a text has a kind. -/
theorem kinds_of_parse {raw : String} {mode : ChangelogMode} (h : parse raw = .ok mode) :
    mode.kinds ≠ [] := by
  unfold parse at h
  obtain ⟨kinds, -, h⟩ := bind_ok_iff.mp h
  split at h
  · cases h
  next hkinds =>
    cases h
    obtain ⟨kind, rest, rfl⟩ := List.exists_cons_of_ne_nil hkinds
    apply List.ne_nil_of_mem (a := kind)
    cases kind <;> simp [ChangelogMode.kinds, ChangeKind.all, contains, ofKinds]

end ChangelogMode

/-- Delimited text has a kind of change under all its options. -/
theorem Delimited.kinds_of_readChangelogMode {own : FormatOptions} {mode : ChangelogMode}
    (h : readChangelogMode own = .ok mode) : mode.kinds ≠ [] := by
  unfold readChangelogMode at h
  split at h
  · cases h
    decide
  · exact ChangelogMode.kinds_of_parse (mapError_ok_iff.mp h)

/-- The table with another primary key, or with none. -/
def TableDefinition.rekeyed (table : TableDefinition) (key? : Option PrimaryKey) :
    TableDefinition :=
  { table with schema := { table.schema with primaryKey? := key? } }

namespace Resolver

section Rekeyed

variable {r : Resolver} {table : TableDefinition}

theorem RowsRun.resolved {options : OptionMap} {found : TableFormats} {access : MetadataAccess}
    {rows : ResolvedRows} (run : RowsRun table options found access rows) :
    resolveRows table options found access = .ok rows := by
  obtain ⟨layout, keyPrefix?, metadata, keyFormat?, valueFormat⟩ := rows
  obtain ⟨hlayout, hprefix, hmetadata, hkey, hvalue⟩ := run
  dsimp only at hlayout hprefix hmetadata hkey hvalue
  subst hkey
  subst hvalue
  unfold resolveRows
  refine bind_ok_iff.mpr ⟨_, hlayout, bind_ok_iff.mpr ⟨_, hprefix, ?_⟩⟩
  exact bind_ok_iff.mpr ⟨_, hmetadata, rfl⟩

/-- With another key the same source is resolved, or the key is refused. -/
theorem SourceRun.rekeyed {spec : SourceSpec} (run : SourceRun r table spec)
    (key? : Option PrimaryKey) : r.source (table.rekeyed key?) =
      (checkPrimaryKey (table.rekeyed key?) run.found.value).map fun _ => spec := by
  obtain ⟨topics, found, startup, rows, properties, hconnector, htopics, hformats, hstartup, -,
    hrows, hproperties, rfl⟩ := run
  have hlaid : resolveRows (table.rekeyed key?) table.options found .read = .ok rows :=
    hrows.resolved
  have hoptions : (table.rekeyed key?).options = table.options := rfl
  unfold source
  simp only [hoptions, hconnector, htopics, hformats, hstartup, hproperties, hlaid, bind,
    Except.bind]
  cases checkPrimaryKey (table.rekeyed key?) found.value <;> rfl

theorem SinkRun.rekeyed {spec : SinkSpec} (run : SinkRun r table spec)
    (key? : Option PrimaryKey) : r.sink (table.rekeyed key?) =
      (checkPrimaryKey (table.rekeyed key?) run.found.value).map fun _ => spec := by
  obtain ⟨topics, topic, options, found, guarantee, start?, partitioner, parallelism?, buffer, rows,
    hconnector, htopics, htopic, rfl, hformats, hguarantee, hstart, hpartitioner, hparallelism,
    hbuffer, -, hrows, rfl⟩ := run
  have hlaid : resolveRows (table.rekeyed key?) (table.options.withSubjects topic) found .write =
      .ok rows := hrows.resolved
  have hoptions : (table.rekeyed key?).options = table.options := rfl
  unfold sink
  simp only [hoptions, hconnector, htopics, htopic, hformats, hguarantee, hstart, hpartitioner,
    hparallelism, hbuffer, hlaid, bind, Except.bind]
  cases checkPrimaryKey (table.rekeyed key?) found.value <;> rfl

theorem SourceRun.format_eq {spec : SourceSpec} (run : SourceRun r table spec) :
    spec.valueFormat.toDiscoveredFormat = run.found.value := by
  rw [congrArg SourceSpec.valueFormat run.spec_eq, run.rows_run.value_eq]
  rfl

theorem SinkRun.format_eq {spec : SinkSpec} (run : SinkRun r table spec) :
    spec.valueFormat.toDiscoveredFormat = run.found.value := by
  rw [congrArg SinkSpec.valueFormat run.spec_eq, run.rows_run.value_eq]
  rfl

end Rekeyed

/-- The mode of a format is what its registered provider reports under the format's options. -/
structure ReportedBy (formats : FormatRegistry) (format : DiscoveredFormat) : Prop where
  registered : formats.get? format.identifier = some format.provider
  mode_ok : format.provider.changelogMode format.options = .ok format.changelogMode

theorem reportedBy_of_checked {r : Resolver} {options : OptionMap} {direction : Direction}
    {found : TableFormats} (h : r.checkedFormats options direction = .ok found) :
    ReportedBy r.formats found.value := by
  obtain ⟨_, ⟨run⟩, -⟩ := checkedFormats_run h
  have d := find_some run.value_found
  exact ⟨d.registered, d.changelog_ok⟩

/-- The key of a table is checked against the value format of what is resolved, and has no other
part in it. -/
structure ChecksKeyAlone {Spec : Type} (formats : FormatRegistry)
    (resolve : TableDefinition → Except TableError Spec) (format : Spec → FormatHandle) :
    Prop where
  reported : ∀ table spec, resolve table = .ok spec →
    ReportedBy formats (format spec).toDiscoveredFormat
  rekeyed : ∀ table spec, resolve table = .ok spec → ∀ key?, resolve (table.rekeyed key?) =
    (checkPrimaryKey (table.rekeyed key?) (format spec).toDiscoveredFormat).map fun _ => spec

theorem source_checksKeyAlone (r : Resolver) :
    ChecksKeyAlone r.formats r.source (·.valueFormat) := by
  constructor
  · intro table spec h
    obtain ⟨run⟩ := source_run h
    rw [run.format_eq]
    exact reportedBy_of_checked run.formats_ok
  · intro table spec h key?
    obtain ⟨run⟩ := source_run h
    rw [run.format_eq]
    exact run.rekeyed key?

theorem sink_checksKeyAlone (r : Resolver) :
    ChecksKeyAlone r.formats r.sink (·.valueFormat) := by
  constructor
  · intro table spec h
    obtain ⟨run⟩ := sink_run h
    rw [run.format_eq]
    exact reportedBy_of_checked run.formats_ok
  · intro table spec h key?
    obtain ⟨run⟩ := sink_run h
    rw [run.format_eq]
    exact run.rekeyed key?

/-- What the key of a table asks of a way of resolving it, by the value format of what is
resolved. -/
structure KeyAsksForChanges {Spec : Type} (formats : FormatRegistry)
    (resolve : TableDefinition → Except TableError Spec) (format : Spec → FormatHandle)
    (table : TableDefinition) : Prop where
  keyless : ∀ spec, resolve table = .ok spec → resolve (table.rekeyed none) = .ok spec
  kept : ∀ spec, resolve (table.rekeyed none) = .ok spec →
    (format spec).changelogMode ≠ .insertOnly → resolve table = .ok spec
  refused : ∀ spec, resolve (table.rekeyed none) = .ok spec →
    (format spec).changelogMode = .insertOnly →
    resolve table = .error (primaryKeyRefused table.name (format spec).identifier)
  reported : ∀ spec, resolve table = .ok spec →
    ReportedBy formats (format spec).toDiscoveredFormat
  carries_iff : ∀ spec, resolve table = .ok spec →
    ((format spec).changelogMode.CarriesChanges ↔ (format spec).changelogMode.kinds ≠ [])

section KeyAsks

variable {Spec : Type} {formats : FormatRegistry}
  {resolve : TableDefinition → Except TableError Spec} {format : Spec → FormatHandle}
  {table : TableDefinition}

theorem ChecksKeyAlone.asksForChanges (h : ChecksKeyAlone formats resolve format)
    (hkey : table.schema.primaryKey?.isSome = true) :
    KeyAsksForChanges formats resolve format table := by
  have hwith : ∀ spec, resolve (table.rekeyed none) = .ok spec → resolve table =
      (checkPrimaryKey table (format spec).toDiscoveredFormat).map fun _ => spec :=
    fun spec hspec => h.rekeyed (table.rekeyed none) spec hspec table.schema.primaryKey?
  constructor
  · intro spec hspec
    rw [h.rekeyed table spec hspec none]
    rfl
  · intro spec hspec hmode
    rw [hwith spec hspec, checkPrimaryKey_ok_iff.mpr fun _ => hmode]
    rfl
  · intro spec hspec hmode
    have honly := (ChangelogMode.containsOnlyInserts_iff _).mpr hmode
    rw [hwith spec hspec, checkPrimaryKey, if_pos ⟨hkey, honly⟩]
    rfl
  · exact h.reported table
  · intro spec hspec
    have hchecked := (h.rekeyed table spec hspec table.schema.primaryKey?).symm.trans hspec
    obtain ⟨⟨⟩, hpassed, -⟩ := map_ok_iff.mp hchecked
    rw [ChangelogMode.carriesChanges_iff]
    exact and_iff_right (checkPrimaryKey_ok_iff.mp hpassed hkey)

/-- Among formats of delimited text alone, a key is only accepted where changes are carried. -/
theorem KeyAsksForChanges.delimited (h : KeyAsksForChanges formats resolve format table)
    (hf : formats.OnlyDelimited) {spec : Spec} (hspec : resolve table = .ok spec) :
    (format spec).changelogMode.CarriesChanges := by
  obtain ⟨hregistered, hmode⟩ := h.reported spec hspec
  obtain ⟨name, required, hprovider⟩ := hf _ _ hregistered
  rw [hprovider] at hmode
  exact (h.carries_iff spec hspec).mpr (Delimited.kinds_of_readChangelogMode hmode)

end KeyAsks

/-- A key refuses the formats of inserts alone and lets all others pass. What passes carries changes
exactly where the registered provider reports any kind of change. -/
theorem primary_key_asks_for_changes (r : Resolver) (table : TableDefinition)
    (hkey : table.schema.primaryKey?.isSome = true) :
    KeyAsksForChanges r.formats r.source (·.valueFormat) table ∧
      KeyAsksForChanges r.formats r.sink (·.valueFormat) table :=
  ⟨(source_checksKeyAlone r).asksForChanges hkey, (sink_checksKeyAlone r).asksForChanges hkey⟩

/-- A format without any kind of change passes for one that carries changes, in both directions. -/
theorem unchanging_key_accepted :
    Sample.keyedSilent.schema.primaryKey?.isSome = true ∧
    (∃ spec, Sample.unchanging.source Sample.keyedSilent = .ok spec ∧
      ¬ spec.valueFormat.changelogMode.CarriesChanges) ∧
    ∃ spec, Sample.unchanging.sink Sample.keyedSilent = .ok spec ∧
      ¬ spec.valueFormat.changelogMode.CarriesChanges := by
  have hrun : (Sample.unchanging.source Sample.keyedSilent).map
        (·.valueFormat.changelogMode) = .ok (.ofKinds []) ∧
      (Sample.unchanging.sink Sample.keyedSilent).map
        (·.valueFormat.changelogMode) = .ok (.ofKinds []) := by decide +kernel
  obtain ⟨source, hsource, hread⟩ := map_ok_iff.mp hrun.1
  obtain ⟨sink, hsink, hwritten⟩ := map_ok_iff.mp hrun.2
  refine ⟨rfl, ⟨source, hsource, ?_⟩, sink, hsink, ?_⟩
  · rw [hread]
    decide
  · rw [hwritten]
    decide

theorem changelog_key_accepted : ∃ source sink,
    Sample.exactlyOnce.schema.primaryKey?.isSome = true ∧
    Sample.ringed.source Sample.exactlyOnce = .ok source ∧
    source.valueFormat.changelogMode.CarriesChanges ∧
    Sample.ringed.sink Sample.exactlyOnce = .ok sink ∧
    sink.valueFormat.changelogMode.CarriesChanges := by
  have hrun : (Sample.ringed.source Sample.exactlyOnce).map
        (·.valueFormat.changelogMode) = .ok .all ∧
      (Sample.ringed.sink Sample.exactlyOnce).map
        (·.valueFormat.changelogMode) = .ok .all := by decide +kernel
  obtain ⟨source, hsource, hread⟩ := map_ok_iff.mp hrun.1
  obtain ⟨sink, hsink, hwritten⟩ := map_ok_iff.mp hrun.2
  obtain ⟨hscan, hstore⟩ := primary_key_asks_for_changes Sample.ringed Sample.exactlyOnce rfl
  refine ⟨source, sink, rfl, hsource, (hscan.carries_iff source hsource).mpr ?_, hsink,
    (hstore.carries_iff sink hsink).mpr ?_⟩
  · rw [hread]
    decide
  · rw [hwritten]
    decide

end Resolver

end TopicTable
