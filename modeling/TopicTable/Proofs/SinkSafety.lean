import TopicTable.Proofs.Layout
import TopicTable.Proofs.Settings

/-! What a writer may rely on. Every sink that was resolved has one clean topic, settings that can
be carried out together, and rows that its partitioner and its format can take. -/

namespace TopicTable

open Outcome

theorem ChangelogMode.containsOnlyInserts_iff (mode : ChangelogMode) :
    mode.containsOnlyInserts = true ↔ mode = .insertOnly := by
  obtain ⟨insert, before, after, delete⟩ := mode
  revert insert before after delete
  decide

namespace RecordLayout

variable {options : OptionMap} {schema : Schema} {layout : RecordLayout}

/-- A key has its fields declared, so a layout without declared fields has no key. -/
theorem key_of_keyless (h : ofOptions options schema = .ok layout)
    (hkeyless : options.contains Catalogue.keyFields.key = false) : layout.key = [] := by
  have hunset : options.get? Catalogue.keyFields.key = none := by
    rw [OrderedMap.contains_eq_isSome_get?] at hkeyless
    exact Option.isNone_iff_eq_none.mp (by simpa using hkeyless)
  obtain ⟨_, _, hkey, _, _⟩ := ofOptions_ok_iff.mp h
  rcases keyPositions_ok_iff.mp hkey with ⟨_, _, hnone⟩ | ⟨_, hdeclared, _, _⟩
  · exact hnone
  · exfalso
    apply hdeclared
    rw [keyFieldNames, hunset]
    rfl

/-- Names lose a prefix only where key columns are left out of the value. -/
theorem value_of_prefix {start : String} (h : ofOptions options schema = .ok layout)
    (hstart : keyPrefix? options = .ok (some start)) : start ≠ "" ∧
      ∀ p, p ∈ layout.value ↔ p < schema.physicalNames.length ∧ p ∉ layout.key := by
  have hset := keyPrefix_ok_iff.mp hstart
  have hne : start ≠ "" := by
    have hkept := (Option.filter_eq_some_iff.mp hset.symm).2
    simpa using hkept
  obtain ⟨choice, _, _, hvalue, hall⟩ := ofOptions_ok_iff.mp h
  have hchoice : choice = .exceptKey := by
    cases choice with
    | exceptKey => rfl
    | all =>
      exfalso
      apply hne
      have hfield := keyPrefix_getD hstart
      rw [hall rfl] at hfield
      exact hfield
  refine ⟨hne, fun p => ?_⟩
  rw [hvalue, mem_valuePositions, hchoice]
  simp

end RecordLayout

namespace Resolver

theorem checkPrimaryKey_ok_iff {table : TableDefinition} {value : DiscoveredFormat} :
    checkPrimaryKey table value = .ok () ↔
      (table.schema.primaryKey?.isSome = true → value.changelogMode ≠ .insertOnly) := by
  rw [ne_eq, ← ChangelogMode.containsOnlyInserts_iff]
  unfold checkPrimaryKey
  split
  next hrefused => simp [hrefused]
  next hallowed =>
    simp only [true_iff]
    exact fun hkey hmode => hallowed ⟨hkey, hmode⟩

/-- The promises of a resolved sink to the writer that runs it. -/
structure SafeToRun (r : Resolver) (table : TableDefinition) (spec : SinkSpec) : Prop where
  topic_named : spec.topic ≠ ""
  topic_trimmed : Text.Trimmed spec.topic
  topic_whole : ∀ c ∈ spec.topic.toList, c ≠ ';' ∧ c ≠ ','
  topic_only : ∃ raw, table.options.get? Catalogue.topic.key = some raw ∧
    Text.listEntries raw = [spec.topic]
  no_pattern : table.options.get? Catalogue.topicPattern.key = none
  exactly_once : spec.guarantee = .exactlyOnce →
    ∃ start, spec.transactionalIdPrefix? = some start ∧ Text.isBlank start = false
  parallelism : ∀ n, spec.parallelism? = some n → 1 ≤ n.toNat
  buffer : (spec.buffer.rows = 0 ∧ spec.buffer.interval.millis = 0) ∨
    (0 < spec.buffer.rows ∧ 0 < spec.buffer.interval.millis)
  round_robin : spec.partitioner.choice = .roundRobin →
    spec.keyFormat? = none ∧ spec.layout.key = []
  custom : ∀ name, spec.partitioner.choice = .custom name → Text.Trimmed name ∧ name ≠ "" ∧
    name ∉ PartitionerChoice.builtIn ∧ r.partitioners.get? name = some spec.partitioner.fresh
  key_prefix : ∀ start, spec.keyPrefix? = some start → start ≠ "" ∧
    ∀ p, p ∈ spec.layout.value ↔
      p < table.schema.physicalColumns.length ∧ p ∉ spec.layout.key
  primary_key : table.schema.primaryKey?.isSome = true →
    spec.valueFormat.changelogMode ≠ .insertOnly

/-- Resolution checks its settings one by one, yet they fit together: what one setting needs of
another is part of the check that comes later. -/
theorem sink_safe_to_run (r : Resolver) (table : TableDefinition) (spec : SinkSpec)
    (h : r.sink table = .ok spec) : SafeToRun r table spec := by
  obtain ⟨run⟩ := sink_run h
  obtain ⟨⟨raw, hraw, hentries⟩, hpattern⟩ :=
    TopicSelection.ofOptions_sinkTopic run.topics_ok run.topic_ok
  have hentry : run.topic ∈ Text.listEntries raw := by
    rw [hentries]
    exact List.mem_singleton_self _
  obtain ⟨hnamed, htrimmed, hwhole⟩ := Text.mem_listEntries hentry
  have hchosen := SinkPartitioner.chosen_of_ok run.partitioner_ok
  have hlayout := run.rows_run.layout_ok
  have hempty : run.rows.layout.key = [] ↔ run.rows.keyFormat? = none := by
    have hplaced := run.columns_placed.key_empty
    rwa [congrArg SinkSpec.layout run.spec_eq, congrArg SinkSpec.keyFormat? run.spec_eq]
      at hplaced
  have hmode : run.rows.valueFormat.changelogMode = run.found.value.changelogMode := by
    rw [run.rows_run.value_eq]
    rfl
  rw [run.spec_eq]
  refine {
    topic_named := hnamed
    topic_trimmed := htrimmed
    topic_whole := hwhole
    topic_only := ⟨raw, hraw, hentries⟩
    no_pattern := hpattern
    exactly_once := fun hguarantee => ?_
    parallelism := fun n hn => parallelism_pos (run.parallelism_ok.trans (congrArg _ hn))
    buffer := SinkBuffer.ofOptions_ok run.buffer_ok
    round_robin := fun hround => ?_
    custom := fun _ hname => hchosen.registered_of_custom hname
    key_prefix := fun start hstart => ?_
    primary_key := ?_ }
  · have htransactional := run.transactional_ok
    rw [show run.guarantee = .exactlyOnce from hguarantee] at htransactional
    exact transactionalIdPrefix_present htransactional
  · have hkeyless := hchosen.keyless_of_roundRobin hround
    have hnone := RecordLayout.key_of_keyless hlayout hkeyless
    exact ⟨hempty.mp hnone, hnone⟩
  · have hcount : table.schema.physicalNames.length = table.schema.physicalColumns.length :=
      List.length_map ..
    have hprefix := run.rows_run.prefix_ok.trans (congrArg Except.ok hstart)
    rw [← hcount]
    exact RecordLayout.value_of_prefix hlayout hprefix
  · dsimp only
    rw [hmode]
    exact checkPrimaryKey_ok_iff.mp run.primary_ok

theorem exactly_once_sink_safe : ∃ spec,
    Sample.ringed.sink Sample.exactlyOnce = .ok spec ∧
    SafeToRun Sample.ringed Sample.exactlyOnce spec ∧
    spec.topic = "orders" ∧ spec.guarantee = .exactlyOnce ∧
    spec.partitioner.choice = .custom "hash-ring" ∧ spec.keyPrefix? = some "k_" ∧
    spec.layout = ⟨[0], [1]⟩ := by
  have hshape : (Sample.ringed.sink Sample.exactlyOnce).map (fun s =>
      (s.topic, s.guarantee, s.partitioner.choice, s.keyPrefix?, s.layout)) =
      .ok ("orders", .exactlyOnce, .custom "hash-ring", some "k_", ⟨[0], [1]⟩) := by
    decide +kernel
  obtain ⟨spec, hspec, hfields⟩ := map_ok_iff.mp hshape
  refine ⟨spec, hspec, sink_safe_to_run Sample.ringed Sample.exactlyOnce spec hspec, ?_⟩
  simpa using hfields

end Resolver

end TopicTable
