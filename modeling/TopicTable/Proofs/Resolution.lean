import TopicTable.Proofs.Discovery
import TopicTable.Proofs.Subjects

/-! What a successful resolution went through. Each run records the intermediate results in the
order of the rules, so a statement about a resolved table starts from named facts and never
from the resolver's text. -/

namespace TopicTable.Resolver

open Outcome

/-- Tables that agree on the connector's options name the format of the value in one slot. -/
theorem FormatsRun.slot_eq {formats : FormatRegistry} {a b : OptionMap} {f g : TableFormats}
    {consumed consumed' : List String} (hf : FormatsRun formats a f consumed)
    (hg : FormatsRun formats b g consumed') (h : a.AgreesOnCatalogue b) : hf.slot = hg.slot := by
  have hset := hf.slot_set
  rw [h.valueSlot_eq, hg.slot_set] at hset
  exact (Option.some.inj hset).symm

/-- The metadata that the value format declares for an access. -/
def declaredFor (access : MetadataAccess) (format : DiscoveredFormat) : MetadataTypes :=
  match access with
  | .read => format.readableMetadata
  | .write => format.writableMetadata

/-- The steps between the formats of a table and its codec rows. -/
structure RowsRun (table : TableDefinition) (options : OptionMap) (found : TableFormats)
    (access : MetadataAccess) (rows : ResolvedRows) : Prop where
  layout_ok : RecordLayout.ofOptions options table.schema = .ok rows.layout
  prefix_ok : RecordLayout.keyPrefix? options = .ok rows.keyPrefix?
  metadata_ok : MetadataKeys.ofSchema access table.name table.schema
    (declaredFor access found.value) = .ok rows.metadata
  key_eq : rows.keyFormat? = found.key?.map fun format =>
    .ofFormat format ∅ [] (rows.layout.keyRow table.schema.physicalRow rows.keyPrefix?)
  value_eq : rows.valueFormat = .ofFormat found.value (declaredFor access found.value)
    rows.metadata.format (rows.layout.valueRow table.schema.physicalRow)

theorem resolveRows_run {table : TableDefinition} {options : OptionMap} {found : TableFormats}
    {access : MetadataAccess} {rows : ResolvedRows}
    (h : resolveRows table options found access = .ok rows) :
    RowsRun table options found access rows := by
  unfold resolveRows at h
  obtain ⟨layout, hl, h⟩ := bind_ok_iff.mp h
  obtain ⟨keyPrefix?, hp, h⟩ := bind_ok_iff.mp h
  obtain ⟨metadata, hm, h⟩ := bind_ok_iff.mp h
  cases h
  exact ⟨hl, hp, hm, rfl, rfl⟩

/-- A source tells its client the user's properties and, where the table sets it, its own interval
of partition discovery in place of the user's. -/
theorem get_sourceProperties {options properties : OptionMap}
    (h : sourceProperties options = .ok properties) : ∃ interval?,
    options.read? Catalogue.partitionDiscovery = .ok interval? ∧ ∀ k, properties.get? k =
      (if k = partitionDiscoveryProperty then interval?.map (toString ·.millis) else none).or
        (options.get? (propertiesPrefix ++ k)) := by
  unfold sourceProperties at h
  obtain ⟨interval?, hread, h⟩ := bind_ok_iff.mp h
  refine ⟨interval?, hread, fun k => ?_⟩
  cases interval? with
  | none =>
    cases h
    rw [OptionMap.get_withPrefix]
    simp
  | some interval =>
    cases h
    rw [OrderedMap.get?_insert, OptionMap.get_withPrefix]
    by_cases hk : k = partitionDiscoveryProperty
    · simp [hk]
    · simp [hk, Ne.symm hk]

/-- The steps of a table that is resolved for reading. -/
structure SourceRun (r : Resolver) (table : TableDefinition) (spec : SourceSpec) where
  topics : TopicSelection
  found : TableFormats
  startup : StartupPosition
  rows : ResolvedRows
  properties : OptionMap
  connector_ok : checkConnector table.options = .ok ()
  topics_ok : TopicSelection.ofOptions r.compile table.options = .ok topics
  formats_ok : r.checkedFormats table.options .scan = .ok found
  startup_ok : StartupPosition.ofOptions table.options topics = .ok startup
  primary_ok : checkPrimaryKey table found.value = .ok ()
  rows_run : RowsRun table table.options found .read rows
  properties_ok : sourceProperties table.options = .ok properties
  spec_eq : spec = {
    physical := table.schema.physicalRow
    produced := table.schema.rowWith rows.metadata.columns
    keyFormat? := rows.keyFormat?
    valueFormat := rows.valueFormat
    layout := rows.layout
    keyPrefix? := rows.keyPrefix?
    topics := topics
    properties := properties
    startup := startup
    metadataKeys := rows.metadata.connector
    watermark? := table.schema.watermark? }

theorem source_run {r : Resolver} {table : TableDefinition} {spec : SourceSpec}
    (h : r.source table = .ok spec) : Nonempty (SourceRun r table spec) := by
  unfold source at h
  obtain ⟨⟨⟩, hc, h⟩ := bind_ok_iff.mp h
  obtain ⟨topics, ht, h⟩ := bind_ok_iff.mp h
  obtain ⟨found, hf, h⟩ := bind_ok_iff.mp h
  obtain ⟨startup, hs, h⟩ := bind_ok_iff.mp h
  obtain ⟨⟨⟩, hp, h⟩ := bind_ok_iff.mp h
  obtain ⟨rows, hr, h⟩ := bind_ok_iff.mp h
  obtain ⟨properties, ho, h⟩ := bind_ok_iff.mp h
  cases h
  exact ⟨⟨topics, found, startup, rows, properties, hc, ht, hf, hs, hp, resolveRows_run hr, ho,
    rfl⟩⟩

/-- The steps of a table that is resolved for writing. -/
structure SinkRun (r : Resolver) (table : TableDefinition) (spec : SinkSpec) where
  topics : TopicSelection
  topic : String
  options : OptionMap
  found : TableFormats
  guarantee : DeliveryGuarantee
  transactionalIdPrefix? : Option String
  partitioner : SinkPartitioner
  parallelism? : Option UInt32
  buffer : SinkBuffer
  rows : ResolvedRows
  connector_ok : checkConnector table.options = .ok ()
  topics_ok : TopicSelection.ofOptions r.compile table.options = .ok topics
  topic_ok : topics.sinkTopic = .ok topic
  options_eq : options = table.options.withSubjects topic
  formats_ok : r.checkedFormats options .sink = .ok found
  guarantee_ok : DeliveryGuarantee.ofOptions options = .ok guarantee
  transactional_ok : transactionalIdPrefix options guarantee = .ok transactionalIdPrefix?
  partitioner_ok : SinkPartitioner.ofOptions options r.partitioners = .ok partitioner
  parallelism_ok : options.read? Catalogue.parallelism = .ok parallelism?
  buffer_ok : SinkBuffer.ofOptions options = .ok buffer
  primary_ok : checkPrimaryKey table found.value = .ok ()
  rows_run : RowsRun table options found .write rows
  spec_eq : spec = {
    physical := table.schema.physicalRow
    consumed := table.schema.rowWith rows.metadata.columns
    keyFormat? := rows.keyFormat?
    valueFormat := rows.valueFormat
    layout := rows.layout
    keyPrefix? := rows.keyPrefix?
    topic := topic
    properties := options.withPrefix propertiesPrefix
    partitioner := partitioner
    guarantee := guarantee
    transactionalIdPrefix? := transactionalIdPrefix?
    parallelism? := parallelism?
    buffer := buffer
    metadataKeys := rows.metadata.connector }

theorem sink_run {r : Resolver} {table : TableDefinition} {spec : SinkSpec}
    (h : r.sink table = .ok spec) : Nonempty (SinkRun r table spec) := by
  unfold sink at h
  obtain ⟨⟨⟩, hc, h⟩ := bind_ok_iff.mp h
  obtain ⟨topics, ht, h⟩ := bind_ok_iff.mp h
  obtain ⟨topic, hs, h⟩ := bind_ok_iff.mp h
  obtain ⟨found, hf, h⟩ := bind_ok_iff.mp h
  obtain ⟨guarantee, hg, h⟩ := bind_ok_iff.mp h
  obtain ⟨start?, hi, h⟩ := bind_ok_iff.mp h
  obtain ⟨partitioner, hp, h⟩ := bind_ok_iff.mp h
  obtain ⟨parallelism?, hn, h⟩ := bind_ok_iff.mp h
  obtain ⟨buffer, hb, h⟩ := bind_ok_iff.mp h
  obtain ⟨⟨⟩, hk, h⟩ := bind_ok_iff.mp h
  obtain ⟨rows, hr, h⟩ := bind_ok_iff.mp h
  cases h
  exact ⟨⟨topics, topic, _, found, guarantee, start?, partitioner, parallelism?, buffer, rows,
    hc, ht, hs, rfl, hf, hg, hi, hp, hn, hb, hk, resolveRows_run hr, rfl⟩⟩

end TopicTable.Resolver
