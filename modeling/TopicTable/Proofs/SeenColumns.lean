import TopicTable.Proofs.Layout

/-! Which columns a resolution sees. Physical columns and metadata columns are looked at apart,
each in their own order: how the two are interleaved changes nothing, computed columns are never
looked at, and a sink does not look at virtual metadata either. -/

namespace TopicTable

/-- Every metadata column is read; those that are not virtual are written. -/
def MetadataAccess.sees : MetadataAccess → Column → Bool
  | _, .physical .. => false
  | _, .computed .. => false
  | read, .metadata .. => true
  | write, .metadata _ _ _ isVirtual => !isVirtual

/-- The schemas differ only in what is not looked at: they have the same physical columns in one
order, and the same metadata columns to read or to write in one order. -/
structure SeenAlike (access : MetadataAccess) (a b : Schema) : Prop where
  physical : a.columns.filter (·.isPhysical) = b.columns.filter (·.isPhysical)
  metadata : a.columns.filter access.sees = b.columns.filter access.sees
  primaryKey : a.primaryKey? = b.primaryKey?
  watermark : a.watermark? = b.watermark?

instance (access : MetadataAccess) (a b : Schema) : Decidable (SeenAlike access a b) :=
  decidable_of_iff
    (a.columns.filter (·.isPhysical) = b.columns.filter (·.isPhysical) ∧
      a.columns.filter access.sees = b.columns.filter access.sees ∧
      a.primaryKey? = b.primaryKey? ∧ a.watermark? = b.watermark?)
    ⟨fun h => ⟨h.1, h.2.1, h.2.2.1, h.2.2.2⟩,
      fun h => ⟨h.physical, h.metadata, h.primaryKey, h.watermark⟩⟩

theorem MetadataAccess.columns_eq (access : MetadataAccess) (schema : Schema) :
    access.columns schema = schema.columns.filter access.sees := by
  cases access with
  | read =>
    apply List.filter_congr
    intro column _
    cases column <;> rfl
  | write =>
    change (schema.columns.filter _).filter _ = _
    rw [List.filter_filter]
    apply List.filter_congr
    intro column _
    cases column <;> simp [Column.isPersisted, Column.isMetadata, sees]

namespace SeenAlike

variable {access : MetadataAccess} {a b : Schema}

theorem physicalColumns_eq (h : SeenAlike access a b) :
    a.physicalColumns = b.physicalColumns := h.physical

theorem physicalRow_eq (h : SeenAlike access a b) : a.physicalRow = b.physicalRow := by
  simp [Schema.physicalRow, h.physicalColumns_eq]

theorem rowWith_eq (h : SeenAlike access a b) (metadata : List Column) :
    a.rowWith metadata = b.rowWith metadata := by
  simp [Schema.rowWith, h.physicalColumns_eq]

/-- Key fields are placed, or refused, by the physical columns alone. -/
theorem layout_eq (h : SeenAlike access a b) (options : OptionMap) :
    RecordLayout.ofOptions options a = RecordLayout.ofOptions options b := by
  simp [RecordLayout.ofOptions, Schema.physicalNames, h.physicalColumns_eq]

theorem metadata_eq (h : SeenAlike access a b) (name : TableName) (declared : MetadataTypes) :
    MetadataKeys.ofSchema access name a declared =
      MetadataKeys.ofSchema access name b declared := by
  simp [MetadataKeys.ofSchema, MetadataAccess.columns_eq, h.metadata]

end SeenAlike

namespace Resolver

variable {access : MetadataAccess} {table : TableDefinition} {other : Schema}

theorem checkPrimaryKey_seen (h : SeenAlike access table.schema other)
    (value : DiscoveredFormat) :
    checkPrimaryKey { table with schema := other } value = checkPrimaryKey table value := by
  simp [checkPrimaryKey, h.primaryKey]

theorem resolveRows_seen (h : SeenAlike access table.schema other) (options : OptionMap)
    (found : TableFormats) :
    resolveRows { table with schema := other } options found access =
      resolveRows table options found access := by
  simp [resolveRows, h.layout_eq, h.metadata_eq, h.physicalRow_eq]

theorem source_seen (r : Resolver) (h : SeenAlike .read table.schema other) :
    r.source { table with schema := other } = r.source table := by
  simp [source, checkPrimaryKey_seen h, resolveRows_seen h, h.physicalRow_eq, h.rowWith_eq, h.watermark]

theorem sink_seen (r : Resolver) (h : SeenAlike .write table.schema other) :
    r.sink { table with schema := other } = r.sink table := by
  simp [sink, checkPrimaryKey_seen h, resolveRows_seen h, h.physicalRow_eq, h.rowWith_eq]

/-- A resolution comes to the same result, a resolved table or an error, for all schemas that its
direction cannot tell apart. -/
theorem unseen_columns_ignored (r : Resolver) (table : TableDefinition) (other : Schema) :
    (SeenAlike .read table.schema other →
      r.source { table with schema := other } = r.source table) ∧
    (SeenAlike .write table.schema other →
      r.sink { table with schema := other } = r.sink table) :=
  ⟨r.source_seen, r.sink_seen⟩

theorem unread_columns_unseen : ∃ source sink,
    Sample.ringed.source Sample.exactlyOnce = .ok source ∧
    Sample.ringed.source { Sample.exactlyOnce with schema := Sample.metadataFirst } =
      .ok source ∧
    Sample.ringed.sink Sample.exactlyOnce = .ok sink ∧
    Sample.ringed.sink { Sample.exactlyOnce with schema := Sample.unreadableVirtual } =
      .ok sink ∧
    (Sample.ringed.source
      { Sample.exactlyOnce with schema := Sample.unreadableVirtual }).toOption = none := by
  have hread : SeenAlike .read Sample.exactlyOnce.schema Sample.metadataFirst := by decide
  have hwritten : SeenAlike .write Sample.exactlyOnce.schema Sample.unreadableVirtual := by decide
  have hrun : (Sample.ringed.source Sample.exactlyOnce).toOption.isSome = true ∧
      (Sample.ringed.sink Sample.exactlyOnce).toOption.isSome = true ∧
      (Sample.ringed.source
        { Sample.exactlyOnce with schema := Sample.unreadableVirtual }).toOption = none := by
    decide +kernel
  obtain ⟨hscanned, hstored, hrefused⟩ := hrun
  obtain ⟨source, hsource⟩ := Outcome.exists_ok hscanned
  obtain ⟨sink, hsink⟩ := Outcome.exists_ok hstored
  have hscan := (unseen_columns_ignored Sample.ringed Sample.exactlyOnce
    Sample.metadataFirst).1 hread
  have hwrite := (unseen_columns_ignored Sample.ringed Sample.exactlyOnce
    Sample.unreadableVirtual).2 hwritten
  exact ⟨source, sink, hsource, hscan.trans hsource, hsink, hwrite.trans hsink, hrefused⟩

end Resolver

end TopicTable
