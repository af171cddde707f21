import TopicTable.Proofs.Layout
import TopicTable.Proofs.Scopes
import TopicTable.Proofs.Settings
import TopicTable.Sample

/-! Two tables of one name and schema, resolved side by side. What a direction does not look at
may change without a trace, in the result and in the error, and the options of a key format stay
in the format of the key. -/

namespace TopicTable

/-- The two maps tell different things about the key. -/
def OptionMap.Changed (a b : OptionMap) (key : String) : Prop := a.get? key ≠ b.get? key

theorem OptionMap.Changed.of_insert {a b : OptionMap} {key k value : String}
    (h : a.Changed (b.insert key value) k) : k = key ∨ a.Changed b k := by
  unfold OptionMap.Changed at h
  rw [OrderedMap.get?_insert] at h
  by_cases hk : key = k
  · exact Or.inl hk.symm
  · rw [if_neg hk] at h
    exact Or.inr h

namespace Resolver

/-- The options of the connector that a direction does not look at, given the others. -/
inductive Unread (options : OptionMap) : Direction → String → Prop where
  | sinkSetting {key : String} (h : key ∈ Catalogue.keys) (side : ∃ rest, key = "sink." ++ rest) :
      Unread options .scan key
  | scanSetting {key : String} (h : key ∈ Catalogue.keys) (side : ∃ rest, key = "scan." ++ rest) :
      Unread options .sink key
  | offsets
      (mode : options.readOrDefault? Catalogue.startupMode ≠ .ok (some .specificOffsets)) :
      Unread options .scan Catalogue.specificOffsets.key
  | timestamp (mode : options.readOrDefault? Catalogue.startupMode ≠ .ok (some .timestamp)) :
      Unread options .scan Catalogue.timestampMillis.key
  | semantic (newer : options.contains Catalogue.deliveryGuarantee.key = true) :
      Unread options .sink Catalogue.semantic.key

/-- The options that a direction looks at whatever the others are. -/
def readKeys (direction : Direction) : List String :=
  [Catalogue.connector.key, Catalogue.bootstrapServers.key, Catalogue.groupId.key,
    Catalogue.topic.key, Catalogue.topicPattern.key, Catalogue.format.key,
    Catalogue.valueFormat.key] ++
  RecordLayout.optionKeys ++
  match direction with
  | .scan => [Catalogue.startupMode.key, Catalogue.partitionDiscovery.key]
  | .sink => [Catalogue.partitioner.key, Catalogue.deliveryGuarantee.key,
      Catalogue.transactionalIdPrefix.key, Catalogue.parallelism.key,
      Catalogue.bufferFlushMaxRows.key, Catalogue.bufferFlushInterval.key]

variable {options : OptionMap} {direction : Direction} {key : String}

theorem unread_scan_iff : Unread options .scan key ↔
    (key ∈ Catalogue.keys ∧ Text.hasPrefix "sink." key = true) ∨
    (key = Catalogue.specificOffsets.key ∧
      options.readOrDefault? Catalogue.startupMode ≠ .ok (some .specificOffsets)) ∨
    (key = Catalogue.timestampMillis.key ∧
      options.readOrDefault? Catalogue.startupMode ≠ .ok (some .timestamp)) := by
  rw [Text.hasPrefix_iff]
  constructor
  · intro h
    cases h with
    | sinkSetting h side => exact Or.inl ⟨h, side⟩
    | offsets mode => exact Or.inr (Or.inl ⟨rfl, mode⟩)
    | timestamp mode => exact Or.inr (Or.inr ⟨rfl, mode⟩)
  · rintro (⟨h, side⟩ | ⟨rfl, mode⟩ | ⟨rfl, mode⟩)
    · exact .sinkSetting h side
    · exact .offsets mode
    · exact .timestamp mode

theorem unread_sink_iff : Unread options .sink key ↔
    (key ∈ Catalogue.keys ∧ Text.hasPrefix "scan." key = true) ∨
    (key = Catalogue.semantic.key ∧
      options.contains Catalogue.deliveryGuarantee.key = true) := by
  rw [Text.hasPrefix_iff]
  constructor
  · intro h
    cases h with
    | scanSetting h side => exact Or.inl ⟨h, side⟩
    | semantic newer => exact Or.inr ⟨rfl, newer⟩
  · rintro (⟨h, side⟩ | ⟨rfl, newer⟩)
    · exact .scanSetting h side
    · exact .semantic newer

theorem Unread.mem_catalogue (h : Unread options direction key) : key ∈ Catalogue.keys := by
  cases h with
  | sinkSetting h => exact h
  | scanSetting h => exact h
  | offsets => decide
  | timestamp => decide
  | semantic => decide

/-- Whether an option is read depends on the connector's own options. -/
theorem Unread.agree {a b : OptionMap} (h : Unread a direction key) (hab : a.AgreesOnCatalogue b) :
    Unread b direction key := by
  have hmode : a.readOrDefault? Catalogue.startupMode = b.readOrDefault? Catalogue.startupMode :=
    OptionMap.readOrDefault_congr (hab _ (by decide))
  have hnewer : a.contains Catalogue.deliveryGuarantee.key =
      b.contains Catalogue.deliveryGuarantee.key := hab.contains_eq (by decide)
  cases h with
  | sinkSetting h side => exact .sinkSetting h side
  | scanSetting h side => exact .scanSetting h side
  | offsets mode => exact .offsets (hmode ▸ mode)
  | timestamp mode => exact .timestamp (hmode ▸ mode)
  | semantic newer => exact .semantic (hnewer ▸ newer)

theorem readKeys_read (h : key ∈ readKeys direction) : ¬ Unread options direction key := by
  cases direction with
  | scan =>
    have hapart : ∀ key ∈ readKeys .scan, Text.hasPrefix "sink." key = false ∧
        key ≠ Catalogue.specificOffsets.key ∧ key ≠ Catalogue.timestampMillis.key := by
      decide +kernel
    simp [unread_scan_iff, hapart key h]
  | sink =>
    have hapart : ∀ key ∈ readKeys .sink, Text.hasPrefix "scan." key = false ∧
        key ≠ Catalogue.semantic.key := by decide +kernel
    simp [unread_sink_iff, hapart key h]

/-- The options of the other startup modes are unread, that of the own mode is not. -/
theorem offsets_read
    (hmode : options.readOrDefault? Catalogue.startupMode = .ok (some .specificOffsets)) :
    ¬ Unread options .scan Catalogue.specificOffsets.key := by
  have hside : Text.hasPrefix "sink." Catalogue.specificOffsets.key = false := by decide
  have hother : Catalogue.specificOffsets.key ≠ Catalogue.timestampMillis.key := by decide
  simp [unread_scan_iff, hside, hother, hmode]

theorem timestamp_read
    (hmode : options.readOrDefault? Catalogue.startupMode = .ok (some .timestamp)) :
    ¬ Unread options .scan Catalogue.timestampMillis.key := by
  have hside : Text.hasPrefix "sink." Catalogue.timestampMillis.key = false := by decide
  have hother : Catalogue.timestampMillis.key ≠ Catalogue.specificOffsets.key := by decide
  simp [unread_scan_iff, hside, hother, hmode]

theorem semantic_read (hset : options.contains Catalogue.deliveryGuarantee.key = false) :
    ¬ Unread options .sink Catalogue.semantic.key := by
  have hside : Text.hasPrefix "scan." Catalogue.semantic.key = false := by decide
  simp [unread_sink_iff, hside, hset]

/-- The client is given its properties in both directions. -/
theorem client_read (rest : String) : ¬ Unread options direction (propertiesPrefix ++ rest) := by
  have hclient : ∀ key ∈ Catalogue.keys, Text.hasPrefix propertiesPrefix key = true →
      key ∈ readKeys .scan ∧ key ∈ readKeys .sink := by decide +kernel
  intro hunread
  obtain ⟨hscan, hsink⟩ := hclient _ hunread.mem_catalogue (Text.hasPrefix_iff.mpr ⟨rest, rfl⟩)
  cases direction with
  | scan => exact readKeys_read hscan hunread
  | sink => exact readKeys_read hsink hunread

theorem checkConnector_reads :
    OptionMap.Reads [Catalogue.connector.key, Catalogue.bootstrapServers.key] checkConnector := by
  intro a b h
  unfold checkConnector OptionMap.require
  rw [h Catalogue.connector.key (by decide), h Catalogue.bootstrapServers.key (by decide)]

theorem sourceProperties_congr {a b : OptionMap}
    (hdiscovery : a.get? Catalogue.partitionDiscovery.key = b.get? Catalogue.partitionDiscovery.key)
    (hclient : ∀ rest, a.get? (propertiesPrefix ++ rest) = b.get? (propertiesPrefix ++ rest)) :
    sourceProperties a = sourceProperties b := by
  unfold sourceProperties
  rw [OptionMap.withPrefix_congr hclient, OptionMap.read_congr hdiscovery]

/-- The maps name the same formats and agree on all that a direction looks at. -/
structure ReadAlike (direction : Direction) (a b : OptionMap) : Prop where
  formats : a.FormatsAgree b
  kept : ∀ key, ¬ Unread a direction key → a.get? key = b.get? key

namespace ReadAlike

variable {a b : OptionMap}

theorem of_changed (hscope : ∀ key, a.Changed b key → ¬ a.InScope key)
    (hunread : ∀ key, a.Changed b key → Unread a direction key) : ReadAlike direction a b := by
  have hkept : ∀ key, ¬ Unread a direction key → a.get? key = b.get? key :=
    fun key hread => not_not.mp fun hchanged => hread (hunread key hchanged)
  refine ⟨⟨fun slot hslot => hkept _ (readKeys_read ?_), fun key hkey => ?_⟩, hkept⟩
  · have hslots : ∀ slot ∈ FormatSlot.all,
        slot.key ∈ readKeys .scan ∧ slot.key ∈ readKeys .sink := by decide
    cases direction with
    | scan => exact (hslots slot hslot).1
    | sink => exact (hslots slot hslot).2
  · exact not_not.mp fun hchanged => hscope key hchanged hkey

theorem congr {β : Type} {keys : List String} {rule : OptionMap → β}
    (h : ReadAlike direction a b) (hreads : OptionMap.Reads keys rule)
    (hkeys : keys ⊆ readKeys direction) : rule a = rule b :=
  hreads.congr fun key hkey => h.kept key (readKeys_read (hkeys hkey))

theorem client (h : ReadAlike direction a b) (rest : String) :
    a.get? (propertiesPrefix ++ rest) = b.get? (propertiesPrefix ++ rest) :=
  h.kept _ (client_read rest)

theorem checkedFormats_eq (h : ReadAlike direction a b) (r : Resolver) :
    r.checkedFormats a direction = r.checkedFormats b direction :=
  checkedFormats_congr h.formats fun key hkey => h.kept key fun hunread =>
    hkey hunread.mem_catalogue

end ReadAlike

/-- A source of the one table is a source of the other, or both fail alike. -/
theorem source_eq {r : Resolver} {table : TableDefinition} {other : OptionMap}
    (h : ReadAlike .scan table.options other) :
    r.source { table with options := other } = r.source table := by
  have hstartup : ∀ topics, StartupPosition.ofOptions table.options topics =
      StartupPosition.ofOptions other topics := fun topics =>
    StartupPosition.ofOptions_congr topics (h.kept _ (readKeys_read (by decide)))
      (fun hmode => h.kept _ (offsets_read hmode)) fun hmode => h.kept _ (timestamp_read hmode)
  have hrows : ∀ found access, resolveRows { table with options := other } other found access =
      resolveRows table table.options found access := fun found access =>
    (h.congr (resolveRows_reads table found access) (by decide)).symm
  have hprimary : ∀ value, checkPrimaryKey { table with options := other } value =
      checkPrimaryKey table value := fun _ => rfl
  unfold source
  simp only [hrows, hprimary, ← h.congr checkConnector_reads (by decide),
    ← h.congr (TopicSelection.ofOptions_reads r.compile) (by decide),
    ← h.checkedFormats_eq r, ← hstartup,
    ← sourceProperties_congr (h.kept _ (readKeys_read (by decide))) h.client]

theorem ReadAlike.withSubjects {a b : OptionMap} (h : ReadAlike direction a b) (topic : String) :
    ReadAlike direction (a.withSubjects topic) (b.withSubjects topic) := by
  refine ⟨h.formats.withSubjects topic, fun key hread => ?_⟩
  refine OptionMap.get_withSubjects_congr h.formats.slot topic (h.kept key fun hunread => ?_)
  exact hread (hunread.agree (a.withSubjects_agrees topic).symm)

theorem ReadAlike.guarantee_eq {a b : OptionMap} (h : ReadAlike .sink a b) :
    DeliveryGuarantee.ofOptions a = DeliveryGuarantee.ofOptions b := by
  have hnewer : a.get? Catalogue.deliveryGuarantee.key = b.get? Catalogue.deliveryGuarantee.key :=
    h.kept _ (readKeys_read (by decide))
  cases hset : a.contains Catalogue.deliveryGuarantee.key with
  | true => exact DeliveryGuarantee.ofOptions_of_set hset hnewer
  | false =>
    refine DeliveryGuarantee.ofOptions_reads.congr fun key hkey => ?_
    simp only [List.mem_cons, List.not_mem_nil, or_false] at hkey
    rcases hkey with rfl | rfl
    · exact hnewer
    · exact h.kept _ (semantic_read hset)

theorem sink_eq {r : Resolver} {table : TableDefinition} {other : OptionMap}
    (h : ReadAlike .sink table.options other) :
    r.sink { table with options := other } = r.sink table := by
  -- The topic is bound in the resolution, so the rules are compared for every topic.
  have hread := h.withSubjects
  have hrows : ∀ topic found access,
      resolveRows { table with options := other } (other.withSubjects topic) found access =
        resolveRows table (table.options.withSubjects topic) found access :=
    fun topic found access =>
      ((hread topic).congr (resolveRows_reads table found access) (by decide)).symm
  have hprimary : ∀ value, checkPrimaryKey { table with options := other } value =
      checkPrimaryKey table value := fun _ => rfl
  have hparallelism : OptionMap.Reads [Catalogue.parallelism.key]
      (·.read? Catalogue.parallelism) := fun a b hab => OptionMap.read_congr (hab _ (by decide))
  unfold sink
  simp only [hrows, hprimary, ← h.congr checkConnector_reads (by decide),
    ← h.congr (TopicSelection.ofOptions_reads r.compile) (by decide),
    ← (hread _).checkedFormats_eq r, ← (hread _).guarantee_eq,
    ← (hread _).congr (transactionalIdPrefix_reads _) (by decide),
    ← (hread _).congr (SinkPartitioner.ofOptions_reads r.partitioners) (by decide),
    ← (hread _).congr hparallelism (by decide),
    ← (hread _).congr SinkBuffer.ofOptions_reads (by decide),
    ← OptionMap.withPrefix_congr (hread _).client]

/-- Options that a direction does not look at may change, appear, vanish or be malformed: the
result stays the same, a resolved table as well as an error. -/
theorem unread_options_ignored (r : Resolver) (table : TableDefinition) (other : OptionMap)
    (hscope : ∀ key, table.options.Changed other key → ¬ table.options.InScope key) :
    ((∀ key, table.options.Changed other key → Unread table.options .scan key) →
      r.source { table with options := other } = r.source table) ∧
    ((∀ key, table.options.Changed other key → Unread table.options .sink key) →
      r.sink { table with options := other } = r.sink table) :=
  ⟨fun hunread => source_eq (.of_changed hscope hunread),
    fun hunread => sink_eq (.of_changed hscope hunread)⟩

theorem malformed_options_unread : ∃ source sink,
    Sample.ringed.source Sample.exactlyOnce = .ok source ∧
    Sample.ringed.source { Sample.exactlyOnce with options := Sample.malformedForSink } =
      .ok source ∧
    (Sample.ringed.sink { Sample.exactlyOnce with options := Sample.malformedForSink }).toOption =
      none ∧
    Sample.ringed.sink Sample.exactlyOnce = .ok sink ∧
    Sample.ringed.sink { Sample.exactlyOnce with options := Sample.malformedForSource } =
      .ok sink ∧
    (Sample.ringed.source
      { Sample.exactlyOnce with options := Sample.malformedForSource }).toOption = none := by
  -- One evaluation for all of it: the option map is built once.
  have hrun : (Sample.ringed.source Sample.exactlyOnce).toOption.isSome = true ∧
      (Sample.ringed.sink Sample.exactlyOnce).toOption.isSome = true ∧
      (Sample.ringed.sink
        { Sample.exactlyOnce with options := Sample.malformedForSink }).toOption = none ∧
      (Sample.ringed.source
        { Sample.exactlyOnce with options := Sample.malformedForSource }).toOption = none ∧
      (∀ key ∈ ["scan.startup.timestamp-millis", "sink.parallelism", "sink.semantic",
        "scan.startup.mode"], ¬ Sample.exactlyOnce.options.InScope key) ∧
      Sample.exactlyOnce.options.readOrDefault? Catalogue.startupMode ≠ .ok (some .timestamp) ∧
      Sample.exactlyOnce.options.contains Catalogue.deliveryGuarantee.key = true := by
    decide +kernel
  obtain ⟨hread, hwritten, hsinkFails, hsourceFails, hscope, hmode, hnewer⟩ := hrun
  obtain ⟨source, hsource⟩ := Outcome.exists_ok hread
  obtain ⟨sink, hsink⟩ := Outcome.exists_ok hwritten
  refine ⟨source, sink, hsource, ?_, hsinkFails, hsink, ?_, hsourceFails⟩
  · have hchanged : ∀ key, Sample.exactlyOnce.options.Changed Sample.malformedForSink key →
        key = "scan.startup.timestamp-millis" ∨ key = "sink.parallelism" := fun key h =>
      h.of_insert.imp_right fun h => h.of_insert.resolve_right fun h => h rfl
    rw [← hsource]
    refine (unread_options_ignored _ _ _ fun key hkey => ?_).1 fun key hkey => ?_
    · rcases hchanged key hkey with rfl | rfl <;> exact hscope _ (by simp)
    · rcases hchanged key hkey with rfl | rfl
      · exact .timestamp hmode
      · exact .sinkSetting (by decide) ⟨"parallelism", by decide⟩
  · have hchanged : ∀ key, Sample.exactlyOnce.options.Changed Sample.malformedForSource key →
        key = "sink.semantic" ∨ key = "scan.startup.mode" := fun key h =>
      h.of_insert.imp_right fun h => h.of_insert.resolve_right fun h => h rfl
    rw [← hsink]
    refine (unread_options_ignored _ _ _ fun key hkey => ?_).2 fun key hkey => ?_
    · rcases hchanged key hkey with rfl | rfl <;> exact hscope _ (by simp)
    · rcases hchanged key hkey with rfl | rfl
      · exact .semantic hnewer
      · exact .scanSetting (by decide) ⟨"startup.mode", by decide⟩

/-- Maps that differ only in the options of the key format. -/
structure AlikeBesideKey (a b : OptionMap) : Prop where
  catalogue : a.AgreesOnCatalogue b
  client : ∀ rest, a.get? (propertiesPrefix ++ rest) = b.get? (propertiesPrefix ++ rest)
  value : ∀ slot identifier, a.valueSlot? = some slot → a.get? slot.key = some identifier →
    ∀ rest, a.get? (slot.scope identifier ++ rest) = b.get? (slot.scope identifier ++ rest)

namespace AlikeBesideKey

variable {a b : OptionMap}

theorem of_changed {identifier : String} (hapart : a.SharedFormatApart)
    (hkey : ∀ key, a.Changed b key → ∃ rest, key = FormatSlot.ofKey.scope identifier ++ rest) :
    AlikeBesideKey a b := by
  refine {
    catalogue := fun key hcatalogue => not_not.mp fun hchanged => ?_
    client := fun rest => not_not.mp fun hchanged => ?_
    value := fun slot named hslot hnamed rest => not_not.mp fun hchanged => ?_ }
  · obtain ⟨rest, hrest⟩ := hkey _ hchanged
    exact OptionMap.catalogue_ne_key_scope hcatalogue rest hrest
  · obtain ⟨tail, htail⟩ := hkey _ hchanged
    exact OptionMap.client_ne_key_scope tail rest htail
  · obtain ⟨tail, htail⟩ := hkey _ hchanged
    exact hapart.scope_ne hslot hnamed _ _ _ htail

theorem withSubjects (h : AlikeBesideKey a b) (topic : String) :
    AlikeBesideKey (a.withSubjects topic) (b.withSubjects topic) := by
  have hslots : ∀ slot ∈ FormatSlot.all, a.get? slot.key = b.get? slot.key :=
    fun slot hslot => h.catalogue _ (FormatSlot.key_mem_catalogue hslot)
  have hagree := a.withSubjects_agrees topic
  refine {
    catalogue := fun key hkey => OptionMap.get_withSubjects_congr hslots topic (h.catalogue key hkey)
    client := fun rest => OptionMap.get_withSubjects_congr hslots topic (h.client rest)
    value := fun slot identifier hslot hnamed rest => ?_ }
  rw [hagree _ (OptionMap.valueSlot_mem_catalogue _ hslot)] at hnamed
  rw [hagree.valueSlot_eq] at hslot
  exact OptionMap.get_withSubjects_congr hslots topic (h.value slot identifier hslot hnamed rest)

/-- The format of the value is found alike, whatever becomes of the key's. -/
theorem value_eq {formats : FormatRegistry} {f g : TableFormats} {consumed consumed' : List String}
    (h : AlikeBesideKey a b) (hf : FormatsRun formats a f consumed)
    (hg : FormatsRun formats b g consumed') : f.value = g.value := by
  have hslot : hf.slot = hg.slot := hf.slot_eq hg h.catalogue
  have hkey : a.get? hf.slot.key = b.get? hf.slot.key :=
    h.catalogue _ (OptionMap.valueSlot_mem_catalogue a hf.slot_set)
  have hfound : DiscoveredFormat.find? formats a hf.slot Catalogue.keys =
      DiscoveredFormat.find? formats b hg.slot Catalogue.keys := by
    rw [← hslot]
    exact find_congr hkey (fun identifier => h.value hf.slot identifier hf.slot_set) _
  have hresult := Outcome.ok_unique hfound hf.value_found hg.value_found
  exact Option.some.inj (congrArg Prod.fst hresult)

/-- Equal value formats are laid out in equal rows. -/
theorem rows_eq {table : TableDefinition} {other : OptionMap} {f g : TableFormats}
    {access : MetadataAccess} {rows rows' : ResolvedRows} (h : AlikeBesideKey a b)
    (hvalue : f.value = g.value) (run : RowsRun table a f access rows)
    (run' : RowsRun { table with options := other } b g access rows') :
    rows = { rows' with keyFormat? := rows.keyFormat? } := by
  have hlayout : rows.layout = rows'.layout :=
    Outcome.ok_unique ((RecordLayout.ofOptions_reads table.schema).agree (by decide) h.catalogue)
      run.layout_ok run'.layout_ok
  have hprefix : rows.keyPrefix? = rows'.keyPrefix? :=
    Outcome.ok_unique (RecordLayout.keyPrefix_reads.agree (by decide) h.catalogue)
      run.prefix_ok run'.prefix_ok
  have hmetadata : rows.metadata = rows'.metadata := by
    refine Outcome.ok_unique ?_ run.metadata_ok run'.metadata_ok
    rw [hvalue]
  have hformat : rows.valueFormat = rows'.valueFormat := by
    rw [run.value_eq, run'.value_eq, hvalue, hlayout, hmetadata]
  cases rows
  cases rows'
  cases hlayout
  cases hprefix
  cases hmetadata
  cases hformat
  rfl

end AlikeBesideKey

theorem source_besides_key {r : Resolver} {table : TableDefinition} {other : OptionMap}
    {a b : SourceSpec} (h : AlikeBesideKey table.options other) (ha : r.source table = .ok a)
    (hb : r.source { table with options := other } = .ok b) :
    a = { b with keyFormat? := a.keyFormat? } := by
  obtain ⟨run⟩ := source_run ha
  obtain ⟨run'⟩ := source_run hb
  obtain ⟨_, ⟨formats⟩, -⟩ := checkedFormats_run run.formats_ok
  obtain ⟨_, ⟨formats'⟩, -⟩ := checkedFormats_run run'.formats_ok
  have hrows := h.rows_eq (h.value_eq formats formats') run.rows_run run'.rows_run
  have htopics : run.topics = run'.topics :=
    Outcome.ok_unique ((TopicSelection.ofOptions_reads r.compile).agree (by decide) h.catalogue)
      run.topics_ok run'.topics_ok
  have hstartup : run.startup = run'.startup := by
    refine Outcome.ok_unique ?_ run.startup_ok run'.startup_ok
    rw [htopics]
    exact StartupPosition.ofOptions_congr _ (h.catalogue _ (by decide))
      (fun _ => h.catalogue _ (by decide)) fun _ => h.catalogue _ (by decide)
  have hproperties : run.properties = run'.properties :=
    Outcome.ok_unique (sourceProperties_congr (h.catalogue _ (by decide)) h.client)
      run.properties_ok run'.properties_ok
  rw [run.spec_eq, run'.spec_eq, hrows, htopics, hstartup, hproperties]

theorem sink_besides_key {r : Resolver} {table : TableDefinition} {other : OptionMap}
    {a b : SinkSpec} (h : AlikeBesideKey table.options other) (ha : r.sink table = .ok a)
    (hb : r.sink { table with options := other } = .ok b) :
    a = { b with keyFormat? := a.keyFormat? } := by
  obtain ⟨run⟩ := sink_run ha
  obtain ⟨run'⟩ := sink_run hb
  obtain ⟨_, ⟨formats⟩, -⟩ := checkedFormats_run run.formats_ok
  obtain ⟨_, ⟨formats'⟩, -⟩ := checkedFormats_run run'.formats_ok
  have htopics : run.topics = run'.topics :=
    Outcome.ok_unique ((TopicSelection.ofOptions_reads r.compile).agree (by decide) h.catalogue)
      run.topics_ok run'.topics_ok
  have htopic : run.topic = run'.topic := by
    refine Outcome.ok_unique ?_ run.topic_ok run'.topic_ok
    rw [htopics]
  have halike : AlikeBesideKey run.options run'.options := by
    rw [run.options_eq, run'.options_eq, htopic]
    exact h.withSubjects run'.topic
  have hrows := halike.rows_eq (halike.value_eq formats formats') run.rows_run run'.rows_run
  have hguarantee : run.guarantee = run'.guarantee :=
    Outcome.ok_unique (DeliveryGuarantee.ofOptions_reads.agree (by decide) halike.catalogue)
      run.guarantee_ok run'.guarantee_ok
  have htransactional : run.transactionalIdPrefix? = run'.transactionalIdPrefix? := by
    refine Outcome.ok_unique ?_ run.transactional_ok run'.transactional_ok
    rw [hguarantee]
    exact (transactionalIdPrefix_reads _).agree (by decide) halike.catalogue
  have hpartitioner : run.partitioner = run'.partitioner :=
    Outcome.ok_unique ((SinkPartitioner.ofOptions_reads r.partitioners).agree (by decide)
      halike.catalogue) run.partitioner_ok run'.partitioner_ok
  have hparallelism : run.parallelism? = run'.parallelism? :=
    Outcome.ok_unique (OptionMap.read_congr (halike.catalogue _ (by decide)))
      run.parallelism_ok run'.parallelism_ok
  have hbuffer : run.buffer = run'.buffer :=
    Outcome.ok_unique (SinkBuffer.ofOptions_reads.agree (by decide) halike.catalogue)
      run.buffer_ok run'.buffer_ok
  have hproperties : run.options.withPrefix propertiesPrefix =
      run'.options.withPrefix propertiesPrefix := OptionMap.withPrefix_congr halike.client
  rw [run.spec_eq, run'.spec_eq, hrows, htopic, hguarantee, htransactional, hpartitioner,
    hparallelism, hbuffer, hproperties]

/-- The options of the key format show nowhere but in the format of the key. -/
theorem key_options_stay_with_key (r : Resolver) (table : TableDefinition) (other : OptionMap)
    (identifier : String) (hapart : table.options.SharedFormatApart)
    (hkey : ∀ key, table.options.Changed other key →
      ∃ rest, key = "key." ++ identifier ++ "." ++ rest) :
    (∀ a b, r.source table = .ok a → r.source { table with options := other } = .ok b →
      a = { b with keyFormat? := a.keyFormat? }) ∧
    (∀ a b, r.sink table = .ok a → r.sink { table with options := other } = .ok b →
      a = { b with keyFormat? := a.keyFormat? }) := by
  have halike : AlikeBesideKey table.options other := .of_changed hapart hkey
  exact ⟨fun _ _ ha hb => source_besides_key halike ha hb,
    fun _ _ ha hb => sink_besides_key halike ha hb⟩

theorem key_subject_stays_with_key : ∃ source source' sink sink',
    Sample.ringed.source Sample.keySubject = .ok source ∧
    Sample.ringed.source { Sample.keySubject with options := Sample.otherKeySubject } =
      .ok source' ∧
    source = { source' with keyFormat? := source.keyFormat? } ∧
    source.keyFormat?.map (·.options.get? "subject") = some (some "people") ∧
    source'.keyFormat?.map (·.options.get? "subject") = some (some "persons") ∧
    Sample.ringed.sink Sample.keySubject = .ok sink ∧
    Sample.ringed.sink { Sample.keySubject with options := Sample.otherKeySubject } = .ok sink' ∧
    sink = { sink' with keyFormat? := sink.keyFormat? } := by
  have hrun : (Sample.ringed.source Sample.keySubject).map
        (·.keyFormat?.map (·.options.get? "subject")) = .ok (some (some "people")) ∧
      (Sample.ringed.source { Sample.keySubject with options := Sample.otherKeySubject }).map
        (·.keyFormat?.map (·.options.get? "subject")) = .ok (some (some "persons")) ∧
      (Sample.ringed.sink Sample.keySubject).toOption.isSome = true ∧
      (Sample.ringed.sink
        { Sample.keySubject with options := Sample.otherKeySubject }).toOption.isSome = true ∧
      Sample.keySubject.options.SharedFormatApart := by decide +kernel
  obtain ⟨hread, hread', hwritten, hwritten', hapart⟩ := hrun
  obtain ⟨source, hsource, hsubject⟩ := Outcome.map_ok_iff.mp hread
  obtain ⟨source', hsource', hsubject'⟩ := Outcome.map_ok_iff.mp hread'
  obtain ⟨sink, hsink⟩ := Outcome.exists_ok hwritten
  obtain ⟨sink', hsink'⟩ := Outcome.exists_ok hwritten'
  obtain ⟨hscanned, hstored⟩ := key_options_stay_with_key Sample.ringed Sample.keySubject
    Sample.otherKeySubject "debezium-avro-confluent" hapart fun key hkey =>
      ⟨"subject", (hkey.of_insert.resolve_right fun h => h rfl).trans (by decide)⟩
  exact ⟨source, source', sink, sink', hsource, hsource', hscanned _ _ hsource hsource', hsubject,
    hsubject', hsink, hsink', hstored _ _ hsink hsink'⟩

end Resolver

end TopicTable
