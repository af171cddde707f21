import TopicTable.Proofs.Codec
import TopicTable.Proofs.Layout

/-! Where the metadata of records stands in the rows of a table. The keys of the value format are
asked for once each and stand behind the payload of the value, so a codec that is told their
number knows where the payload ends. -/

namespace TopicTable

open Outcome

namespace MetadataKeys

variable {access : MetadataAccess} {name : TableName} {declared : MetadataTypes}

theorem mem_addDistinct {keys : List String} {key k : String} :
    k ∈ addDistinct keys key ↔ k ∈ keys ∨ k = key := by
  by_cases h : key ∈ keys
  · simp only [addDistinct, if_pos h]
    constructor
    · exact Or.inl
    · rintro (hk | rfl)
      · exact hk
      · exact h
  · simp [addDistinct, if_neg h]

theorem nodup_addDistinct {keys : List String} (h : keys.Nodup) (key : String) :
    (addDistinct keys key).Nodup := by
  by_cases hk : key ∈ keys
  · simpa only [addDistinct, if_pos hk] using h
  · simp only [addDistinct, if_neg hk]
    exact List.nodup_append_comm.mp (List.nodup_cons.mpr ⟨hk, h⟩)

theorem mem_foldl_addDistinct {keys more : List String} {k : String} :
    k ∈ more.foldl addDistinct keys ↔ k ∈ keys ∨ k ∈ more := by
  induction more generalizing keys with
  | nil => simp
  | cons key more ih =>
    rw [List.foldl_cons, ih, mem_addDistinct, List.mem_cons]
    tauto

theorem nodup_foldl_addDistinct {keys : List String} (h : keys.Nodup) (more : List String) :
    (more.foldl addDistinct keys).Nodup := by
  induction more generalizing keys with
  | nil => exact h
  | cons key more ih => exact ih (nodup_addDistinct h key)

/-- A key belongs to the value format exactly when it is declared under the prefix. -/
theorem owner_format_iff {key k : String} : owner? access declared key = some (.format k) ↔
    key = valuePrefix ++ k ∧ declared.contains k = true := by
  rw [← Text.stripPrefix_iff, ← Option.filter_eq_some_iff]
  unfold owner?
  cases (Text.stripPrefix? valuePrefix key).filter declared.contains with
  | some formatKey => simp
  | none => by_cases h : access.isConnectorKey key = true <;> simp [h]

theorem owner_connector {key k : String} (h : owner? access declared key = some (.connector k)) :
    k = key ∧ access.isConnectorKey key = true := by
  unfold owner? at h
  split at h
  · cases h
  · split at h
    next hknown =>
      cases h
      exact ⟨rfl, hknown⟩
    · cases h

/-- Who provides what a column stands for. -/
def ownerOf? (access : MetadataAccess) (declared : MetadataTypes) (c : Column) :
    Option MetadataOwner := c.metadataKey?.bind (owner? access declared)

/-- The key that a column asks of the value format. -/
def formatKeyOf? (access : MetadataAccess) (declared : MetadataTypes) (c : Column) :
    Option String :=
  match ownerOf? access declared c with
  | some (.format key) => some key
  | _ => none

/-- The key that a column asks of the record itself. -/
def connectorKeyOf? (access : MetadataAccess) (declared : MetadataTypes) (c : Column) :
    Option String :=
  match ownerOf? access declared c with
  | some (.connector key) => some key
  | _ => none

/-- One column adds its key to those of its owner. -/
theorem addColumn_ok_iff {keys keys' : MetadataKeys} {c : Column} (hc : c.isMetadata = true) :
    addColumn access name declared keys c = .ok keys' ↔
      (ownerOf? access declared c).isSome = true ∧
      keys' = ⟨(connectorKeyOf? access declared c).toList.foldl addDistinct keys.connector,
        (formatKeyOf? access declared c).toList.foldl addDistinct keys.format,
        keys.columns ++ [c]⟩ := by
  obtain ⟨key, hkey⟩ : ∃ key, c.metadataKey? = some key := by
    cases c with
    | metadata => exact ⟨_, rfl⟩
    | physical => cases hc
    | computed => cases hc
  simp only [addColumn, connectorKeyOf?, formatKeyOf?, ownerOf?, hkey, Option.bind_some]
  cases owner? access declared key with
  | none => simp
  | some owner => cases owner <;> simp [eq_comm]

/-- The keys of several columns are those of each, the first time that they are asked for. -/
theorem addColumns_ok_iff {columns : List Column} (hm : ∀ c ∈ columns, c.isMetadata = true)
    {keys keys' : MetadataKeys} :
    columns.foldlM (addColumn access name declared) keys = .ok keys' ↔
      (∀ c ∈ columns, (ownerOf? access declared c).isSome = true) ∧
      keys' = ⟨(columns.filterMap (connectorKeyOf? access declared)).foldl addDistinct
          keys.connector,
        (columns.filterMap (formatKeyOf? access declared)).foldl addDistinct keys.format,
        keys.columns ++ columns⟩ := by
  induction columns generalizing keys with
  | nil =>
    simp only [List.foldlM_nil, pure_ok_iff, List.filterMap_nil, List.foldl_nil, List.append_nil]
    exact ⟨fun h => ⟨by simp, h.symm⟩, fun h => h.2.symm⟩
  | cons c columns ih =>
    have hc : c.isMetadata = true := hm c (List.mem_cons_self ..)
    have hrest : ∀ c ∈ columns, c.isMetadata = true :=
      fun c' hc' => hm c' (List.mem_cons_of_mem _ hc')
    have hsplit : ∀ ask : Column → Option String,
        (c :: columns).filterMap ask = (ask c).toList ++ columns.filterMap ask := by
      intro ask
      cases h : ask c <;> simp [h]
    simp only [List.foldlM_cons, bind_ok_iff, addColumn_ok_iff hc, ih hrest, hsplit,
      List.foldl_append, List.forall_mem_cons]
    constructor
    · rintro ⟨_, ⟨howned, rfl⟩, hall, rfl⟩
      exact ⟨⟨howned, hall⟩, by simp⟩
    · rintro ⟨⟨howned, hall⟩, rfl⟩
      exact ⟨_, ⟨howned, rfl⟩, hall, by simp⟩

theorem columns_metadata {schema : Schema} : ∀ c ∈ access.columns schema,
    c.isMetadata = true := by
  intro c hc
  cases access with
  | read => exact (List.mem_filter.mp hc).2
  | write => exact (List.mem_filter.mp (List.mem_filter.mp hc).1).2

theorem ofSchema_ok_iff {schema : Schema} {keys : MetadataKeys} :
    ofSchema access name schema declared = .ok keys ↔
      (∀ c ∈ access.columns schema, (ownerOf? access declared c).isSome = true) ∧
      keys = ⟨((access.columns schema).filterMap (connectorKeyOf? access declared)).foldl
          addDistinct [],
        ((access.columns schema).filterMap (formatKeyOf? access declared)).foldl addDistinct [],
        access.columns schema⟩ := by
  unfold ofSchema
  rw [addColumns_ok_iff columns_metadata, List.nil_append]

theorem formatKeyOf_iff {c : Column} {k : String} : formatKeyOf? access declared c = some k ↔
    c.metadataKey? = some (valuePrefix ++ k) ∧ declared.contains k = true := by
  have howner : formatKeyOf? access declared c = some k ↔
      ownerOf? access declared c = some (.format k) := by
    unfold formatKeyOf?
    split
    next key h => simp [h]
    next h => simpa using h k
  rw [howner, ownerOf?, Option.bind_eq_some_iff]
  simp only [owner_format_iff]
  constructor
  · rintro ⟨key, hkey, rfl, hdeclared⟩
    exact ⟨hkey, hdeclared⟩
  · rintro ⟨hkey, hdeclared⟩
    exact ⟨_, hkey, rfl, hdeclared⟩

section Split

variable {schema : Schema} {keys : MetadataKeys}

/-- Nothing is asked of a value format that it does not declare. -/
theorem format_declared (h : ofSchema access name schema declared = .ok keys) :
    ∀ k ∈ keys.format, declared.contains k = true := by
  obtain ⟨_, rfl⟩ := ofSchema_ok_iff.mp h
  intro k hk
  rcases mem_foldl_addDistinct.mp hk with hk | hk
  · cases hk
  · obtain ⟨c, _, hask⟩ := List.mem_filterMap.mp hk
    exact (formatKeyOf_iff.mp hask).2

theorem format_nodup (h : ofSchema access name schema declared = .ok keys) :
    keys.format.Nodup := by
  obtain ⟨_, rfl⟩ := ofSchema_ok_iff.mp h
  exact nodup_foldl_addDistinct List.nodup_nil _

/-- The key of every column is asked of someone. -/
theorem column_asked (h : ofSchema access name schema declared = .ok keys) :
    ∀ c ∈ access.columns schema, ∃ key, c.metadataKey? = some key ∧
      (key ∈ keys.connector ∨ ∃ k ∈ keys.format, key = valuePrefix ++ k) := by
  obtain ⟨howned, rfl⟩ := ofSchema_ok_iff.mp h
  intro c hc
  obtain ⟨owner, howner⟩ := Option.isSome_iff_exists.mp (howned c hc)
  obtain ⟨key, hkey, hown⟩ := Option.bind_eq_some_iff.mp howner
  refine ⟨key, hkey, ?_⟩
  cases owner with
  | connector k =>
    left
    obtain ⟨rfl, -⟩ := owner_connector hown
    have hask : connectorKeyOf? access declared c = some k := by simp [connectorKeyOf?, howner]
    exact mem_foldl_addDistinct.mpr (Or.inr (List.mem_filterMap.mpr ⟨c, hc, hask⟩))
  | format k =>
    right
    have hask : formatKeyOf? access declared c = some k := by simp [formatKeyOf?, howner]
    exact ⟨k, mem_foldl_addDistinct.mpr (Or.inr (List.mem_filterMap.mpr ⟨c, hc, hask⟩)),
      (owner_format_iff.mp hown).1⟩

end Split

end MetadataKeys

/-- Declared keys all have their field, in their order. -/
theorem FormatHandle.metadataFields_forall {declared : MetadataTypes} {keys : List String}
    (h : ∀ k ∈ keys, declared.contains k = true) :
    List.Forall₂ (fun key field => ∃ type, declared.get? key = some type ∧
      field = ⟨key, type, true⟩) keys (metadataFields declared keys) := by
  have hall : ∀ k ∈ keys, ((declared.get? k).map fun type => Field.mk k type true).isSome = true := by
    intro k hk
    rw [Option.isSome_map, ← OrderedMap.contains_eq_isSome_get?]
    exact h k hk
  refine (filterMap_forall hall).imp fun key field hfield => ?_
  obtain ⟨type, htype, rfl⟩ := Option.map_eq_some_iff.mp hfield
  exact ⟨type, htype, rfl⟩

namespace Resolver

/-- The metadata that a provider declares for an access. -/
def declaration (access : MetadataAccess) (provider : FormatProvider) (own : FormatOptions) :
    Except TableError MetadataTypes :=
  match access with
  | .read => provider.readableMetadata own
  | .write => provider.writableMetadata own

/-- Where the metadata of a resolved table stands. The codec row of the value is its payload and
then one field for each key of the value format; the row of the table is its physical columns
and then one field for each metadata column. -/
structure MetadataLaidOut (access : MetadataAccess) (table : TableDefinition)
    (physical whole : RowType) (layout : RecordLayout) (keyFormat? : Option FormatHandle)
    (value : FormatHandle) (connectorKeys : List String) : Prop where
  payload : List.Forall₂ (fun p field => physical[p]? = some field) layout.value
    (value.rowType.take layout.value.length)
  metadata : ∃ declared, declaration access value.provider value.options = .ok declared ∧
    List.Forall₂ (fun key field => ∃ type, declared.get? key = some type ∧
      field = ⟨key, type, true⟩) value.metadataKeys (value.rowType.drop layout.value.length)
  distinct : value.metadataKeys.Nodup
  asked : ∀ c ∈ access.columns table.schema, ∃ key, c.metadataKey? = some key ∧
    (key ∈ connectorKeys ∨ ∃ k ∈ value.metadataKeys, key = "value." ++ k)
  keyless : ∀ key, keyFormat? = some key → key.metadataKeys = []
  whole : whole = physical ++ (access.columns table.schema).map fun c => ⟨c.name, c.type, true⟩

theorem FormatsRun.declaration_ok {formats : FormatRegistry} {options : OptionMap}
    {found : TableFormats} {consumed : List String}
    (run : FormatsRun formats options found consumed) (access : MetadataAccess) :
    declaration access found.value.provider found.value.options =
      .ok (declaredFor access found.value) := by
  have d := find_some run.value_found
  cases access with
  | read => exact d.readable_ok
  | write => exact d.writable_ok

theorem SourceRun.value_registered {r : Resolver} {table : TableDefinition} {spec : SourceSpec}
    (run : SourceRun r table spec) :
    r.formats.get? spec.valueFormat.identifier = some spec.valueFormat.provider := by
  obtain ⟨_, ⟨formats⟩, -⟩ := checkedFormats_run run.formats_ok
  rw [run.spec_eq]
  dsimp only
  rw [run.rows_run.value_eq]
  exact (find_some formats.value_found).registered

/-- A metadata column has no type but its own and may always be null. -/
theorem metadata_fields {access : MetadataAccess} {schema : Schema} :
    (access.columns schema).map Column.field =
      (access.columns schema).map fun c => ⟨c.name, c.type, true⟩ := by
  refine List.map_congr_left fun c hc => ?_
  have hmetadata := MetadataKeys.columns_metadata c hc
  cases c with
  | metadata => rfl
  | physical => cases hmetadata
  | computed => cases hmetadata

theorem RowsRun.metadata_laid_out {table : TableDefinition} {options : OptionMap}
    {found : TableFormats} {access : MetadataAccess} {rows : ResolvedRows}
    (run : RowsRun table options found access rows)
    (hplaced : ColumnsPlaced table table.schema.physicalRow rows.layout rows.keyPrefix?
      rows.keyFormat? rows.valueFormat)
    (hdeclared : declaration access found.value.provider found.value.options =
      .ok (declaredFor access found.value)) :
    MetadataLaidOut access table table.schema.physicalRow
      (table.schema.rowWith rows.metadata.columns) rows.layout rows.keyFormat? rows.valueFormat
      rows.metadata.connector := by
  have hkeys := run.metadata_ok
  have hcolumns : rows.metadata.columns = access.columns table.schema :=
    congrArg MetadataKeys.columns (MetadataKeys.ofSchema_ok_iff.mp hkeys).2
  have hpayload : rows.layout.value.length =
      (rows.layout.valueRow table.schema.physicalRow).length := by
    refine (project_forall fun p hp => ?_).length_eq
    rw [Schema.physicalRow, List.length_map]
    exact hplaced.value_bound p hp
  have hdrop : rows.valueFormat.rowType.drop rows.layout.value.length =
      FormatHandle.metadataFields (declaredFor access found.value) rows.metadata.format := by
    rw [run.value_eq, hpayload]
    exact List.drop_left ..
  refine {
    payload := hplaced.value_row
    metadata := ⟨declaredFor access found.value, ?_, ?_⟩
    distinct := ?_
    asked := fun c hc => ?_
    keyless := fun key hkey => ?_
    whole := ?_ }
  · rw [run.value_eq]
    exact hdeclared
  · rw [hdrop, run.value_eq]
    exact FormatHandle.metadataFields_forall (MetadataKeys.format_declared hkeys)
  · rw [run.value_eq]
    exact MetadataKeys.format_nodup hkeys
  · rw [run.value_eq]
    exact MetadataKeys.column_asked hkeys c hc
  · rw [run.key_eq] at hkey
    obtain ⟨format, -, rfl⟩ := Option.map_eq_some_iff.mp hkey
    rfl
  · rw [Schema.rowWith, List.map_append, hcolumns, metadata_fields]
    rfl

/-- A decoder for rows of a value format, which looks for the payload alone in its records. -/
def ReadsPayload (decoder : Decoder) (payload : Nat) (value : FormatHandle) : Prop :=
  ∃ reader : Delimited.Reader, decoder = reader.decoder ∧ reader.fields = value.rowType ∧
    reader.payload = payload ∧ ∀ records b, decoder.decode records = .ok b →
      reader.Decoded records b ∧ b.columns.length = payload + value.metadataKeys.length

/-- The decoder is told how many keys there are, and as many fields stand behind the payload. -/
theorem MetadataLaidOut.reads_payload {access : MetadataAccess} {table : TableDefinition}
    {physical whole : RowType} {layout : RecordLayout} {keyFormat? : Option FormatHandle}
    {value : FormatHandle} {connectorKeys : List String}
    (h : MetadataLaidOut access table physical whole layout keyFormat? value connectorKeys)
    {identifier : String} {required : List String} {decoder : Decoder}
    (hprovider : value.provider = Delimited.provider identifier required)
    (hdecoder : value.decoder = .ok decoder) :
    ReadsPayload decoder layout.value.length value := by
  obtain ⟨declared, -, hmetadata⟩ := h.metadata
  have hlength : value.rowType.length = layout.value.length + value.metadataKeys.length := by
    have htake := h.payload.length_eq
    have hdrop := hmetadata.length_eq
    rw [List.length_take] at htake
    rw [List.length_drop] at hdrop
    omega
  unfold FormatHandle.decoder at hdecoder
  rw [hprovider] at hdecoder
  obtain ⟨failOnMissing, rfl⟩ := Delimited.decoder_ok hdecoder
  refine ⟨_, rfl, rfl, ?_, fun records b hb => ?_⟩
  · simp only [Delimited.Reader.payload, hlength]
    omega
  · have hdecoded := Delimited.Reader.decoded_of_ok hb
    have hcolumns := congrArg List.length hdecoded.schema_eq
    rw [Batch.schema, List.length_map] at hcolumns
    exact ⟨hdecoded, hcolumns.trans hlength⟩

/-- Whoever provides the metadata, it never reaches into the payload: the keys that are asked for,
the fields that are added for them and the number that the decoder is told all agree. -/
theorem metadata_behind_payload (r : Resolver) (table : TableDefinition) :
    (∀ spec, r.source table = .ok spec →
      MetadataLaidOut .read table spec.physical spec.produced spec.layout spec.keyFormat?
        spec.valueFormat spec.metadataKeys ∧
      ∀ identifier required decoders,
        spec.valueFormat.provider = Delimited.provider identifier required →
        spec.decoders = .ok decoders →
        ReadsPayload decoders.value spec.layout.value.length spec.valueFormat) ∧
    (∀ spec, r.sink table = .ok spec →
      MetadataLaidOut .write table spec.physical spec.consumed spec.layout spec.keyFormat?
        spec.valueFormat spec.metadataKeys) := by
  constructor
  · intro spec h
    obtain ⟨run⟩ := source_run h
    obtain ⟨_, ⟨formats⟩, -⟩ := checkedFormats_run run.formats_ok
    have hplaced := run.columns_placed
    rw [run.spec_eq] at hplaced ⊢
    have hlaid := run.rows_run.metadata_laid_out hplaced (formats.declaration_ok .read)
    refine ⟨hlaid, fun identifier required decoders hprovider hdecoders => ?_⟩
    obtain ⟨_, -, hdecoders⟩ := bind_ok_iff.mp hdecoders
    obtain ⟨decoder, hdecoder, hdecoders⟩ := bind_ok_iff.mp hdecoders
    cases hdecoders
    exact hlaid.reads_payload hprovider hdecoder
  · intro spec h
    obtain ⟨run⟩ := sink_run h
    obtain ⟨_, ⟨formats⟩, -⟩ := checkedFormats_run run.formats_ok
    have hplaced := run.columns_placed
    rw [run.spec_eq] at hplaced ⊢
    exact run.rows_run.metadata_laid_out hplaced (formats.declaration_ok .write)

/-- The record has a second field, but the row has only metadata there. -/
theorem note_and_sequence_null : ∃ spec decoders b,
    Sample.ringed.source Sample.exactlyOnce = .ok spec ∧ spec.decoders = .ok decoders ∧
    spec.valueFormat.metadataKeys = ["note", "sequence"] ∧
    ReadsPayload decoders.value 1 spec.valueFormat ∧
    decoders.value.decode ["ada,forty".toUTF8] = .ok b ∧
    b.columns.map (·.cells) = [[.text "ada"], [.null], [.null]] ∧
    ∃ sink, Sample.ringed.sink Sample.exactlyOnce = .ok sink ∧
      MetadataLaidOut .write Sample.exactlyOnce sink.physical sink.consumed sink.layout
        sink.keyFormat? sink.valueFormat sink.metadataKeys := by
  have hrun : (Sample.ringed.source Sample.exactlyOnce >>= fun spec => spec.decoders.map
        fun decoders => (spec.layout.value.length, spec.valueFormat.metadataKeys,
          (decoders.value.decode ["ada,forty".toUTF8]).toOption.map fun b =>
            b.columns.map (·.cells))) =
        .ok (1, ["note", "sequence"], some [[.text "ada"], [.null], [.null]]) ∧
      (Sample.ringed.sink Sample.exactlyOnce).toOption.isSome = true := by
    decide +kernel
  obtain ⟨hread, hwritten⟩ := hrun
  obtain ⟨spec, hspec, hread⟩ := bind_ok_iff.mp hread
  obtain ⟨decoders, hdecoders, hread⟩ := map_ok_iff.mp hread
  simp only [Prod.mk.injEq] at hread
  obtain ⟨hcount, hkeys, hbatch⟩ := hread
  obtain ⟨b, hb, hcells⟩ := Option.map_eq_some_iff.mp hbatch
  have hdecoded := toOption_some_iff.mp hb
  obtain ⟨sink, hsink⟩ := exists_ok hwritten
  obtain ⟨hsource, hstored⟩ := metadata_behind_payload Sample.ringed Sample.exactlyOnce
  obtain ⟨identifier, required, hprovider⟩ : ∃ identifier required,
      spec.valueFormat.provider = Delimited.provider identifier required := by
    obtain ⟨run⟩ := source_run hspec
    rcases List.mem_cons.mp (FormatRegistry.mem_of_get_ofList run.value_registered) with h | h
    · exact ⟨_, _, h⟩
    · obtain ⟨identifier, -, h⟩ := List.mem_map.mp h
      exact ⟨identifier, [], h.symm⟩
  have hpayload := (hsource spec hspec).2 identifier required decoders hprovider hdecoders
  rw [hcount] at hpayload
  exact ⟨spec, decoders, b, hspec, hdecoders, hkeys, hpayload, hdecoded, hcells, sink, hsink,
    hstored sink hsink⟩

end Resolver

end TopicTable
