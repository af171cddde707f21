import Mathlib.Data.List.Infix
import TopicTable.Proofs.Agreement
import TopicTable.Proofs.Codec
import TopicTable.Sample

/-! What a sink writes, the source of the same table reads back. The two directions agree on where
columns go and on the delimiters, so the codec's round trip applies to keys and to values, and
between them the columns of a batch are all recovered. -/

namespace TopicTable

namespace Batch

/-- The columns at positions of a batch. -/
def project (b : Batch) (positions : List Nat) : Batch :=
  ⟨b.rows, positions.filterMap fun p => b.columns[p]?⟩

/-- The same cells under the fields of a row. -/
def relabel (b : Batch) (row : RowType) : Batch :=
  ⟨b.rows, List.zipWith (fun f c => ⟨f, c.cells⟩) row b.columns⟩

/-- Fields that differ from those of a batch at most in their names. -/
def Renames (row : RowType) (columns : List BatchColumn) : Prop :=
  List.Forall₂ (fun f c => f.type = c.field.type ∧ f.nullable = c.field.nullable) row columns

theorem relabel_columns {row : RowType} {columns : List BatchColumn} (h : Renames row columns) :
    List.Forall₂ (fun c c' => c'.cells = c.cells ∧ c'.field.type = c.field.type ∧
      c'.field.nullable = c.field.nullable) columns
      (List.zipWith (fun f c => BatchColumn.mk f c.cells) row columns) := by
  induction h with
  | nil => exact .nil
  | cons h _ ih => exact .cons ⟨rfl, h.1, h.2⟩ ih

theorem relabel_fields {row : RowType} {columns : List BatchColumn} (h : Renames row columns) :
    (List.zipWith (fun f c => BatchColumn.mk f c.cells) row columns).map (·.field) = row := by
  induction h with
  | nil => rfl
  | cons _ _ ih => exact congrArg (_ :: ·) ih

theorem relabel_schema {b : Batch} {row : RowType} (h : Renames row b.columns) :
    (b.relabel row).schema = row :=
  relabel_fields h

theorem relabel_rowTexts {b : Batch} {row : RowType} (h : Renames row b.columns) (i : Nat) :
    Delimited.rowTexts (b.relabel row) i = Delimited.rowTexts b i := by
  have hcolumns := relabel_columns h
  unfold Delimited.rowTexts
  symm
  rw [← List.forall₂_eq_eq_eq, List.forall₂_map_left_iff, List.forall₂_map_right_iff]
  exact hcolumns.imp fun c c' hc => by rw [hc.1]

end Batch

open Outcome

namespace Delimited

theorem Writable.relabel {d : Char} {b : Batch} (hb : Writable d b) {row : RowType}
    (h : Batch.Renames row b.columns) : Writable d (b.relabel row) := by
  have hold : ∀ c' ∈ (b.relabel row).columns, ∃ c ∈ b.columns, c'.cells = c.cells ∧
      c'.field.type = c.field.type ∧ c'.field.nullable = c.field.nullable :=
    fun c' hc' => partner_of_mem (Batch.relabel_columns h).flip hc'
  refine ⟨⟨?_, ?_, ?_⟩, ?_, ?_⟩
  · intro c' hc'
    obtain ⟨c, hc, hcells, -⟩ := hold c' hc'
    rw [hcells]
    exact hb.wellFormed.length c hc
  · intro c' hc'
    obtain ⟨c, hc, hcells, htype, -⟩ := hold c' hc'
    rw [hcells, htype]
    exact hb.wellFormed.fits c hc
  · intro c' hc'
    obtain ⟨c, hc, hcells, htype, hnullable⟩ := hold c' hc'
    rw [hcells, htype, hnullable]
    exact hb.wellFormed.notNull c hc
  · intro c' hc'
    obtain ⟨c, hc, -, htype, -⟩ := hold c' hc'
    rw [htype]
    exact hb.textual c hc
  · intro c' hc'
    obtain ⟨c, hc, hcells, -⟩ := hold c' hc'
    rw [hcells]
    exact hb.clean c hc

/-- Names play no part in what is written. -/
theorem decode_encode_renamed {r : Reader} {d : Char} {b : Batch}
    (hd : r.delimiter.toList = [d]) (hmeta : r.metadataFields = 0)
    (hrow : Batch.Renames r.fields b.columns) (hb : Writable d b) :
    ∃ records, encode r.delimiter b = .ok records ∧
      r.decode records = .ok (recoveredBatch (b.relabel r.fields)) := by
  have hlabelled := hb.relabel hrow
  obtain ⟨records, hwritten, hread⟩ :=
    Reader.decode_encode hd hmeta (Batch.relabel_schema hrow) hlabelled
  refine ⟨records, ?_, hread⟩
  rw [← hwritten, encode_ok hb, encode_ok hlabelled]
  simp only [Batch.relabel_rowTexts hrow]
  rfl

end Delimited

/-- The columns at `written`, sent through an encoder and a decoder, come back at `read`. -/
def ReadsBack (b : Batch) (written read : List Nat) (encoder : Encoder) (decoder : Decoder) :
    Prop :=
  ∃ records back, encoder.encode (b.project written) = .ok records ∧
    decoder.decode records = .ok back ∧ back.rows = b.rows ∧ back.schema = decoder.schema ∧
    List.Forall₂ (fun p (column : BatchColumn) => ∃ original, b.columns[p]? = some original ∧
      column.cells = original.cells.map (Delimited.recovered original.field.type))
      read back.columns

/-- A format of delimited text whose delimiter is one character. -/
structure DelimitedSide (format : DiscoveredFormat) : Prop where
  provider : ∃ identifier required, format.provider = Delimited.provider identifier required
  single : (Delimited.delimiter format.options).length = 1

/-- No text of the columns at the positions contains the delimiter. -/
def Clean (b : Batch) (delimiter : String) (positions : List Nat) : Prop :=
  ∀ p ∈ positions, ∀ column ∈ b.columns[p]?, ∀ cell ∈ column.cells,
    ¬ delimiter.toList <:+: (Delimited.cellString cell).toList

instance (b : Batch) (delimiter : String) (positions : List Nat) :
    Decidable (Clean b delimiter positions) :=
  inferInstanceAs (Decidable (∀ p ∈ positions, ∀ column ∈ b.columns[p]?, ∀ cell ∈ column.cells,
    ¬ delimiter.toList <:+: (Delimited.cellString cell).toList))

/-- Fields at positions of a row, up to their names. -/
def FieldsAt (physical : RowType) (positions : List Nat) (row : RowType) : Prop :=
  List.Forall₂ (fun p f => ∃ whole, physical[p]? = some whole ∧ f.type = whole.type ∧
    f.nullable = whole.nullable) positions row

section Side

variable {b : Batch} {positions : List Nat}

theorem project_columns (h : ∀ p ∈ positions, p < b.columns.length) :
    List.Forall₂ (fun p c => b.columns[p]? = some c) positions (b.project positions).columns :=
  project_forall h

theorem renames_project {row : RowType} (hrow : FieldsAt b.schema positions row) :
    Batch.Renames row (b.project positions).columns := by
  unfold Batch.project
  induction hrow with
  | nil => exact .nil
  | @cons p f _ _ hf _ ih =>
    obtain ⟨whole, hwhole, htype, hnullable⟩ := hf
    rw [Batch.schema, List.getElem?_map, Option.map_eq_some_iff] at hwhole
    obtain ⟨c, hc, rfl⟩ := hwhole
    dsimp only
    rw [List.filterMap_cons_some hc]
    exact .cons ⟨htype, hnullable⟩ ih

theorem writable_project {d : Char} {delimiter : String} (hd : delimiter.toList = [d])
    (hwell : b.WellFormed)
    (htext : ∀ c ∈ b.columns, (Delimited.TextType.of? c.field.type).isSome = true)
    (hclean : Clean b delimiter positions) : Delimited.Writable d (b.project positions) := by
  have hmem : ∀ c ∈ (b.project positions).columns, ∃ p ∈ positions, b.columns[p]? = some c :=
    fun c hc => List.mem_filterMap.mp hc
  have hold : ∀ c ∈ (b.project positions).columns, c ∈ b.columns := by
    intro c hc
    obtain ⟨p, -, hp⟩ := hmem c hc
    exact List.mem_of_getElem? hp
  refine ⟨⟨?_, ?_, ?_⟩, ?_, ?_⟩
  · exact fun c hc => hwell.length c (hold c hc)
  · exact fun c hc => hwell.fits c (hold c hc)
  · exact fun c hc => hwell.notNull c (hold c hc)
  · exact fun c hc => htext c (hold c hc)
  · intro c hc cell hcell hin
    obtain ⟨p, hp, hat⟩ := hmem c hc
    have hnot := hclean p hp c hat cell hcell
    rw [hd, List.singleton_infix_iff] at hnot
    exact hnot hin

end Side

/-- One side of a record: the formats of the two directions share provider and delimiter. -/
theorem side_reads_back {b : Batch} {positions : List Nat} {f g : FormatHandle}
    {decoder : Decoder} {encoder : Encoder}
    (hsame : SameFormat f.toDiscoveredFormat g.toDiscoveredFormat)
    (hside : DelimitedSide g.toDiscoveredFormat) (hkeys : f.metadataKeys = [])
    (hrow : FieldsAt b.schema positions f.rowType) (hwell : b.WellFormed)
    (htext : ∀ c ∈ b.columns, (Delimited.TextType.of? c.field.type).isSome = true)
    (hclean : Clean b (Delimited.delimiter g.options) positions)
    (hdecoder : f.decoder = .ok decoder) (hencoder : g.encoder = .ok encoder) :
    ReadsBack b positions positions encoder decoder := by
  obtain ⟨identifier, required, hprovider⟩ := hside.provider
  have hdelimiter : Delimited.delimiter f.options = Delimited.delimiter g.options := by
    unfold Delimited.delimiter
    rw [hsame.option _ (by decide)]
  obtain ⟨d, hd⟩ := List.length_eq_one_iff.mp (String.length_toList.trans hside.single)
  unfold FormatHandle.decoder at hdecoder
  unfold FormatHandle.encoder at hencoder
  rw [hsame.provider, hprovider] at hdecoder
  rw [hprovider] at hencoder
  obtain ⟨failOnMissing, rfl⟩ := Delimited.decoder_ok hdecoder
  cases hencoder
  have hb := writable_project hd hwell htext hclean
  have hrename := renames_project hrow
  obtain ⟨records, hwritten, hread⟩ := Delimited.decode_encode_renamed
    (r := ⟨f.rowType, Delimited.delimiter f.options, f.metadataKeys.length, failOnMissing⟩)
    (hdelimiter ▸ hd) (by rw [hkeys]; rfl) hrename hb
  refine ⟨records, _, hdelimiter ▸ hwritten, hread, rfl, ?_, ?_⟩
  · have hschema := Batch.relabel_schema hrename
    unfold Batch.schema at hschema ⊢
    unfold Delimited.recoveredBatch
    rw [List.map_map]
    exact hschema
  · have hbound : ∀ p ∈ positions, p < b.columns.length := by
      intro p hp
      obtain ⟨_, -, whole, hwhole, -⟩ := partner_of_mem hrow hp
      rw [Batch.schema, List.getElem?_map, Option.map_eq_some_iff] at hwhole
      obtain ⟨c, hc, -⟩ := hwhole
      exact (List.getElem?_eq_some_iff.mp hc).1
    have hcolumns := compose_partners (project_columns hbound) (Batch.relabel_columns hrename)
    unfold Delimited.recoveredBatch
    rw [List.forall₂_map_right_iff]
    refine hcolumns.imp fun p c' h => ?_
    obtain ⟨c, hc, hcells, htype, -⟩ := h
    exact ⟨c, hc, by rw [hcells, htype]⟩

namespace Resolver

/-- A schema without metadata columns asks nothing of records or formats. -/
theorem metadata_of_plain {access : MetadataAccess} {name : TableName} {schema : Schema}
    {declared : MetadataTypes} {keys : MetadataKeys}
    (hplain : ∀ c ∈ schema.columns, c.isMetadata = false)
    (h : MetadataKeys.ofSchema access name schema declared = .ok keys) : keys = ⟨[], [], []⟩ := by
  have hnone : schema.metadataColumns = [] := by
    unfold Schema.metadataColumns
    rw [List.filter_eq_nil_iff]
    intro c hc
    simp [hplain c hc]
  unfold MetadataKeys.ofSchema at h
  cases access <;> simp only [MetadataAccess.columns, hnone, List.filter_nil, List.foldlM_nil] at h
  all_goals exact (pure_ok_iff.mp h).symm

/-- What comes back of a batch that the sink of a table wrote and its source read. -/
structure RoundTrip (b : Batch) (source : SourceSpec) (decoders : SourceDecoders)
    (sink : SinkSpec) (encoders : SinkEncoders) : Prop where
  value : ReadsBack b sink.layout.value source.layout.value encoders.value decoders.value
  key : Option.Rel (ReadsBack b sink.layout.key source.layout.key) encoders.key? decoders.key?
  keyless : decoders.key? = none → source.layout.key = []
  covered : ∀ p < b.columns.length, p ∈ source.layout.key ∨ p ∈ source.layout.value

theorem registered_of_sink {r : Resolver} {table : TableDefinition} {spec : SinkSpec}
    (h : r.sink table = .ok spec) :
    r.formats.get? spec.valueFormat.identifier = some spec.valueFormat.provider ∧
      ∀ key, spec.keyFormat? = some key → r.formats.get? key.identifier = some key.provider := by
  obtain ⟨run⟩ := sink_run h
  obtain ⟨_, ⟨formats⟩, -⟩ := checkedFormats_run run.formats_ok
  rw [run.spec_eq]
  dsimp only
  rw [run.rows_run.value_eq, run.rows_run.key_eq]
  refine ⟨(find_some formats.value_found).registered, fun key hkey => ?_⟩
  obtain ⟨format, hformat, rfl⟩ := Option.map_eq_some_iff.mp hkey
  have hfound := formats.key_found
  rw [hformat] at hfound
  exact (find_some hfound).registered

/-- The codec rows of a source without metadata are its columns under other names. -/
theorem SourceRun.plain_rows {r : Resolver} {table : TableDefinition} {spec : SourceSpec}
    (run : SourceRun r table spec) (hplain : ∀ c ∈ table.schema.columns, c.isMetadata = false) :
    spec.valueFormat.metadataKeys = [] ∧
      FieldsAt table.schema.physicalRow spec.layout.value spec.valueFormat.rowType ∧
      ∀ key, spec.keyFormat? = some key → key.metadataKeys = [] ∧
        FieldsAt table.schema.physicalRow spec.layout.key key.rowType := by
  have hplaced := run.columns_placed
  have hmetadata := metadata_of_plain hplain run.rows_run.metadata_ok
  have hphysical : spec.physical = table.schema.physicalRow := hplaced.physical_eq
  have hvalue : spec.valueFormat = .ofFormat run.found.value
      (declaredFor .read run.found.value) [] (run.rows.layout.valueRow spec.physical) := by
    have hrows := run.rows_run.value_eq
    rw [hmetadata, ← hphysical] at hrows
    exact (congrArg SourceSpec.valueFormat run.spec_eq).trans hrows
  have hrow : spec.valueFormat.rowType = spec.physical.project spec.layout.value := by
    have hlayout : spec.layout = run.rows.layout := congrArg SourceSpec.layout run.spec_eq
    rw [hvalue, hlayout]
    exact List.append_nil _
  refine ⟨by rw [hvalue]; rfl, ?_, fun key hkey => ⟨?_, ?_⟩⟩
  · have hbound : ∀ p ∈ spec.layout.value, p < spec.physical.length := by
      intro p hp
      rw [hplaced.physical_eq, List.length_map]
      exact hplaced.value_bound p hp
    have hproject := project_forall hbound
    rw [hrow, ← hphysical]
    exact hproject.imp fun p f hf => ⟨f, hf, rfl, rfl⟩
  · have hformat := (congrArg SourceSpec.keyFormat? run.spec_eq).trans run.rows_run.key_eq
    rw [hkey] at hformat
    obtain ⟨format, -, rfl⟩ := Option.map_eq_some_iff.mp hformat.symm
    rfl
  · rw [← hphysical]
    refine (hplaced.key_row key hkey).imp fun p f hf => ?_
    obtain ⟨whole, hwhole, -, htype, hnullable⟩ := hf
    exact ⟨whole, hwhole, htype, hnullable⟩

/-- The key side of a record, where there is one. -/
theorem key_reads_back {b : Batch} {positions : List Nat} {f? g? : Option FormatHandle}
    {decoder? : Option Decoder} {encoder? : Option Encoder}
    (hdecoder : Option.Rel (fun f decoder => f.decoder = .ok decoder) f? decoder?)
    (hencoder : Option.Rel (fun g encoder => g.encoder = .ok encoder) g? encoder?)
    (hsame : Option.Rel (fun f g : FormatHandle =>
      SameFormat f.toDiscoveredFormat g.toDiscoveredFormat ∧ f.rowType = g.rowType) f? g?)
    (hside : ∀ f g decoder encoder, f? = some f → g? = some g →
      SameFormat f.toDiscoveredFormat g.toDiscoveredFormat → f.decoder = .ok decoder →
        g.encoder = .ok encoder → ReadsBack b positions positions encoder decoder) :
    Option.Rel (ReadsBack b positions positions) encoder? decoder? := by
  cases hsame with
  | none =>
    cases hdecoder
    cases hencoder
    exact .none
  | some hformat =>
    cases hdecoder with
    | some hdecoder =>
      cases hencoder with
      | some hencoder => exact .some (hside _ _ _ _ rfl rfl hformat.1 hdecoder hencoder)

/-- Whatever a batch of a delimited table holds, writing it and reading it back loses nothing
but the difference between a null string and an empty one. -/
theorem written_batch_reads_back (r : Resolver) (table : TableDefinition) (source : SourceSpec)
    (sink : SinkSpec) (decoders : SourceDecoders) (encoders : SinkEncoders) (b : Batch)
    (hplain : ∀ c ∈ table.schema.columns, c.isMetadata = false)
    (htypes : ∀ f ∈ table.schema.physicalRow, f.type ∈
      [DataType.utf8, DataType.int32, DataType.int64, DataType.boolean])
    (hsource : r.source table = .ok source) (hsink : r.sink table = .ok sink)
    (hdecoders : source.decoders = .ok decoders) (hencoders : sink.encoders = .ok encoders)
    (hvalue : DelimitedSide sink.valueFormat.toDiscoveredFormat)
    (hkey : ∀ key, sink.keyFormat? = some key → DelimitedSide key.toDiscoveredFormat)
    (hschema : b.schema = table.schema.physicalRow) (hwell : b.WellFormed)
    (hcleanValue : Clean b (Delimited.delimiter sink.valueFormat.options) sink.layout.value)
    (hcleanKey : ∀ key, sink.keyFormat? = some key →
      Clean b (Delimited.delimiter key.options) sink.layout.key) :
    RoundTrip b source decoders sink encoders := by
  obtain ⟨scan⟩ := source_run hsource
  have hplaced := scan.columns_placed
  have hsame := counterparts hsource hsink
  obtain ⟨hvalueKeys, hvalueRow, hkeyRow⟩ := scan.plain_rows hplain
  rw [← hschema] at hvalueRow hkeyRow
  have htext : ∀ c ∈ b.columns, (Delimited.TextType.of? c.field.type).isSome = true := by
    intro c hc
    have hmem : c.field ∈ table.schema.physicalRow := by
      rw [← hschema]
      exact List.mem_map_of_mem hc
    have htype := htypes c.field hmem
    simp only [List.mem_cons, List.not_mem_nil, or_false] at htype
    rcases htype with h | h | h | h <;> rw [h] <;> rfl
  obtain ⟨keyDecoder?, hkeyDecoder, hdecoders⟩ := bind_ok_iff.mp hdecoders
  obtain ⟨valueDecoder, hvalueDecoder, hdecoders⟩ := bind_ok_iff.mp hdecoders
  obtain ⟨keyEncoder?, hkeyEncoder, hencoders⟩ := bind_ok_iff.mp hencoders
  obtain ⟨valueEncoder, hvalueEncoder, hencoders⟩ := bind_ok_iff.mp hencoders
  cases hdecoders
  cases hencoders
  have hkeyDecoders := optional_ok_iff.mp hkeyDecoder
  have hkeyEncoders := optional_ok_iff.mp hkeyEncoder
  refine ⟨?_, ?_, fun hnone => ?_, fun p hp => ?_⟩
  · rw [hsame.layout] at hvalueRow ⊢
    exact side_reads_back hsame.value hvalue hvalueKeys hvalueRow hwell htext hcleanValue
      hvalueDecoder hvalueEncoder
  · rw [hsame.layout] at hkeyRow ⊢
    refine key_reads_back hkeyDecoders hkeyEncoders hsame.key ?_
    intro f g decoder encoder hf hg hformat hdecoder hencoder
    obtain ⟨hmeta, hrow⟩ := hkeyRow f hf
    exact side_reads_back hformat (hkey g hg) hmeta hrow hwell htext (hcleanKey g hg) hdecoder
      hencoder
  · dsimp only at hnone
    subst hnone
    refine hplaced.key_empty.mpr ?_
    generalize source.keyFormat? = f? at hkeyDecoders ⊢
    cases hkeyDecoders
    rfl
  · refine hplaced.covered p ?_
    have hlength := congrArg List.length hschema
    simp only [Batch.schema, Schema.physicalRow, List.length_map] at hlength
    omega

theorem prefixed_rows_read_back : ∃ source sink decoders encoders,
    Sample.delimitedOnly.source Sample.prefixedKeys = .ok source ∧
    Sample.delimitedOnly.sink Sample.prefixedKeys = .ok sink ∧
    source.decoders = .ok decoders ∧ sink.encoders = .ok encoders ∧
    source.layout = ⟨[2, 0], [1, 3]⟩ ∧
    RoundTrip Sample.prefixedRows source decoders sink encoders := by
  obtain ⟨decoders, hread⟩ := exists_ok
    (x := Sample.delimitedOnly.source Sample.prefixedKeys >>= (·.decoders)) (by decide +kernel)
  obtain ⟨source, hsource, hdecoders⟩ := bind_ok_iff.mp hread
  obtain ⟨encoders, hwrite⟩ := exists_ok
    (x := Sample.delimitedOnly.sink Sample.prefixedKeys >>= (·.encoders)) (by decide +kernel)
  obtain ⟨sink, hsink, hencoders⟩ := bind_ok_iff.mp hwrite
  have hshape : (Sample.delimitedOnly.sink Sample.prefixedKeys).map (fun s =>
      (s.layout, Delimited.delimiter s.valueFormat.options,
        s.keyFormat?.map fun key => Delimited.delimiter key.options)) =
      .ok (⟨[2, 0], [1, 3]⟩, ",", some "#") := by decide +kernel
  rw [hsink] at hshape
  obtain ⟨hlayout, hcomma, hhash⟩ : sink.layout = ⟨[2, 0], [1, 3]⟩ ∧
      Delimited.delimiter sink.valueFormat.options = "," ∧
      (sink.keyFormat?.map fun key => Delimited.delimiter key.options) = some "#" := by
    simpa [Except.map] using hshape
  have hprovided : ∀ identifier provider,
      Sample.delimitedOnly.formats.get? identifier = some provider →
      ∃ identifier required, provider = Delimited.provider identifier required := by
    intro identifier provider h
    exact ⟨"csv", [], List.mem_singleton.mp (FormatRegistry.mem_of_get_ofList h)⟩
  obtain ⟨hvalue, hkey⟩ := registered_of_sink hsink
  have hkeyHash : ∀ key, sink.keyFormat? = some key → Delimited.delimiter key.options = "#" := by
    intro key h
    rw [h] at hhash
    exact Option.some.inj hhash
  have htrip := written_batch_reads_back Sample.delimitedOnly Sample.prefixedKeys source sink
    decoders encoders Sample.prefixedRows (by decide) (by decide) hsource hsink hdecoders hencoders
    ⟨hprovided _ _ hvalue, by rw [hcomma]; rfl⟩
    (fun key h => ⟨hprovided _ _ (hkey key h), by rw [hkeyHash key h]; rfl⟩)
    (by decide) ⟨by decide, by decide, by decide⟩
    (by rw [hcomma, hlayout]; decide)
    (fun key h => by rw [hkeyHash key h, hlayout]; decide)
  refine ⟨source, sink, decoders, encoders, hsource, hsink, hdecoders, hencoders, ?_, htrip⟩
  rw [(counterparts hsource hsink).layout, hlayout]

end Resolver

end TopicTable
