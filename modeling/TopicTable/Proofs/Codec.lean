import TopicTable.Format.Delimited
import TopicTable.Proofs.Numerals
import TopicTable.Proofs.Outcome

/-! Delimited text read back. A record holds the texts of a row, joined by the delimiter; where no
text contains the delimiter the fields are found again, and each cell reads as it was written,
except that a null string is an empty one. Metadata behind the payload is written as empty fields
that nothing reads. -/

namespace TopicTable

open Outcome

namespace Text

theorem fieldsBy_single (d : Char) (s : List Char) : fieldsBy d [] s = s.splitOn d := by
  induction s with
  | nil => simp [fieldsBy, stripChars?]
  | cons c s ih =>
    rw [fieldsBy]
    split
    next rest hstrip =>
      have heq : c :: s = d :: rest := stripChars?_eq_some_iff.mp hstrip
      obtain ⟨rfl, rfl⟩ := List.cons.inj heq
      have hsplit := List.splitOn_append_cons_self (a := c) [] s
      rw [List.nil_append, List.splitOn_nil] at hsplit
      rw [ih, hsplit]
      rfl
    next hstrip =>
      have hne : c ≠ d := by
        rintro rfl
        have hfound : stripChars? [c] (c :: s) = some s := stripChars?_eq_some_iff.mpr rfl
        rw [hfound] at hstrip
        cases hstrip
      change (fieldsBy d [] s).modifyHead (c :: ·) = _
      rw [ih, List.splitOn_eq_splitOnP, List.splitOn_eq_splitOnP,
        List.splitOnP_cons_eq_if_modifyHead, if_neg (by simpa using hne)]

/-- The empty delimiter apart, splitting undoes joining where no part has the delimiter. -/
theorem splitFields_join {delimiter : String} {d : Char} (hd : delimiter.toList = [d])
    {texts : List String} (hclean : ∀ t ∈ texts, d ∉ t.toList) (hne : texts ≠ []) :
    splitFields delimiter (delimiter.intercalate texts) = texts := by
  unfold splitFields
  rw [hd]
  simp only [fieldsBy_single, String.toList_intercalate, hd]
  rw [List.splitOn_intercalate]
  · simp
  · intro l hl
    obtain ⟨t, ht, rfl⟩ := List.mem_map.mp hl
    exact hclean t ht
  · simpa using hne

theorem decodeUtf8_toUTF8 (s : String) : decodeUtf8 s.toUTF8 = .ok s := by
  have hvalid : s.toUTF8.IsValidUTF8 := s.isValidUTF8
  unfold decodeUtf8 String.fromUTF8?
  rw [dif_pos hvalid]
  rfl

end Text

/-- The nulls of a column are ones that its field allows. -/
def BatchColumn.NullsAllowed (c : BatchColumn) : Prop :=
  c.field.nullable = false → c.field.type.nullBuffer = true → .null ∉ c.cells

theorem Batch.nullViolation_none_iff {b : Batch} :
    b.nullViolation? = none ↔ ∀ c ∈ b.columns, c.NullsAllowed := by
  unfold nullViolation? BatchColumn.NullsAllowed
  rw [Option.map_eq_none_iff, List.find?_eq_none]
  simp [not_and]

namespace Delimited

/-- The text of a cell, empty for a cell without one. -/
def cellString (cell : Cell) : String := (cellText? cell).getD ""

/-- A cell as it comes back: strings have no null of their own. -/
def recovered (type : DataType) (cell : Cell) : Cell :=
  if cell = .null ∧ type = .utf8 then .text "" else cell

theorem TextType.of_eq_some {type : DataType} {text : TextType}
    (h : TextType.of? type = some text) : (type = .utf8 ∧ text = .utf8) ∨
      (type = .int32 ∧ text = .int32) ∨ (type = .int64 ∧ text = .int64) ∨
      (type = .boolean ∧ text = .boolean) := by
  unfold TextType.of? at h
  split at h
  · cases h
    exact Or.inl ⟨‹_›, rfl⟩
  split at h
  · cases h
    exact Or.inr (Or.inl ⟨‹_›, rfl⟩)
  split at h
  · cases h
    exact Or.inr (Or.inr (Or.inl ⟨‹_›, rfl⟩))
  split at h
  · cases h
    exact Or.inr (Or.inr (Or.inr ⟨‹_›, rfl⟩))
  · cases h

/-- Reading the text of a cell of its type gives the cell back. -/
theorem readCell_cellString {field : Field} {text : TextType} {cell : Cell}
    (ht : TextType.of? field.type = some text) (hfits : Batch.Fits field.type cell) :
    readCell field text (some (cellString cell)) = .ok (recovered field.type cell) := by
  cases cell with
  | null =>
    rcases TextType.of_eq_some ht with ⟨h, rfl⟩ | ⟨h, rfl⟩ | ⟨h, rfl⟩ | ⟨h, rfl⟩ <;>
      simp [readCell, cellString, cellText?, recovered, TextType.read?, h]
  | text s =>
    have htype : field.type = .utf8 := hfits
    rcases TextType.of_eq_some ht with ⟨-, rfl⟩ | ⟨h, -⟩ | ⟨h, -⟩ | ⟨h, -⟩
    · simp [readCell, cellString, cellText?, recovered, TextType.read?]
    all_goals cases htype.symm.trans h
  | int32 n =>
    have htype : field.type = .int32 := hfits
    rcases TextType.of_eq_some ht with ⟨h, -⟩ | ⟨-, rfl⟩ | ⟨h, -⟩ | ⟨h, -⟩
    · cases htype.symm.trans h
    · simp [readCell, cellString, cellText?, recovered, TextType.read?, Text.repr_ne_empty,
        Text.parseInt32_repr, Except.toOption]
    all_goals cases htype.symm.trans h
  | int64 n =>
    have htype : field.type = .int64 := hfits
    rcases TextType.of_eq_some ht with ⟨h, -⟩ | ⟨h, -⟩ | ⟨-, rfl⟩ | ⟨h, -⟩
    · cases htype.symm.trans h
    · cases htype.symm.trans h
    · simp [readCell, cellString, cellText?, recovered, TextType.read?, Text.repr_ne_empty,
        Text.parseInt64_repr, Except.toOption]
    · cases htype.symm.trans h
  | boolean b =>
    have htype : field.type = .boolean := hfits
    rcases TextType.of_eq_some ht with ⟨h, -⟩ | ⟨h, -⟩ | ⟨h, -⟩ | ⟨-, rfl⟩
    · cases htype.symm.trans h
    · cases htype.symm.trans h
    · cases htype.symm.trans h
    · cases b <;> simp [readCell, cellString, cellText?, recovered, TextType.read?]
  | foreign =>
    obtain ⟨h₁, h₂, h₃, h₄, -⟩ := hfits
    rcases TextType.of_eq_some ht with ⟨h, -⟩ | ⟨h, -⟩ | ⟨h, -⟩ | ⟨h, -⟩
    · exact absurd h h₁
    · exact absurd h h₂
    · exact absurd h h₃
    · exact absurd h h₄

/-- A cell that its column has a text for. Without a buffer for nulls there is none for these. -/
def Printable (field : Field) (cell : Cell) : Prop :=
  if cell = .null then field.type.nullBuffer = true
  else (TextType.of? field.type).isSome = true

theorem writeCell_ok_iff {field : Field} {cell : Cell} {s : String}
    (hfits : Batch.Fits field.type cell) :
    writeCell field cell = .ok s ↔ Printable field cell ∧ s = cellString cell := by
  have htext : ∀ {t : String} {result : Except CodecError String},
      result = (if (TextType.of? field.type).isSome then .ok t
        else .error (unsupportedType field)) →
      (result = .ok s ↔ (TextType.of? field.type).isSome = true ∧ s = t) := by
    rintro t result rfl
    by_cases htype : (TextType.of? field.type).isSome = true
    · simp [htype, eq_comm]
    · simp [htype]
  unfold Printable
  cases cell with
  | null =>
    rw [if_pos rfl]
    by_cases hbuffer : field.type.nullBuffer = true
    · simp [writeCell, cellString, cellText?, hbuffer, eq_comm]
    · simp [writeCell, hbuffer]
  | foreign =>
    obtain ⟨h₁, h₂, h₃, h₄, -⟩ := hfits
    have hnone : TextType.of? field.type = none := by simp [TextType.of?, h₁, h₂, h₃, h₄]
    simp [writeCell, cellText?, hnone]
  | text t => exact htext rfl
  | int32 n => exact htext rfl
  | int64 n => exact htext rfl
  | boolean b => exact htext rfl

theorem nullBuffer_of_textual {type : DataType} (ht : (TextType.of? type).isSome = true) :
    type.nullBuffer = true := by
  obtain ⟨text, htext⟩ := Option.isSome_iff_exists.mp ht
  rcases TextType.of_eq_some htext with ⟨rfl, -⟩ | ⟨rfl, -⟩ | ⟨rfl, -⟩ | ⟨rfl, -⟩ <;> rfl

/-- A column of a type with a text has one for all its cells, the nulls among them. -/
theorem printable_of_textual {field : Field} (ht : (TextType.of? field.type).isSome = true)
    (cell : Cell) : Printable field cell := by
  unfold Printable
  split
  · exact nullBuffer_of_textual ht
  · exact ht

/-- The texts of a row of a batch. -/
def rowTexts (b : Batch) (i : Nat) : List String :=
  b.columns.map fun c => cellString (c.cells.getD i .null)

/-- The batch that comes back for a written one. -/
def recoveredBatch (b : Batch) : Batch :=
  ⟨b.rows, b.columns.map fun c => ⟨c.field, c.cells.map (recovered c.field.type)⟩⟩

/-- The batch that comes back where rows end in metadata: only the payload is read. -/
def reread (payload : Nat) (b : Batch) : Batch :=
  ⟨b.rows, b.columns.mapIdx fun p c =>
    if p < payload then ⟨c.field, c.cells.map (recovered c.field.type)⟩ else c⟩

theorem reread_of_le {payload : Nat} {b : Batch} (h : b.columns.length ≤ payload) :
    reread payload b = recoveredBatch b := by
  unfold reread recoveredBatch
  refine congrArg (Batch.mk b.rows) (List.ext_getElem (by simp) fun p hp hp' => ?_)
  have hlt : p < payload := by
    rw [List.length_mapIdx] at hp
    omega
  simp [hlt]

/-- The decoders of the format are readers that know how many of the last fields are metadata. -/
theorem decoder_ok {identifier : String} {required : List String} {options : FormatOptions}
    {row : RowType} {metadataKeys : List String} {decoder : Decoder}
    (h : (provider identifier required).decoder options row metadataKeys = .ok decoder) :
    ∃ failOnMissing,
      decoder = Reader.decoder ⟨row, delimiter options, metadataKeys.length, failOnMissing⟩ := by
  obtain ⟨failOnMissing, -, hreader⟩ := bind_ok_iff.mp h
  cases hreader
  exact ⟨failOnMissing, rfl⟩

/-- A batch that can be written with a delimiter and told apart again. -/
structure Writable (d : Char) (b : Batch) : Prop where
  wellFormed : b.WellFormed
  textual : ∀ c ∈ b.columns, (TextType.of? c.field.type).isSome = true
  clean : ∀ c ∈ b.columns, ∀ cell ∈ c.cells, d ∉ (cellString cell).toList

/-- Writing succeeds exactly where every cell has a text, with one record for each row. -/
theorem encode_ok_iff {b : Batch} (hwell : b.WellFormed) {delimiter : String}
    {records : List Record} : encode delimiter b = .ok records ↔
      (∀ c ∈ b.columns, ∀ cell ∈ c.cells, Printable c.field cell) ∧
        records = (List.range b.rows).map fun i =>
          (delimiter.intercalate (rowTexts b i)).toUTF8 := by
  have hcolumns : ∀ texts, b.columns.mapM (fun c => c.cells.mapM (writeCell c.field)) = .ok texts ↔
      (∀ c ∈ b.columns, ∀ cell ∈ c.cells, Printable c.field cell) ∧
        texts = b.columns.map fun c => c.cells.map cellString := by
    intro texts
    refine mapM_ok_iff_map fun c hc columnTexts => mapM_ok_iff_map fun cell hcell s => ?_
    exact writeCell_ok_iff (hwell.fits c hc cell hcell)
  have hrow : ∀ i ∈ List.range b.rows,
      (b.columns.map fun c => c.cells.map cellString).filterMap (·[i]?) = rowTexts b i := by
    intro i hi
    rw [List.filterMap_map, rowTexts, List.filterMap_eq_map_iff_forall_eq_some]
    intro c hc
    have hlt : i < c.cells.length := by
      rw [hwell.length c hc]
      exact List.mem_range.mp hi
    simp [hlt]
  have hrecords : (List.range b.rows).map (fun i => (delimiter.intercalate
      ((b.columns.map fun c => c.cells.map cellString).filterMap (·[i]?))).toUTF8) =
      (List.range b.rows).map fun i => (delimiter.intercalate (rowTexts b i)).toUTF8 :=
    List.map_congr_left fun i hi => by rw [hrow i hi]
  unfold encode
  simp only [bind_ok_iff, pure_ok_iff, hcolumns]
  constructor
  · rintro ⟨_, ⟨hprintable, rfl⟩, rfl⟩
    exact ⟨hprintable, hrecords⟩
  · rintro ⟨hprintable, rfl⟩
    exact ⟨_, ⟨hprintable, rfl⟩, hrecords⟩

theorem encode_ok {d : Char} {b : Batch} (hb : Writable d b) (delimiter : String) :
    encode delimiter b = .ok ((List.range b.rows).map fun i =>
      (delimiter.intercalate (rowTexts b i)).toUTF8) := by
  refine (encode_ok_iff hb.wellFormed).mpr ⟨?_, rfl⟩
  intro c hc cell _
  exact printable_of_textual (hb.textual c hc) cell

namespace Reader

variable {r : Reader} {d : Char} {b : Batch}

/-- A batch of the reader's rows that can be written and read again: behind the payload there are
nulls alone, of types that keep so many, and no text has the delimiter in it. -/
structure Rereadable (r : Reader) (d : Char) (b : Batch) : Prop where
  schema : b.schema = r.fields
  wellFormed : b.WellFormed
  payload : ∀ (p : Nat) (c : BatchColumn), b.columns[p]? = some c → p < r.payload →
    (TextType.of? c.field.type).isSome = true
  metadata : ∀ (p : Nat) (c : BatchColumn), b.columns[p]? = some c → r.payload ≤ p →
    c.field.type.nullBuffer = true ∧ c.field.type.holdsNulls b.rows = true ∧
      ∀ cell ∈ c.cells, cell = .null
  clean : ∀ c ∈ b.columns, ∀ cell ∈ c.cells, d ∉ (cellString cell).toList

/-- Where no field is metadata the whole row is payload. -/
theorem rereadable_of_writable (hmeta : r.metadataFields = 0) (hschema : b.schema = r.fields)
    (hb : Writable d b) : Rereadable r d b := by
  refine ⟨hschema, hb.wellFormed, fun p c hc _ => hb.textual c (List.mem_of_getElem? hc), ?_,
    hb.clean⟩
  intro p c hc hp
  have hlt := (List.getElem?_eq_some_iff.mp hc).1
  have hlength : b.columns.length = r.fields.length := by
    rw [← hschema]
    exact (List.length_map ..).symm
  rw [payload, hmeta] at hp
  omega

/-- The fields that are found in a written row. -/
def foundFields (r : Reader) (b : Batch) (i : Nat) : List String :=
  Text.splitFields r.delimiter (r.delimiter.intercalate (rowTexts b i))

theorem Rereadable.length_eq (hb : Rereadable r d b) : b.columns.length = r.fields.length := by
  rw [← hb.schema]
  exact (List.length_map ..).symm

theorem Rereadable.encode_ok (hb : Rereadable r d b) (delimiter : String) :
    encode delimiter b = .ok ((List.range b.rows).map fun i =>
      (delimiter.intercalate (rowTexts b i)).toUTF8) := by
  refine (encode_ok_iff hb.wellFormed).mpr ⟨?_, rfl⟩
  intro c hc cell hcell
  obtain ⟨p, hp⟩ := List.mem_iff_getElem?.mp hc
  rcases Nat.lt_or_ge p r.payload with hpayload | hmetadata
  · exact printable_of_textual (hb.payload p c hp hpayload) cell
  · obtain ⟨hbuffer, -, hnull⟩ := hb.metadata p c hp hmetadata
    exact (if_pos (hnull cell hcell)).mpr hbuffer

/-- The fields of a written row; a row without columns has one empty field that nothing reads. -/
theorem Rereadable.split_row (hd : r.delimiter.toList = [d]) (hb : Rereadable r d b) {i : Nat}
    (hi : i < b.rows) (hne : b.columns ≠ []) : r.foundFields b i = rowTexts b i := by
  refine Text.splitFields_join hd (fun t ht => ?_) (by simpa [rowTexts] using hne)
  obtain ⟨c, hc, rfl⟩ := List.mem_map.mp ht
  have hlt : i < c.cells.length := by rwa [hb.wellFormed.length c hc]
  have hcell : c.cells.getD i .null ∈ c.cells := by
    simp [hlt]
  exact hb.clean c hc _ hcell

theorem Rereadable.readRecord_row (hd : r.delimiter.toList = [d]) (hb : Rereadable r d b)
    {i : Nat} (hi : i < b.rows) :
    r.readRecord (r.delimiter.intercalate (rowTexts b i)).toUTF8 = .ok (r.foundFields b i) := by
  have hcount : r.payload ≤ (r.foundFields b i).length := by
    have hp : r.payload ≤ b.columns.length := by
      rw [hb.length_eq]
      exact Nat.sub_le ..
    by_cases hne : b.columns = []
    · rw [hne] at hp
      exact Nat.le_trans hp (Nat.zero_le _)
    · rw [hb.split_row hd hi hne]
      simpa [rowTexts] using hp
  unfold readRecord
  rw [Text.decodeUtf8_toUTF8]
  exact if_neg fun h => absurd h.1 (Nat.not_lt.mpr hcount)

/-- The rows of a written batch, field by field. -/
theorem Rereadable.readRecords (hd : r.delimiter.toList = [d]) (hb : Rereadable r d b) :
    ((List.range b.rows).map fun i =>
      (r.delimiter.intercalate (rowTexts b i)).toUTF8).mapM r.readRecord =
      .ok ((List.range b.rows).map (r.foundFields b)) := by
  rw [List.mapM_map]
  refine mapM_ok_of_forall fun i hi => ?_
  exact hb.readRecord_row hd (List.mem_range.mp hi)

theorem Rereadable.readColumn_row (hd : r.delimiter.toList = [d]) (hb : Rereadable r d b)
    {p : Nat} {c : BatchColumn} (hc : b.columns[p]? = some c) :
    r.readColumn ((List.range b.rows).map (r.foundFields b)) p c.field =
      .ok (if p < r.payload then ⟨c.field, c.cells.map (recovered c.field.type)⟩ else c) := by
  have hmem : c ∈ b.columns := List.mem_of_getElem? hc
  have hlength := hb.wellFormed.length c hmem
  unfold readColumn
  rcases Nat.lt_or_ge p r.payload with hp | hp
  · obtain ⟨text, htext⟩ := Option.isSome_iff_exists.mp (hb.payload p c hc hp)
    rw [if_neg (Nat.not_le.mpr hp), htext, if_pos hp]
    refine map_ok_iff.mpr ⟨_, mapM_ok_iff.mpr (List.forall₂_iff_get.mpr ⟨?_, ?_⟩), rfl⟩
    · simp [hlength]
    · intro i hi hi'
      have hrow : i < b.rows := by simpa using hi
      have hcell : i < c.cells.length := by rwa [hlength]
      have hread : (rowTexts b i)[p]? = some (cellString c.cells[i]) := by
        simp [rowTexts, hc, hcell]
      have hne : b.columns ≠ [] := List.ne_nil_of_mem hmem
      simp only [List.get_eq_getElem, List.getElem_map, List.getElem_range]
      rw [hb.split_row hd hrow hne, hread]
      exact readCell_cellString htext (hb.wellFormed.fits c hmem _ (List.getElem_mem hcell))
  · obtain ⟨-, hholds, hnull⟩ := hb.metadata p c hc hp
    have hnulls : List.replicate b.rows .null = c.cells :=
      (List.eq_replicate_iff.mpr ⟨hlength, hnull⟩).symm
    rw [if_pos hp, if_neg (Nat.not_lt.mpr hp), List.length_map, List.length_range, nullColumn,
      if_pos hholds, hnulls]

/-- Reading adds no nulls. -/
theorem recovered_ne_null {type : DataType} {cell : Cell} (h : recovered type cell = .null) :
    cell = .null := by
  unfold recovered at h
  split at h
  · cases h
  · exact h

theorem recovered_nullsAllowed {c : BatchColumn} (h : c.NullsAllowed) :
    BatchColumn.NullsAllowed ⟨c.field, c.cells.map (recovered c.field.type)⟩ := by
  intro hnullable htype hnull
  obtain ⟨cell, hcell, hrecovered⟩ := List.mem_map.mp hnull
  rw [recovered_ne_null hrecovered] at hcell
  exact h hnullable htype hcell

theorem Rereadable.no_violation (hb : Rereadable r d b) :
    (reread r.payload b).nullViolation? = none := by
  rw [Batch.nullViolation_none_iff]
  intro column hcolumn
  obtain ⟨p, hp⟩ := List.mem_iff_getElem?.mp hcolumn
  unfold reread at hp
  rw [List.getElem?_mapIdx, Option.map_eq_some_iff] at hp
  obtain ⟨c, hc, rfl⟩ := hp
  have hallowed : c.NullsAllowed := hb.wellFormed.notNull c (List.mem_of_getElem? hc)
  split
  · exact recovered_nullsAllowed hallowed
  · exact hallowed

/-- A batch that can be written and read again comes back. -/
theorem Rereadable.decode_encode (hd : r.delimiter.toList = [d]) (hb : Rereadable r d b) :
    ∃ records, encode r.delimiter b = .ok records ∧
      r.decode records = .ok (reread r.payload b) := by
  refine ⟨_, hb.encode_ok r.delimiter, ?_⟩
  have hcolumns : r.fields.zipIdx.mapM (fun p =>
      r.readColumn ((List.range b.rows).map (r.foundFields b)) p.2 p.1) =
      .ok (reread r.payload b).columns := by
    rw [mapM_ok_iff, List.forall₂_iff_get]
    refine ⟨by simp [reread, hb.length_eq], fun p hp hp' => ?_⟩
    have hlt : p < b.columns.length := by simpa [hb.length_eq] using hp
    have hfield : r.fields[p]? = some b.columns[p].field := by
      rw [← hb.schema]
      simp [Batch.schema, hlt]
    obtain ⟨_, hfield⟩ := List.getElem?_eq_some_iff.mp hfield
    have hread := hb.readColumn_row hd (List.getElem?_eq_getElem hlt)
    simpa [reread, hfield] using hread
  unfold decode
  refine bind_ok_iff.mpr ⟨_, hb.readRecords hd, bind_ok_iff.mpr ⟨_, hcolumns, ?_⟩⟩
  have hcount : ((List.range b.rows).map fun i =>
      (r.delimiter.intercalate (rowTexts b i)).toUTF8).length = b.rows := by simp
  have hviolation := hb.no_violation
  simp only [hcount]
  unfold reread at hviolation ⊢
  simp only [hviolation]
  rfl

/-- A written batch reads back. -/
theorem decode_encode (hd : r.delimiter.toList = [d]) (hmeta : r.metadataFields = 0)
    (hschema : b.schema = r.fields) (hb : Writable d b) :
    ∃ records, encode r.delimiter b = .ok records ∧ r.decode records = .ok (recoveredBatch b) := by
  have hreread := rereadable_of_writable hmeta hschema hb
  have hall : reread r.payload b = recoveredBatch b := by
    refine reread_of_le ?_
    rw [hreread.length_eq, payload, hmeta]
    exact Nat.le_refl _
  rw [← hall]
  exact hreread.decode_encode hd

theorem nullColumn_ok_iff {field : Field} {count : Nat} {c : BatchColumn} :
    nullColumn field count = .ok c ↔ c.field = field ∧
      c.cells = List.replicate count .null ∧ field.type.holdsNulls count = true := by
  unfold nullColumn
  split
  next hholds =>
    rw [Except.ok.injEq]
    constructor
    · rintro rfl
      exact ⟨rfl, rfl, hholds⟩
    · rintro ⟨rfl, hcells, -⟩
      rw [← hcells]
  next hholds => simp [hholds]

/-- A column of the payload reads its own field of every row; a column behind the payload is
filled with nulls, where its type has so many. -/
theorem readColumn_ok_iff {rows : List (List String)} {p : Nat} {field : Field}
    {c : BatchColumn} : r.readColumn rows p field = .ok c ↔ c.field = field ∧
      if r.payload ≤ p then c.cells = List.replicate rows.length .null ∧
        field.type.holdsNulls rows.length = true
      else ∃ type, TextType.of? field.type = some type ∧
        List.Forall₂ (fun row cell => readCell field type row[p]? = .ok cell) rows c.cells := by
  unfold readColumn
  by_cases hp : r.payload ≤ p
  · simp only [if_pos hp, nullColumn_ok_iff]
  · simp only [if_neg hp]
    cases htype : TextType.of? field.type with
    | none => simp
    | some type =>
      simp only [map_ok_iff, mapM_ok_iff, Option.some.injEq, exists_eq_left']
      constructor
      · rintro ⟨cells, hcells, rfl⟩
        exact ⟨rfl, hcells⟩
      · rintro ⟨rfl, hcells⟩
        exact ⟨c.cells, hcells, rfl⟩

/-- Records are read one by one, and columns are read from what they hold. -/
theorem decode_ok_iff {records : List Record} : r.decode records = .ok b ↔
    ∃ rows, List.Forall₂ (fun record row => r.readRecord record = .ok row) records rows ∧
      List.Forall₂ (fun p c => r.readColumn rows p.2 p.1 = .ok c) r.fields.zipIdx b.columns ∧
      b.rows = records.length ∧ b.nullViolation? = none := by
  unfold decode
  simp only [bind_ok_iff, mapM_ok_iff]
  constructor
  · rintro ⟨rows, hrows, columns, hcolumns, h⟩
    split at h
    next hviolation =>
      cases h
      exact ⟨rows, hrows, hcolumns, rfl, hviolation⟩
    · cases h
  · rintro ⟨rows, hrows, hcolumns, hcount, hviolation⟩
    have hbatch : (⟨records.length, b.columns⟩ : Batch) = b := by rw [← hcount]
    refine ⟨rows, hrows, b.columns, hcolumns, ?_⟩
    simp only [hbatch, hviolation]
    rfl

/-- What a decoded batch has of its records. Each column of the payload reads its own field of
every record; behind the payload nothing is read. -/
structure Decoded (r : Reader) (records : List Record) (b : Batch) : Prop where
  rows_eq : b.rows = records.length
  schema_eq : b.schema = r.fields
  payload : ∃ rows, List.Forall₂ (fun record row => r.readRecord record = .ok row) records rows ∧
    ∀ (p : Nat) (c : BatchColumn), p < r.payload → b.columns[p]? = some c →
      ∃ type, TextType.of? c.field.type = some type ∧
        List.Forall₂ (fun row cell => readCell c.field type row[p]? = .ok cell) rows c.cells
  metadata : ∀ (p : Nat) (c : BatchColumn), r.payload ≤ p → b.columns[p]? = some c →
    c.cells = List.replicate records.length .null ∧
      c.field.type.holdsNulls records.length = true

theorem decoded_of_ok {records : List Record} (h : r.decode records = .ok b) :
    Decoded r records b := by
  obtain ⟨rows, hrows, hcolumns, hcount, -⟩ := decode_ok_iff.mp h
  have hat : ∀ (p : Nat) (c : BatchColumn), b.columns[p]? = some c →
      ∃ field, r.fields[p]? = some field ∧ r.readColumn rows p field = .ok c := by
    intro p c hc
    obtain ⟨hlt, hc⟩ := List.getElem?_eq_some_iff.mp hc
    have hfields : p < r.fields.zipIdx.length := hcolumns.length_eq ▸ hlt
    have hread := hcolumns.get hfields hlt
    rw [List.length_zipIdx] at hfields
    refine ⟨r.fields[p], List.getElem?_eq_getElem hfields, ?_⟩
    simpa [hc] using hread
  refine {
    rows_eq := hcount
    schema_eq := ?_
    payload := ⟨rows, hrows, fun p c hp hc => ?_⟩
    metadata := fun p c hp hc => ?_ }
  · have hfields : List.Forall₂ (fun c p => c.field = p.1) b.columns r.fields.zipIdx :=
      (hcolumns.imp fun p c hread => (readColumn_ok_iff.mp hread).1).flip
    rw [Batch.schema, ← List.zipIdx_map_fst 0 r.fields, ← List.forall₂_eq_eq_eq,
      List.forall₂_map_left_iff, List.forall₂_map_right_iff]
    exact hfields
  · obtain ⟨field, -, hread⟩ := hat p c hc
    obtain ⟨rfl, hcells⟩ := readColumn_ok_iff.mp hread
    rwa [if_neg (Nat.not_le.mpr hp)] at hcells
  · obtain ⟨field, -, hread⟩ := hat p c hc
    obtain ⟨rfl, hcells⟩ := readColumn_ok_iff.mp hread
    rwa [if_pos hp, ← hrows.length_eq] at hcells

end Reader

end Delimited

end TopicTable
