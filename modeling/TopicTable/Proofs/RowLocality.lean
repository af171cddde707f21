import TopicTable.Proofs.Codec
import TopicTable.Sample

/-! Delimited text goes row by row. Records are read one by one, so reading a list of them in two
parts and putting the batches one behind the other makes no difference, in what fails either, but
for metadata of types whose arrays cannot hold the nulls of both. The record that a row is written
as depends on the cells of that row alone. -/

namespace TopicTable

open Outcome

mutual
/-- Where there are so many nulls there are fewer. -/
theorem DataType.holdsNulls_mono {m n : Nat} (hle : m ≤ n) :
    (type : DataType) → type.holdsNulls n = true → type.holdsNulls m = true
  | .scalar _, _ | .decimal .., _ | .timestamp .., _ | .list _, _ | .map .., _ => rfl
  | .struct fields, h => DataType.fieldsHoldNulls_mono hle fields h
  | .other o, h => by
    unfold holdsNulls at h ⊢
    cases hmost : o.maxNulls? with
    | none => rfl
    | some most =>
      rw [hmost] at h
      exact decide_eq_true (Nat.le_trans hle (of_decide_eq_true h))

theorem DataType.fieldsHoldNulls_mono {m n : Nat} (hle : m ≤ n) :
    (fields : List Field) → fieldsHoldNulls n fields = true → fieldsHoldNulls m fields = true
  | [], _ => rfl
  | ⟨_, type, _⟩ :: fields, h => by
    unfold fieldsHoldNulls at h ⊢
    obtain ⟨htype, hfields⟩ := Bool.and_eq_true_iff.mp h
    exact Bool.and_eq_true_iff.mpr ⟨DataType.holdsNulls_mono hle type htype,
      DataType.fieldsHoldNulls_mono hle fields hfields⟩
end

/-- The cells of a column behind those of another. -/
def BatchColumn.append (front back : BatchColumn) : BatchColumn :=
  ⟨front.field, front.cells ++ back.cells⟩

theorem BatchColumn.nullsAllowed_append {front back : BatchColumn}
    (h : front.field = back.field) :
    (front.append back).NullsAllowed ↔ front.NullsAllowed ∧ back.NullsAllowed := by
  unfold NullsAllowed append
  rw [← h]
  simp only [List.mem_append, not_or]
  exact ⟨fun h => ⟨fun hn hb => (h hn hb).1, fun hn hb => (h hn hb).2⟩,
    fun h hn hb => ⟨h.1 hn hb, h.2 hn hb⟩⟩

namespace Batch

/-- The rows of a batch behind those of another with the same columns. -/
def append (front back : Batch) : Batch :=
  ⟨front.rows + back.rows, List.zipWith BatchColumn.append front.columns back.columns⟩

/-- The cells of a row, column by column. -/
def row (b : Batch) (i : Nat) : List Cell := b.columns.map fun c => c.cells.getD i .null

end Batch

namespace Delimited

/-- The record that cells are written as. -/
def rowRecord (delimiter : String) (cells : List Cell) : Record :=
  (delimiter.intercalate (cells.map cellString)).toUTF8

theorem rowTexts_eq (b : Batch) (i : Nat) : rowTexts b i = (b.row i).map cellString := by
  unfold rowTexts Batch.row
  rw [List.map_map]
  rfl

namespace Reader

variable {r : Reader} {records more : List Record} {b : Batch}

/-- Behind the payload there are nulls for so many rows. -/
def KeepsNulls (r : Reader) (count : Nat) (p : Field × Nat) : Prop :=
  r.payload ≤ p.2 → p.1.type.holdsNulls count = true

theorem readColumn_append_iff {rows rest : List (List String)} {p : Field × Nat}
    {c : BatchColumn} : r.readColumn (rows ++ rest) p.2 p.1 = .ok c ↔
      r.KeepsNulls (rows.length + rest.length) p ∧ ∃ front back,
        r.readColumn rows p.2 p.1 = .ok front ∧ r.readColumn rest p.2 p.1 = .ok back ∧
          c = front.append back := by
  unfold KeepsNulls
  simp only [readColumn_ok_iff]
  by_cases hp : r.payload ≤ p.2
  · simp only [if_pos hp, List.length_append, List.replicate_add]
    constructor
    · rintro ⟨hfield, hcells, hholds⟩
      refine ⟨fun _ => hholds, ⟨p.1, .replicate rows.length .null⟩,
        ⟨p.1, .replicate rest.length .null⟩, ⟨rfl, rfl, ?_⟩, ⟨rfl, rfl, ?_⟩, ?_⟩
      · exact DataType.holdsNulls_mono (Nat.le_add_right ..) _ hholds
      · exact DataType.holdsNulls_mono (Nat.le_add_left ..) _ hholds
      · rw [BatchColumn.append, ← hcells, ← hfield]
    · rintro ⟨hholds, front, back, ⟨hfield, hfront, -⟩, ⟨-, hback, -⟩, rfl⟩
      exact ⟨hfield, by rw [BatchColumn.append, hfront, hback], hholds hp⟩
  · simp only [if_neg hp]
    constructor
    · rintro ⟨hfield, type, htype, hcells⟩
      obtain ⟨front, back, hfront, hback, heq⟩ := append_partners_iff.mp hcells
      refine ⟨fun h => absurd h hp, ⟨p.1, front⟩, ⟨p.1, back⟩, ⟨rfl, type, htype, hfront⟩,
        ⟨rfl, type, htype, hback⟩, ?_⟩
      rw [BatchColumn.append, ← heq, ← hfield]
    · rintro ⟨-, front, back, ⟨hfield, type, htype, hfront⟩, ⟨-, other, hother, hback⟩, rfl⟩
      cases htype.symm.trans hother
      exact ⟨hfield, type, htype, append_partners_iff.mpr ⟨_, _, hfront, hback, rfl⟩⟩

/-- A column of a batch is read from the rows and its nulls are allowed. -/
def ReadsColumn (r : Reader) (rows : List (List String)) (p : Field × Nat) (c : BatchColumn) :
    Prop :=
  r.readColumn rows p.2 p.1 = .ok c ∧ c.NullsAllowed

theorem readsColumn_append_iff {rows rest : List (List String)} (p : Field × Nat)
    (c : BatchColumn) : r.ReadsColumn (rows ++ rest) p c ↔
      r.KeepsNulls (rows.length + rest.length) p ∧ ∃ front back,
        r.ReadsColumn rows p front ∧ r.ReadsColumn rest p back ∧ c = front.append back := by
  unfold ReadsColumn
  rw [readColumn_append_iff, and_assoc]
  refine and_congr_right fun _ => ?_
  constructor
  · rintro ⟨⟨front, back, hfront, hback, rfl⟩, hnulls⟩
    have hfield : front.field = back.field :=
      (readColumn_ok_iff.mp hfront).1.trans (readColumn_ok_iff.mp hback).1.symm
    obtain ⟨hnullsFront, hnullsBack⟩ := (BatchColumn.nullsAllowed_append hfield).mp hnulls
    exact ⟨front, back, ⟨hfront, hnullsFront⟩, ⟨hback, hnullsBack⟩, rfl⟩
  · rintro ⟨front, back, ⟨hfront, hnullsFront⟩, ⟨hback, hnullsBack⟩, rfl⟩
    have hfield : front.field = back.field :=
      (readColumn_ok_iff.mp hfront).1.trans (readColumn_ok_iff.mp hback).1.symm
    exact ⟨⟨front, back, hfront, hback, rfl⟩,
      (BatchColumn.nullsAllowed_append hfield).mpr ⟨hnullsFront, hnullsBack⟩⟩

theorem decode_ok_iff_columns : r.decode records = .ok b ↔
    ∃ rows, List.Forall₂ (fun record row => r.readRecord record = .ok row) records rows ∧
      List.Forall₂ (r.ReadsColumn rows) r.fields.zipIdx b.columns ∧ b.rows = records.length := by
  rw [decode_ok_iff]
  unfold ReadsColumn
  simp only [partners_and_iff, Batch.nullViolation_none_iff]
  constructor
  · rintro ⟨rows, hrows, hcolumns, hcount, hnulls⟩
    exact ⟨rows, hrows, ⟨hcolumns, hnulls⟩, hcount⟩
  · rintro ⟨rows, hrows, ⟨hcolumns, hnulls⟩, hcount⟩
    exact ⟨rows, hrows, hcolumns, hcount, hnulls⟩

/-- The columns of rows in a row are those of either part, where there are nulls for both. -/
theorem columns_append_iff {rows rest : List (List String)} {columns : List BatchColumn} :
    List.Forall₂ (r.ReadsColumn (rows ++ rest)) r.fields.zipIdx columns ↔
      (∀ f ∈ r.fields.drop r.payload, f.type.holdsNulls (rows.length + rest.length) = true) ∧
        ∃ front back, List.Forall₂ (r.ReadsColumn rows) r.fields.zipIdx front ∧
          List.Forall₂ (r.ReadsColumn rest) r.fields.zipIdx back ∧
            columns = List.zipWith BatchColumn.append front back := by
  have hkeeps : (∀ p ∈ r.fields.zipIdx, r.KeepsNulls (rows.length + rest.length) p) ↔
      ∀ f ∈ r.fields.drop r.payload, f.type.holdsNulls (rows.length + rest.length) = true := by
    constructor
    · intro h f hf
      obtain ⟨i, hi, rfl⟩ := List.mem_drop_iff_getElem.mp hf
      have hfield : (r.fields[i + r.payload], i + r.payload) ∈ r.fields.zipIdx :=
        List.mk_mem_zipIdx_iff_getElem?.mpr (List.getElem?_eq_getElem hi)
      simpa only [Nat.add_comm] using h _ hfield (Nat.le_add_left ..)
    · rintro h ⟨f, i⟩ hf (hi : r.payload ≤ i)
      have hget := List.mk_mem_zipIdx_iff_getElem?.mp hf
      obtain ⟨hlt, rfl⟩ := List.getElem?_eq_some_iff.mp hget
      refine h _ (List.mem_drop_iff_getElem.mpr ⟨i - r.payload, by omega, ?_⟩)
      simp only [Nat.add_sub_cancel' hi]
  have hsplit : List.Forall₂ (r.ReadsColumn (rows ++ rest)) r.fields.zipIdx columns ↔
      List.Forall₂ (fun p c => r.KeepsNulls (rows.length + rest.length) p ∧ ∃ front back,
        r.ReadsColumn rows p front ∧ r.ReadsColumn rest p back ∧ c = front.append back)
        r.fields.zipIdx columns :=
    ⟨fun h => h.imp fun p c => (readsColumn_append_iff p c).mp,
      fun h => h.imp fun p c => (readsColumn_append_iff p c).mpr⟩
  rw [hsplit, List.forall₂_and_left, hkeeps, zip_partners_iff fun _ _ => Iff.rfl]

/-- Records in a row are read to batches in a row, where there are nulls for both. -/
theorem decode_append_iff : r.decode (records ++ more) = .ok b ↔
    (∀ f ∈ r.fields.drop r.payload, f.type.holdsNulls (records.length + more.length) = true) ∧
      ∃ front back, r.decode records = .ok front ∧ r.decode more = .ok back ∧
        b = front.append back := by
  simp only [decode_ok_iff_columns]
  constructor
  · rintro ⟨rows, hrows, hcolumns, hcount⟩
    obtain ⟨rowsFront, rowsBack, hrowsFront, hrowsBack, rfl⟩ := append_partners_iff.mp hrows
    obtain ⟨hholds, front, back, hfront, hback, hzip⟩ := columns_append_iff.mp hcolumns
    rw [← hrowsFront.length_eq, ← hrowsBack.length_eq] at hholds
    refine ⟨hholds, ⟨records.length, front⟩, ⟨more.length, back⟩,
      ⟨rowsFront, hrowsFront, hfront, rfl⟩, ⟨rowsBack, hrowsBack, hback, rfl⟩, ?_⟩
    unfold Batch.append
    rw [← hzip, ← List.length_append, ← hcount]
  · rintro ⟨hholds, front, back, ⟨rowsFront, hrowsFront, hfront, hcountFront⟩,
      ⟨rowsBack, hrowsBack, hback, hcountBack⟩, rfl⟩
    rw [hrowsFront.length_eq, hrowsBack.length_eq] at hholds
    refine ⟨rowsFront ++ rowsBack,
      append_partners_iff.mpr ⟨_, _, hrowsFront, hrowsBack, rfl⟩,
      columns_append_iff.mpr ⟨hholds, _, _, hfront, hback, rfl⟩, ?_⟩
    rw [List.length_append, ← hcountFront, ← hcountBack]
    rfl

end Reader

/-- A decoder that takes each record for itself, as long as its metadata can be null for all. -/
structure ReadsApart (decoder : Decoder) (metadata : RowType) : Prop where
  append_iff : ∀ records more b, decoder.decode (records ++ more) = .ok b ↔
    (∀ f ∈ metadata, f.type.holdsNulls (records.length + more.length) = true) ∧
      ∃ front back, decoder.decode records = .ok front ∧ decoder.decode more = .ok back ∧
        b = front.append back
  rows_eq : ∀ records b, decoder.decode records = .ok b → b.rows = records.length
  schema_eq : ∀ records b, decoder.decode records = .ok b → b.schema = decoder.schema

/-- An encoder that takes each row for itself. Columns without a buffer for nulls are left out,
since their nulls have no text. -/
structure WritesApart (encoder : Encoder) (record : List Cell → Record) : Prop where
  ok_iff : ∀ b : Batch, b.WellFormed → (∀ c ∈ b.columns, c.field.type.nullBuffer = true) →
    ((∃ records, encoder.encode b = .ok records) ↔
      ∀ c ∈ b.columns, ∀ cell ∈ c.cells, cell ≠ .null →
        c.field.type ∈ [DataType.utf8, .int32, .int64, .boolean])
  records_eq : ∀ (b : Batch) (records : List Record), b.WellFormed →
    encoder.encode b = .ok records → records = (List.range b.rows).map fun i => record (b.row i)

theorem TextType.of_isSome_iff {type : DataType} : (TextType.of? type).isSome = true ↔
    type ∈ [DataType.utf8, .int32, .int64, .boolean] := by
  constructor
  · intro h
    obtain ⟨text, htext⟩ := Option.isSome_iff_exists.mp h
    rcases TextType.of_eq_some htext with ⟨rfl, -⟩ | ⟨rfl, -⟩ | ⟨rfl, -⟩ | ⟨rfl, -⟩ <;> simp
  · intro h
    simp only [List.mem_cons, List.not_mem_nil, or_false] at h
    rcases h with rfl | rfl | rfl | rfl <;> rfl

theorem readsApart (r : Reader) : ReadsApart r.decoder (r.fields.drop r.payload) where
  append_iff _ _ _ := Reader.decode_append_iff
  rows_eq _ _ h := (Reader.decoded_of_ok h).rows_eq
  schema_eq _ _ h := (Reader.decoded_of_ok h).schema_eq

theorem writesApart (delimiter : String) (row : RowType) :
    WritesApart ⟨row, encode delimiter⟩ (rowRecord delimiter) := by
  constructor
  · intro b hwell hnull
    constructor
    · rintro ⟨records, h⟩ c hc cell hcell hne
      have hprintable := ((encode_ok_iff hwell).mp h).1 c hc cell hcell
      unfold Printable at hprintable
      rw [if_neg hne] at hprintable
      exact TextType.of_isSome_iff.mp hprintable
    · intro h
      refine ⟨_, (encode_ok_iff hwell).mpr ⟨fun c hc cell hcell => ?_, rfl⟩⟩
      unfold Printable
      split
      · exact hnull c hc
      next hne => exact TextType.of_isSome_iff.mpr (h c hc cell hcell hne)
  · intro b records hwell h
    obtain ⟨-, rfl⟩ := (encode_ok_iff hwell).mp h
    simp only [rowTexts_eq]
    rfl

/-- The codecs of delimited text keep rows apart in both directions; the last fields of a row, one
for each metadata key, have to hold the nulls of all the records that are read. -/
theorem rows_kept_apart (identifier : String) (required : List String) (options : FormatOptions)
    (row : RowType) (metadataKeys : List String) {decoder : Decoder} {encoder : Encoder}
    (hdecoder : (provider identifier required).decoder options row metadataKeys = .ok decoder)
    (hencoder : (provider identifier required).encoder options row = .ok encoder) :
    ReadsApart decoder (row.drop (row.length - metadataKeys.length)) ∧
      WritesApart encoder (rowRecord (delimiter options)) := by
  obtain ⟨failOnMissing, rfl⟩ := decoder_ok hdecoder
  cases hencoder
  constructor
  · exact readsApart _
  · exact writesApart (delimiter options) row

/-- Records with a field too many or too few stay with their rows. -/
theorem ragged_records_kept_apart : ∃ decoder encoder front back records,
    (named "csv").decoder Sample.zeroDelimited Sample.countedNames ["note"] = .ok decoder ∧
    (named "csv").encoder Sample.zeroDelimited Sample.countedNames = .ok encoder ∧
    decoder.decode ["+70ada0x0y".toUTF8, "0bob".toUTF8] = .ok front ∧
    decoder.decode ["-4".toUTF8] = .ok back ∧
    decoder.decode ["+70ada0x0y".toUTF8, "0bob".toUTF8, "-4".toUTF8] = .ok (front.append back) ∧
    front.append back = Sample.countedRows ∧
    encoder.encode Sample.countedRows = .ok records ∧
    records = [0, 1, 2].map fun i => rowRecord "0" (Sample.countedRows.row i) := by
  obtain ⟨hreads, hwrites⟩ := rows_kept_apart "csv" [] Sample.zeroDelimited Sample.countedNames
    ["note"] rfl rfl
  have hwhole : (Reader.mk Sample.countedNames (delimiter Sample.zeroDelimited) 1 false).decode
      (["+70ada0x0y".toUTF8, "0bob".toUTF8] ++ ["-4".toUTF8]) = .ok Sample.countedRows := by
    decide +kernel
  obtain ⟨-, front, back, hfront, hback, hjoined⟩ := (hreads.append_iff _ _ _).mp hwhole
  have hwell : Sample.countedRows.WellFormed := ⟨by decide, by decide, by decide⟩
  obtain ⟨records, hwritten⟩ := (hwrites.ok_iff _ hwell (by decide)).mpr (by decide)
  have hrecords := hwrites.records_eq _ records hwell hwritten
  exact ⟨_, _, front, back, records, rfl, rfl, hfront, hback, hjoined ▸ hwhole, hjoined.symm,
    hwritten, hrecords⟩

/-- A name for each of so many runs is read if the ends of the runs can count them. -/
theorem read_namedRuns_iff {decoder : Decoder}
    (hdecoder : (named "csv").decoder ∅ Sample.namedRuns ["run"] = .ok decoder) (count : Nat) :
    (∃ b, decoder.decode (List.replicate count "ada".toUTF8) = .ok b) ↔ count ≤ 32767 := by
  obtain ⟨failOnMissing, rfl⟩ := decoder_ok hdecoder
  have hrecord : (Reader.mk Sample.namedRuns (delimiter ∅) 1 failOnMissing).readRecord
      "ada".toUTF8 = .ok ["ada"] := by
    cases failOnMissing <;> decide +kernel
  have hruns : Sample.shortRuns.holdsNulls count = true ↔ count ≤ 32767 := decide_eq_true_iff
  rw [← hruns]
  constructor
  · rintro ⟨b, hb⟩
    obtain ⟨rows, hrows, hcolumns, -⟩ := Reader.decode_ok_iff_columns.mp hb
    obtain ⟨c, -, hread, -⟩ := partner_of_mem hcolumns
      (List.mk_mem_zipIdx_iff_getElem?.mpr (rfl : Sample.namedRuns[1]? = some _))
    obtain ⟨-, -, hholds⟩ := Reader.readColumn_ok_iff.mp hread
    rwa [← hrows.length_eq, List.length_replicate] at hholds
  · intro hholds
    let names : BatchColumn := ⟨⟨"name", .utf8, true⟩, List.replicate count (.text "ada")⟩
    let runs : BatchColumn := ⟨⟨"run", Sample.shortRuns, true⟩, List.replicate count .null⟩
    refine ⟨⟨count, [names, runs]⟩, Reader.decode_ok_iff_columns.mpr
      ⟨List.replicate count ["ada"], ?_, .cons ⟨?_, nofun⟩ (.cons ⟨?_, nofun⟩ .nil), ?_⟩⟩
    · exact List.forall₂_iff_get.mpr ⟨by simp, fun i _ _ => by simpa using hrecord⟩
    · refine Reader.readColumn_ok_iff.mpr ⟨rfl, .utf8, rfl, ?_⟩
      simp [names, List.forall₂_iff_get, readCell, TextType.read?]
    · refine Reader.readColumn_ok_iff.mpr ⟨rfl, ?_⟩
      rw [List.length_replicate]
      exact ⟨rfl, hholds⟩
    · exact (List.length_replicate ..).symm

/-- Runs whose ends have 16 bits cannot hold the nulls of two times 20000 records; and a null among
them is not written, although the only cell beside it is a text. -/
theorem long_runs_read_apart_only : ∃ decoder encoder front,
    (named "csv").decoder ∅ Sample.namedRuns ["run"] = .ok decoder ∧
    (named "csv").encoder ∅ Sample.namedRuns = .ok encoder ∧
    decoder.decode (List.replicate 20000 "ada".toUTF8) = .ok front ∧
    (∀ b, decoder.decode (List.replicate 20000 "ada".toUTF8 ++
      List.replicate 20000 "ada".toUTF8) ≠ .ok b) ∧
    (∀ c ∈ Sample.nameAndRun.columns, c.field.type ≠ .null) ∧
    (∀ c ∈ Sample.nameAndRun.columns, ∀ cell ∈ c.cells, cell ≠ .null → c.field.type = .utf8) ∧
    encoder.encode Sample.nameAndRun =
      .error (unsupportedType ⟨"run", Sample.shortRuns, true⟩) := by
  have hdecoder : (named "csv").decoder ∅ Sample.namedRuns ["run"] =
      .ok (Reader.decoder ⟨Sample.namedRuns, delimiter ∅, 1, false⟩) := rfl
  obtain ⟨front, hfront⟩ := (read_namedRuns_iff hdecoder 20000).mpr (by decide)
  have hunwritten : encode (delimiter ∅) Sample.nameAndRun =
      .error (unsupportedType ⟨"run", Sample.shortRuns, true⟩) := by
    decide +kernel
  refine ⟨_, _, front, hdecoder, rfl, hfront, fun b hb => ?_, by decide, by decide, hunwritten⟩
  rw [← List.replicate_add] at hb
  exact absurd ((read_namedRuns_iff hdecoder (20000 + 20000)).mp ⟨b, hb⟩) (by decide)

end Delimited

end TopicTable
