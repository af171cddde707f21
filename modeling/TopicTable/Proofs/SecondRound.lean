import TopicTable.Proofs.Codec
import TopicTable.Proofs.Entries
import TopicTable.Sample

/-! Delimited text after one round. Whatever a reader takes from records can be written, because a
cell is printed with characters of the field it was read from and so without the delimiter, unless
it is the null of a type without a buffer for nulls. From then on records and rows repeat
themselves. -/

namespace TopicTable

open Outcome

/-- With a delimiter of one character no field of a text has it. -/
theorem Text.splitFields_free {delimiter : String} {d : Char} (hd : delimiter.toList = [d])
    {s field : String} (h : field ∈ splitFields delimiter s) : d ∉ field.toList := by
  unfold splitFields at h
  rw [hd] at h
  obtain ⟨cs, hcs, rfl⟩ := List.mem_map.mp h
  rw [fieldsBy_single, List.splitOn_eq_splitOnP] at hcs
  rw [String.toList_ofList]
  intro hmem
  simpa using splitOnP_piece hcs d hmem

namespace Delimited

/-- A cell that is not null is read from a text. -/
theorem readCell_ok_cases {field : Field} {type : TextType} {value : Option String} {cell : Cell}
    (h : readCell field type value = .ok cell) :
    cell = .null ∨ ∃ s, value = some s ∧ type.read? s = some cell := by
  unfold readCell at h
  split at h
  · cases h
    exact .inl rfl
  next s =>
    split at h
    · cases h
      exact .inl rfl
    · split at h
      next hread =>
        cases h
        exact .inr ⟨s, rfl, hread⟩
      · cases h

theorem read_fits {field : Field} {type : TextType} {s : String} {cell : Cell}
    (ht : TextType.of? field.type = some type) (h : type.read? s = some cell) :
    Batch.Fits field.type cell := by
  rcases TextType.of_eq_some ht with ⟨htype, rfl⟩ | ⟨htype, rfl⟩ | ⟨htype, rfl⟩ | ⟨htype, rfl⟩
  · cases h
    exact htype
  · obtain ⟨n, -, rfl⟩ := Option.map_eq_some_iff.mp h
    exact htype
  · obtain ⟨n, -, rfl⟩ := Option.map_eq_some_iff.mp h
    exact htype
  · unfold TextType.read? at h
    dsimp only at h
    split at h
    · cases h
      exact htype
    split at h
    · cases h
      exact htype
    · cases h

/-- A cell is printed with characters of the text it was read from. -/
theorem read_chars {type : TextType} {s : String} {cell : Cell} (h : type.read? s = some cell) :
    (cellString cell).toList ⊆ s.toList := by
  cases type with
  | utf8 =>
    cases h
    exact List.Subset.refl _
  | int32 =>
    obtain ⟨n, hn, rfl⟩ := Option.map_eq_some_iff.mp h
    exact (Text.parseInt32_ok_iff.mp (toOption_some_iff.mp hn)).repr_subset
  | int64 =>
    obtain ⟨n, hn, rfl⟩ := Option.map_eq_some_iff.mp h
    exact (Text.parseInt64_ok_iff.mp (toOption_some_iff.mp hn)).repr_subset
  | boolean =>
    unfold TextType.read? at h
    dsimp only at h
    split at h
    next htrue =>
      cases h
      rw [htrue]
      exact List.Subset.refl _
    split at h
    next hfalse =>
      cases h
      rw [hfalse]
      exact List.Subset.refl _
    · cases h

theorem cellString_recovered (type : DataType) (cell : Cell) :
    cellString (recovered type cell) = cellString cell := by
  unfold recovered
  split
  next h =>
    rw [h.1]
    rfl
  · rfl

theorem rowTexts_reread (payload : Nat) (b : Batch) (i : Nat) :
    rowTexts (reread payload b) i = rowTexts b i := by
  apply List.ext_getElem?
  intro p
  unfold rowTexts reread
  rw [List.getElem?_map, List.getElem?_map, List.getElem?_mapIdx]
  cases b.columns[p]? with
  | none => rfl
  | some c =>
    simp only [Option.map_some, Option.some.injEq]
    split
    · simp only [List.getD_eq_getElem?_getD, List.getElem?_map]
      cases c.cells[i]? with
      | none => rfl
      | some cell => exact cellString_recovered c.field.type cell
    · rfl

namespace Reader

variable {r : Reader} {d : Char} {records : List Record} {b : Batch}

/-- A record that is read has no delimiter left in its fields. -/
theorem readRecord_free (hd : r.delimiter.toList = [d]) {record : Record} {row : List String}
    (h : r.readRecord record = .ok row) : ∀ field ∈ row, d ∉ field.toList := by
  unfold readRecord at h
  split at h
  · cases h
  dsimp only at h
  split at h
  · cases h
  · cases h
    intro field hfield
    exact Text.splitFields_free hd hfield

/-- The cells of a payload column have the type of their field, and no text of them has the
delimiter in it. -/
theorem cells_of_payload {field : Field} {type : TextType} {rows : List (List String)} {p : Nat}
    {cells : List Cell} (ht : TextType.of? field.type = some type)
    (hrows : ∀ row ∈ rows, ∀ text ∈ row, d ∉ text.toList)
    (h : List.Forall₂ (fun row cell => readCell field type row[p]? = .ok cell) rows cells) :
    ∀ cell ∈ cells, Batch.Fits field.type cell ∧ d ∉ (cellString cell).toList := by
  intro cell hcell
  obtain ⟨row, hrow, hread⟩ := partner_of_mem h.flip hcell
  rcases readCell_ok_cases hread with rfl | ⟨s, hs, hread⟩
  · exact ⟨trivial, List.not_mem_nil⟩
  · refine ⟨read_fits ht hread, fun hmem => ?_⟩
    exact hrows row hrow s (List.mem_of_getElem? hs) (read_chars hread hmem)

/-- What is read from records can be written and read again. -/
theorem rereadable_of_decode (hd : r.delimiter.toList = [d])
    (hbuffer : ∀ f ∈ r.fields, f.type.nullBuffer = true) (h : r.decode records = .ok b) :
    Rereadable r d b := by
  have hdecoded := decoded_of_ok h
  obtain ⟨rows, hrows, hpayload⟩ := hdecoded.payload
  obtain ⟨-, -, -, -, hviolation⟩ := decode_ok_iff.mp h
  have hfree : ∀ row ∈ rows, ∀ text ∈ row, d ∉ text.toList := by
    intro row hrow
    obtain ⟨record, -, hread⟩ := partner_of_mem hrows.flip hrow
    exact readRecord_free hd hread
  have hcolumn : ∀ c ∈ b.columns, c.cells.length = b.rows ∧
      ∀ cell ∈ c.cells, Batch.Fits c.field.type cell ∧ d ∉ (cellString cell).toList := by
    intro c hc
    obtain ⟨p, hp⟩ := List.mem_iff_getElem?.mp hc
    rw [hdecoded.rows_eq]
    rcases Nat.lt_or_ge p r.payload with hlt | hge
    · obtain ⟨type, htype, hcells⟩ := hpayload p c hlt hp
      refine ⟨?_, cells_of_payload htype hfree hcells⟩
      rw [← hcells.length_eq, hrows.length_eq]
    · rw [(hdecoded.metadata p c hge hp).1]
      refine ⟨List.length_replicate .., fun cell hcell => ?_⟩
      rw [List.eq_of_mem_replicate hcell]
      exact ⟨trivial, List.not_mem_nil⟩
  refine ⟨hdecoded.schema_eq, ⟨?_, ?_, ?_⟩, ?_, ?_, ?_⟩
  · exact fun c hc => (hcolumn c hc).1
  · exact fun c hc cell hcell => ((hcolumn c hc).2 cell hcell).1
  · exact Batch.nullViolation_none_iff.mp hviolation
  · intro p c hp hlt
    obtain ⟨type, htype, -⟩ := hpayload p c hlt hp
    rw [htype]
    rfl
  · intro p c hp hge
    have hfield : c.field ∈ r.fields := by
      rw [← hdecoded.schema_eq]
      exact List.mem_map_of_mem (List.mem_of_getElem? hp)
    obtain ⟨hcells, hholds⟩ := hdecoded.metadata p c hge hp
    rw [← hdecoded.rows_eq] at hholds
    refine ⟨hbuffer c.field hfield, hholds, fun cell hcell => ?_⟩
    rw [hcells] at hcell
    exact List.eq_of_mem_replicate hcell
  · exact fun c hc cell hcell => ((hcolumn c hc).2 cell hcell).2

end Reader

/-- What was read once is written, read and written again without a change but for the null
strings of the payload, which are empty from the second reading on. -/
theorem settled_after_one_round (identifier : String) (required : List String)
    (options : FormatOptions) (row : RowType) (metadataKeys : List String) {decoder : Decoder}
    {encoder : Encoder} {records : List Record} {b : Batch}
    (hdecoder : (provider identifier required).decoder options row metadataKeys = .ok decoder)
    (hencoder : (provider identifier required).encoder options row = .ok encoder)
    (hsingle : (delimiter options).length = 1)
    (hbuffer : ∀ f ∈ row, f.type.nullBuffer = true)
    (hread : decoder.decode records = .ok b) :
    ∃ written, encoder.encode b = .ok written ∧
      decoder.decode written = .ok (reread (row.length - metadataKeys.length) b) ∧
      encoder.encode (reread (row.length - metadataKeys.length) b) = .ok written := by
  obtain ⟨d, hd⟩ := List.length_eq_one_iff.mp (String.length_toList.trans hsingle)
  obtain ⟨failOnMissing, rfl⟩ := decoder_ok hdecoder
  cases hencoder
  have hfirst := Reader.rereadable_of_decode hd hbuffer hread
  obtain ⟨written, hwritten, hback⟩ := hfirst.decode_encode hd
  refine ⟨written, hwritten, hback, ?_⟩
  have hsecond := Reader.rereadable_of_decode hd hbuffer hback
  have hsame := hsecond.encode_ok (delimiter options)
  simp only [rowTexts_reread] at hsame
  exact hsame.trans ((hfirst.encode_ok _).symm.trans hwritten)

/-- A sign goes with the first round and the missing name becomes an empty one; the digit between
the fields stays between them. -/
theorem zero_delimited_settles : ∃ decoder encoder,
    (named "csv").decoder Sample.zeroDelimited Sample.countedNames ["note"] = .ok decoder ∧
    (named "csv").encoder Sample.zeroDelimited Sample.countedNames = .ok encoder ∧
    (delimiter Sample.zeroDelimited).length = 1 ∧
    (∀ f ∈ Sample.countedNames, f.type.nullBuffer = true) ∧
    decoder.decode ["+70ada".toUTF8, "0bob".toUTF8, "-4".toUTF8] = .ok Sample.countedRows ∧
    ∃ written, written = ["70ada0".toUTF8, "0bob0".toUTF8, "-400".toUTF8] ∧
      encoder.encode Sample.countedRows = .ok written ∧
      decoder.decode written = .ok (reread 2 Sample.countedRows) ∧
      reread 2 Sample.countedRows ≠ Sample.countedRows ∧
      encoder.encode (reread 2 Sample.countedRows) = .ok written := by
  have hsingle : (delimiter Sample.zeroDelimited).length = 1 := by decide
  have hbuffer : ∀ f ∈ Sample.countedNames, f.type.nullBuffer = true := by decide
  have hread : (Reader.mk Sample.countedNames (delimiter Sample.zeroDelimited) 1 false).decode
      ["+70ada".toUTF8, "0bob".toUTF8, "-4".toUTF8] = .ok Sample.countedRows := by
    decide +kernel
  have hfirst : encode (delimiter Sample.zeroDelimited) Sample.countedRows =
      .ok ["70ada0".toUTF8, "0bob0".toUTF8, "-400".toUTF8] := by
    decide +kernel
  obtain ⟨written, hwritten, hback, hagain⟩ := settled_after_one_round "csv" []
    Sample.zeroDelimited Sample.countedNames ["note"] rfl rfl hsingle hbuffer hread
  have hsame : written = ["70ada0".toUTF8, "0bob0".toUTF8, "-400".toUTF8] :=
    Except.ok.inj (hwritten.symm.trans hfirst)
  exact ⟨_, _, rfl, rfl, hsingle, hbuffer, hread, written, hsame, hwritten, hback, by decide,
    hagain⟩

/-- A union is null for every record, and what was read cannot be written. -/
theorem union_not_written_again : ∃ decoder encoder b,
    (named "csv").decoder ∅ Sample.namedUnions ["either"] = .ok decoder ∧
    (named "csv").encoder ∅ Sample.namedUnions = .ok encoder ∧
    (∀ f ∈ Sample.namedUnions, f.type ≠ .null) ∧
    decoder.decode ["ada".toUTF8] = .ok b ∧
    b.columns.map (·.cells) = [[.text "ada"], [.null]] ∧
    encoder.encode b = .error (unsupportedType ⟨"either", Sample.union, true⟩) := by
  have hread : (Reader.mk Sample.namedUnions (delimiter ∅) 1 false).decode ["ada".toUTF8] =
      .ok Sample.nameAndUnion := by
    decide +kernel
  have hwritten : encode (delimiter ∅) Sample.nameAndUnion =
      .error (unsupportedType ⟨"either", Sample.union, true⟩) := by
    decide +kernel
  exact ⟨_, _, Sample.nameAndUnion, rfl, rfl, by decide, hread, rfl, hwritten⟩

end Delimited

end TopicTable
