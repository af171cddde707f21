import TopicTable.Format.Provider
import TopicTable.Text.Utf8

/-!
# Delimited text

A format that writes rows as UTF-8 text with a delimiter between the fields. It carries strings,
integers and booleans; a null is an empty field. Metadata fields come last in a decoded row and
are null.
-/

namespace TopicTable

namespace Delimited

def delimiterKey : String := "delimiter"
def failOnMissingKey : String := "fail-on-missing"
def changelogModeKey : String := "changelog-mode"
def readableMetadataKey : String := "readable-metadata"
def writableMetadataKey : String := "writable-metadata"
def urlKey : String := "url"
def subjectKey : String := "subject"

/-- The types that the format has a text for. -/
inductive TextType where
  | utf8
  | int32
  | int64
  | boolean
deriving DecidableEq, Repr

def TextType.of? (type : DataType) : Option TextType :=
  if type = .utf8 then some .utf8
  else if type = .int32 then some .int32
  else if type = .int64 then some .int64
  else if type = .boolean then some .boolean
  else none

/-- Reads a text that is not empty. -/
def TextType.read? (type : TextType) (s : String) : Option Cell :=
  match type with
  | utf8 => some (.text s)
  | int32 => (Text.parseInt32 s).toOption.map Cell.int32
  | int64 => (Text.parseInt64 s).toOption.map Cell.int64
  | boolean => if s = "true" then some (.boolean true)
    else if s = "false" then some (.boolean false) else none

/-- The text of a cell; none for the cells of other types. -/
def cellText? : Cell → Option String
  | .null => some ""
  | .text s => some s
  | .int32 n => some (toString n.toInt)
  | .int64 n => some (toString n.toInt)
  | .boolean b => some (if b then "true" else "false")
  | .foreign => none

def unsupportedType (field : Field) : CodecError :=
  .typeConversion field.name field.type.text "type not supported by the test format"

/-- Reads a field of a row. A missing field is null, and so is an empty one unless the field is
text. -/
def readCell (field : Field) (type : TextType) (value : Option String) :
    Except CodecError Cell :=
  match value with
  | none => .ok .null
  | some s =>
    if s = "" ∧ type ≠ .utf8 then .ok .null
    else
      match type.read? s with
      | some cell => .ok cell
      | none =>
        .error (.typeConversion field.name field.type.text ("cannot parse '" ++ s ++ "'"))

/-- A decoder for rows of which the last fields are metadata. -/
structure Reader where
  fields : RowType
  delimiter : String
  metadataFields : Nat
  failOnMissing : Bool

namespace Reader

/-- How many fields a record has. -/
def payload (r : Reader) : Nat := r.fields.length - r.metadataFields

def readRecord (r : Reader) (record : Record) : Except CodecError (List String) :=
  match Text.decodeUtf8 record with
  | .error fault => .error (.malformedInput ("invalid UTF-8: " ++ fault.message))
  | .ok s =>
    let values := Text.splitFields r.delimiter s
    if values.length < r.payload ∧ r.failOnMissing then
      .error (.malformedInput ("expected " ++ toString r.payload ++ " fields but got " ++
        toString values.length))
    else .ok values

/-- A column of nulls, where the type of the field has one so long. -/
def nullColumn (field : Field) (count : Nat) : Except CodecError BatchColumn :=
  if field.type.holdsNulls count then .ok ⟨field, List.replicate count .null⟩
  else .error (.tooManyNulls field.type.text count)

def readColumn (r : Reader) (rows : List (List String)) (position : Nat) (field : Field) :
    Except CodecError BatchColumn :=
  if r.payload ≤ position then nullColumn field rows.length
  else
    match TextType.of? field.type with
    | none => .error (unsupportedType field)
    | some type => (rows.mapM fun row => readCell field type row[position]?).map (⟨field, ·⟩)

def decode (r : Reader) (records : List Record) : Except CodecError Batch := do
  let rows ← records.mapM r.readRecord
  let columns ← r.fields.zipIdx.mapM fun p => r.readColumn rows p.2 p.1
  let batch : Batch := ⟨records.length, columns⟩
  match batch.nullViolation? with
  | none => return batch
  | some name => .error (.columns ("Invalid argument error: Column '" ++ name ++
      "' is declared as non-nullable but contains null values"))

end Reader

/-- The text of a cell in its column. Without a buffer for nulls a column has none. -/
def writeCell (field : Field) (cell : Cell) : Except CodecError String :=
  match cell, cellText? cell with
  | .null, _ => if field.type.nullBuffer then .ok "" else .error (unsupportedType field)
  | _, some s => if (TextType.of? field.type).isSome then .ok s else .error (unsupportedType field)
  | _, none => .error (unsupportedType field)

/-- Writes the rows of a batch, field by field in the order of its columns. -/
def encode (delimiter : String) (b : Batch) : Except CodecError (List Record) := do
  let columns ← b.columns.mapM fun c => c.cells.mapM (writeCell c.field)
  return (List.range b.rows).map fun i =>
    (delimiter.intercalate (columns.filterMap fun texts => texts[i]?)).toUTF8

def metadataType? (name : String) : Option DataType :=
  match Unicode.upper name with
  | "STRING" => some .utf8
  | "INT" => some .int32
  | "BIGINT" => some .int64
  | "BOOLEAN" => some .boolean
  | "DOUBLE" => some .float64
  | "BYTES" => some .binary
  | "TIMESTAMP" => some (.timestamp .millisecond none)
  | _ => none

/-- Reads an entry `name:TYPE`. -/
def readMetadataEntry (key entry : String) : Except TableError (String × DataType) :=
  match Text.splitOnce? ':' entry with
  | none => .error (.invalidValue key ("expected 'name:TYPE' but got '" ++ entry ++ "'"))
  | some (name, typeName) =>
    match metadataType? (Text.trim typeName) with
    | none => .error (.invalidValue key ("unknown type '" ++ typeName ++ "'"))
    | some type => .ok (Text.trim name, type)

/-- Reads metadata entries with commas between them. -/
def readMetadata (key : String) (options : FormatOptions) : Except TableError MetadataTypes :=
  match options.get? key with
  | none => .ok ∅
  | some raw => do
    let entries := ((Text.splitAt (· = ',') raw).map Text.trim).filter fun e => e ≠ ""
    let pairs ← entries.mapM (readMetadataEntry key)
    return .ofList pairs

def readChangelogMode (options : FormatOptions) : Except TableError ChangelogMode :=
  match options.get? changelogModeKey with
  | none => .ok .insertOnly
  | some raw => (ChangelogMode.parse raw).mapError (.invalidValue changelogModeKey)

def readFailOnMissing (options : FormatOptions) : Except TableError Bool :=
  match options.get? failOnMissingKey with
  | none => .ok false
  | some raw => (parseBool raw).mapError (.invalidValue failOnMissingKey)

/-- The delimiter, a comma unless another is set. -/
def delimiter (options : FormatOptions) : String := (options.get? delimiterKey).getD ","

def Reader.decoder (r : Reader) : Decoder := ⟨r.fields, r.decode⟩

def makeDecoder (options : FormatOptions) (row : RowType) (metadataKeys : List String) :
    Except TableError Decoder := do
  let failOnMissing ← readFailOnMissing options
  let reader : Reader := ⟨row, delimiter options, metadataKeys.length, failOnMissing⟩
  return reader.decoder

def makeEncoder (options : FormatOptions) (row : RowType) : Except TableError Encoder :=
  .ok ⟨row, encode (delimiter options)⟩

/-- The options of the format with their descriptions. -/
def described : List (String × String) := [
  (delimiterKey, "Field delimiter"),
  (failOnMissingKey, "Fail on records with missing fields"),
  (changelogModeKey, "Supported change kinds, e.g. 'I;UA;UB;D'"),
  (readableMetadataKey, "Metadata exposed when decoding"),
  (writableMetadataKey, "Metadata persisted when encoding"),
  (urlKey, "Schema registry URL"),
  (subjectKey, "Schema registry subject")]

/-- The format under an identifier, with the options that have to be set. -/
def provider (identifier : String) (required : List String) : FormatProvider where
  identifier := identifier
  requiredOptions := required.map fun key => ⟨key, "Field delimiter", true, none⟩
  optionalOptions := (described.filter fun d => !required.contains d.1).map fun d =>
    ⟨d.1, d.2, false, none⟩
  changelogMode := readChangelogMode
  readableMetadata := readMetadata readableMetadataKey
  writableMetadata := readMetadata writableMetadataKey
  decoder := makeDecoder
  encoder := makeEncoder

/-- The format under its own identifier, where the delimiter has to be set. -/
def strict : FormatProvider := provider "test-format" [delimiterKey]

/-- The format under another identifier, where no option has to be set. -/
def named (identifier : String) : FormatProvider := provider identifier []

end Delimited

end TopicTable
