import TopicTable.Format.Changelog
import TopicTable.Options.Declared
import TopicTable.Row.Batch

/-!
# Format providers

A provider describes a serialization format: its options, the changes and the metadata it can
carry, and how to make its codecs. Providers are registered under their identifier.
-/

namespace TopicTable

/-- Options of a format, without the prefix that they have in the table. -/
abbrev FormatOptions := OptionMap

/-- Metadata keys of a format with their types. -/
abbrev MetadataTypes := OrderedMap String DataType

/-- Turns records into rows of a type. -/
structure Decoder where
  schema : RowType
  decode : List Record → Except CodecError Batch

/-- Turns rows into records. -/
structure Encoder where
  schema : RowType
  encode : Batch → Except CodecError (List Record)

structure FormatProvider where
  identifier : String
  requiredOptions : List OptionSpec
  optionalOptions : List OptionSpec
  changelogMode : FormatOptions → Except TableError ChangelogMode
  readableMetadata : FormatOptions → Except TableError MetadataTypes := fun _ => .ok ∅
  writableMetadata : FormatOptions → Except TableError MetadataTypes := fun _ => .ok ∅
  /-- Makes a decoder of a row type that ends with one field for each of the metadata keys. -/
  decoder : FormatOptions → RowType → List String → Except TableError Decoder
  encoder : FormatOptions → RowType → Except TableError Encoder

namespace FormatProvider

def declaredKeys (p : FormatProvider) : List String :=
  (p.requiredOptions ++ p.optionalOptions).map (·.key)

end FormatProvider

structure FormatRegistry where
  providers : OrderedMap String FormatProvider := ∅

namespace FormatRegistry

def empty : FormatRegistry := {}

/-- Adds a provider, in place of one with the same identifier. -/
def register (r : FormatRegistry) (p : FormatProvider) : FormatRegistry :=
  ⟨r.providers.insert p.identifier p⟩

def ofList (providers : List FormatProvider) : FormatRegistry := providers.foldl register empty

def get? (r : FormatRegistry) (identifier : String) : Option FormatProvider :=
  r.providers.get? identifier

def identifiers (r : FormatRegistry) : List String := r.providers.keys

/-- The provider that an option asks for. -/
def lookup (r : FormatRegistry) (identifier option : String) :
    Except TableError FormatProvider :=
  match r.get? identifier with
  | some p => .ok p
  | none => .error (.unknownFormat identifier option (", ".intercalate r.identifiers))

def debugText (r : FormatRegistry) : String :=
  "FormatRegistry \x7b formats: " ++ Text.quoteList r.identifiers ++ " \x7d"

end FormatRegistry

end TopicTable
