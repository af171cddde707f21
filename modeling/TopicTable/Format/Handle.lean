import TopicTable.Format.Provider
import TopicTable.Options.Catalogue

/-!
# Formats of a table

A format option names a provider, and the options under the provider's prefix go to it. The
format that a table ends up with also knows the row its codecs see.
-/

namespace TopicTable

/-- An option that names a format, and what stands before the format's identifier in the keys of
its own options. -/
structure FormatSlot where
  key : String
  optionPrefix : String
deriving DecidableEq, Repr

namespace FormatSlot

def shared : FormatSlot := ⟨Catalogue.format.key, ""⟩
def ofValue : FormatSlot := ⟨Catalogue.valueFormat.key, valuePrefix⟩
def ofKey : FormatSlot := ⟨Catalogue.keyFormat.key, keyPrefix⟩

/-- What stands before the keys of a format's options. -/
def scope (slot : FormatSlot) (identifier : String) : String :=
  slot.optionPrefix ++ identifier ++ "."

end FormatSlot

/-- A format with its options and what the provider says about them. -/
structure DiscoveredFormat where
  identifier : String
  optionPrefix : String
  options : FormatOptions
  changelogMode : ChangelogMode
  readableMetadata : MetadataTypes
  writableMetadata : MetadataTypes
  provider : FormatProvider

namespace DiscoveredFormat

/-- Finds the format that a slot names, if it names one. The keys that the slot and the provider
account for join the consumed ones. -/
def find? (registry : FormatRegistry) (options : OptionMap) (slot : FormatSlot)
    (consumed : List String) : Except TableError (Option DiscoveredFormat × List String) :=
  match options.get? slot.key with
  | none => .ok (none, consumed)
  | some identifier => do
    let provider ← registry.lookup identifier slot.key
    let scope := slot.scope identifier
    let own := options.withPrefix scope
    let missing := (provider.requiredOptions.map (·.key)).filter fun key => !own.contains key
    if missing ≠ [] then .error (.missingRequired (missing.map (scope ++ ·)))
    else
      let declared := own.keys.filter provider.declaredKeys.contains
      let changelogMode ← provider.changelogMode own
      let readable ← provider.readableMetadata own
      let writable ← provider.writableMetadata own
      return (some {
        identifier := identifier
        optionPrefix := slot.optionPrefix
        options := own
        changelogMode := changelogMode
        readableMetadata := readable
        writableMetadata := writable
        provider := provider
      }, consumed ++ slot.key :: declared.map (scope ++ ·))

end DiscoveredFormat

/-- A discovered format with the metadata asked of it and the row that its codecs see. -/
structure FormatHandle extends DiscoveredFormat where
  metadataKeys : List String
  rowType : RowType

namespace FormatHandle

/-- The fields of metadata keys, as far as they are declared. -/
def metadataFields (declared : MetadataTypes) (keys : List String) : RowType :=
  keys.filterMap fun key => (declared.get? key).map fun type => ⟨key, type, true⟩

/-- The handle for a row followed by metadata. -/
def ofFormat (format : DiscoveredFormat) (declared : MetadataTypes) (keys : List String)
    (row : RowType) : FormatHandle :=
  { format with metadataKeys := keys, rowType := row ++ metadataFields declared keys }

/-- Handles are compared by all but their providers. -/
instance : BEq FormatHandle where
  beq a b :=
    a.identifier == b.identifier && a.optionPrefix == b.optionPrefix && a.options == b.options &&
      a.changelogMode == b.changelogMode && a.readableMetadata == b.readableMetadata &&
      a.writableMetadata == b.writableMetadata && a.metadataKeys == b.metadataKeys &&
      a.rowType == b.rowType

def decoder (h : FormatHandle) : Except TableError Decoder :=
  h.provider.decoder h.options h.rowType h.metadataKeys

def encoder (h : FormatHandle) : Except TableError Encoder :=
  h.provider.encoder h.options h.rowType

end FormatHandle

end TopicTable
