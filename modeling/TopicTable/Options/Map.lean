import TopicTable.Data.OrderedMap
import TopicTable.Error
import TopicTable.Text.Basic

/-!
# Option maps

The options of a table definition: case-sensitive keys with text values.
-/

namespace TopicTable

abbrev OptionMap := OrderedMap String String

namespace OptionMap

/-- The value of an option that has to be set. -/
def require (options : OptionMap) (key : String) : Except TableError String :=
  match options.get? key with
  | some value => .ok value
  | none => .error (.missingRequired [key])

/-- The options whose key has a prefix, under the rest of their key. -/
def withPrefix (options : OptionMap) (start : String) : OptionMap :=
  .ofList (options.entries.filterMap fun e =>
    (Text.stripPrefix? start e.1).map fun rest => (rest, e.2))

/-- The keys that are neither consumed nor under a prefix whose options are passed on. -/
def unconsumedKeys (options : OptionMap) (consumed passedOn : List String) : List String :=
  options.keys.filter fun key =>
    !consumed.contains key && !passedOn.any fun start => Text.hasPrefix start key

/-- Applies changes in order; an empty value removes its key. -/
def withChanges (options : OptionMap) (changes : List (String × String)) : OptionMap :=
  changes.foldl
    (fun options change =>
      if change.2 = "" then options.erase change.1 else options.insert change.1 change.2)
    options

end OptionMap

end TopicTable
