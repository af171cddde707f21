import TopicTable.Options.Duration

/-!
# Values of options

How the text of an option becomes a value. A failure is a reason, which whoever knows the option
puts into a message.
-/

namespace TopicTable

/-- Types that option texts are read as. -/
class OptionValue (α : Type) where
  parse : String → Except String α

def parseBool (raw : String) : Except String Bool :=
  match Unicode.lower (Text.trim raw) with
  | "true" => .ok true
  | "false" => .ok false
  | other => .error ("'" ++ other ++ "' is not a boolean")

/-- Reads the trimmed text; the reason shows the text as it was given. -/
def parseNumber {α : Type} (read : String → Except Text.IntegerFault α) (raw : String) :
    Except String α :=
  (read (Text.trim raw)).mapError fun fault => "'" ++ raw ++ "': " ++ fault.message

instance : OptionValue String := ⟨.ok⟩
instance : OptionValue Bool := ⟨parseBool⟩
instance : OptionValue Int32 := ⟨parseNumber Text.parseInt32⟩
instance : OptionValue Int64 := ⟨parseNumber Text.parseInt64⟩
instance : OptionValue UInt32 := ⟨parseNumber Text.parseUInt32⟩
instance : OptionValue UInt64 := ⟨parseNumber Text.parseUInt64⟩
instance : OptionValue (List String) := ⟨fun raw => .ok (Text.listEntries raw)⟩
instance : OptionValue Duration := ⟨fun raw => (Duration.parse raw).mapError (·.message raw)⟩

end TopicTable
