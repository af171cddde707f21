import TopicTable.Options.Value

/-!
# Startup modes

Where a source begins to read when it has no state to go on from.
-/

namespace TopicTable

inductive StartupMode where
  | earliestOffset
  | latestOffset
  | groupOffsets
  | specificOffsets
  | timestamp
deriving DecidableEq, Repr

namespace StartupMode

def text : StartupMode → String
  | earliestOffset => "earliest-offset"
  | latestOffset => "latest-offset"
  | groupOffsets => "group-offsets"
  | specificOffsets => "specific-offsets"
  | timestamp => "timestamp"

/-- Reads a mode; case does not matter and underscores stand for dashes. -/
def parse (raw : String) : Except String StartupMode :=
  match Text.replaceChar '_' '-' (Unicode.lower raw) with
  | "earliest-offset" => .ok earliestOffset
  | "latest-offset" => .ok latestOffset
  | "group-offsets" => .ok groupOffsets
  | "specific-offsets" => .ok specificOffsets
  | "timestamp" => .ok timestamp
  | other => .error ("unknown startup mode: '" ++ other ++ "' (expected 'earliest-offset', " ++
      "'latest-offset', 'group-offsets', 'specific-offsets' or 'timestamp')")

end StartupMode

instance : OptionValue StartupMode := ⟨StartupMode.parse⟩

end TopicTable
