import TopicTable.Text.Basic
import TopicTable.Text.Integer
import TopicTable.Unicode.CaseMap

/-!
# Durations

A duration option is a number with a unit, `1000 ms`, `5 s` or `1 min`; a number alone counts
milliseconds.
-/

namespace TopicTable

/-- A span of time in whole milliseconds. -/
structure Duration where
  millis : Nat
deriving DecidableEq, Repr, Inhabited

namespace Duration

def zero : Duration := ⟨0⟩

def ofMillis (n : Nat) : Duration := ⟨n⟩

def ofSeconds (n : Nat) : Duration := ⟨1000 * n⟩

inductive Fault where
  | notDuration
  | unknownUnit (unit : String)
  | outOfRange
deriving DecidableEq, Repr

def Fault.message (raw : String) : Fault → String
  | notDuration => "'" ++ raw ++ "' is not a valid duration"
  | unknownUnit unit => "unknown duration unit '" ++ unit ++ "' in '" ++ raw ++ "'"
  | outOfRange => "'" ++ raw ++ "' is out of range"

inductive Unit where
  | millis
  | seconds (each : Nat)
deriving DecidableEq, Repr

def unit? (spelling : String) : Option Unit :=
  if spelling ∈ ["", "ms", "milli", "millis", "millisecond", "milliseconds"] then some .millis
  else if spelling ∈ ["s", "sec", "secs", "second", "seconds"] then some (.seconds 1)
  else if spelling ∈ ["min", "mins", "minute", "minutes"] then some (.seconds 60)
  else if spelling ∈ ["h", "hour", "hours"] then some (.seconds 3600)
  else if spelling ∈ ["d", "day", "days"] then some (.seconds 86400)
  else none

/-- Amounts and counts of seconds stay below this. -/
def limit : Nat := UInt64.size

/-- Splits a trimmed text into its digits and its unit. -/
def split (cs : List Char) : List Char × List Char :=
  (cs.takeWhile Char.isDigit, cs.dropWhile Char.isDigit)

def parse (raw : String) : Except Fault Duration :=
  let (digits, rest) := split (Text.trimChars raw.toList)
  match Text.readInteger .uint64 digits with
  | .error _ => .error .notDuration
  | .ok amount =>
    let spelling := Unicode.lower (Text.trim (String.ofList rest))
    match unit? spelling with
    | none => .error (.unknownUnit spelling)
    | some .millis => .ok (ofMillis amount.toNat)
    | some (.seconds each) =>
      if amount.toNat * each < limit then .ok (ofSeconds (amount.toNat * each))
      else .error .outOfRange

end Duration

end TopicTable
