/-!
# Integer literals

Decimal integers with an optional sign, within the bounds of a word. Characters are read from the
left, so the reported fault is the first one met.
-/

namespace TopicTable.Text

inductive IntegerFault where
  | empty
  | invalidDigit
  | tooLarge
  | tooSmall
deriving DecidableEq, Repr

def IntegerFault.message : IntegerFault → String
  | empty => "cannot parse integer from empty string"
  | invalidDigit => "invalid digit found in string"
  | tooLarge => "number too large to fit in target type"
  | tooSmall => "number too small to fit in target type"

/-- The bounds of a word: unsigned ones start at zero and take no minus sign. -/
structure IntegerBounds where
  signed : Bool
  bits : Nat
deriving DecidableEq, Repr

namespace IntegerBounds

def int32 : IntegerBounds := ⟨true, 32⟩
def int64 : IntegerBounds := ⟨true, 64⟩
def uint32 : IntegerBounds := ⟨false, 32⟩
def uint64 : IntegerBounds := ⟨false, 64⟩

def max (b : IntegerBounds) : Nat :=
  if b.signed then Nat.pow 2 (b.bits - 1) - 1 else Nat.pow 2 b.bits - 1

/-- The largest distance below zero. -/
def depth (b : IntegerBounds) : Nat := if b.signed then Nat.pow 2 (b.bits - 1) else 0

end IntegerBounds

def digitValue? (c : Char) : Option Nat :=
  if '0' ≤ c ∧ c ≤ '9' then some (c.toNat - 48) else none

/-- Reads digits after a number, up to a limit. -/
def readDigits (limit : Nat) (overflow : IntegerFault) (value : Nat) :
    List Char → Except IntegerFault Nat
  | [] => .ok value
  | c :: rest =>
    match digitValue? c with
    | none => .error .invalidDigit
    | some digit =>
      if value * 10 + digit ≤ limit then readDigits limit overflow (value * 10 + digit) rest
      else .error overflow

/-- Reads an integer literal. A sign needs digits after it. -/
def readInteger (b : IntegerBounds) : List Char → Except IntegerFault Int
  | [] => .error .empty
  | ['+'] => .error .invalidDigit
  | ['-'] => .error .invalidDigit
  | '+' :: rest => (readDigits b.max .tooLarge 0 rest).map fun n => (n : Int)
  | '-' :: rest =>
    if b.signed then (readDigits b.depth .tooSmall 0 rest).map fun n => -(n : Int)
    else .error .invalidDigit
  | cs => (readDigits b.max .tooLarge 0 cs).map fun n => (n : Int)

def parseInteger (b : IntegerBounds) (s : String) : Except IntegerFault Int :=
  readInteger b s.toList

def parseInt32 (s : String) : Except IntegerFault Int32 :=
  (parseInteger .int32 s).map Int32.ofInt

def parseInt64 (s : String) : Except IntegerFault Int64 :=
  (parseInteger .int64 s).map Int64.ofInt

def parseUInt32 (s : String) : Except IntegerFault UInt32 :=
  (parseInteger .uint32 s).map fun n => UInt32.ofNat n.toNat

def parseUInt64 (s : String) : Except IntegerFault UInt64 :=
  (parseInteger .uint64 s).map fun n => UInt64.ofNat n.toNat

end TopicTable.Text
