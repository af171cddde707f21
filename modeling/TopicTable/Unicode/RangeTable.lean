/-!
# Tables of code point ranges

A table is written as words of hexadecimal code points, a range as `first-last`, in increasing
order, and asked by binary search.
-/

namespace TopicTable.Unicode

/-- A set of code points as inclusive ranges in increasing order. -/
structure RangeTable where
  ranges : Array (Nat × Nat)
deriving Repr

namespace RangeTable

def hexDigit? (c : Char) : Option Nat :=
  if '0' ≤ c ∧ c ≤ '9' then some (c.toNat - 48)
  else if 'a' ≤ c ∧ c ≤ 'f' then some (c.toNat - 87)
  else none

/-- Reads the words of a line. `first` is the start of the range at hand and `last` the number
read so far. -/
def readRanges (first : Option Nat) (last : Nat) : List Char → List (Nat × Nat)
  | [] => [(first.getD last, last)]
  | '-' :: rest => readRanges (some last) 0 rest
  | ' ' :: rest => (first.getD last, last) :: readRanges none 0 rest
  | c :: rest => readRanges first (last * 16 + (hexDigit? c).getD 0) rest

def ofText (lines : List String) : RangeTable :=
  ⟨(lines.flatMap fun line => readRanges none 0 line.toList).toArray⟩

/-- Searches the ranges from `lo` up to, and not including, `hi`. -/
def search (ranges : Array (Nat × Nat)) (n lo hi : Nat) : Bool :=
  if lo < hi then
    let mid := (lo + hi) / 2
    match ranges[mid]? with
    | none => false
    | some (first, last) =>
      if n < first then search ranges n lo mid
      else if last < n then search ranges n (mid + 1) hi
      else true
  else false
termination_by hi - lo

def contains (t : RangeTable) (c : Char) : Bool :=
  search t.ranges c.toNat 0 t.ranges.size

end RangeTable

end TopicTable.Unicode
