/-!
# Faults of byte sequences that are not text

Finds where a byte sequence stops being UTF-8 and how many bytes the bad sequence has; none when
the input ends inside a sequence that could go on.
-/

namespace TopicTable.Text

/-- The first bad sequence of a byte sequence. -/
structure Utf8Fault where
  index : Nat
  length : Option Nat
deriving DecidableEq, Repr

def Utf8Fault.message (fault : Utf8Fault) : String :=
  let index := toString fault.index
  match fault.length with
  | some n => s!"invalid utf-8 sequence of {n} bytes from index {index}"
  | none => s!"incomplete utf-8 byte sequence from index {index}"

/-- The bytes that may follow a lead byte directly; later ones are any continuation byte. -/
def secondByteRange? (lead : UInt8) : Option (Nat × UInt8 × UInt8) :=
  if 0xc2 ≤ lead ∧ lead ≤ 0xdf then some (1, 0x80, 0xbf)
  else if lead = 0xe0 then some (2, 0xa0, 0xbf)
  else if lead = 0xed then some (2, 0x80, 0x9f)
  else if 0xe1 ≤ lead ∧ lead ≤ 0xef then some (2, 0x80, 0xbf)
  else if lead = 0xf0 then some (3, 0x90, 0xbf)
  else if lead = 0xf4 then some (3, 0x80, 0x8f)
  else if 0xf1 ≤ lead ∧ lead ≤ 0xf3 then some (3, 0x80, 0xbf)
  else none

/-- Looks through the sequence that starts at `start`. `pending` counts the bytes still to come,
`seen` those read, and the next byte has to be within the bounds. -/
def findUtf8Fault (start seen pending : Nat) (low high : UInt8) : List UInt8 → Option Utf8Fault
  | [] => if pending = 0 then none else some ⟨start, none⟩
  | b :: rest =>
    match pending with
    | 0 =>
      if b < 0x80 then findUtf8Fault (start + 1) 0 0 0 0 rest
      else
        match secondByteRange? b with
        | none => some ⟨start, some 1⟩
        | some (n, low, high) => findUtf8Fault start 1 n low high rest
    | n + 1 =>
      if low ≤ b ∧ b ≤ high then
        if n = 0 then findUtf8Fault (start + seen + 1) 0 0 0 0 rest
        else findUtf8Fault start (seen + 1) n 0x80 0xbf rest
      else some ⟨start, some seen⟩

def utf8Fault? (bytes : ByteArray) : Option Utf8Fault :=
  findUtf8Fault 0 0 0 0 0 bytes.toList

/-- The text of a byte sequence, or where it stops being one. -/
def decodeUtf8 (bytes : ByteArray) : Except Utf8Fault String :=
  match String.fromUTF8? bytes with
  | some s => .ok s
  | none => .error ((utf8Fault? bytes).getD ⟨0, none⟩)

end TopicTable.Text
