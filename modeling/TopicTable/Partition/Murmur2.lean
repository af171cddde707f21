/-!
# Murmur2

The 32-bit hash by which producers spread keys over partitions: whole words of four bytes, least
significant byte first, then the bytes left over, then a final mixing.
-/

namespace TopicTable.Murmur2

def seed : UInt32 := 0x9747b28c
def multiplier : UInt32 := 0x5bd1e995

/-- The word of four bytes. -/
def word (a b c d : UInt8) : UInt32 :=
  a.toUInt32 ||| (b.toUInt32 <<< 8) ||| (c.toUInt32 <<< 16) ||| (d.toUInt32 <<< 24)

def mixWord (k : UInt32) : UInt32 :=
  let k := k * multiplier
  (k ^^^ (k >>> 24)) * multiplier

/-- Takes in the bytes after the last whole word. -/
def mixRest (h : UInt32) : List UInt8 → UInt32
  | [] => h
  | [a] => (h ^^^ a.toUInt32) * multiplier
  | [a, b] => (h ^^^ (b.toUInt32 <<< 8) ^^^ a.toUInt32) * multiplier
  | a :: b :: c :: _ =>
    (h ^^^ (c.toUInt32 <<< 16) ^^^ (b.toUInt32 <<< 8) ^^^ a.toUInt32) * multiplier

/-- Takes in the bytes, word by word. -/
def mixBytes (h : UInt32) : List UInt8 → UInt32
  | a :: b :: c :: d :: rest => mixBytes (h * multiplier ^^^ mixWord (word a b c d)) rest
  | rest => mixRest h rest

def finish (h : UInt32) : UInt32 :=
  let h := (h ^^^ (h >>> 13)) * multiplier
  h ^^^ (h >>> 15)

def hash (bytes : List UInt8) : UInt32 :=
  finish (mixBytes (seed ^^^ UInt32.ofNat bytes.length) bytes)

end TopicTable.Murmur2
