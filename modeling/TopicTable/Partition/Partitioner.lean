import TopicTable.Partition.Murmur2

/-!
# Partitioners

A partitioner picks the partition for each record of one sink subtask. It is a value that calls
turn into the next one, so a fresh partitioner is a copy of the first.
-/

namespace TopicTable

/-- A call to a partitioner. -/
inductive PartitionerCall where
  | start (subtask parallelism : UInt64)
  | reset
  | partition (key : Option ByteArray) (count : Int32)

/-- A partitioner of the library, or one that answers from the calls it has seen, latest first. -/
inductive Partitioner where
  | keyHash
  | fixed (subtask : UInt64)
  | roundRobin (counter : UInt64)
  | custom (answer : List PartitionerCall → Option ByteArray → Int32 → Option Int32)
      (seen : List PartitionerCall)

namespace Partitioner

/-- A number modulo a count of partitions, which has to be positive. -/
def modCount (n : Nat) (count : Int32) : Int32 := Int32.ofNat (n % count.toNatClampNeg)

/-- The partition of a key. -/
def ofKey (key : ByteArray) (count : Int32) : Int32 :=
  modCount (Murmur2.hash key.data.toList &&& 0x7fffffff).toNat count

/-- Answers for a record with a key or none among a number of partitions. Without an answer the
producer decides. -/
def partition (p : Partitioner) (key : Option ByteArray) (count : Int32) :
    Option Int32 × Partitioner :=
  match p with
  | keyHash => (if count ≤ 0 then none else key.map fun k => ofKey k count, keyHash)
  | fixed subtask =>
    (if count ≤ 0 then none else some (modCount subtask.toNat count), fixed subtask)
  | roundRobin counter =>
    if count ≤ 0 then (none, roundRobin counter)
    else (some (modCount counter.toNat count), roundRobin (counter + 1))
  | custom answer seen =>
    (answer seen key count, custom answer (.partition key count :: seen))

/-- Tells the partitioner its subtask before the first record. -/
def start (p : Partitioner) (subtask parallelism : UInt64) : Partitioner :=
  match p with
  | fixed _ => fixed subtask
  | custom answer seen => custom answer (.start subtask parallelism :: seen)
  | p => p

def reset : Partitioner → Partitioner
  | roundRobin _ => roundRobin 0
  | custom answer seen => custom answer (.reset :: seen)
  | p => p

/-- Carries out a call. Only calls for a partition have an answer. -/
def call (p : Partitioner) : PartitionerCall → Option Int32 × Partitioner
  | .start subtask parallelism => (none, p.start subtask parallelism)
  | .reset => (none, p.reset)
  | .partition key count => p.partition key count

/-- The answers to calls in order. -/
def run (p : Partitioner) : List PartitionerCall → List (Option Int32)
  | [] => []
  | c :: calls => (p.call c).1 :: (p.call c).2.run calls

/-- A partitioner with one answer for every record. -/
def constant (answer : Option Int32) : Partitioner := custom (fun _ _ _ => answer) []

end Partitioner

end TopicTable
