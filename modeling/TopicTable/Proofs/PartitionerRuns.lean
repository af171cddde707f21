import TopicTable.Proofs.Settings

/-! The partitioners that need no registration, over whole runs. Their state is a summary of the
calls before: a fixed one remembers the latest start, round-robin counts its turns since the
latest reset, and a key hash remembers nothing. Each answer is read off that summary. -/

namespace TopicTable

namespace PartitionerCall

def isPartition : PartitionerCall → Bool
  | partition .. => true
  | _ => false

/-- The subtask after a call, given the one before. -/
def nextSubtask (subtask : UInt64) : PartitionerCall → UInt64
  | start subtask _ => subtask
  | reset => subtask
  | partition .. => subtask

/-- The turns taken after a call. A call without partitions takes none. -/
def nextTurns (turns : Nat) : PartitionerCall → Nat
  | start .. => turns
  | reset => 0
  | partition _ count => if count ≤ 0 then turns else turns + 1

/-- The subtask of the latest start, 0 without one. -/
def latestSubtask (calls : List PartitionerCall) : UInt64 := calls.foldl nextSubtask 0

/-- How many calls were given a partition in turn since the latest reset. -/
def turnsTaken (calls : List PartitionerCall) : Nat := calls.foldl nextTurns 0

theorem nextTurns_le (turns : Nat) (c : PartitionerCall) :
    c.nextTurns turns ≤ turns + if c.isPartition then 1 else 0 := by
  cases c with
  | start subtask parallelism => simp [nextTurns]
  | reset => simp [nextTurns]
  | partition key count =>
    simp only [nextTurns, isPartition, if_true]
    split <;> omega

/-- No more turns are taken than there are calls for a partition. -/
theorem turnsTaken_le (calls : List PartitionerCall) :
    turnsTaken calls ≤ calls.countP isPartition := by
  have hfrom : ∀ turns, calls.foldl nextTurns turns ≤ turns + calls.countP isPartition := by
    induction calls with
    | nil => simp
    | cons c calls ih =>
      intro turns
      have hstep := nextTurns_le turns c
      have hrest := ih (c.nextTurns turns)
      simp only [List.foldl_cons, List.countP_cons]
      omega
  have hzero := hfrom 0
  simpa [turnsTaken] using hzero

theorem turnsTaken_take_lt {calls : List PartitionerCall} {limit : Nat}
    (h : calls.countP isPartition < limit) (i : Nat) : turnsTaken (calls.take i) < limit := by
  have hturns := turnsTaken_le (calls.take i)
  have htake := (List.take_sublist i calls).countP_le (p := isPartition)
  omega

end PartitionerCall

namespace Partitioner

open PartitionerCall

/-- The partitioner that a run leaves behind. -/
def after (p : Partitioner) (calls : List PartitionerCall) : Partitioner :=
  calls.foldl (fun p c => (p.call c).2) p

@[simp] theorem after_nil (p : Partitioner) : p.after [] = p := rfl

@[simp] theorem after_cons (p : Partitioner) (c : PartitionerCall) (calls : List PartitionerCall) :
    p.after (c :: calls) = (p.call c).2.after calls := rfl

theorem length_run (p : Partitioner) (calls : List PartitionerCall) :
    (p.run calls).length = calls.length := by
  induction calls generalizing p with
  | nil => rfl
  | cons c calls ih => simp [run, ih]

theorem run_append (p : Partitioner) (earlier later : List PartitionerCall) :
    p.run (earlier ++ later) = p.run earlier ++ (p.after earlier).run later := by
  induction earlier generalizing p with
  | nil => rfl
  | cons c earlier ih => simp [run, ih]

/-- A call is answered in the state that the calls before it left. -/
theorem run_at (p : Partitioner) (calls : List PartitionerCall) (i : Nat) :
    (p.run calls)[i]? = (calls[i]?).map fun c => ((p.after (calls.take i)).call c).1 := by
  induction calls generalizing p i with
  | nil => rfl
  | cons c calls ih =>
    cases i with
    | zero => rfl
    | succ i => simpa [run] using ih (p.call c).2 i

/-- The partitioners of the library. -/
inductive Own : Partitioner → Prop where
  | keyHash : Own keyHash
  | fixed (subtask : UInt64) : Own (fixed subtask)
  | roundRobin (counter : UInt64) : Own (roundRobin counter)

/-- A call without partitions has no answer and leaves the state as it was. -/
theorem Own.partition_idle {p : Partitioner} (h : p.Own) (key : Option ByteArray) {count : Int32}
    (hcount : count ≤ 0) : p.partition key count = (none, p) := by
  cases h with
  | keyHash => simp [partition, hcount]
  | fixed subtask => simp [partition, hcount]
  | roundRobin counter => simp [partition, hcount]

theorem Own.call {p : Partitioner} (h : p.Own) (c : PartitionerCall) : (p.call c).2.Own := by
  cases h with
  | keyHash =>
    cases c with
    | start => exact .keyHash
    | reset => exact .keyHash
    | partition => exact .keyHash
  | fixed subtask =>
    cases c with
    | start => exact .fixed _
    | reset => exact .fixed _
    | partition => exact .fixed _
  | roundRobin counter =>
    cases c with
    | start => exact .roundRobin _
    | reset => exact .roundRobin _
    | partition key count =>
      by_cases hcount : count ≤ 0
      · simpa [Partitioner.call, partition, hcount] using Own.roundRobin counter
      · simpa [Partitioner.call, partition, hcount] using Own.roundRobin (counter + 1)

theorem Own.after {p : Partitioner} (h : p.Own) (calls : List PartitionerCall) :
    (p.after calls).Own := by
  induction calls generalizing p with
  | nil => exact h
  | cons c calls ih => exact ih (h.call c)

/-- Where a call without partitions stands in a run, the others are answered as without it. -/
theorem Own.run_idle {p : Partitioner} (h : p.Own) (earlier later : List PartitionerCall)
    (key : Option ByteArray) {count : Int32} (hcount : count ≤ 0) :
    p.run (earlier ++ .partition key count :: later) =
      p.run earlier ++ none :: (p.after earlier).run later := by
  have hidle := (h.after earlier).partition_idle key hcount
  simp [run_append, run, Partitioner.call, hidle]

section Summary

variable {calls : List PartitionerCall} {i : Nat} {key : Option ByteArray} {count : Int32}

theorem after_keyHash (calls : List PartitionerCall) : keyHash.after calls = keyHash := by
  induction calls with
  | nil => rfl
  | cons c calls ih => cases c <;> exact ih

theorem call_fixed (subtask : UInt64) (c : PartitionerCall) :
    ((fixed subtask).call c).2 = fixed (c.nextSubtask subtask) := by
  cases c <;> rfl

theorem after_fixed (subtask : UInt64) (calls : List PartitionerCall) :
    (fixed subtask).after calls = fixed (calls.foldl nextSubtask subtask) := by
  induction calls generalizing subtask with
  | nil => rfl
  | cons c calls ih => rw [after_cons, call_fixed, ih, List.foldl_cons]

/-- The counter of a word counts turns as long as it does not wrap around. -/
theorem call_roundRobin (turns : Nat) (c : PartitionerCall) :
    ((roundRobin (.ofNat turns)).call c).2 = roundRobin (.ofNat (c.nextTurns turns)) := by
  cases c with
  | start subtask parallelism => rfl
  | reset => rfl
  | partition key count =>
    by_cases hcount : count ≤ 0
    · simp [call, partition, nextTurns, hcount]
    · simp [call, partition, nextTurns, hcount, UInt64.ofNat_add]

theorem after_roundRobin (turns : Nat) (calls : List PartitionerCall) :
    (roundRobin (.ofNat turns)).after calls = roundRobin (.ofNat (calls.foldl nextTurns turns)) := by
  induction calls generalizing turns with
  | nil => rfl
  | cons c calls ih => rw [after_cons, call_roundRobin, ih, List.foldl_cons]

theorem keyHash_answer (h : calls[i]? = some (.partition key count)) (hcount : 0 < count) :
    (keyHash.run calls)[i]? = some (key.map (ofKey · count)) := by
  simp [run_at, h, after_keyHash, call, partition, Int32.not_le.mpr hcount]

theorem fixed_answer (h : calls[i]? = some (.partition key count)) (hcount : 0 < count) :
    ((fixed 0).run calls)[i]? =
      some (some (modCount (latestSubtask (calls.take i)).toNat count)) := by
  simp [run_at, h, after_fixed, call, partition, latestSubtask, Int32.not_le.mpr hcount]

theorem roundRobin_answer (h : calls[i]? = some (.partition key count)) (hcount : 0 < count)
    (hturns : turnsTaken (calls.take i) < UInt64.size) :
    ((roundRobin 0).run calls)[i]? =
      some (some (modCount (turnsTaken (calls.take i)) count)) := by
  have hcounter : (roundRobin 0).after (calls.take i) =
      roundRobin (.ofNat (turnsTaken (calls.take i))) := after_roundRobin 0 _
  have hexact : (UInt64.ofNat (turnsTaken (calls.take i))).toNat = turnsTaken (calls.take i) :=
    UInt64.toNat_ofNat_of_lt hturns
  simp [run_at, h, hcounter, call, partition, hexact, Int32.not_le.mpr hcount]

end Summary

theorem toInt_modCount (n : Nat) {count : Int32} (h : 0 < count) :
    (modCount n count).toInt = n % count.toInt := by
  have hpos : 0 < count.toInt := by simpa using Int32.lt_iff_toInt_lt.mp h
  have hword := count.toInt_lt
  have hnat : (count.toInt.toNat : Int) = count.toInt := Int.toNat_of_nonneg (by omega)
  have hless : n % count.toInt.toNat < count.toInt.toNat := Nat.mod_lt _ (by omega)
  have hfits : n % count.toNatClampNeg < 2 ^ 31 := by
    change n % count.toInt.toNat < 2 ^ 31
    omega
  rw [modCount, Int32.toInt_ofNat_of_lt hfits, Int.natCast_emod]
  exact congrArg ((n : Int) % ·) hnat

/-- Every partition that is picked is one of those there are. -/
theorem modCount_within (n : Nat) {count : Int32} (h : 0 < count) :
    0 ≤ (modCount n count).toInt ∧ (modCount n count).toInt < count.toInt := by
  have hpos : 0 < count.toInt := by simpa using Int32.lt_iff_toInt_lt.mp h
  rw [toInt_modCount n h]
  exact ⟨Int.emod_nonneg _ (by omega), Int.emod_lt_of_pos _ hpos⟩

end Partitioner

/-- The choices that need no registration. -/
def PartitionerChoice.IsBuiltIn : PartitionerChoice → Prop
  | custom _ => False
  | _ => True

namespace SinkPartitioner

open PartitionerCall

variable {options : OptionMap} {registry : PartitionerRegistry} {p : SinkPartitioner}

/-- A built-in choice starts from the same partitioner whatever the options and the registry. -/
inductive StartsFresh : SinkPartitioner → Prop where
  | keyHash : StartsFresh ⟨.default, .keyHash⟩
  | fixed : StartsFresh ⟨.fixed, .fixed 0⟩
  | roundRobin : StartsFresh ⟨.roundRobin, .roundRobin 0⟩

theorem Chosen.startsFresh (h : Chosen options registry p) (hbuiltIn : p.choice.IsBuiltIn) :
    StartsFresh p := by
  cases h with
  | default => exact .keyHash
  | fixed => exact .fixed
  | roundRobin keyless => exact .roundRobin
  | custom => exact hbuiltIn.elim

theorem StartsFresh.own (h : StartsFresh p) : p.fresh.Own := by
  cases h with
  | keyHash => exact .keyHash
  | fixed => exact .fixed 0
  | roundRobin => exact .roundRobin 0

/-- What the instance of a choice answers to the calls of a run, in whatever order they come. -/
structure AnswersRun (choice : PartitionerChoice) (fresh : Partitioner)
    (calls : List PartitionerCall) : Prop where
  /-- Without partitions there is no answer, and leaving the call out changes no other. -/
  idle : ∀ earlier key count later, calls = earlier ++ .partition key count :: later → count ≤ 0 →
    ∃ before after, before.length = earlier.length ∧ fresh.run calls = before ++ none :: after ∧
      fresh.run (earlier ++ later) = before ++ after
  within : ∀ (i : Nat) key count partition, calls[i]? = some (.partition key count) →
    (fresh.run calls)[i]? = some (some partition) →
    0 ≤ partition.toInt ∧ partition.toInt < count.toInt
  /-- The default goes by the key and the count alone. -/
  keyed : choice = .default → ∀ (i : Nat) key count, calls[i]? = some (.partition key count) →
    0 < count → (fresh.run calls)[i]? = some (key.map (Partitioner.ofKey · count))
  /-- A fixed partitioner goes by the latest start and the count alone. -/
  pinned : choice = .fixed → ∀ (i : Nat) key count, calls[i]? = some (.partition key count) →
    0 < count → ∃ partition, (fresh.run calls)[i]? = some (some partition) ∧
      partition.toInt = (latestSubtask (calls.take i)).toNat % count.toInt
  turned : choice = .roundRobin → ∀ (i : Nat) key count,
    calls[i]? = some (.partition key count) → 0 < count →
    ∃ partition, (fresh.run calls)[i]? = some (some partition) ∧
      partition.toInt = turnsTaken (calls.take i) % count.toInt
  restarted : choice = .roundRobin → ∀ earlier later, calls = earlier ++ .reset :: later →
    fresh.run calls = fresh.run earlier ++ none :: fresh.run later

/-- After a reset nothing is left of the turns before. -/
theorem roundRobin_restarted (earlier later : List PartitionerCall) :
    (Partitioner.roundRobin 0).run (earlier ++ .reset :: later) =
      (Partitioner.roundRobin 0).run earlier ++ none :: (Partitioner.roundRobin 0).run later := by
  have hleft : (Partitioner.roundRobin 0).after earlier =
      .roundRobin (.ofNat (turnsTaken earlier)) := Partitioner.after_roundRobin 0 earlier
  rw [Partitioner.run_append, hleft]
  rfl

theorem StartsFresh.partition_within (h : StartsFresh p) {calls : List PartitionerCall}
    (hfew : calls.countP isPartition < UInt64.size) {i : Nat} {key : Option ByteArray}
    {count partition : Int32} (hcall : calls[i]? = some (.partition key count))
    (hanswer : (p.fresh.run calls)[i]? = some (some partition)) :
    0 ≤ partition.toInt ∧ partition.toInt < count.toInt := by
  by_cases hcount : count ≤ 0
  · have hidle := (h.own.after (calls.take i)).partition_idle key hcount
    rw [Partitioner.run_at, hcall] at hanswer
    simp [Partitioner.call, hidle] at hanswer
  · rw [Int32.not_le] at hcount
    cases h with
    | keyHash =>
      rw [Partitioner.keyHash_answer hcall hcount] at hanswer
      obtain ⟨k, -, rfl⟩ := Option.map_eq_some_iff.mp (Option.some.inj hanswer)
      exact Partitioner.modCount_within _ hcount
    | fixed =>
      rw [Partitioner.fixed_answer hcall hcount] at hanswer
      obtain rfl := Option.some.inj (Option.some.inj hanswer)
      exact Partitioner.modCount_within _ hcount
    | roundRobin =>
      rw [Partitioner.roundRobin_answer hcall hcount (turnsTaken_take_lt hfew i)] at hanswer
      obtain rfl := Option.some.inj (Option.some.inj hanswer)
      exact Partitioner.modCount_within _ hcount

/-- A built-in partitioner keeps its promises over every run of calls in which the counter of its
turns cannot overflow. -/
theorem built_in_runs_answered (options : OptionMap) (registry : PartitionerRegistry)
    (p : SinkPartitioner) (h : ofOptions options registry = .ok p)
    (hbuiltIn : p.choice.IsBuiltIn) (calls : List PartitionerCall)
    (hfew : calls.countP isPartition < UInt64.size) : AnswersRun p.choice p.fresh calls := by
  have hfresh : StartsFresh p := (chosen_of_ok h).startsFresh hbuiltIn
  constructor
  · intro earlier key count later hcalls hcount
    refine ⟨p.fresh.run earlier, (p.fresh.after earlier).run later, p.fresh.length_run earlier,
      ?_, p.fresh.run_append earlier later⟩
    rw [hcalls]
    exact hfresh.own.run_idle earlier later key hcount
  · intro i key count partition hcall hanswer
    exact hfresh.partition_within hfew hcall hanswer
  · intro hchoice i key count hcall hcount
    cases hfresh with
    | keyHash => exact Partitioner.keyHash_answer hcall hcount
    | fixed => cases hchoice
    | roundRobin => cases hchoice
  · intro hchoice i key count hcall hcount
    cases hfresh with
    | keyHash => cases hchoice
    | fixed =>
      exact ⟨_, Partitioner.fixed_answer hcall hcount, Partitioner.toInt_modCount _ hcount⟩
    | roundRobin => cases hchoice
  · intro hchoice i key count hcall hcount
    cases hfresh with
    | keyHash => cases hchoice
    | fixed => cases hchoice
    | roundRobin =>
      exact ⟨_, Partitioner.roundRobin_answer hcall hcount (turnsTaken_take_lt hfew i),
        Partitioner.toInt_modCount _ hcount⟩
  · intro hchoice earlier later hcalls
    cases hfresh with
    | keyHash => cases hchoice
    | fixed => cases hchoice
    | roundRobin =>
      rw [hcalls]
      exact roundRobin_restarted earlier later

example : (Partitioner.fixed 0).run [.partition none 3, .start 5 8, .reset, .partition none 3] =
    [some 0, none, none, some 2] := by decide

/-- A call without partitions takes no turn, and a reset starts over. -/
theorem interrupted_turns_answered : ∃ p,
    ofOptions (.ofList [("sink.partitioner", " round-robin ")]) .empty = .ok p ∧
    AnswersRun p.choice p.fresh [.start 5 8, .partition none 3, .partition none 0,
      .partition (some "k".toUTF8) 3, .reset, .partition none 3, .partition none 2] ∧
    p.fresh.run [.start 5 8, .partition none 3, .partition none 0,
      .partition (some "k".toUTF8) 3, .reset, .partition none 3, .partition none 2] =
      [none, some 0, none, some 1, none, some 0, some 1] := by
  have hread : ofOptions (.ofList [("sink.partitioner", " round-robin ")]) .empty =
      .ok ⟨.roundRobin, .roundRobin 0⟩ := by rfl
  refine ⟨_, hread, built_in_runs_answered _ _ _ hread trivial _ (by decide), by decide +kernel⟩

end SinkPartitioner

end TopicTable
