import Mathlib.Algebra.Order.Floor.Div
import Mathlib.Data.Int.CardIntervalMod
import TopicTable.Proofs.PartitionerRuns

/-! Round-robin is fair from any point of a run. Whatever the calls before left in the counter, the
partitions that it picks in a window of calls follow each other in a circle, so none of them is picked
more than once more often than another. -/

namespace TopicTable

namespace PartitionerCall

/-- The call is for one of so many partitions. -/
def isTurn (count : Int32) : PartitionerCall → Bool
  | partition _ n => n = count
  | _ => false

/-- The calls of a window among so many partitions: besides its turns, starts and calls without
partitions may stand in it, but no reset. -/
inductive Among (count : Int32) : PartitionerCall → Prop where
  | start (subtask parallelism : UInt64) : Among count (start subtask parallelism)
  | idle (key : Option ByteArray) {n : Int32} (h : n ≤ 0) : Among count (partition key n)
  | turn (key : Option ByteArray) : Among count (partition key count)

variable {count : Int32}

/-- A call without partitions is no turn. -/
theorem isTurn_idle (key : Option ByteArray) {n : Int32} (hn : n ≤ 0) (hcount : 0 < count) :
    (partition key n).isTurn count = false := by
  have hne : n ≠ count := by
    rintro rfl
    exact Int32.not_le.mpr hcount hn
  simp [isTurn, hne]

theorem Among.nextTurns {c : PartitionerCall} (h : c.Among count) (hcount : 0 < count)
    (turns : Nat) : c.nextTurns turns = turns + if c.isTurn count then 1 else 0 := by
  cases h with
  | start => simp [PartitionerCall.nextTurns, isTurn]
  | idle key hn => simp [PartitionerCall.nextTurns, isTurn_idle key hn hcount, hn]
  | turn key => simp [PartitionerCall.nextTurns, isTurn, Int32.not_le.mpr hcount]

/-- Each turn of a window counts once. -/
theorem turnsTaken_append {earlier window : List PartitionerCall} (hcount : 0 < count)
    (h : ∀ c ∈ window, c.Among count) : turnsTaken (earlier ++ window) =
      turnsTaken earlier + window.countP (isTurn count) := by
  have hfrom : ∀ turns, window.foldl nextTurns turns =
      turns + window.countP (isTurn count) := by
    induction window with
    | nil => simp
    | cons c window ih =>
      intro turns
      have hstep := (h c (List.mem_cons_self ..)).nextTurns hcount turns
      have hrest := ih (fun d hd => h d (List.mem_cons_of_mem _ hd)) (c.nextTurns turns)
      rw [List.foldl_cons, hrest, hstep, List.countP_cons]
      omega
  rw [turnsTaken, List.foldl_append]
  exact hfrom _

end PartitionerCall

namespace Partitioner

open PartitionerCall

/-- The partitions that a run picks, in order. -/
def picked (p : Partitioner) (calls : List PartitionerCall) : List Int32 :=
  (p.run calls).filterMap id

theorem picked_cons (p : Partitioner) (c : PartitionerCall) (calls : List PartitionerCall) :
    p.picked (c :: calls) = (p.call c).1.toList ++ (p.call c).2.picked calls := by
  unfold picked
  rw [run]
  cases (p.call c).1 <;> rfl

section Window

variable {count : Int32} {window : List PartitionerCall}

/-- One call of a window has an answer if it is a turn, and that is where the counter stands. -/
theorem call_among {c : PartitionerCall} (h : c.Among count) (hcount : 0 < count) {turns : Nat}
    (hturns : turns < UInt64.size) : ((roundRobin (.ofNat turns)).call c).1 =
      if c.isTurn count then some (modCount turns count) else none := by
  cases h with
  | start => rfl
  | idle key hn => simp [call, partition, isTurn_idle key hn hcount, hn]
  | turn key =>
    have hexact : (UInt64.ofNat turns).toNat = turns := UInt64.toNat_ofNat_of_lt hturns
    simp [call, partition, isTurn, Int32.not_le.mpr hcount, hexact]

/-- The turns of a window are taken in a circle that goes on where the counter stands. -/
theorem picked_window (hcount : 0 < count) (h : ∀ c ∈ window, c.Among count) (turns : Nat)
    (hfew : turns + window.countP (isTurn count) < UInt64.size) :
    (roundRobin (.ofNat turns)).picked window =
      (List.range (window.countP (isTurn count))).map fun i => modCount (turns + i) count := by
  induction window generalizing turns with
  | nil => rfl
  | cons c window ih =>
    have hwindow : ∀ d ∈ window, d.Among count := fun d hd => h d (List.mem_cons_of_mem _ hd)
    have hc := h c (List.mem_cons_self ..)
    rw [List.countP_cons] at hfew ⊢
    rw [picked_cons, call_among hc hcount (by omega), call_roundRobin, hc.nextTurns hcount]
    by_cases hturn : c.isTurn count = true
    · simp only [hturn, if_true] at hfew ⊢
      rw [ih hwindow (turns + 1) (by omega), List.range_succ_eq_map]
      simp [Function.comp_def, Nat.add_assoc, Nat.add_comm 1]
    · simp only [hturn] at hfew ⊢
      exact ih hwindow turns hfew

/-- Exactly the turns of a window have an answer. -/
theorem answered_window (hcount : 0 < count) (h : ∀ c ∈ window, c.Among count) (turns : Nat)
    (hfew : turns + window.countP (isTurn count) < UInt64.size) :
    ((roundRobin (.ofNat turns)).run window).map Option.isSome =
      window.map (isTurn count) := by
  induction window generalizing turns with
  | nil => rfl
  | cons c window ih =>
    have hwindow : ∀ d ∈ window, d.Among count := fun d hd => h d (List.mem_cons_of_mem _ hd)
    have hc := h c (List.mem_cons_self ..)
    rw [List.countP_cons] at hfew
    have hrest := ih hwindow (c.nextTurns turns) (by rw [hc.nextTurns hcount]; omega)
    rw [run, List.map_cons, List.map_cons, call_among hc hcount (by omega), call_roundRobin, hrest]
    cases c.isTurn count <;> rfl

end Window

/-- Of so many numbers in a row, as many have one rest as have any other, up to one. -/
theorem count_rest (start length : Nat) {n r : Nat} (hr : r < n) :
    ((List.range length).map fun i => (start + i) % n).count r = length / n ∨
      ((List.range length).map fun i => (start + i) % n).count r = length ⌈/⌉ n := by
  have hn : 0 < n := by omega
  -- the place at which a circle that begins at the start has the rest
  let place := r + (n - start % n)
  have hplace : start + place = r + n * (start / n + 1) := by
    have hdiv := Nat.div_add_mod start n
    have hmod := Nat.mod_lt start hn
    rw [Nat.mul_add]
    omega
  have hrest : ∀ i, (start + i) % n = r ↔ i ≡ place [MOD n] := by
    intro i
    have hback : (start + place) % n = r := by
      rw [hplace, Nat.add_mul_mod_self_left, Nat.mod_eq_of_lt hr]
    rw [← hback]
    exact ⟨Nat.ModEq.add_left_cancel' start, Nat.ModEq.add_left start⟩
  have hcount : ((List.range length).map fun i => (start + i) % n).count r =
      length.count (· ≡ place [MOD n]) := by
    rw [List.count, List.countP_map, Nat.count]
    exact List.countP_congr fun i _ => by simp [hrest]
  rw [hcount, Nat.count_modEq_card _ hn]
  split
  next hmore =>
    right
    have hdiv := Nat.div_add_mod length n
    have hmod := Nat.mod_lt length hn
    have hlength : length + n - 1 = (length % n - 1) + n * (length / n + 1) := by
      rw [Nat.mul_add]
      omega
    have hsmall : (length % n - 1) / n = 0 := Nat.div_eq_of_lt (by omega)
    rw [Nat.ceilDiv_eq_add_pred_div, hlength, Nat.add_mul_div_left _ _ hn, hsmall, Nat.zero_add]
  next => exact .inl rfl

/-- The partitions picked among so many, one for each of a number of turns. -/
structure TakeTurns (count : Int32) (turns : Nat) (picked : List Int32) : Prop where
  length : picked.length = turns
  within : ∀ p ∈ picked, 0 ≤ p.toInt ∧ p.toInt < count.toInt
  fair : ∀ p : Int32, 0 ≤ p.toInt → p.toInt < count.toInt →
    picked.count p = turns / count.toInt.toNat ∨ picked.count p = turns ⌈/⌉ count.toInt.toNat
  /-- The partition after the last one is the first. -/
  circle : ∀ (i : Nat) (p q : Int32), picked[i]? = some p → picked[i + 1]? = some q →
    q.toInt = (p.toInt + 1) % count.toInt

theorem takeTurns_range {count : Int32} (hcount : 0 < count) (start turns : Nat) :
    TakeTurns count turns ((List.range turns).map fun i => modCount (start + i) count) := by
  have hpos : 0 < count.toInt := by simpa using Int32.lt_iff_toInt_lt.mp hcount
  constructor
  · simp
  · intro p hp
    obtain ⟨i, -, rfl⟩ := List.mem_map.mp hp
    exact modCount_within _ hcount
  · intro p hlow hhigh
    have hsame : ∀ i, modCount (start + i) count = p ↔
        (start + i) % count.toInt.toNat = p.toInt.toNat := by
      intro i
      have hcast : (((start + i) % count.toInt.toNat : Nat) : Int) =
          ((start + i : Nat) : Int) % count.toInt := by
        rw [Int.natCast_emod, Int.toNat_of_nonneg (by omega)]
      rw [← Int32.toInt_inj, toInt_modCount _ hcount, ← hcast]
      omega
    have hfair := count_rest start turns (n := count.toInt.toNat) (r := p.toInt.toNat) (by omega)
    have hcounts : ((List.range turns).map fun i => modCount (start + i) count).count p =
        ((List.range turns).map fun i => (start + i) % count.toInt.toNat).count
          p.toInt.toNat := by
      rw [List.count, List.count, List.countP_map, List.countP_map]
      exact List.countP_congr fun i _ => by simp [hsame]
    rwa [hcounts]
  · intro i p q hp hq
    obtain ⟨-, rfl⟩ : i < turns ∧ modCount (start + i) count = p := by
      simpa [List.getElem?_eq_some_iff] using hp
    obtain ⟨-, rfl⟩ : i + 1 < turns ∧ modCount (start + (i + 1)) count = q := by
      simpa [List.getElem?_eq_some_iff] using hq
    rw [toInt_modCount _ hcount, toInt_modCount _ hcount, Int.emod_add_emod]
    rfl

/-- Whatever calls came before, and whatever counts they were for, the turns of a window have the
answers, and these take turns. -/
theorem round_robin_fair (earlier window : List PartitionerCall) (count : Int32)
    (hcount : 0 < count) (hwindow : ∀ c ∈ window, c.Among count)
    (hfew : turnsTaken (earlier ++ window) < UInt64.size) :
    (((roundRobin 0).after earlier).run window).map Option.isSome =
        window.map (isTurn count) ∧
      TakeTurns count (window.countP (isTurn count))
        (((roundRobin 0).after earlier).picked window) := by
  have hcounter : (roundRobin 0).after earlier = roundRobin (.ofNat (turnsTaken earlier)) :=
    after_roundRobin 0 earlier
  rw [turnsTaken_append hcount hwindow] at hfew
  rw [hcounter]
  refine ⟨answered_window hcount hwindow _ hfew, ?_⟩
  rw [picked_window hcount hwindow _ hfew]
  exact takeTurns_range hcount _ _

/-- Six turns among four partitions, with a start and calls without partitions between them. -/
def sixTurns : List PartitionerCall :=
  [.partition none 4, .start 1 2, .partition (some "k".toUTF8) 4, .partition none 0,
    .partition none 4, .partition none 4, .partition none (-1), .partition none 4,
    .partition none 4]

/-- The window begins at the counter that turns among seven and among two partitions left. -/
theorem six_turns_fair :
    TakeTurns 4 6 (((roundRobin 0).after
      [.partition none 3, .reset, .partition none 7, .partition none 2]).picked sixTurns) ∧
    ((roundRobin 0).after
      [.partition none 3, .reset, .partition none 7, .partition none 2]).run sixTurns =
      [some 2, none, some 3, none, some 0, some 1, none, some 2, some 3] := by
  have hwindow : ∀ c ∈ sixTurns, c.Among 4 := by
    simp only [sixTurns, List.forall_mem_cons, List.not_mem_nil, false_implies, implies_true,
      and_true]
    exact ⟨.turn _, .start _ _, .turn _, .idle _ (by decide), .turn _, .turn _,
      .idle _ (by decide), .turn _, .turn _⟩
  have hfair := round_robin_fair [.partition none 3, .reset, .partition none 7, .partition none 2]
    sixTurns 4 (by decide) hwindow (by decide +kernel)
  exact ⟨hfair.2, by decide +kernel⟩

end Partitioner

end TopicTable
