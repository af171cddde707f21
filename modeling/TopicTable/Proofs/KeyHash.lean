import Mathlib.Algebra.Group.Nat.Defs
import TopicTable.Proofs.PartitionerRuns

/-! The hash of keys against its reference in signed words. The reference reads a key by index, word
by word and then the bytes left over in a switch that falls through. Words wrap around alike with
and without a sign, so what is left to show is that both take in the same bytes in one order. -/

namespace TopicTable.Murmur2

namespace Signed

def seed : Int32 := 0x9747b28c
def multiplier : Int32 := 0x5bd1e995

/-- The shift that moves zeros in from above, whatever the sign. -/
def shiftRight (x : Int32) (places : UInt32) : Int32 := (x.toUInt32 >>> places).toInt32

/-- The byte at an index of the key, without its sign. -/
def byteAt (key : ByteArray) (i : Int32) : Int32 :=
  (key.data.getD i.toNatClampNeg 0).toInt8.toInt32 &&& 0xff

/-- The word that starts at an index of the key. -/
def wordAt (key : ByteArray) (i : Int32) : Int32 :=
  byteAt key (i + 0) + (byteAt key (i + 1) <<< 8) + (byteAt key (i + 2) <<< 16) +
    (byteAt key (i + 3) <<< 24)

/-- Takes in the word of a given number. -/
def mixWordAt (key : ByteArray) (h i : Int32) : Int32 :=
  let k := wordAt key (i * 4) * multiplier
  let k := (k ^^^ shiftRight k 24) * multiplier
  (h * multiplier) ^^^ k

/-- The cases of the switch by how many bytes are left over. Each goes on with those below it. -/
def fallThrough (first second third left h : Int32) : Int32 :=
  let one (h : Int32) := (h ^^^ first) * multiplier
  let two (h : Int32) := one (h ^^^ (second <<< 8))
  let three (h : Int32) := two (h ^^^ (third <<< 16))
  if left = 3 then three h
  else if left = 2 then two h
  else if left = 1 then one h
  else h

/-- Takes in the bytes after the last whole word. -/
def mixRest (key : ByteArray) (length h : Int32) : Int32 :=
  let start := length &&& ~~~3
  fallThrough (byteAt key (start + 0)) (byteAt key (start + 1)) (byteAt key (start + 2))
    (length % 4) h

def finish (h : Int32) : Int32 :=
  let h := (h ^^^ shiftRight h 13) * multiplier
  h ^^^ shiftRight h 15

/-- The reference hash. -/
def hash (key : ByteArray) : Int32 :=
  let length := Int32.ofNat key.size
  let words := (List.range (length / 4).toNatClampNeg).map Int32.ofNat
  finish (mixRest key length (words.foldl (mixWordAt key) (seed ^^^ length)))

example : hash "a-little-bit-longer-string".toUTF8 = -1486304829 := by decide +kernel

end Signed

section Bits

theorem byte_high (b : UInt8) {i : Nat} (h : 8 ≤ i) : b.toBitVec.getLsbD i = false :=
  BitVec.getLsbD_of_ge _ _ h

/-- A mask of eight bits takes the sign of a byte away. -/
theorem byte_unsigned (b : UInt8) : b.toInt8.toInt32 &&& 0xff = b.toUInt32.toInt32 := by
  have hmask : ∀ i, (255#32).getLsbD i = decide (i < 8) := by
    intro i
    rw [BitVec.getLsbD_ofNat, show 255 = 2 ^ 8 - 1 from rfl, Nat.testBit_two_pow_sub_one]
    simp only [Bool.and_eq_right_iff_imp, decide_eq_true_eq]
    omega
  apply Int32.toBitVec.inj
  apply BitVec.eq_of_getLsbD_eq
  intro i hi
  change (b.toBitVec.signExtend 32 &&& 255#32).getLsbD i = (b.toBitVec.setWidth 32).getLsbD i
  rw [BitVec.getLsbD_and, hmask, BitVec.getLsbD_signExtend, BitVec.getLsbD_setWidth]
  by_cases hbyte : i < 8
  · simp [hi, hbyte]
  · simp [hbyte, byte_high b (Nat.le_of_not_lt hbyte)]

/-- Without a bit in common, addition is the union of bits. -/
theorem add_shiftLeft {x y : BitVec 32} {places : Nat}
    (h : ∀ i, places ≤ i → x.getLsbD i = false) : x + y <<< places = x ||| y <<< places := by
  apply BitVec.add_eq_or_of_and_eq_zero
  apply BitVec.eq_of_getLsbD_eq
  intro i _
  rw [BitVec.getLsbD_and, BitVec.getLsbD_shiftLeft, BitVec.getLsbD_zero]
  by_cases hlow : i < places
  · simp [hlow]
  · simp [h i (Nat.le_of_not_lt hlow)]

theorem word_eq_sum (a b c d : UInt8) : word a b c d =
    a.toUInt32 + (b.toUInt32 <<< 8) + (c.toUInt32 <<< 16) + (d.toUInt32 <<< 24) := by
  have hone : ∀ (e : UInt8) (i : Nat), 8 ≤ i → (e.toBitVec.setWidth 32).getLsbD i = false := by
    intro e i hi
    simp [byte_high e hi]
  have htwo : ∀ i, 16 ≤ i →
      (a.toBitVec.setWidth 32 ||| b.toBitVec.setWidth 32 <<< 8).getLsbD i = false := by
    intro i hi
    rw [BitVec.getLsbD_or, BitVec.getLsbD_shiftLeft, hone a i (by omega), hone b _ (by omega)]
    simp
  have hthree : ∀ i, 24 ≤ i → (a.toBitVec.setWidth 32 ||| b.toBitVec.setWidth 32 <<< 8 |||
      c.toBitVec.setWidth 32 <<< 16).getLsbD i = false := by
    intro i hi
    rw [BitVec.getLsbD_or, BitVec.getLsbD_shiftLeft, htwo i (by omega), hone c _ (by omega)]
    simp
  apply UInt32.toBitVec_inj.mp
  change a.toBitVec.setWidth 32 ||| b.toBitVec.setWidth 32 <<< 8 |||
      c.toBitVec.setWidth 32 <<< 16 ||| d.toBitVec.setWidth 32 <<< 24 =
    a.toBitVec.setWidth 32 + b.toBitVec.setWidth 32 <<< 8 + c.toBitVec.setWidth 32 <<< 16 +
      d.toBitVec.setWidth 32 <<< 24
  rw [add_shiftLeft (hone a), add_shiftLeft htwo, add_shiftLeft hthree]

/-- Without its two lowest bits a length is that of its whole words. -/
theorem length_wholeWords {n : Nat} (h : n < 2 ^ 31) :
    Int32.ofNat n &&& ~~~3 = Int32.ofNat (n / 4 * 4) := by
  have hmask : (4294967292 : Nat) = (2 ^ 30 - 1) * 2 ^ 2 := by decide
  apply Int32.toBitVec.inj
  apply BitVec.eq_of_toNat_eq
  change (BitVec.ofNat 32 n &&& 4294967292#32).toNat = (BitVec.ofNat 32 (n / 2 ^ 2 * 2 ^ 2)).toNat
  rw [BitVec.toNat_and, BitVec.toNat_ofNat, BitVec.toNat_ofNat, BitVec.toNat_ofNat,
    Nat.mod_eq_of_lt (by omega), Nat.mod_eq_of_lt (by decide), Nat.mod_eq_of_lt (by omega), hmask]
  apply Nat.eq_of_testBit_eq
  intro i
  rw [Nat.testBit_and, Nat.testBit_mul_two_pow, Nat.testBit_mul_two_pow,
    Nat.testBit_two_pow_sub_one, Nat.testBit_div_two_pow]
  by_cases hlow : 2 ≤ i
  · by_cases hhigh : i - 2 < 30
    · simp [hlow, hhigh]
    · have hnone : n.testBit i = false := Nat.testBit_lt_two_pow
        (Nat.lt_of_lt_of_le h (Nat.pow_le_pow_right (by decide) (by omega)))
      simp [hlow, hnone]
  · simp [hlow]

end Bits

/-- Takes in the word of a given number, the bytes being read by index. -/
def mixWordAt (bytes : List UInt8) (h : UInt32) (i : Nat) : UInt32 :=
  h * multiplier ^^^ mixWord (word (bytes.getD (i * 4) 0) (bytes.getD (i * 4 + 1) 0)
    (bytes.getD (i * 4 + 2) 0) (bytes.getD (i * 4 + 3) 0))

theorem mixWordAt_succ (a b c d : UInt8) (rest : List UInt8) :
    (fun h i => mixWordAt (a :: b :: c :: d :: rest) h (i + 1)) = mixWordAt rest := by
  funext h i
  simp [mixWordAt, Nat.add_mul]

/-- Words taken from the front are the words taken by their numbers. -/
theorem mixBytes_indexed (h : UInt32) (bytes : List UInt8) : mixBytes h bytes =
    mixRest ((List.range (bytes.length / 4)).foldl (mixWordAt bytes) h)
      (bytes.drop (bytes.length / 4 * 4)) := by
  induction h, bytes using mixBytes.induct with
  | case1 h a b c d rest ih =>
    have hcount : (a :: b :: c :: d :: rest).length / 4 = rest.length / 4 + 1 := by
      simp only [List.length_cons]
      omega
    have hfirst : mixWordAt (a :: b :: c :: d :: rest) h 0 =
        h * multiplier ^^^ mixWord (word a b c d) := rfl
    rw [mixBytes, ih, hcount, List.range_succ_eq_map, List.foldl_cons, List.foldl_map, hfirst]
    simp only [Nat.succ_eq_add_one, mixWordAt_succ, Nat.add_mul]
    rfl
  | case2 h rest hshort =>
    have hfew : rest.length < 4 := by
      rcases rest with _ | ⟨a, _ | ⟨b, _ | ⟨c, _ | ⟨d, rest⟩⟩⟩⟩
      case cons.cons.cons.cons => exact absurd rfl (hshort a b c d rest)
      all_goals simp
    rw [mixBytes, Nat.div_eq_of_lt hfew]
    · rfl
    · exact hshort

namespace Signed

section Key

variable {key : ByteArray}

/-- An index within the word range reads the byte of the key there. -/
theorem byteAt_ofNat {i : Nat} (hi : i < 2 ^ 31) :
    byteAt key (.ofNat i) = (key.data.toList.getD i 0).toUInt32.toInt32 := by
  unfold byteAt
  rw [Int32.toNatClampNeg_ofNat_of_lt hi, byte_unsigned]
  simp

theorem wordAt_ofNat {i : Nat} (hi : i + 3 < 2 ^ 31) : wordAt key (.ofNat i) =
    (word (key.data.toList.getD i 0) (key.data.toList.getD (i + 1) 0)
      (key.data.toList.getD (i + 2) 0) (key.data.toList.getD (i + 3) 0)).toInt32 := by
  have hoffset : ∀ j ≤ 3, byteAt key (.ofNat i + .ofNat j) =
      (key.data.toList.getD (i + j) 0).toUInt32.toInt32 := by
    intro j hj
    rw [← Int32.ofNat_add]
    exact byteAt_ofNat (by omega)
  change byteAt key (.ofNat i + .ofNat 0) + (byteAt key (.ofNat i + .ofNat 1) <<< 8) +
    (byteAt key (.ofNat i + .ofNat 2) <<< 16) + (byteAt key (.ofNat i + .ofNat 3) <<< 24) = _
  rw [hoffset 0 (by decide), hoffset 1 (by decide), hoffset 2 (by decide), hoffset 3 (by decide),
    word_eq_sum]
  rfl

/-- A word is taken in alike with and without a sign. -/
theorem mixWordAt_ofNat {i : Nat} (hi : i * 4 + 3 < 2 ^ 31) (h : UInt32) :
    mixWordAt key h.toInt32 (.ofNat i) =
      (Murmur2.mixWordAt key.data.toList h i).toInt32 := by
  have hindex : Int32.ofNat i * 4 = .ofNat (i * 4) := (Int32.ofNat_mul i 4).symm
  unfold mixWordAt
  rw [hindex, wordAt_ofNat hi]
  rfl

theorem fallThrough_rest {rest : List UInt8} (hfew : rest.length < 4) (h : UInt32) :
    fallThrough (rest.getD 0 0).toUInt32.toInt32 (rest.getD 1 0).toUInt32.toInt32
      (rest.getD 2 0).toUInt32.toInt32 (.ofNat rest.length) h.toInt32 =
      (Murmur2.mixRest h rest).toInt32 := by
  rcases rest with _ | ⟨a, _ | ⟨b, _ | ⟨c, _ | ⟨d, rest⟩⟩⟩⟩
  · rfl
  · rfl
  · rfl
  · rfl
  · simp only [List.length_cons] at hfew
    omega

/-- So are the bytes left over, whose number picks the case of the switch. -/
theorem mixRest_ofNat (hkey : key.size < 2 ^ 31) (h : UInt32) :
    mixRest key (.ofNat key.size) h.toInt32 =
      (Murmur2.mixRest h (key.data.toList.drop (key.size / 4 * 4))).toInt32 := by
  have hleft : Int32.ofNat key.size % 4 = .ofNat (key.size % 4) :=
    (Int32.ofNat_mod hkey (by decide)).symm
  have hbyte : ∀ j ≤ 2, byteAt key (.ofNat (key.size / 4 * 4) + .ofNat j) =
      ((key.data.toList.drop (key.size / 4 * 4)).getD j 0).toUInt32.toInt32 := by
    intro j hj
    rw [← Int32.ofNat_add, byteAt_ofNat (by omega), List.getD_eq_getElem?_getD,
      List.getD_eq_getElem?_getD, List.getElem?_drop]
  have hrest : (key.data.toList.drop (key.size / 4 * 4)).length = key.size % 4 := by
    rw [List.length_drop, Array.length_toList]
    change key.size - key.size / 4 * 4 = key.size % 4
    omega
  unfold mixRest
  dsimp only
  rw [length_wholeWords hkey, hleft, ← hrest]
  refine Eq.trans ?_ (fallThrough_rest (by omega) h)
  rw [← hbyte 0 (by decide), ← hbyte 1 (by decide), ← hbyte 2 (by decide)]
  rfl

theorem mixWords_ofNat {words : List Nat} (hwords : ∀ i ∈ words, i * 4 + 3 < 2 ^ 31) (h : UInt32) :
    (words.map Int32.ofNat).foldl (mixWordAt key) h.toInt32 =
      (words.foldl (Murmur2.mixWordAt key.data.toList) h).toInt32 := by
  induction words generalizing h with
  | nil => rfl
  | cons i words ih =>
    rw [List.map_cons, List.foldl_cons, List.foldl_cons,
      mixWordAt_ofNat (hwords i (List.mem_cons_self ..))]
    exact ih (fun j hj => hwords j (List.mem_cons_of_mem _ hj)) _

/-- The hash in unsigned words, taken from the front, is the reference hash. -/
theorem hash_eq (hkey : key.size < 2 ^ 31) :
    hash key = (Murmur2.hash key.data.toList).toInt32 := by
  have hcount : (Int32.ofNat key.size / 4).toNatClampNeg = key.size / 4 := by
    have hquotient : Int32.ofNat key.size / 4 = .ofNat (key.size / 4) :=
      (Int32.ofNat_div hkey (by decide)).symm
    rw [hquotient, Int32.toNatClampNeg_ofNat_of_lt (by omega)]
  have hwords : ∀ i ∈ List.range (key.size / 4), i * 4 + 3 < 2 ^ 31 := by
    intro i hi
    rw [List.mem_range] at hi
    omega
  have hstart : seed ^^^ Int32.ofNat key.size =
      (Murmur2.seed ^^^ UInt32.ofNat key.size).toInt32 := rfl
  unfold hash
  dsimp only
  rw [hcount, hstart, mixWords_ofNat hwords, mixRest_ofNat hkey]
  unfold Murmur2.hash
  rw [mixBytes_indexed]
  rfl

end Key

end Signed

end TopicTable.Murmur2

namespace TopicTable.Partitioner

open Murmur2

theorem toInt_toInt32 {x : UInt32} (h : x.toNat < 2 ^ 31) : x.toInt32.toInt = x.toNat := by
  change x.toBitVec.toInt = x.toBitVec.toNat
  exact BitVec.toInt_eq_toNat_of_lt (by change 2 * x.toNat < 2 ^ 32; omega)

/-- A key goes to the partition that the reference hash gives it, its sign bit cleared, among those
there are. -/
theorem key_partition_by_reference (key : ByteArray) (count : Int32) (hkey : key.size < 2 ^ 31)
    (hcount : 0 < count) : (keyHash.partition (some key) count).1 =
      some ((Signed.hash key &&& 0x7fffffff) % count) := by
  have hmask : (Murmur2.hash key.data.toList &&& 0x7fffffff).toNat < 2 ^ 31 := by
    rw [UInt32.toNat_and]
    exact Nat.lt_succ_of_le Nat.and_le_right
  have hpartition : (keyHash.partition (some key) count).1 = some (ofKey key count) := by
    simp [partition, Int32.not_le.mpr hcount]
  have hmod : ofKey key count =
      (Murmur2.hash key.data.toList &&& 0x7fffffff).toInt32 % count := by
    apply Int32.toInt.inj
    rw [ofKey, toInt_modCount _ hcount, Int32.toInt_mod, toInt_toInt32 hmask,
      Int.tmod_eq_emod_of_nonneg (Int.natCast_nonneg _)]
  rw [hpartition, hmod, Signed.hash_eq hkey]
  rfl

/-- A negative hash, with three bytes left over. -/
theorem negative_hash_partition :
    "order-12345".toUTF8.size < 2 ^ 31 ∧ (0 : Int32) < 7 ∧
    Signed.hash "order-12345".toUTF8 < 0 ∧
    (keyHash.partition (some "order-12345".toUTF8) 7).1 =
      some ((Signed.hash "order-12345".toUTF8 &&& 0x7fffffff) % 7) ∧
    (Signed.hash "order-12345".toUTF8 &&& 0x7fffffff) % 7 = 3 := by
  have hsize : "order-12345".toUTF8.size < 2 ^ 31 := by decide +kernel
  exact ⟨hsize, by decide, by decide +kernel, key_partition_by_reference _ _ hsize (by decide),
    by decide +kernel⟩

end TopicTable.Partitioner
