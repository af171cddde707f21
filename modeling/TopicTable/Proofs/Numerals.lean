import TopicTable.Proofs.Outcome
import TopicTable.Text.Integer
import TopicTable.Unicode.Property

/-! Integer literals against their printed form. Digits read as their value in base ten while
that value stays within the word; what is read as a number of a signed word is any literal for it,
its printed form among them, which has no characters that the literal has not. -/

namespace TopicTable.Text

open Outcome

theorem digit_range {c : Char} (h : c.isDigit = true) : 48 ≤ c.toNat ∧ c.toNat ≤ 57 := by
  simpa [Char.isDigit, Char.le_def, UInt32.le_iff_toNat_le] using h

theorem not_white_of_isDigit {c : Char} (h : c.isDigit = true) :
    Unicode.isWhiteSpace c = false := by
  have hrange := digit_range h
  simp only [Unicode.isWhiteSpace, Bool.or_eq_false_iff, Bool.and_eq_false_imp,
    decide_eq_true_eq, decide_eq_false_iff_not, Nat.not_le]
  omega

theorem digitValue_of_isDigit {c : Char} (h : c.isDigit = true) :
    digitValue? c = some (c.toNat - 48) := by
  have hb : '0' ≤ c ∧ c ≤ '9' := by
    simpa [Char.isDigit, Char.le_def] using h
  simp [digitValue?, hb]

theorem digitValue_of_not_isDigit {c : Char} (h : ¬ c.isDigit = true) : digitValue? c = none := by
  have hb : ¬ ('0' ≤ c ∧ c ≤ '9') := by
    simpa [Char.isDigit, Char.le_def] using h
  simp only [digitValue?, hb, if_false]

/-- Reading on never makes the number smaller. -/
theorem le_ofDigitChars (cs : List Char) (value : Nat) : value ≤ Nat.ofDigitChars 10 cs value := by
  induction cs generalizing value with
  | nil => simp
  | cons c cs ih =>
    rw [Nat.ofDigitChars_cons]
    exact Nat.le_trans (by omega) (ih _)

theorem readDigits_ok_iff {limit : Nat} {overflow : IntegerFault} {cs : List Char} {value n : Nat}
    (hv : value ≤ limit) : readDigits limit overflow value cs = .ok n ↔
      (∀ c ∈ cs, c.isDigit = true) ∧ n = Nat.ofDigitChars 10 cs value ∧ n ≤ limit := by
  induction cs generalizing value with
  | nil =>
    simp only [readDigits, Except.ok.injEq, List.not_mem_nil, false_implies, implies_true,
      Nat.ofDigitChars_nil, true_and]
    omega
  | cons c cs ih =>
    unfold readDigits
    by_cases hc : c.isDigit = true
    · have hnext : value * 10 + (c.toNat - 48) = 10 * value + (c.toNat - '0'.toNat) := by
        rw [Nat.mul_comm]
        rfl
      rw [digitValue_of_isDigit hc]
      simp only [hnext, List.forall_mem_cons, hc, true_and, Nat.ofDigitChars_cons]
      by_cases hle : 10 * value + (c.toNat - '0'.toNat) ≤ limit
      · rw [if_pos hle]
        exact ih hle
      · have hlarge := le_ofDigitChars cs (10 * value + (c.toNat - '0'.toNat))
        rw [if_neg hle]
        simp only [reduceCtorEq, false_iff, not_and]
        rintro - rfl
        omega
    · rw [digitValue_of_not_isDigit hc]
      simp [hc]

/-- The number of all digits is read, up to the limit, and then given a sign. -/
theorem map_readDigits_ok_iff {limit : Nat} {overflow : IntegerFault} {cs : List Char}
    {sign : Int → Int} {n : Int} :
    Except.map sign (do let value ← readDigits limit overflow 0 cs; pure (value : Int)) = .ok n ↔
      (∀ c ∈ cs, c.isDigit = true) ∧ n = sign (Nat.ofDigitChars 10 cs 0) ∧
        Nat.ofDigitChars 10 cs 0 ≤ limit := by
  simp only [map_ok_iff, bind_ok_iff, pure_ok_iff]
  constructor
  · rintro ⟨-, ⟨value, hread, rfl⟩, rfl⟩
    obtain ⟨hdigits, rfl, hle⟩ := (readDigits_ok_iff (Nat.zero_le _)).mp hread
    exact ⟨hdigits, rfl, hle⟩
  · rintro ⟨hdigits, rfl, hle⟩
    exact ⟨_, ⟨_, (readDigits_ok_iff (Nat.zero_le _)).mpr ⟨hdigits, rfl, hle⟩, rfl⟩, rfl⟩

theorem readInteger_digits {b : IntegerBounds} {c : Char} {cs : List Char}
    (hc : c.isDigit = true) : readInteger b (c :: cs) =
      (readDigits b.max .tooLarge 0 (c :: cs)).map fun n => (n : Int) := by
  unfold readInteger
  split
  next h => cases h
  next h =>
    cases h
    exact absurd hc (by decide)
  next h =>
    cases h
    exact absurd hc (by decide)
  next h =>
    cases h
    exact absurd hc (by decide)
  next h =>
    cases h
    exact absurd hc (by decide)
  next => rfl

/-- A literal of digits alone is read as its value, as far as the word goes. -/
theorem readInteger_digits_ok_iff {b : IntegerBounds} {cs : List Char} {n : Int}
    (hdigits : ∀ c ∈ cs, c.isDigit = true) : readInteger b cs = .ok n ↔
      cs ≠ [] ∧ n = Nat.ofDigitChars 10 cs 0 ∧ Nat.ofDigitChars 10 cs 0 ≤ b.max := by
  cases cs with
  | nil => simp [readInteger]
  | cons c cs =>
    rw [readInteger_digits (hdigits c (List.mem_cons_self ..)), map_readDigits_ok_iff]
    exact and_congr (iff_of_true hdigits (List.cons_ne_nil c cs)) Iff.rfl

theorem readInteger_minus {b : IntegerBounds} {c : Char} {cs : List Char}
    (hs : b.signed = true) : readInteger b ('-' :: c :: cs) =
      (readDigits b.depth .tooSmall 0 (c :: cs)).map fun n => -(n : Int) := by
  simp [readInteger, hs]

/-- One digit or more. -/
structure Digits (cs : List Char) : Prop where
  nonempty : cs ≠ []
  all : ∀ c ∈ cs, c.isDigit = true

/-- A decimal literal: digits after a sign or after none. -/
inductive Literal : List Char → Int → Prop where
  | plain {digits : List Char} (h : Digits digits) :
      Literal digits (Nat.ofDigitChars 10 digits 0)
  | plus {digits : List Char} (h : Digits digits) :
      Literal ('+' :: digits) (Nat.ofDigitChars 10 digits 0)
  | minus {digits : List Char} (h : Digits digits) :
      Literal ('-' :: digits) (-(Nat.ofDigitChars 10 digits 0))

/-- What is read as a number of a signed word is a literal for it. -/
theorem readInteger_ok_iff {b : IntegerBounds} (hs : b.signed = true) {cs : List Char} {n : Int} :
    readInteger b cs = .ok n ↔ Literal cs n ∧ -(b.depth : Int) ≤ n ∧ n ≤ b.max := by
  constructor
  · intro h
    unfold readInteger at h
    split at h
    · cases h
    · cases h
    · cases h
    next rest hrest =>
      obtain ⟨hdigits, rfl, hle⟩ := map_readDigits_ok_iff.mp h
      exact ⟨.plus ⟨fun hnil => hrest (by rw [hnil]), hdigits⟩, by omega, by omega⟩
    next rest hrest =>
      rw [if_pos hs] at h
      obtain ⟨hdigits, rfl, hle⟩ := map_readDigits_ok_iff.mp h
      exact ⟨.minus ⟨fun hnil => hrest (by rw [hnil]), hdigits⟩, by omega, by omega⟩
    next hne _ _ _ _ =>
      obtain ⟨hdigits, rfl, hle⟩ := map_readDigits_ok_iff.mp h
      exact ⟨.plain ⟨hne, hdigits⟩, by omega, by omega⟩
  · rintro ⟨h, hlow, hhigh⟩
    cases h with
    | @plain digits h =>
      obtain ⟨c, cs, rfl⟩ := List.exists_cons_of_ne_nil h.nonempty
      rw [readInteger_digits (h.all c (List.mem_cons_self ..))]
      have hle : Nat.ofDigitChars 10 (c :: cs) 0 ≤ b.max := by omega
      exact map_readDigits_ok_iff.mpr ⟨h.all, rfl, hle⟩
    | @plus digits h =>
      obtain ⟨c, cs, rfl⟩ := List.exists_cons_of_ne_nil h.nonempty
      have hle : Nat.ofDigitChars 10 (c :: cs) 0 ≤ b.max := by omega
      exact map_readDigits_ok_iff.mpr ⟨h.all, rfl, hle⟩
    | @minus digits h =>
      obtain ⟨c, cs, rfl⟩ := List.exists_cons_of_ne_nil h.nonempty
      rw [readInteger_minus hs]
      have hle : Nat.ofDigitChars 10 (c :: cs) 0 ≤ b.depth := by omega
      exact map_readDigits_ok_iff.mpr ⟨h.all, rfl, hle⟩

theorem toList_repr_negSucc (m : Nat) :
    (Int.negSucc m).repr.toList = '-' :: (m + 1).repr.toList := by
  simp [Int.repr]

/-- Every integer is printed as a literal for it. -/
theorem literal_repr (n : Int) : Literal n.repr.toList n := by
  have hdigits : ∀ m : Nat, Digits m.repr.toList ∧ Nat.ofDigitChars 10 m.repr.toList 0 = m := by
    intro m
    rw [Nat.toList_repr]
    exact ⟨⟨Nat.toDigits_ne_nil, fun c hc =>
      Nat.isDigit_of_mem_toDigits (by decide) (by decide) hc⟩, Nat.ofDigitChars_ten_toDigits⟩
  cases n with
  | ofNat m =>
    obtain ⟨h, hvalue⟩ := hdigits m
    have hplain := Literal.plain h
    rwa [hvalue] at hplain
  | negSucc m =>
    obtain ⟨h, hvalue⟩ := hdigits (m + 1)
    have hminus := Literal.minus h
    rw [hvalue] at hminus
    rwa [toList_repr_negSucc]

theorem digit_lt {c : Char} (h : c.isDigit = true) : c.toNat - '0'.toNat < 10 := by
  have hrange := digit_range h
  have hzero : '0'.toNat = 48 := rfl
  omega

theorem toDigits_digit {c : Char} (h : c.isDigit = true) :
    Nat.toDigits 10 (c.toNat - '0'.toNat) = [c] := by
  have hrange := digit_range h
  have hzero : '0'.toNat = 48 := rfl
  rw [Nat.toDigits_of_lt_base (digit_lt h), List.singleton_inj, ← Char.toNat_inj,
    Nat.toNat_digitChar_of_lt_ten (digit_lt h)]
  omega

/-- Reading one more digit prints it behind the digits so far, or alone where they are zero. -/
theorem toDigits_ofDigitChars_subset {cs : List Char} (h : ∀ c ∈ cs, c.isDigit = true)
    (value : Nat) :
    Nat.toDigits 10 (Nat.ofDigitChars 10 cs value) ⊆ Nat.toDigits 10 value ++ cs := by
  induction cs generalizing value with
  | nil => simp
  | cons c cs ih =>
    obtain ⟨hc, hcs⟩ := List.forall_mem_cons.mp h
    have hlast : Nat.toDigits 10 (10 * value + (c.toNat - '0'.toNat)) ⊆
        Nat.toDigits 10 value ++ [c] := by
      rcases Nat.eq_zero_or_pos value with rfl | hpos
      · rw [Nat.mul_zero, Nat.zero_add, toDigits_digit hc]
        exact List.subset_append_right _ _
      · rw [← Nat.toDigits_append_toDigits (by decide) hpos (digit_lt hc), toDigits_digit hc]
        exact List.Subset.refl _
    rw [Nat.ofDigitChars_cons]
    calc
      Nat.toDigits 10 (Nat.ofDigitChars 10 cs (10 * value + (c.toNat - '0'.toNat))) ⊆
          Nat.toDigits 10 (10 * value + (c.toNat - '0'.toNat)) ++ cs := ih hcs _
      _ ⊆ (Nat.toDigits 10 value ++ [c]) ++ cs := List.append_subset.mpr
        ⟨List.subset_append_of_subset_left cs hlast, List.subset_append_right _ cs⟩
      _ = Nat.toDigits 10 value ++ c :: cs := List.append_cons .. |>.symm

theorem Digits.repr_subset {cs : List Char} (h : Digits cs) :
    (Nat.ofDigitChars 10 cs 0).repr.toList ⊆ cs := by
  obtain ⟨c, rest, rfl⟩ := List.exists_cons_of_ne_nil h.nonempty
  obtain ⟨hc, hrest⟩ := List.forall_mem_cons.mp h.all
  have hsubset := toDigits_ofDigitChars_subset hrest (c.toNat - '0'.toNat)
  rw [toDigits_digit hc, List.singleton_append] at hsubset
  rw [Nat.toList_repr, Nat.ofDigitChars_cons, Nat.mul_zero, Nat.zero_add]
  exact hsubset

/-- What a literal stands for is printed with characters of the literal alone: a sign, zeros in
front and the minus of zero may go, and nothing is added. -/
theorem Literal.repr_subset {cs : List Char} {n : Int} (h : Literal cs n) :
    n.repr.toList ⊆ cs := by
  cases h with
  | plain h => exact h.repr_subset
  | plus h => exact List.subset_cons_of_subset _ h.repr_subset
  | @minus digits h =>
    have hdigits := h.repr_subset
    cases hvalue : Nat.ofDigitChars 10 digits 0 with
    | zero =>
      rw [hvalue] at hdigits
      exact List.subset_cons_of_subset _ hdigits
    | succ m =>
      rw [hvalue] at hdigits
      change (Int.negSucc m).repr.toList ⊆ '-' :: digits
      rw [toList_repr_negSucc]
      exact List.cons_subset_cons _ hdigits

theorem Literal.ne_nil {cs : List Char} {n : Int} (h : Literal cs n) : cs ≠ [] := by
  cases h with
  | plain h => exact h.nonempty
  | plus => exact List.cons_ne_nil _ _
  | minus => exact List.cons_ne_nil _ _

theorem repr_ne_empty (n : Int) : n.repr ≠ "" := by
  intro hempty
  have hne := (literal_repr n).ne_nil
  rw [hempty] at hne
  exact hne rfl

theorem Literal.chars {cs : List Char} {n : Int} (h : Literal cs n) :
    ∀ c ∈ cs, c.isDigit = true ∨ c = '+' ∨ c = '-' := by
  intro c hc
  cases h with
  | plain h => exact .inl (h.all c hc)
  | plus h =>
    rcases List.mem_cons.mp hc with rfl | hc
    · exact .inr (.inl rfl)
    · exact .inl (h.all c hc)
  | minus h =>
    rcases List.mem_cons.mp hc with rfl | hc
    · exact .inr (.inr rfl)
    · exact .inl (h.all c hc)

/-- What is no part of a number is not in a literal. -/
theorem Literal.free {cs : List Char} {n : Int} (h : Literal cs n) {c : Char}
    (hc : (c.isDigit || c = '+' || c = '-') = false) : c ∉ cs := by
  intro hmem
  rcases h.chars c hmem with hdigit | rfl | rfl
  · simp [hdigit] at hc
  · simp at hc
  · simp at hc

theorem parseInt32_ok_iff {s : String} {n : Int32} :
    parseInt32 s = .ok n ↔ Literal s.toList n.toInt := by
  have hlow : -(IntegerBounds.int32.depth : Int) ≤ n.toInt := n.le_toInt
  have hhigh : n.toInt ≤ (IntegerBounds.int32.max : Int) := Int.le_of_lt_add_one n.toInt_lt
  unfold parseInt32 parseInteger
  rw [map_ok_iff]
  constructor
  · rintro ⟨value, hread, rfl⟩
    obtain ⟨h, hlow, hhigh⟩ := (readInteger_ok_iff rfl).mp hread
    rwa [Int32.toInt_ofInt_of_le hlow (Int.lt_add_one_of_le hhigh)]
  · intro h
    exact ⟨n.toInt, (readInteger_ok_iff rfl).mpr ⟨h, hlow, hhigh⟩, n.ofInt_toInt⟩

theorem parseInt64_ok_iff {s : String} {n : Int64} :
    parseInt64 s = .ok n ↔ Literal s.toList n.toInt := by
  have hlow : -(IntegerBounds.int64.depth : Int) ≤ n.toInt := n.le_toInt
  have hhigh : n.toInt ≤ (IntegerBounds.int64.max : Int) := Int.le_of_lt_add_one n.toInt_lt
  unfold parseInt64 parseInteger
  rw [map_ok_iff]
  constructor
  · rintro ⟨value, hread, rfl⟩
    obtain ⟨h, hlow, hhigh⟩ := (readInteger_ok_iff rfl).mp hread
    rwa [Int64.toInt_ofInt_of_le hlow (Int.lt_add_one_of_le hhigh)]
  · intro h
    exact ⟨n.toInt, (readInteger_ok_iff rfl).mpr ⟨h, hlow, hhigh⟩, n.ofInt_toInt⟩

theorem parseInt32_repr (n : Int32) : parseInt32 n.toInt.repr = .ok n :=
  parseInt32_ok_iff.mpr (literal_repr n.toInt)

theorem parseInt64_repr (n : Int64) : parseInt64 n.toInt.repr = .ok n :=
  parseInt64_ok_iff.mpr (literal_repr n.toInt)

end TopicTable.Text
