import Mathlib.Algebra.Group.Nat.Defs
import Mathlib.Tactic.SplitIfs
import TopicTable.Options.Value
import TopicTable.Proofs.Entries
import TopicTable.Proofs.Numerals
import TopicTable.Proofs.Outcome

/-! What the text of a duration gives, and that it is read exactly: the amount times the unit, in
whole milliseconds, or not at all. An amount counts as long as it fits into a word, and so must the
whole in seconds where the unit is one of seconds; a text that is refused fails one of the two, or
has no amount or a unit that nobody knows. -/

namespace TopicTable.Duration

/-- The units in milliseconds with their spellings; without a spelling milliseconds are meant. -/
def units : List (Nat × List String) := [
  (1, ["", "ms", "milli", "millis", "millisecond", "milliseconds"]),
  (1000, ["s", "sec", "secs", "second", "seconds"]),
  (60000, ["min", "mins", "minute", "minutes"]),
  (3600000, ["h", "hour", "hours"]),
  (86400000, ["d", "day", "days"])]

def Spells (spelling : String) (each : Nat) : Prop :=
  ∃ unit ∈ units, unit.1 = each ∧ spelling ∈ unit.2

def Unit.inMillis : Unit → Nat
  | millis => 1
  | seconds each => 1000 * each

/-- The leading digits of the trimmed text, if any, and what stands behind them. -/
structure Leads (raw number rest : String) : Prop where
  parts : Text.trim raw = number ++ rest
  digits : ∀ c ∈ number.toList, c.isDigit = true
  stop : ∀ c, rest.toList.head? = some c → c.isDigit = false

def amountOf (number : String) : Nat := Nat.ofDigitChars 10 number.toList 0

/-- The trimmed text is the amount, one digit or more, and then what spells the unit when it is
trimmed and in lower case. -/
inductive Gives (raw : String) : Nat → Unit → Prop where
  | mk {number spelling : String} {unit : Unit} (parts : Text.trim raw = number ++ spelling)
      (digits : Text.Digits number.toList)
      (spelt : Spells (Unicode.lower (Text.trim spelling)) unit.inMillis) :
      Gives raw (amountOf number) unit

/-- Units of seconds are counted in seconds, and the count must fit into a word. -/
def Unit.Fits (amount : Nat) : Unit → Prop
  | millis => True
  | seconds each => amount * each < 2 ^ 64

def Unit.span (amount : Nat) : Unit → Duration
  | millis => ofMillis amount
  | seconds each => ofSeconds (amount * each)

/-- The ways for the reading of a duration to end. -/
inductive Ends (raw : String) : Except Fault Duration → Prop where
  | notDuration {number rest : String} (h : Leads raw number rest)
      (hnumber : number = "" ∨ 2 ^ 64 ≤ amountOf number) : Ends raw (.error .notDuration)
  | unknownUnit {number rest : String} (h : Leads raw number rest) (hne : number ≠ "")
      (hamount : amountOf number < 2 ^ 64)
      (hunit : ∀ each, ¬ Spells (Unicode.lower (Text.trim rest)) each) :
      Ends raw (.error (.unknownUnit (Unicode.lower (Text.trim rest))))
  | outOfRange {amount : Nat} {unit : Unit} (h : Gives raw amount unit) (hamount : amount < 2 ^ 64)
      (hlarge : ¬ unit.Fits amount) : Ends raw (.error .outOfRange)
  | read {amount : Nat} {unit : Unit} (h : Gives raw amount unit) (hamount : amount < 2 ^ 64)
      (hfits : unit.Fits amount) : Ends raw (.ok (unit.span amount))

theorem spells_iff {spelling : String} {each : Nat} :
    Spells spelling each ↔ (unit? spelling).map Unit.inMillis = some each := by
  constructor
  · rintro ⟨unit, hunit, rfl, hspelling⟩
    have hall : ∀ unit ∈ units, ∀ spelling ∈ unit.2,
        (unit? spelling).map Unit.inMillis = some unit.1 := by decide
    exact hall unit hunit spelling hspelling
  · intro h
    obtain ⟨unit, hunit, rfl⟩ := Option.map_eq_some_iff.mp h
    unfold unit? at hunit
    split_ifs at hunit with hmillis hseconds hminutes hhours hdays
    · cases hunit
      exact ⟨(1, _), by simp [units], rfl, hmillis⟩
    · cases hunit
      exact ⟨(1000, _), by simp [units], rfl, hseconds⟩
    · cases hunit
      exact ⟨(60000, _), by simp [units], rfl, hminutes⟩
    · cases hunit
      exact ⟨(3600000, _), by simp [units], rfl, hhours⟩
    · cases hunit
      exact ⟨(86400000, _), by simp [units], rfl, hdays⟩

theorem split_eq_iff {cs digits rest : List Char} : split cs = (digits, rest) ↔
    cs = digits ++ rest ∧ (∀ c ∈ digits, c.isDigit = true) ∧
      ∀ c, rest.head? = some c → c.isDigit = false := by
  unfold split
  rw [Prod.mk.injEq]
  constructor
  · rintro ⟨rfl, rfl⟩
    refine ⟨List.takeWhile_append_dropWhile.symm, ?_, fun c hc => Text.head_dropWhile hc⟩
    exact List.all_eq_true.mp List.all_takeWhile
  · rintro ⟨rfl, hdigits, hrest⟩
    rw [List.takeWhile_append_of_pos hdigits, List.dropWhile_append_of_pos hdigits]
    cases rest with
    | nil => simp
    | cons c rest => simp [hrest c rfl]

theorem limit_eq : limit = 2 ^ 64 := rfl

theorem Unit.span_millis (amount : Nat) (unit : Unit) :
    (unit.span amount).millis = amount * unit.inMillis := by
  cases unit with
  | millis => exact (Nat.mul_one amount).symm
  | seconds each => exact Nat.mul_left_comm 1000 amount each

theorem Unit.inMillis_injective : Function.Injective Unit.inMillis := by
  intro unit unit' h
  cases unit with
  | millis =>
    cases unit' with
    | millis => rfl
    | seconds each' =>
      dsimp only [inMillis] at h
      omega
  | seconds each =>
    cases unit' with
    | millis =>
      dsimp only [inMillis] at h
      omega
    | seconds each' =>
      have heach : each = each' := Nat.eq_of_mul_eq_mul_left (by decide) h
      rw [heach]

theorem spells_inMillis_iff {spelling : String} {unit : Unit} :
    Spells spelling unit.inMillis ↔ unit? spelling = some unit := by
  rw [spells_iff, Option.map_eq_some_iff]
  constructor
  · rintro ⟨unit', hunit, hsame⟩
    rw [hunit, Unit.inMillis_injective hsame]
  · intro hunit
    exact ⟨unit, hunit, rfl⟩

theorem unit_none_iff {spelling : String} :
    unit? spelling = none ↔ ∀ each, ¬ Spells spelling each := by
  simp only [spells_iff]
  cases unit? spelling with
  | none => simp
  | some unit => simp

/-- No spelling of a unit starts with a digit. -/
theorem Spells.no_digit {spelling : String} {each : Nat} (h : Spells spelling each) :
    ∀ c, spelling.toList.head? = some c → c.isDigit = false := by
  have hall : ∀ unit ∈ units, ∀ spelling ∈ unit.2,
      spelling.toList.head?.any Char.isDigit = false := by decide
  obtain ⟨unit, hunit, -, hspelling⟩ := h
  intro c hc
  have hhead := hall unit hunit spelling hspelling
  rwa [hc] at hhead

theorem exists_leads (raw : String) : ∃ number rest, Leads raw number rest := by
  obtain ⟨⟨digits, rest⟩, hsplit⟩ : ∃ parts, split (Text.trimChars raw.toList) = parts := ⟨_, rfl⟩
  obtain ⟨hparts, hdigits, hrest⟩ := split_eq_iff.mp hsplit
  refine ⟨.ofList digits, .ofList rest, ⟨?_, by simpa using hdigits, by simpa using hrest⟩⟩
  rw [Text.trim, hparts, String.ofList_append]

theorem Leads.split_eq {raw number rest : String} (h : Leads raw number rest) :
    split (Text.trimChars raw.toList) = (number.toList, rest.toList) := by
  refine split_eq_iff.mpr ⟨?_, h.digits, h.stop⟩
  have hparts := congrArg String.toList h.parts
  rwa [Text.trim, String.toList_ofList, String.toList_append] at hparts

theorem head_lower_of_isDigit {s : String} {c : Char} (hc : c.isDigit = true)
    (h : s.toList.head? = some c) : (Unicode.lower s).toList.head? = some c := by
  have hrange := Text.digit_range hc
  have hlower : c.toLower = c := by
    apply dif_neg
    rintro ⟨hupper, -⟩
    have hle : 65 ≤ c.toNat := UInt32.le_iff_toNat_le.mp hupper
    omega
  have hsame : Unicode.lowerChar c = [c] := by
    rw [Unicode.lowerChar, if_pos (by omega), hlower]
  have hsigma : c ≠ 'Σ' := by
    rintro rfl
    cases hc
  obtain ⟨rest, hs⟩ := List.head?_eq_some_iff.mp h
  rw [Unicode.lower, String.toList_ofList, hs]
  unfold Unicode.lowerFrom
  rw [if_neg hsigma, hsame]
  rfl

/-- What spells a unit takes no digit from the amount before it. -/
theorem Gives.leads {raw : String} {amount : Nat} {unit : Unit} (h : Gives raw amount unit) :
    ∃ number rest, Leads raw number rest ∧ number ≠ "" ∧ amount = amountOf number ∧
      unit? (Unicode.lower (Text.trim rest)) = some unit := by
  obtain @⟨number, rest, _, hparts, hdigits, hspelt⟩ := h
  refine ⟨number, rest, ⟨hparts, hdigits.all, ?_⟩, ?_, rfl, spells_inMillis_iff.mp hspelt⟩
  · intro c hc
    by_contra hdigit
    rw [Bool.not_eq_false] at hdigit
    have hhead := Text.head_trim (Text.not_white_of_isDigit hdigit) hc
    rw [hspelt.no_digit c (head_lower_of_isDigit hdigit hhead)] at hdigit
    cases hdigit
  · rintro rfl
    exact hdigits.nonempty rfl

theorem Leads.gives {raw number rest : String} {unit : Unit} (h : Leads raw number rest)
    (hne : number ≠ "") (hunit : unit? (Unicode.lower (Text.trim rest)) = some unit) :
    Gives raw (amountOf number) unit :=
  .mk h.parts ⟨by simpa using hne, h.digits⟩ (spells_inMillis_iff.mpr hunit)

/-- Whatever a text holds, its reading ends in one of the ways. -/
theorem exists_ends (raw : String) : ∃ result, Ends raw result := by
  obtain ⟨number, rest, h⟩ := exists_leads raw
  by_cases hnumber : number = "" ∨ 2 ^ 64 ≤ amountOf number
  · exact ⟨_, .notDuration h hnumber⟩
  · rw [not_or, not_le] at hnumber
    obtain ⟨hne, hamount⟩ := hnumber
    cases hunit : unit? (Unicode.lower (Text.trim rest)) with
    | none => exact ⟨_, .unknownUnit h hne hamount (unit_none_iff.mp hunit)⟩
    | some unit =>
      by_cases hfits : unit.Fits (amountOf number)
      · exact ⟨_, .read (h.gives hne hunit) hamount hfits⟩
      · exact ⟨_, .outOfRange (h.gives hne hunit) hamount hfits⟩

/-- The digits before the unit are read as the amount, up to the last one that a word holds. -/
theorem Leads.read_iff {raw number rest : String} (h : Leads raw number rest) {n : Int} :
    Text.readInteger .uint64 number.toList = .ok n ↔
      number ≠ "" ∧ n = amountOf number ∧ amountOf number < 2 ^ 64 := by
  have hmax : Text.IntegerBounds.uint64.max = 2 ^ 64 - 1 := rfl
  rw [Text.readInteger_digits_ok_iff h.digits, hmax, amountOf]
  apply and_congr (by simp)
  apply and_congr_right
  intro _
  omega

/-- An amount that fits is read on with the unit behind it. -/
theorem Leads.parse_eq {raw number rest : String} (h : Leads raw number rest) (hne : number ≠ "")
    (hamount : amountOf number < 2 ^ 64) : parse raw =
      match unit? (Unicode.lower (Text.trim rest)) with
      | none => .error (.unknownUnit (Unicode.lower (Text.trim rest)))
      | some .millis => .ok (ofMillis (amountOf number))
      | some (.seconds each) =>
        if amountOf number * each < 2 ^ 64 then .ok (ofSeconds (amountOf number * each))
        else .error .outOfRange := by
  unfold parse
  rw [h.split_eq]
  dsimp only
  rw [h.read_iff.mpr ⟨hne, rfl, hamount⟩, String.ofList_toList, limit_eq]
  dsimp only
  cases unit? (Unicode.lower (Text.trim rest)) with
  | none => rfl
  | some unit =>
    cases unit with
    | millis => rfl
    | seconds each => rfl

theorem parse_of_ends {raw : String} {result : Except Fault Duration} (h : Ends raw result) :
    parse raw = result := by
  cases h with
  | notDuration h hnumber =>
    unfold parse
    rw [h.split_eq]
    dsimp only
    split
    · rfl
    next n hread =>
      obtain ⟨hne, -, hamount⟩ := h.read_iff.mp hread
      rcases hnumber with hnone | hlarge
      · exact absurd hnone hne
      · omega
  | unknownUnit h hne hamount hunit =>
    rw [h.parse_eq hne hamount, unit_none_iff.mpr hunit]
  | @outOfRange amount unit hgives hamount hlarge =>
    obtain ⟨number, rest, h, hne, rfl, hunit⟩ := hgives.leads
    rw [h.parse_eq hne hamount, hunit]
    cases unit with
    | millis => exact absurd trivial hlarge
    | seconds each => exact if_neg hlarge
  | @read amount unit hgives hamount hfits =>
    obtain ⟨number, rest, h, hne, rfl, hunit⟩ := hgives.leads
    rw [h.parse_eq hne hamount, hunit]
    cases unit with
    | millis => rfl
    | seconds each => exact if_pos hfits

/-- The ways are all there are, and no two are open to the same text. -/
theorem parse_eq_iff {raw : String} {result : Except Fault Duration} :
    parse raw = result ↔ Ends raw result := by
  constructor
  · rintro rfl
    obtain ⟨result, h⟩ := exists_ends raw
    rwa [parse_of_ends h]
  · intro h
    exact parse_of_ends h

theorem Gives.unique {raw : String} {amount amount' : Nat} {unit unit' : Unit}
    (h : Gives raw amount unit) (h' : Gives raw amount' unit') :
    amount = amount' ∧ unit = unit' := by
  obtain ⟨number, rest, hleads, -, rfl, hunit⟩ := h.leads
  obtain ⟨number', rest', hleads', -, rfl, hunit'⟩ := h'.leads
  obtain ⟨hnumber, hrest⟩ := Prod.mk.inj (hleads.split_eq.symm.trans hleads'.split_eq)
  rw [String.toList_inj] at hnumber hrest
  subst hnumber hrest
  exact ⟨rfl, Option.some.inj (hunit.symm.trans hunit')⟩

/-- What is accepted gives an amount of a unit that fits, and is the whole of it. -/
theorem parse_gives_iff {raw : String} {d : Duration} : parse raw = .ok d ↔
    ∃ amount unit, Gives raw amount unit ∧ amount < 2 ^ 64 ∧ unit.Fits amount ∧
      d = unit.span amount := by
  rw [parse_eq_iff]
  constructor
  · intro h
    cases h with
    | @read amount unit h hamount hfits => exact ⟨amount, unit, h, hamount, hfits, rfl⟩
  · rintro ⟨amount, unit, h, hamount, hfits, rfl⟩
    exact .read h hamount hfits

/-- In milliseconds the bound on the seconds is a thousand times as far. -/
theorem Unit.fits_iff {amount : Nat} {unit : Unit} (h : amount < limit) :
    unit.Fits amount ↔ amount * unit.inMillis < 1000 * limit := by
  have hlimit := limit_eq
  cases unit with
  | millis =>
    refine iff_of_true trivial ?_
    dsimp only [inMillis]
    omega
  | seconds each =>
    rw [inMillis, Nat.mul_left_comm, Nat.mul_lt_mul_left (by decide), hlimit]
    rfl

/-- What a text is read as for a duration: the whole that it gives, or a reason that names what is
wrong with it. -/
structure ReadExactly (raw : String) : Prop where
  accepted_iff : (∃ d : Duration, OptionValue.parse raw = .ok d) ↔
    ∃ amount unit, Gives raw amount unit ∧ amount < 2 ^ 64 ∧ unit.Fits amount
  exact : ∀ (d : Duration) (amount : Nat) (unit : Unit), OptionValue.parse raw = .ok d →
    Gives raw amount unit → d = unit.span amount ∧ d.millis = amount * unit.inMillis
  within_words : ∀ d : Duration, OptionValue.parse raw = .ok d →
    d.millis / 1000 < 2 ^ 64 ∧ d.millis < 2 ^ 128
  refused_iff : ∀ reason, (OptionValue.parse raw : Except String Duration) = .error reason ↔
    ∃ fault, Ends raw (.error fault) ∧ fault.message raw = reason

theorem Unit.span_within {amount : Nat} {unit : Unit} (hamount : amount < 2 ^ 64)
    (h : unit.Fits amount) : (unit.span amount).millis < 1000 * 2 ^ 64 := by
  rw [unit.span_millis]
  exact (fits_iff hamount).mp h

/-- Every text of a duration is read exactly or refused for what is wrong with it. -/
theorem exact_or_refused (raw : String) : ReadExactly raw := by
  have hread : ∀ d : Duration, OptionValue.parse raw = .ok d ↔
      ∃ amount unit, Gives raw amount unit ∧ amount < 2 ^ 64 ∧ unit.Fits amount ∧
        d = unit.span amount := by
    intro d
    rw [← parse_gives_iff]
    exact Outcome.mapError_ok_iff
  constructor
  · constructor
    · rintro ⟨d, h⟩
      obtain ⟨amount, unit, h, hamount, hfits, -⟩ := (hread d).mp h
      exact ⟨amount, unit, h, hamount, hfits⟩
    · rintro ⟨amount, unit, h, hamount, hfits⟩
      exact ⟨_, (hread _).mpr ⟨amount, unit, h, hamount, hfits, rfl⟩⟩
  · intro d amount unit h hgives
    obtain ⟨amount', unit', hgives', -, -, rfl⟩ := (hread d).mp h
    obtain ⟨rfl, rfl⟩ := hgives.unique hgives'
    exact ⟨rfl, unit.span_millis amount⟩
  · intro d h
    obtain ⟨amount, unit, -, hamount, hfits, rfl⟩ := (hread d).mp h
    have hmillis := Unit.span_within hamount hfits
    omega
  · intro reason
    simp only [← parse_eq_iff]
    exact Outcome.mapError_error_iff

example : parse " 307445734561825860 Min" = .ok (ofSeconds 18446744073709551600) := by
  decide +kernel

example : parse "307445734561825861 min" = .error .outOfRange := by decide +kernel

/-- The trimmed text is a run of digits and what spells a unit, in any case and trimmed. -/
structure WrittenAs (raw : String) (digits rest : List Char) (each : Nat) : Prop where
  parts : Text.trimChars raw.toList = digits ++ rest
  digits_ne : digits ≠ []
  digits_all : ∀ c ∈ digits, c.isDigit = true
  rest_head : ∀ c, rest.head? = some c → c.isDigit = false
  unit : Spells (Unicode.lower (Text.trim (String.ofList rest))) each

/-- The text writes an amount of units of so many milliseconds each. -/
def Written (raw : String) (amount each : Nat) : Prop :=
  ∃ digits rest, WrittenAs raw digits rest each ∧ amount = Nat.ofDigitChars 10 digits 0

theorem written_iff_gives {raw : String} {amount each : Nat} :
    Written raw amount each ↔ ∃ unit, Gives raw amount unit ∧ unit.inMillis = each := by
  constructor
  · rintro ⟨digits, rest, h, rfl⟩
    obtain ⟨unit, hunit, rfl⟩ := Option.map_eq_some_iff.mp (spells_iff.mp h.unit)
    have hleads : Leads raw (.ofList digits) (.ofList rest) := by
      constructor
      · rw [Text.trim, h.parts, String.ofList_append]
      · simpa using h.digits_all
      · simpa using h.rest_head
    have hgives := hleads.gives (by simpa using h.digits_ne) hunit
    rw [amountOf, String.toList_ofList] at hgives
    exact ⟨unit, hgives, rfl⟩
  · rintro ⟨unit, hgives, rfl⟩
    obtain ⟨number, rest, hleads, hne, rfl, hunit⟩ := hgives.leads
    refine ⟨number.toList, rest.toList, ?_, rfl⟩
    constructor
    · exact (split_eq_iff.mp hleads.split_eq).1
    · simpa using hne
    · exact hleads.digits
    · exact hleads.stop
    · rw [String.ofList_toList]
      exact spells_inMillis_iff.mpr hunit

/-- A duration is what its text writes, where the amount fits into a word and so does the whole
in seconds. -/
theorem parse_ok_iff {raw : String} {d : Duration} : parse raw = .ok d ↔
    ∃ amount each, Written raw amount each ∧ amount < limit ∧ amount * each < 1000 * limit ∧
      d.millis = amount * each := by
  rw [parse_gives_iff]
  constructor
  · rintro ⟨amount, unit, h, hamount, hfits, rfl⟩
    exact ⟨amount, unit.inMillis, written_iff_gives.mpr ⟨unit, h, rfl⟩, hamount,
      (Unit.fits_iff hamount).mp hfits, unit.span_millis amount⟩
  · rintro ⟨amount, each, h, hamount, hwhole, hmillis⟩
    obtain ⟨unit, hgives, rfl⟩ := written_iff_gives.mp h
    refine ⟨amount, unit, hgives, hamount, (Unit.fits_iff hamount).mpr hwhole, ?_⟩
    rw [← unit.span_millis] at hmillis
    exact congrArg Duration.mk hmillis

end TopicTable.Duration
