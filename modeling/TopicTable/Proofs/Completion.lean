import Mathlib.Data.List.Perm.Subperm
import TopicTable.Proofs.Subjects

/-! What subject completion adds to an option map: the subject that the format of values looks up
and the one that the format of keys does, each only where the map leaves it out. A completed map
has nothing left to add, whatever topic it is completed for again. -/

namespace TopicTable

theorem FormatSlot.scope_subject (slot : FormatSlot) (identifier : String) :
    slot.scope identifier ++ "subject" = slot.optionPrefix ++ identifier ++ ".subject" := by
  unfold scope
  rw [String.append_assoc]
  rfl

namespace OptionMap

variable (options : OptionMap)

/-- Where the format of values looks for its subject. The format option for keys and values alike
comes before the one for values. -/
inductive ValueSubject : String → Prop where
  | shared {format : SchemaRegistryFormat}
      (named : options.get? Catalogue.format.key = some format.identifier) :
      ValueSubject (format.identifier ++ ".subject")
  | ofValue {format : SchemaRegistryFormat}
      (unshared : options.get? Catalogue.format.key = none)
      (named : options.get? Catalogue.valueFormat.key = some format.identifier) :
      ValueSubject (valuePrefix ++ format.identifier ++ ".subject")

/-- Where the format of keys looks for its subject. -/
inductive KeySubject : String → Prop where
  | ofKey {format : SchemaRegistryFormat}
      (named : options.get? Catalogue.keyFormat.key = some format.identifier) :
      KeySubject (keyPrefix ++ format.identifier ++ ".subject")

/-- A map is another one completed for a topic. -/
structure CompletedFor (topic : String) (completed : OptionMap) : Prop where
  kept : ∀ key value, options.get? key = some value → completed.get? key = some value
  added : ∀ key value, options.get? key = none → (completed.get? key = some value ↔
    options.ValueSubject key ∧ value = topic ++ "-value" ∨
      options.KeySubject key ∧ value = topic ++ "-key")
  few : (completed.keys.filter fun key => !options.contains key).length ≤ 2

variable {options}

theorem valueSlot_iff {slot : FormatSlot} : options.valueSlot? = some slot ↔
    slot = .shared ∧ options.contains Catalogue.format.key = true ∨
      slot = .ofValue ∧ options.get? Catalogue.format.key = none ∧
        options.contains Catalogue.valueFormat.key = true := by
  have hvalue : options.valueSlot? = if options.contains Catalogue.format.key then some .shared
      else if options.contains Catalogue.valueFormat.key then some .ofValue else none := by
    unfold valueSlot?
    rw [List.find?_cons, List.find?_cons, List.find?_nil]
    cases hshared : options.contains Catalogue.format.key <;>
      cases hown : options.contains Catalogue.valueFormat.key <;>
      simp only [FormatSlot.shared, FormatSlot.ofValue, hshared, hown] <;> rfl
  rw [hvalue, ← Option.isNone_iff_eq_none, ← Option.not_isSome,
    ← OrderedMap.contains_eq_isSome_get?]
  cases options.contains Catalogue.format.key <;>
    cases options.contains Catalogue.valueFormat.key <;> simp [eq_comm]

theorem valueSubject_iff {key : String} :
    options.valueSlot?.bind options.subjectKey? = some key ↔ options.ValueSubject key := by
  rw [Option.bind_eq_some_iff]
  constructor
  · rintro ⟨slot, hslot, hkey⟩
    obtain ⟨format, hnamed, rfl⟩ := options.subjectKey_iff.mp hkey
    rw [FormatSlot.scope_subject]
    rcases valueSlot_iff.mp hslot with ⟨rfl, -⟩ | ⟨rfl, hunshared, -⟩
    · have hkey := ValueSubject.shared hnamed
      simpa [FormatSlot.shared] using hkey
    · exact .ofValue hunshared hnamed
  · intro h
    cases h with
    | @shared format hnamed =>
      refine ⟨.shared, valueSlot_iff.mpr (.inl ⟨rfl, options.contains_iff.mpr ⟨_, hnamed⟩⟩), ?_⟩
      refine options.subjectKey_iff.mpr ⟨format, hnamed, ?_⟩
      rw [FormatSlot.scope_subject]
      simp [FormatSlot.shared]
    | @ofValue format hunshared hnamed =>
      have hset := options.contains_iff.mpr ⟨_, hnamed⟩
      refine ⟨.ofValue, valueSlot_iff.mpr (.inr ⟨rfl, hunshared, hset⟩), ?_⟩
      refine options.subjectKey_iff.mpr ⟨format, hnamed, ?_⟩
      rw [FormatSlot.scope_subject]
      rfl

theorem keySubject_iff {key : String} :
    options.subjectKey? .ofKey = some key ↔ options.KeySubject key := by
  rw [subjectKey_iff]
  constructor
  · rintro ⟨format, hnamed, rfl⟩
    rw [FormatSlot.scope_subject]
    exact .ofKey hnamed
  · intro h
    cases h with
    | @ofKey format hnamed => exact ⟨format, hnamed, (FormatSlot.ofKey.scope_subject _).symm⟩

/-- One key is never the subject of both sides: the prefix of keys starts neither the name of a
format nor the prefix of values. -/
theorem ValueSubject.not_keySubject {key : String} (h : options.ValueSubject key) :
    ¬ options.KeySubject key := by
  intro hkey
  have hstart : Text.hasPrefix keyPrefix key = true := by
    cases hkey with
    | ofKey => exact Text.hasPrefix_iff.mpr ⟨_, String.append_assoc ..⟩
  cases h with
  | @shared format _ => cases format <;> exact absurd hstart (by decide)
  | @ofValue format _ _ => cases format <;> exact absurd hstart (by decide)

/-- Where every subject is set there is nothing to complete. -/
theorem withSubjects_eq_self (h : ∀ key, ¬ options.FilledIn key) (topic : String) :
    options.withSubjects topic = options := by
  apply OrderedMap.ext_get?
  intro key
  rw [get_withSubjects]
  cases hkey : options.get? key with
  | some value => rfl
  | none =>
    have hunset : options.contains key = false := by
      rw [OrderedMap.contains_eq_isSome_get?, hkey]
      rfl
    have hsubject := mt options.filledIn_iff.mpr (h key)
    rw [not_and, not_or] at hsubject
    obtain ⟨hvalue, hkeySide⟩ := hsubject hunset
    rw [if_neg hvalue, if_neg hkeySide]
    rfl

/-- After completion no format is without its subject. -/
theorem withSubjects_not_filledIn (topic key : String) :
    ¬ (options.withSubjects topic).FilledIn key := by
  rintro ⟨hunset, slot, format, hslot, hnamed, rfl⟩
  have hagree := options.withSubjects_agrees topic
  have hselected := hagree.selectedSlot_iff.mp hslot
  rw [hagree slot.key (hselected.mem_catalogue options)] at hnamed
  have hleft : options.contains (slot.scope format.identifier ++ "subject") = false := by
    by_contra hset
    rw [Bool.not_eq_false] at hset
    have hkept := (options.contains_withSubjects topic _).mpr (.inl hset)
    rw [hunset] at hkept
    cases hkept
  have hfilled := (options.contains_withSubjects topic _).mpr
    (.inr ⟨hleft, slot, format, hselected, hnamed, rfl⟩)
  rw [hunset] at hfilled
  cases hfilled

/-- A key that the map leaves out gets a value only as the subject of one side. -/
theorem get_withSubjects_added {key : String} (hunset : options.get? key = none)
    (topic value : String) : (options.withSubjects topic).get? key = some value ↔
      options.ValueSubject key ∧ value = topic ++ "-value" ∨
        options.KeySubject key ∧ value = topic ++ "-key" := by
  rw [get_withSubjects, hunset, Option.none_or]
  by_cases hvalue : options.ValueSubject key
  · rw [if_pos (valueSubject_iff.mpr hvalue)]
    simp [hvalue, hvalue.not_keySubject, eq_comm]
  · rw [if_neg (mt valueSubject_iff.mp hvalue), Option.none_or]
    by_cases hkey : options.KeySubject key
    · rw [if_pos (keySubject_iff.mpr hkey)]
      simp [hvalue, hkey, eq_comm]
    · rw [if_neg (mt keySubject_iff.mp hkey)]
      simp [hvalue, hkey]

/-- Each side adds one key at most. -/
theorem length_added_le (topic : String) :
    ((options.withSubjects topic).keys.filter fun key => !options.contains key).length ≤ 2 := by
  have hdistinct : ((options.withSubjects topic).keys.filter
      fun key => !options.contains key).Nodup :=
    List.Nodup.filter _ (List.pairwise_map.mpr (options.withSubjects topic).distinct_keys)
  have hsubjects : ((options.withSubjects topic).keys.filter fun key => !options.contains key) ⊆
      (options.valueSlot?.bind options.subjectKey?).toList ++
        (options.subjectKey? .ofKey).toList := by
    intro key hmem
    obtain ⟨hkey, hunset⟩ := List.mem_filter.mp hmem
    have hset := (options.contains_withSubjects topic key).mp
      ((options.withSubjects topic).mem_keys_iff_contains.mp hkey)
    rw [Bool.not_eq_true'] at hunset
    rcases hset with hset | hfilled
    · cases hunset.symm.trans hset
    · simpa using (options.filledIn_iff.mp hfilled).2
  have hone : ∀ key? : Option String, key?.toList.length ≤ 1 := by
    intro key?
    cases key? <;> simp
  have hlength := (hdistinct.subperm hsubjects).length_le
  rw [List.length_append] at hlength
  have hvalue := hone (options.valueSlot?.bind options.subjectKey?)
  have hkey := hone (options.subjectKey? .ofKey)
  omega

/-- Completion sets the subjects that are left out, and a second completion sets nothing. -/
theorem completed_once (options : OptionMap) (topic other : String) :
    options.CompletedFor topic (options.withSubjects topic) ∧
      (options.withSubjects topic).withSubjects other = options.withSubjects topic := by
  constructor
  · refine ⟨?_, ?_, length_added_le topic⟩
    · intro key value hset
      exact options.get_withSubjects_of_set topic hset
    · intro key value hunset
      exact get_withSubjects_added hunset topic value
  · apply withSubjects_eq_self
    exact withSubjects_not_filledIn topic

end OptionMap

end TopicTable
