import TopicTable.Proofs.Options

/-! Subject completion changes an option map only at keys that are left out, and only at the
subject of a format with a schema registry. No option of the connector is such a key. -/

namespace TopicTable

theorem SchemaRegistryFormat.parse_iff {raw : String} {format : SchemaRegistryFormat} :
    (SchemaRegistryFormat.parse raw).toOption = some format ↔ raw = format.identifier := by
  constructor
  · intro h
    unfold SchemaRegistryFormat.parse at h
    split at h
    · cases h
      rfl
    · cases h
      rfl
    · cases h
  · rintro rfl
    cases format <;> rfl

namespace FormatSlot

/-- The places where a table can name a format. -/
def all : List FormatSlot := [shared, ofValue, ofKey]

theorem key_mem_catalogue {slot : FormatSlot} (h : slot ∈ all) : slot.key ∈ Catalogue.keys := by
  have hslots : ∀ slot ∈ all, slot.key ∈ Catalogue.keys := by decide
  exact hslots slot h

end FormatSlot

namespace OptionMap

/-- The key under which the format that a slot names looks for its subject, if that format has a
schema registry. -/
def subjectKey? (options : OptionMap) (slot : FormatSlot) : Option String :=
  ((options.get? slot.key).bind fun raw => (SchemaRegistryFormat.parse raw).toOption).map
    fun format => slot.scope format.identifier ++ "subject"

/-- Every key that completion may ever set. -/
def subjectKeys : List String :=
  [FormatSlot.shared, .ofValue, .ofKey].flatMap fun slot =>
    [SchemaRegistryFormat.avroConfluent, .debeziumAvroConfluent].map fun format =>
      slot.scope format.identifier ++ "subject"

theorem valueSlot_reads :
    Reads [FormatSlot.shared.key, FormatSlot.ofValue.key] OptionMap.valueSlot? := by
  intro a b h
  unfold valueSlot?
  simp only [List.find?_cons, List.find?_nil,
    contains_congr (h FormatSlot.shared.key (by decide)),
    contains_congr (h FormatSlot.ofValue.key (by decide))]

theorem subjectKey_reads (slot : FormatSlot) : Reads [slot.key] (subjectKey? · slot) := by
  intro a b h
  dsimp only
  unfold subjectKey?
  rw [h slot.key (List.mem_singleton_self _)]

variable (options : OptionMap)

theorem get_fillSubject (slot : FormatSlot) (subject k : String) :
    (options.fillSubject slot subject).get? k =
      (options.get? k).or (if options.subjectKey? slot = some k then some subject else none) := by
  unfold fillSubject subjectKey?
  cases (options.get? slot.key).bind fun raw => (SchemaRegistryFormat.parse raw).toOption with
  | none => simp
  | some format =>
    simp only [Option.map_some, Option.some.injEq]
    generalize slot.scope format.identifier ++ "subject" = key
    rw [OrderedMap.contains_eq_isSome_get?]
    cases hk : options.get? key with
    | some value =>
      by_cases h : key = k
      · subst h; simp [hk]
      · simp [h]
    | none =>
      simp only [Option.isSome_none, Bool.false_eq_true, if_false, OrderedMap.get?_insert]
      by_cases h : key = k
      · subst h; simp [hk]
      · simp [h]

theorem subjectKey_mem {slot : FormatSlot} {k : String}
    (hs : slot ∈ FormatSlot.all)
    (h : options.subjectKey? slot = some k) : k ∈ subjectKeys := by
  obtain ⟨format, _, rfl⟩ := Option.map_eq_some_iff.mp h
  refine List.mem_flatMap.mpr ⟨slot, hs, List.mem_map.mpr ⟨format, ?_, rfl⟩⟩
  cases format <;> simp

theorem get_fillSubject_of_notMem {slot : FormatSlot} {subject k : String}
    (hs : slot ∈ FormatSlot.all) (hk : k ∉ subjectKeys) :
    (options.fillSubject slot subject).get? k = options.get? k := by
  have : options.subjectKey? slot ≠ some k := fun h => hk (options.subjectKey_mem hs h)
  rw [get_fillSubject, if_neg this, Option.or_none]

theorem get_fillSubject_of_set {slot : FormatSlot} {subject k v : String}
    (h : options.get? k = some v) : (options.fillSubject slot subject).get? k = some v := by
  rw [get_fillSubject, h, Option.some_or]

theorem valueSlot_cases {slot : FormatSlot} (h : options.valueSlot? = some slot) :
    slot = .shared ∨ slot = .ofValue := by
  simpa using List.mem_of_find?_eq_some h

theorem valueSlot_mem {slot : FormatSlot} (h : options.valueSlot? = some slot) :
    slot ∈ FormatSlot.all := by
  rcases options.valueSlot_cases h with rfl | rfl <;> simp [FormatSlot.all]

theorem valueSlot_mem_catalogue {slot : FormatSlot} (h : options.valueSlot? = some slot) :
    slot.key ∈ Catalogue.keys :=
  FormatSlot.key_mem_catalogue (options.valueSlot_mem h)

theorem get_withSubjects_of_notMem (topic : String) {k : String} (hk : k ∉ subjectKeys) :
    (options.withSubjects topic).get? k = options.get? k := by
  unfold withSubjects
  rw [get_fillSubject_of_notMem _ (by decide) hk]
  cases h : options.valueSlot? with
  | none => rfl
  | some slot => exact get_fillSubject_of_notMem _ (options.valueSlot_mem h) hk

theorem get_withSubjects_of_set (topic : String) {k v : String} (h : options.get? k = some v) :
    (options.withSubjects topic).get? k = some v := by
  unfold withSubjects
  apply get_fillSubject_of_set
  cases options.valueSlot? with
  | none => exact h
  | some slot => exact options.get_fillSubject_of_set h

theorem catalogue_not_subject {key : String} (h : key ∈ Catalogue.keys) : key ∉ subjectKeys := by
  have : ∀ key ∈ Catalogue.keys, key ∉ subjectKeys := by decide
  exact this key h

/-- No property of the client is the subject of a format. -/
theorem client_not_subject (rest : String) : propertiesPrefix ++ rest ∉ subjectKeys := by
  have hapart : ∀ key ∈ subjectKeys, Text.hasPrefix propertiesPrefix key = false := by decide
  intro h
  have hnone := hapart _ h
  rw [Text.hasPrefix_iff.mpr ⟨rest, rfl⟩] at hnone
  cases hnone

theorem get_client_withSubjects (topic k : String) :
    ((options.withSubjects topic).withPrefix propertiesPrefix).get? k =
      (options.withPrefix propertiesPrefix).get? k := by
  rw [get_withPrefix, get_withPrefix,
    options.get_withSubjects_of_notMem topic (client_not_subject k)]

/-- Completion leaves every option of the connector as it was. -/
theorem withSubjects_agrees (topic : String) :
    (options.withSubjects topic).AgreesOnCatalogue options := fun _ h =>
  options.get_withSubjects_of_notMem topic (catalogue_not_subject h)

theorem subjectKey_iff {slot : FormatSlot} {key : String} :
    options.subjectKey? slot = some key ↔ ∃ format : SchemaRegistryFormat,
      options.get? slot.key = some format.identifier ∧
        key = slot.scope format.identifier ++ "subject" := by
  unfold subjectKey?
  rw [Option.map_eq_some_iff]
  constructor
  · rintro ⟨format, hformat, rfl⟩
    obtain ⟨raw, hraw, hread⟩ := Option.bind_eq_some_iff.mp hformat
    rw [SchemaRegistryFormat.parse_iff.mp hread] at hraw
    exact ⟨format, hraw, rfl⟩
  · rintro ⟨format, hnamed, rfl⟩
    exact ⟨format, Option.bind_eq_some_iff.mpr
      ⟨_, hnamed, SchemaRegistryFormat.parse_iff.mpr rfl⟩, rfl⟩

/-- Completion sets at most one key for each side of a record. -/
theorem get_withSubjects (topic key : String) : (options.withSubjects topic).get? key =
    ((options.get? key).or
      (if options.valueSlot?.bind options.subjectKey? = some key then some (topic ++ "-value")
        else none)).or
      (if options.subjectKey? .ofKey = some key then some (topic ++ "-key") else none) := by
  have hkeySlot : FormatSlot.ofKey.key ∉ subjectKeys := catalogue_not_subject (by decide)
  unfold withSubjects
  rw [get_fillSubject]
  cases hslot : options.valueSlot? with
  | none => simp
  | some slot =>
    have hmem := options.valueSlot_mem hslot
    have hsame : (options.fillSubject slot (topic ++ "-value")).subjectKey? .ofKey =
        options.subjectKey? .ofKey :=
      (subjectKey_reads .ofKey).congr
        (by simpa using options.get_fillSubject_of_notMem hmem hkeySlot)
    rw [hsame, get_fillSubject]
    rfl

/-- Completion looks at the slots and otherwise takes each option for itself. -/
theorem get_withSubjects_congr {a b : OptionMap}
    (hslots : ∀ slot ∈ FormatSlot.all, a.get? slot.key = b.get? slot.key)
    (topic : String) {key : String} (hkey : a.get? key = b.get? key) :
    (a.withSubjects topic).get? key = (b.withSubjects topic).get? key := by
  have hsubject : ∀ slot ∈ FormatSlot.all,
      a.subjectKey? slot = b.subjectKey? slot := fun slot hslot =>
    (subjectKey_reads slot).congr (by simpa using hslots slot hslot)
  have hvalue : a.valueSlot? = b.valueSlot? := by
    refine valueSlot_reads.congr fun key hmem => ?_
    simp only [List.mem_cons, List.not_mem_nil, or_false] at hmem
    rcases hmem with rfl | rfl
    · exact hslots .shared (by decide)
    · exact hslots .ofValue (by decide)
  have hbind : a.valueSlot?.bind a.subjectKey? = b.valueSlot?.bind b.subjectKey? := by
    rw [hvalue]
    cases hslot : b.valueSlot? with
    | none => rfl
    | some slot => exact hsubject slot (b.valueSlot_mem hslot)
  rw [get_withSubjects, get_withSubjects, hkey, hbind, hsubject .ofKey (by decide)]

/-- A table takes the format of its values from one slot and that of its keys from another. -/
def SelectedSlot (slot : FormatSlot) : Prop := options.valueSlot? = some slot ∨ slot = .ofKey

theorem SelectedSlot.mem_catalogue {slot : FormatSlot} (h : options.SelectedSlot slot) :
    slot.key ∈ Catalogue.keys := by
  rcases h with h | rfl
  · exact options.valueSlot_mem_catalogue h
  · decide

/-- The table leaves the key out, and a format with a schema registry finds its subject there. -/
def FilledIn (key : String) : Prop :=
  options.contains key = false ∧ ∃ slot, ∃ format : SchemaRegistryFormat,
    options.SelectedSlot slot ∧ options.get? slot.key = some format.identifier ∧
      key = slot.scope format.identifier ++ "subject"

theorem filledIn_iff {key : String} : options.FilledIn key ↔ options.contains key = false ∧
    (options.valueSlot?.bind options.subjectKey? = some key ∨
      options.subjectKey? .ofKey = some key) := by
  unfold FilledIn SelectedSlot
  rw [Option.bind_eq_some_iff, subjectKey_iff]
  simp only [subjectKey_iff]
  refine and_congr_right fun _ => ?_
  constructor
  · rintro ⟨slot, format, hslot | rfl, hnamed, hkey⟩
    · exact Or.inl ⟨slot, hslot, format, hnamed, hkey⟩
    · exact Or.inr ⟨format, hnamed, hkey⟩
  · rintro (⟨slot, hslot, format, hnamed, hkey⟩ | ⟨format, hnamed, hkey⟩)
    · exact ⟨slot, format, Or.inl hslot, hnamed, hkey⟩
    · exact ⟨.ofKey, format, Or.inr rfl, hnamed, hkey⟩

theorem contains_withSubjects (topic key : String) :
    (options.withSubjects topic).contains key = true ↔
      options.contains key = true ∨ options.FilledIn key := by
  rw [filledIn_iff]
  simp only [OrderedMap.contains_eq_isSome_get?, get_withSubjects]
  cases options.get? key with
  | some value => simp
  | none =>
    simp only [Option.none_or, Option.isSome_none, Bool.false_eq_true, false_or, true_and]
    split
    next hvalue => simp [hvalue]
    next hvalue =>
      split
      next hkey => simp [hkey]
      next hkey => simp [hvalue, hkey]

theorem AgreesOnCatalogue.symm {a b : OptionMap} (h : a.AgreesOnCatalogue b) :
    b.AgreesOnCatalogue a := fun key hkey => (h key hkey).symm

theorem AgreesOnCatalogue.valueSlot_eq {a b : OptionMap}
    (h : a.AgreesOnCatalogue b) : a.valueSlot? = b.valueSlot? :=
  valueSlot_reads.agree (by decide) h

theorem AgreesOnCatalogue.selectedSlot_iff {a b : OptionMap} (h : a.AgreesOnCatalogue b)
    {slot : FormatSlot} : a.SelectedSlot slot ↔ b.SelectedSlot slot := by
  unfold SelectedSlot
  rw [h.valueSlot_eq]

end OptionMap

end TopicTable
