import TopicTable.Proofs.Resolution

/-! The scopes of formats. A format sees the options under its scope and none outside it, and the
dot that ends a scope keeps the options of the key apart from those of the value. -/

namespace TopicTable

/-- A text of dotted parts that begins with a word and a dot has the word for its first part. -/
theorem Text.first_part {identifier word rest tail : List Char} (hword : '.' ∉ word)
    (h : identifier ++ '.' :: rest = word ++ '.' :: tail) :
    identifier = word ∨ ∃ more, identifier = word ++ '.' :: more := by
  rcases List.append_eq_append_iff.mp h with ⟨more, hmore, hdot⟩ | ⟨more, hmore, hdot⟩
  · cases more with
    | nil => exact Or.inl (by simpa using hmore.symm)
    | cons c more =>
      have hc : '.' = c := (List.cons.inj hdot).1
      refine absurd ?_ hword
      rw [hmore, ← hc]
      exact List.mem_append_right _ (List.mem_cons_self ..)
  · cases more with
    | nil => exact Or.inl (by simpa using hmore)
    | cons c more =>
      have hc : '.' = c := (List.cons.inj hdot).1
      exact Or.inr ⟨more, by rw [hmore, ← hc]⟩

theorem FormatSlot.scope_append_inj {slot : FormatSlot} {identifier rest tail : String} :
    slot.scope identifier ++ rest = slot.scope identifier ++ tail ↔ rest = tail := by
  constructor
  · intro h
    have hlist := congrArg String.toList h
    rw [String.toList_append, String.toList_append] at hlist
    exact String.toList_inj.mp (List.append_cancel_left hlist)
  · rintro rfl
    rfl

namespace OptionMap

/-- The format of both sides, if the table names one, has no scope among the options of the key. -/
def SharedFormatApart (options : OptionMap) : Prop :=
  ∀ identifier, options.get? Catalogue.format.key = some identifier →
    identifier ≠ "key" ∧ ¬ ∃ rest, identifier = "key." ++ rest

theorem sharedFormatApart_iff {options : OptionMap} : options.SharedFormatApart ↔
    ((options.get? Catalogue.format.key).all fun identifier =>
      identifier ≠ "key" && !Text.hasPrefix "key." identifier) = true := by
  unfold SharedFormatApart
  cases options.get? Catalogue.format.key with
  | none => simp
  | some identifier => simp [← Text.hasPrefix_iff]

instance (options : OptionMap) : Decidable options.SharedFormatApart :=
  decidable_of_iff _ sharedFormatApart_iff.symm

/-- The key lies in the scope of a format that the map names. -/
def InScope (options : OptionMap) (key : String) : Prop :=
  ∃ slot ∈ FormatSlot.all, ∃ identifier rest,
    options.get? slot.key = some identifier ∧ key = slot.scope identifier ++ rest

theorem inScope_iff {options : OptionMap} {key : String} : options.InScope key ↔
    (FormatSlot.all.any fun slot =>
      (options.get? slot.key).any fun identifier =>
        Text.hasPrefix (slot.scope identifier) key) = true := by
  unfold InScope
  simp only [List.any_eq_true, Option.any_eq_true, Text.hasPrefix_iff]
  constructor
  · rintro ⟨slot, hslot, identifier, rest, hnamed, hkey⟩
    exact ⟨slot, hslot, identifier, hnamed, rest, hkey⟩
  · rintro ⟨slot, hslot, identifier, hnamed, rest, hkey⟩
    exact ⟨slot, hslot, identifier, rest, hnamed, hkey⟩

instance (options : OptionMap) (key : String) : Decidable (options.InScope key) :=
  decidable_of_iff _ inScope_iff.symm

section Apart

variable {options : OptionMap} {slot : FormatSlot} {identifier : String}

/-- The scopes of the two sides have no key in common. -/
theorem SharedFormatApart.scope_ne (h : options.SharedFormatApart)
    (hslot : options.valueSlot? = some slot)
    (hnamed : options.get? slot.key = some identifier) (keyIdentifier rest tail : String) :
    slot.scope identifier ++ rest ≠ FormatSlot.ofKey.scope keyIdentifier ++ tail := by
  intro heq
  have hlist := congrArg String.toList heq
  -- The shared slot alone puts nothing before the identifier, so only there it can look like a key.
  rcases options.valueSlot_cases hslot with rfl | rfl
  · obtain ⟨hword, hpart⟩ := h identifier hnamed
    have hparts : identifier.toList ++ '.' :: rest.toList =
        "key".toList ++ '.' :: (keyIdentifier ++ "." ++ tail).toList := by
      simpa [FormatSlot.scope, FormatSlot.shared, FormatSlot.ofKey, keyPrefix] using hlist
    rcases Text.first_part (by decide) hparts with hfirst | ⟨more, hfirst⟩
    · exact hword (String.toList_inj.mp hfirst)
    · refine hpart ⟨String.ofList more, String.toList_inj.mp ?_⟩
      simpa using hfirst
  · simp [FormatSlot.scope, FormatSlot.ofValue, FormatSlot.ofKey, valuePrefix, keyPrefix] at hlist

/-- The connector has no option under a scope of the key. -/
theorem catalogue_ne_key_scope {key : String} (h : key ∈ Catalogue.keys) (rest : String) :
    key ≠ FormatSlot.ofKey.scope identifier ++ rest := by
  have hparts : ∀ key ∈ Catalogue.keys,
      ((Text.stripPrefix? keyPrefix key).all fun tail => !tail.toList.contains '.') = true := by
    decide
  intro heq
  have hstrip : Text.stripPrefix? keyPrefix key = some (identifier ++ "." ++ rest) := by
    rw [Text.stripPrefix_iff, heq]
    simp [FormatSlot.scope, FormatSlot.ofKey, String.append_assoc]
  have hdotless := hparts key h
  rw [hstrip] at hdotless
  simp at hdotless

/-- The client has none either. -/
theorem client_ne_key_scope (rest tail : String) :
    propertiesPrefix ++ tail ≠ FormatSlot.ofKey.scope identifier ++ rest := by
  intro heq
  have hlist := congrArg String.toList heq
  simp [FormatSlot.scope, FormatSlot.ofKey, propertiesPrefix, keyPrefix] at hlist

end Apart

/-- Maps that name the same formats with the same options. -/
structure FormatsAgree (a b : OptionMap) : Prop where
  slot : ∀ slot ∈ FormatSlot.all, a.get? slot.key = b.get? slot.key
  scope : ∀ key, a.InScope key → a.get? key = b.get? key

theorem FormatsAgree.withSubjects {a b : OptionMap} (h : a.FormatsAgree b) (topic : String) :
    (a.withSubjects topic).FormatsAgree (b.withSubjects topic) := by
  constructor
  · exact fun slot hslot => get_withSubjects_congr h.slot topic (h.slot slot hslot)
  · rintro key ⟨slot, hslot, identifier, rest, hnamed, rfl⟩
    refine get_withSubjects_congr h.slot topic (h.scope _ ⟨slot, hslot, identifier, rest, ?_, rfl⟩)
    have hslotKey : slot.key ∉ subjectKeys :=
      catalogue_not_subject (FormatSlot.key_mem_catalogue hslot)
    rwa [get_withSubjects_of_notMem a topic hslotKey] at hnamed

end OptionMap

/-- A format is found from its slot and its scope alone. -/
theorem find_congr {formats : FormatRegistry} {a b : OptionMap} {slot : FormatSlot}
    (hslot : a.get? slot.key = b.get? slot.key)
    (hscope : ∀ identifier, a.get? slot.key = some identifier → ∀ rest,
      a.get? (slot.scope identifier ++ rest) = b.get? (slot.scope identifier ++ rest))
    (consumed : List String) : DiscoveredFormat.find? formats a slot consumed =
      DiscoveredFormat.find? formats b slot consumed := by
  unfold DiscoveredFormat.find?
  rw [← hslot]
  cases hnamed : a.get? slot.key with
  | none => rfl
  | some identifier =>
    dsimp only
    rw [OptionMap.withPrefix_congr (hscope identifier hnamed)]

namespace OptionMap.FormatsAgree

variable {a b : OptionMap}

theorem find_eq (h : a.FormatsAgree b) (formats : FormatRegistry) (slot : FormatSlot)
    (hslot : slot ∈ FormatSlot.all) (consumed : List String) :
    DiscoveredFormat.find? formats a slot consumed =
      DiscoveredFormat.find? formats b slot consumed :=
  find_congr (h.slot slot hslot)
    (fun identifier hnamed rest => h.scope _ ⟨slot, hslot, identifier, rest, hnamed, rfl⟩) consumed

theorem tableFormats_eq (h : a.FormatsAgree b) (formats : FormatRegistry) (direction : Direction)
    (consumed : List String) : Resolver.tableFormats formats a direction consumed =
      Resolver.tableFormats formats b direction consumed := by
  have hshared : a.contains Catalogue.format.key = b.contains Catalogue.format.key :=
    contains_congr (h.slot .shared (by decide))
  have hvalue : a.contains Catalogue.valueFormat.key = b.contains Catalogue.valueFormat.key :=
    contains_congr (h.slot .ofValue (by decide))
  unfold Resolver.tableFormats Resolver.valueFormat
  simp only [hshared, hvalue, h.find_eq formats .shared (by decide),
    h.find_eq formats .ofValue (by decide), h.find_eq formats .ofKey (by decide)]

end OptionMap.FormatsAgree

namespace Resolver

theorem find_consumed {formats : FormatRegistry} {options : OptionMap} {slot : FormatSlot}
    {consumed rest : List String} {format? : Option DiscoveredFormat}
    (h : DiscoveredFormat.find? formats options slot consumed = .ok (format?, rest)) :
    consumed ⊆ rest := by
  intro key hkey
  cases format? with
  | none => rwa [(find_none_iff.mp h).2]
  | some format => exact (find_some h).mem_consumed.mpr (Or.inl hkey)

/-- Maps whose formats agree are checked alike if the rest of them differs only where the
connector looks. -/
theorem checkedFormats_congr {r : Resolver} {a b : OptionMap} {direction : Direction}
    (hformats : a.FormatsAgree b) (hrest : ∀ key, key ∉ Catalogue.keys → a.get? key = b.get? key) :
    r.checkedFormats a direction = r.checkedFormats b direction := by
  unfold checkedFormats
  rw [hformats.tableFormats_eq]
  cases hfound : tableFormats r.formats b direction Catalogue.keys with
  | error error => rfl
  | ok result =>
    obtain ⟨found, consumed⟩ := result
    obtain ⟨run⟩ := tableFormats_run hfound
    have hcatalogue : Catalogue.keys ⊆ consumed :=
      List.Subset.trans (find_consumed run.value_found) (find_consumed run.key_found)
    have hleft : a.unconsumedKeys consumed [propertiesPrefix] =
        b.unconsumedKeys consumed [propertiesPrefix] :=
      OptionMap.unconsumed_congr fun key hkey => hrest key fun h => hkey (hcatalogue h)
    have hchecked : checkConsumed a consumed = checkConsumed b consumed := by
      unfold checkConsumed
      rw [hleft]
    change (checkConsumed a consumed >>= fun _ => pure found) =
      (checkConsumed b consumed >>= fun _ => pure found)
    rw [hchecked]

end Resolver

end TopicTable
