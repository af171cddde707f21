import TopicTable.Connector.Resolver
import TopicTable.Proofs.Options
import TopicTable.Proofs.Outcome

/-! Finding the formats of a table. A slot that is set names a registered provider, which sees
the options under its scope with the scope stripped, and the discovery consumes the slot and
those of the set keys that the provider declares. -/

namespace TopicTable

open Outcome

/-- A successful discovery, with what it read and what it consumed. -/
structure Discovered (formats : FormatRegistry) (options : OptionMap) (slot : FormatSlot)
    (consumed : List String) (format : DiscoveredFormat) (rest : List String) : Prop where
  named : options.get? slot.key = some format.identifier
  registered : formats.get? format.identifier = some format.provider
  prefix_eq : format.optionPrefix = slot.optionPrefix
  options_eq : format.options = options.withPrefix (slot.scope format.identifier)
  complete : ∀ spec ∈ format.provider.requiredOptions, format.options.contains spec.key = true
  changelog_ok : format.provider.changelogMode format.options = .ok format.changelogMode
  readable_ok : format.provider.readableMetadata format.options = .ok format.readableMetadata
  writable_ok : format.provider.writableMetadata format.options = .ok format.writableMetadata
  consumed_eq : rest = consumed ++ slot.key ::
    (format.options.keys.filter format.provider.declaredKeys.contains).map
      (slot.scope format.identifier ++ ·)

/-- A provider fails over the options that it is given. -/
def FormatProvider.Refuses (p : FormatProvider) (own : FormatOptions) (error : TableError) : Prop :=
  p.changelogMode own = .error error ∨ p.readableMetadata own = .error error ∨
    p.writableMetadata own = .error error

/-- The required options of a format that are not set, under their whole keys. -/
def FormatProvider.missingKeys (provider : FormatProvider) (options : OptionMap)
    (start : String) : List String :=
  (provider.requiredOptions.map fun spec => start ++ spec.key).filter fun key =>
    !options.contains key

/-- The ways for a discovery to end. -/
inductive DiscoveryEnds (formats : FormatRegistry) (options : OptionMap) (slot : FormatSlot)
    (consumed : List String) : Except TableError (Option DiscoveredFormat × List String) → Prop where
  | unset (h : options.get? slot.key = none) :
      DiscoveryEnds formats options slot consumed (.ok (none, consumed))
  | unregistered (identifier : String) (named : options.get? slot.key = some identifier)
      (h : formats.get? identifier = none) :
      DiscoveryEnds formats options slot consumed
        (.error (.unknownFormat identifier slot.key (", ".intercalate formats.identifiers)))
  | incomplete (identifier : String) (provider : FormatProvider)
      (named : options.get? slot.key = some identifier)
      (registered : formats.get? identifier = some provider)
      (h : provider.missingKeys options (slot.scope identifier) ≠ []) :
      DiscoveryEnds formats options slot consumed
        (.error (.missingRequired (provider.missingKeys options (slot.scope identifier))))
  | refused (identifier : String) (provider : FormatProvider) (error : TableError)
      (named : options.get? slot.key = some identifier)
      (registered : formats.get? identifier = some provider)
      (complete : provider.missingKeys options (slot.scope identifier) = [])
      (h : provider.Refuses (options.withPrefix (slot.scope identifier)) error) :
      DiscoveryEnds formats options slot consumed (.error error)
  | found (format : DiscoveredFormat) (rest : List String)
      (h : Discovered formats options slot consumed format rest) :
      DiscoveryEnds formats options slot consumed (.ok (some format, rest))

section Find

variable {formats : FormatRegistry} {options : OptionMap} {slot : FormatSlot}
  {consumed rest : List String}

theorem FormatProvider.missingKeys_nil_iff {provider : FormatProvider} {start : String} :
    provider.missingKeys options start = [] ↔
      ∀ spec ∈ provider.requiredOptions, (options.withPrefix start).contains spec.key = true := by
  simp [missingKeys, List.filter_eq_nil_iff, OptionMap.contains_withPrefix]

/-- What a provider misses among its own options is missing in the table. -/
theorem FormatProvider.missingKeys_eq (provider : FormatProvider) (options : OptionMap)
    (start : String) :
    ((provider.requiredOptions.map (·.key)).filter fun key =>
      !(options.withPrefix start).contains key).map (start ++ ·) =
        provider.missingKeys options start := by
  simp only [missingKeys, OptionMap.contains_withPrefix, List.filter_map, List.map_map]
  rfl

/-- Every discovery ends in one of these ways, each under its own condition. -/
theorem find_ends (formats : FormatRegistry) (options : OptionMap) (slot : FormatSlot)
    (consumed : List String) : DiscoveryEnds formats options slot consumed
      (DiscoveredFormat.find? formats options slot consumed) := by
  unfold DiscoveredFormat.find?
  cases hid : options.get? slot.key with
  | none => exact .unset hid
  | some identifier =>
    dsimp only
    unfold FormatRegistry.lookup
    cases hp : formats.get? identifier with
    | none => exact .unregistered identifier hid hp
    | some provider =>
      simp only [bind, Except.bind]
      split
      next hmissing =>
        have hne : provider.missingKeys options (slot.scope identifier) ≠ [] := by
          rw [← provider.missingKeys_eq]
          simpa using hmissing
        rw [provider.missingKeys_eq]
        exact .incomplete identifier provider hid hp hne
      next hmissing =>
        have hnil : provider.missingKeys options (slot.scope identifier) = [] := by
          rw [← provider.missingKeys_eq, List.map_eq_nil_iff]
          exact not_not.mp hmissing
        have hcomplete := FormatProvider.missingKeys_nil_iff.mp hnil
        cases hmode : provider.changelogMode (options.withPrefix (slot.scope identifier)) with
        | error error => exact .refused identifier provider error hid hp hnil (Or.inl hmode)
        | ok mode =>
          cases hread : provider.readableMetadata (options.withPrefix (slot.scope identifier)) with
          | error error =>
            exact .refused identifier provider error hid hp hnil (Or.inr (Or.inl hread))
          | ok readable =>
            cases hwrite : provider.writableMetadata
                (options.withPrefix (slot.scope identifier)) with
            | error error =>
              exact .refused identifier provider error hid hp hnil (Or.inr (Or.inr hwrite))
            | ok writable =>
              exact .found _ _ ⟨hid, hp, rfl, rfl, hcomplete, hmode, hread, hwrite, rfl⟩

theorem find_some {format : DiscoveredFormat}
    (h : DiscoveredFormat.find? formats options slot consumed = .ok (some format, rest)) :
    Discovered formats options slot consumed format rest := by
  have hends := find_ends formats options slot consumed
  rw [h] at hends
  cases hends with
  | found _ _ d => exact d

theorem Discovered.mem_consumed {format : DiscoveredFormat} {key : String}
    (d : Discovered formats options slot consumed format rest) :
    key ∈ rest ↔ key ∈ consumed ∨ key = slot.key ∨
      ∃ k ∈ format.provider.declaredKeys,
        options.contains (slot.scope format.identifier ++ k) = true ∧
          key = slot.scope format.identifier ++ k := by
  rw [d.consumed_eq, List.mem_append, List.mem_cons, List.mem_map]
  simp only [List.mem_filter, OptionMap.mem_keys_iff_contains, d.options_eq,
    OptionMap.contains_withPrefix, List.contains_eq_mem, decide_eq_true_eq]
  constructor
  · rintro (h | h | ⟨k, ⟨hset, hdeclared⟩, rfl⟩)
    · exact Or.inl h
    · exact Or.inr (Or.inl h)
    · exact Or.inr (Or.inr ⟨k, hdeclared, hset, rfl⟩)
  · rintro (h | h | ⟨k, hdeclared, hset, rfl⟩)
    · exact Or.inl h
    · exact Or.inr (Or.inl h)
    · exact Or.inr (Or.inr ⟨k, ⟨hset, hdeclared⟩, rfl⟩)

/-- A provider speaks about its own options only through a value that it refuses. -/
structure FormatProvider.RefusesValues (p : FormatProvider) : Prop where
  changelog : ∀ own error, p.changelogMode own = .error error →
    ∃ option message, error = .invalidValue option message
  readable : ∀ own error, p.readableMetadata own = .error error →
    ∃ option message, error = .invalidValue option message
  writable : ∀ own error, p.writableMetadata own = .error error →
    ∃ option message, error = .invalidValue option message

theorem FormatProvider.RefusesValues.of_refuses {p : FormatProvider} (hp : p.RefusesValues)
    {own : FormatOptions} {error : TableError} (h : p.Refuses own error) :
    ∃ option message, error = .invalidValue option message := by
  rcases h with h | h | h
  · exact hp.changelog _ _ h
  · exact hp.readable _ _ h
  · exact hp.writable _ _ h

def FormatRegistry.RefuseValues (formats : FormatRegistry) : Prop :=
  ∀ identifier provider, formats.get? identifier = some provider → provider.RefusesValues

/-- A registry holds nothing that was not registered. -/
theorem FormatRegistry.mem_of_get_ofList {providers : List FormatProvider} {identifier : String}
    {provider : FormatProvider}
    (h : (FormatRegistry.ofList providers).get? identifier = some provider) :
    provider ∈ providers := by
  have hfold : ∀ (providers : List FormatProvider) (r : FormatRegistry),
      (providers.foldl register r).get? identifier = some provider →
        provider ∈ providers ∨ r.get? identifier = some provider := by
    intro providers
    induction providers with
    | nil => exact fun r h => Or.inr h
    | cons p providers ih =>
      intro r h
      rcases ih _ h with h | h
      · exact Or.inl (List.mem_cons_of_mem _ h)
      · unfold FormatRegistry.get? FormatRegistry.register at h
        rw [OrderedMap.get?_insert] at h
        split at h
        · cases h
          exact Or.inl (List.mem_cons_self ..)
        · exact Or.inr h
  rcases hfold providers .empty h with h | h
  · exact h
  · cases h

/-- The three ways for a discovery to fail. -/
theorem find_error_cases {error : TableError}
    (h : DiscoveredFormat.find? formats options slot consumed = .error error) :
    (∃ identifier available, error = .unknownFormat identifier slot.key available) ∨
      (∃ keys, error = .missingRequired keys) ∨
      ∃ identifier provider, options.get? slot.key = some identifier ∧
        formats.get? identifier = some provider ∧
        provider.Refuses (options.withPrefix (slot.scope identifier)) error := by
  have hends := find_ends formats options slot consumed
  rw [h] at hends
  cases hends with
  | unregistered => exact Or.inl ⟨_, _, rfl⟩
  | incomplete => exact Or.inr (Or.inl ⟨_, rfl⟩)
  | refused identifier provider _ named registered _ hrefused =>
    exact Or.inr (Or.inr ⟨identifier, provider, named, registered, hrefused⟩)

/-- Providers that only refuse values keep every other blame out of a discovery. -/
theorem find_error (hf : formats.RefuseValues) {error : TableError}
    (h : DiscoveredFormat.find? formats options slot consumed = .error error) :
    (∃ identifier available, error = .unknownFormat identifier slot.key available) ∨
      (∃ keys, error = .missingRequired keys) ∨
      ∃ option message, error = .invalidValue option message := by
  rcases find_error_cases h with h | h | ⟨identifier, provider, -, hregistered, hrefused⟩
  · exact Or.inl h
  · exact Or.inr (Or.inl h)
  · exact Or.inr (Or.inr ((hf identifier provider hregistered).of_refuses hrefused))

theorem find_error_set {error : TableError}
    (h : DiscoveredFormat.find? formats options slot consumed = .error error) :
    options.contains slot.key = true := by
  have hends := find_ends formats options slot consumed
  rw [h] at hends
  cases hends with
  | unregistered identifier named => exact options.contains_iff.mpr ⟨identifier, named⟩
  | incomplete identifier _ named => exact options.contains_iff.mpr ⟨identifier, named⟩
  | refused identifier _ _ named => exact options.contains_iff.mpr ⟨identifier, named⟩

end Find

namespace Resolver

/-- The format discovery behind a table's formats. The shared slot is tried first. -/
structure FormatsRun (formats : FormatRegistry) (options : OptionMap) (found : TableFormats)
    (consumed : List String) where
  slot : FormatSlot
  before : List String
  slot_mem : slot = .shared ∨ slot = .ofValue
  slot_set : options.valueSlot? = some slot
  not_both : ¬ (options.contains Catalogue.format.key = true ∧
    options.contains Catalogue.valueFormat.key = true)
  value_found : DiscoveredFormat.find? formats options slot Catalogue.keys =
    .ok (some found.value, before)
  key_found : DiscoveredFormat.find? formats options .ofKey before = .ok (found.key?, consumed)

/-- Discovery yields nothing exactly for a slot that is left out. -/
theorem find_none_iff {formats : FormatRegistry} {options : OptionMap} {slot : FormatSlot}
    {consumed rest : List String} :
    DiscoveredFormat.find? formats options slot consumed = .ok (none, rest) ↔
      options.get? slot.key = none ∧ rest = consumed := by
  constructor
  · intro h
    have hends := find_ends formats options slot consumed
    rw [h] at hends
    cases hends with
    | unset hunset => exact ⟨hunset, rfl⟩
  · rintro ⟨hunset, rfl⟩
    unfold DiscoveredFormat.find?
    rw [hunset]

theorem find_set {formats : FormatRegistry} {options : OptionMap} {slot : FormatSlot}
    {consumed rest : List String} {format : DiscoveredFormat}
    (h : DiscoveredFormat.find? formats options slot consumed = .ok (some format, rest)) :
    options.contains slot.key = true :=
  options.contains_iff.mpr ⟨_, (find_some h).named⟩

theorem tableFormats_run {formats : FormatRegistry} {options : OptionMap} {direction : Direction}
    {found : TableFormats} {consumed : List String}
    (h : tableFormats formats options direction Catalogue.keys = .ok (found, consumed)) :
    Nonempty (FormatsRun formats options found consumed) := by
  unfold tableFormats at h
  split at h
  · cases h
  next hboth =>
    obtain ⟨⟨value, before⟩, hv, h⟩ := bind_ok_iff.mp h
    obtain ⟨⟨key?, rest⟩, hk, h⟩ := bind_ok_iff.mp h
    cases h
    unfold valueFormat at hv
    obtain ⟨⟨shared?, first⟩, hs, hv⟩ := bind_ok_iff.mp hv
    cases shared? with
    | some format =>
      cases hv
      have hc := find_set hs
      exact ⟨⟨.shared, _, Or.inl rfl, by simp [OptionMap.valueSlot?, hc], hboth, hs, hk⟩⟩
    | none =>
      obtain ⟨hnone, rfl⟩ := find_none_iff.mp hs
      obtain ⟨⟨own?, second⟩, ho, hv⟩ := bind_ok_iff.mp hv
      cases own? with
      | none => cases hv
      | some format =>
        cases hv
        have hc := find_set ho
        have hn : options.contains FormatSlot.shared.key = false := by
          rw [OrderedMap.contains_eq_isSome_get?, hnone, Option.isSome_none]
        exact ⟨⟨.ofValue, _, Or.inr rfl, by simp [OptionMap.valueSlot?, hc, hn], hboth, ho, hk⟩⟩

theorem checkedFormats_run {r : Resolver} {options : OptionMap} {direction : Direction}
    {found : TableFormats} (h : r.checkedFormats options direction = .ok found) :
    ∃ consumed, Nonempty (FormatsRun r.formats options found consumed) ∧
      checkConsumed options consumed = .ok () := by
  unfold checkedFormats at h
  obtain ⟨⟨found', consumed⟩, hf, h⟩ := bind_ok_iff.mp h
  obtain ⟨⟨⟩, hc, h⟩ := bind_ok_iff.mp h
  cases h
  exact ⟨consumed, tableFormats_run hf, hc⟩

/-- A table has a key format exactly when it names one. -/
theorem FormatsRun.key_isSome {formats : FormatRegistry} {options : OptionMap}
    {found : TableFormats} {consumed : List String}
    (run : FormatsRun formats options found consumed) :
    found.key?.isSome = options.contains Catalogue.keyFormat.key := by
  have hk := run.key_found
  cases h : found.key? with
  | none =>
    rw [h] at hk
    rw [OrderedMap.contains_eq_isSome_get?]
    exact (congrArg Option.isSome (find_none_iff.mp hk).1).symm
  | some format =>
    rw [h] at hk
    exact (find_set hk).symm

end Resolver

end TopicTable
