import TopicTable.Proofs.Accounting

/-! What the discovery of a format comes to. Under one slot it yields nothing, a format or one of
three faults, each under a condition on the table and the registry alone, and a format gets the
options in its scope and accounts for those that it declares. -/

namespace TopicTable

open Outcome

/-- A discovered format has the options in its scope, and accounts for its slot and for the set
options that it declares. -/
structure ScopedExactly (formats : FormatRegistry) (options : OptionMap) (slot : FormatSlot)
    (consumed : List String) (format : DiscoveredFormat) (rest : List String) : Prop where
  named : options.get? slot.key = some format.identifier
  registered : formats.get? format.identifier = some format.provider
  options_iff : ∀ k v, format.options.get? k = some v ↔
    options.get? (slot.optionPrefix ++ format.identifier ++ "." ++ k) = some v
  consumed_iff : ∀ key, key ∈ rest ↔ key ∈ consumed ∨ key = slot.key ∨
    ∃ spec ∈ format.provider.requiredOptions ++ format.provider.optionalOptions,
      key = slot.optionPrefix ++ format.identifier ++ "." ++ spec.key ∧
        options.contains key = true

/-- When the discovery in a slot yields nothing, a format or a fault, and what goes with it. -/
structure DiscoversExactly (formats : FormatRegistry) (options : OptionMap) (slot : FormatSlot)
    (consumed : List String) : Prop where
  unset_iff : (∃ rest, DiscoveredFormat.find? formats options slot consumed = .ok (none, rest)) ↔
    options.get? slot.key = none
  unset_kept : ∀ rest, DiscoveredFormat.find? formats options slot consumed = .ok (none, rest) →
    rest = consumed
  unknown_iff : ∀ identifier option available,
    DiscoveredFormat.find? formats options slot consumed =
        .error (.unknownFormat identifier option available) ↔
      options.get? slot.key = some identifier ∧ formats.get? identifier = none ∧
        option = slot.key ∧ available = ", ".intercalate formats.identifiers
  missing_iff : (∃ keys message, DiscoveredFormat.find? formats options slot consumed =
      .error (.missing keys message)) ↔
    ∃ identifier provider, options.get? slot.key = some identifier ∧
      formats.get? identifier = some provider ∧ ∃ spec ∈ provider.requiredOptions,
        options.get? (slot.optionPrefix ++ identifier ++ "." ++ spec.key) = none
  missing_listed : ∀ keys message, DiscoveredFormat.find? formats options slot consumed =
      .error (.missing keys message) →
    ∃ identifier provider, options.get? slot.key = some identifier ∧
      formats.get? identifier = some provider ∧
      keys = (provider.requiredOptions.map fun spec =>
        slot.optionPrefix ++ identifier ++ "." ++ spec.key).filter (fun key =>
          !options.contains key) ∧
      message = "One or more required options are missing.\n\n" ++
        "Missing required options are:\n\n" ++ "\n".intercalate keys
  found_iff : (∃ format rest, DiscoveredFormat.find? formats options slot consumed =
      .ok (some format, rest)) ↔
    ∃ identifier provider, options.get? slot.key = some identifier ∧
      formats.get? identifier = some provider ∧
      (∀ spec ∈ provider.requiredOptions,
        options.get? (slot.optionPrefix ++ identifier ++ "." ++ spec.key) ≠ none) ∧
      ∀ error, ¬ provider.Refuses (options.withPrefix (slot.scope identifier)) error
  found_scoped : ∀ format rest, DiscoveredFormat.find? formats options slot consumed =
    .ok (some format, rest) → ScopedExactly formats options slot consumed format rest

section Find

variable {formats : FormatRegistry} {options : OptionMap} {slot : FormatSlot}
  {consumed rest : List String} {identifier : String} {provider : FormatProvider}

theorem Discovered.scoped {format : DiscoveredFormat}
    (d : Discovered formats options slot consumed format rest) :
    ScopedExactly formats options slot consumed format rest := by
  refine ⟨d.named, d.registered, fun k v => ?_, fun key => ?_⟩
  · rw [d.options_eq, OptionMap.get_withPrefix]
    rfl
  · rw [d.mem_consumed]
    refine or_congr_right (or_congr_right ?_)
    constructor
    · rintro ⟨k, hk, hset, rfl⟩
      obtain ⟨spec, hspec, rfl⟩ := List.mem_map.mp hk
      exact ⟨spec, hspec, rfl, hset⟩
    · rintro ⟨spec, hspec, rfl, hset⟩
      exact ⟨spec.key, List.mem_map_of_mem hspec, hset, rfl⟩

/-- The provider of a format that is found refuses none of its options. -/
theorem Discovered.accepts {format : DiscoveredFormat}
    (d : Discovered formats options slot consumed format rest) (error : TableError) :
    ¬ format.provider.Refuses format.options error := by
  rintro (h | h | h)
  · cases d.changelog_ok.symm.trans h
  · cases d.readable_ok.symm.trans h
  · cases d.writable_ok.symm.trans h

theorem find_unregistered (named : options.get? slot.key = some identifier)
    (h : formats.get? identifier = none) :
    DiscoveredFormat.find? formats options slot consumed =
      .error (.unknownFormat identifier slot.key (", ".intercalate formats.identifiers)) := by
  unfold DiscoveredFormat.find? FormatRegistry.lookup
  rw [named]
  dsimp only
  rw [h]
  rfl

theorem FormatProvider.missingKeys_nil_iff_set {start : String} :
    provider.missingKeys options start = [] ↔
      ∀ spec ∈ provider.requiredOptions, options.get? (start ++ spec.key) ≠ none := by
  simp [missingKeys, List.filter_eq_nil_iff, OrderedMap.contains_eq_isSome_get?]

/-- With a registered format, a discovery lists what is missing, or is left to the provider. -/
theorem find_registered (named : options.get? slot.key = some identifier)
    (registered : formats.get? identifier = some provider) :
    (provider.missingKeys options (slot.scope identifier) ≠ [] ∧
      DiscoveredFormat.find? formats options slot consumed =
        .error (.missingRequired (provider.missingKeys options (slot.scope identifier)))) ∨
    (provider.missingKeys options (slot.scope identifier) = [] ∧
      ((∃ error, provider.Refuses (options.withPrefix (slot.scope identifier)) error ∧
        DiscoveredFormat.find? formats options slot consumed = .error error) ∨
      ((∀ error, ¬ provider.Refuses (options.withPrefix (slot.scope identifier)) error) ∧
        ∃ format rest, DiscoveredFormat.find? formats options slot consumed =
          .ok (some format, rest)))) := by
  have hends := find_ends formats options slot consumed
  generalize DiscoveredFormat.find? formats options slot consumed = result at hends ⊢
  cases hends with
  | unset h =>
    rw [named] at h
    cases h
  | unregistered _ named' h =>
    cases named.symm.trans named'
    rw [registered] at h
    cases h
  | incomplete _ _ named' registered' hne =>
    cases named.symm.trans named'
    cases registered.symm.trans registered'
    exact Or.inl ⟨hne, rfl⟩
  | refused _ _ error named' registered' hcomplete hrefused =>
    cases named.symm.trans named'
    cases registered.symm.trans registered'
    exact Or.inr ⟨hcomplete, Or.inl ⟨error, hrefused, rfl⟩⟩
  | found format rest d =>
    cases named.symm.trans d.named
    cases registered.symm.trans d.registered
    have hcomplete := d.complete
    have haccepts := d.accepts
    rw [d.options_eq] at hcomplete haccepts
    exact Or.inr ⟨FormatProvider.missingKeys_nil_iff.mpr hcomplete,
      Or.inr ⟨haccepts, format, rest, rfl⟩⟩

theorem find_unknown_iff (hf : formats.RefuseValues) {option available : String} :
    DiscoveredFormat.find? formats options slot consumed =
        .error (.unknownFormat identifier option available) ↔
      options.get? slot.key = some identifier ∧ formats.get? identifier = none ∧
        option = slot.key ∧ available = ", ".intercalate formats.identifiers := by
  constructor
  · intro h
    have hends := find_ends formats options slot consumed
    rw [h] at hends
    cases hends with
    | unregistered _ named hnone => exact ⟨named, hnone, rfl, rfl⟩
    | refused _ _ _ _ registered _ hrefused =>
      obtain ⟨_, _, hvalue⟩ := (hf _ _ registered).of_refuses hrefused
      cases hvalue
  · rintro ⟨named, hnone, rfl, rfl⟩
    exact find_unregistered named hnone

/-- A discovery that misses options names a format, and lists all that this format misses. -/
theorem find_missing (hf : formats.RefuseValues) {keys : List String} {message : String}
    (h : DiscoveredFormat.find? formats options slot consumed = .error (.missing keys message)) :
    ∃ identifier provider, options.get? slot.key = some identifier ∧
      formats.get? identifier = some provider ∧ keys ≠ [] ∧
      keys = provider.missingKeys options (slot.scope identifier) ∧
      .missing keys message = TableError.missingRequired keys := by
  have hends := find_ends formats options slot consumed
  rw [h] at hends
  -- the fault of the incomplete case meets this one only once its message is written out
  generalize hresult : (Except.error (TableError.missing keys message) :
    Except TableError (Option DiscoveredFormat × List String)) = result at hends
  cases hends with
  | unset | unregistered | found => cases hresult
  | incomplete identifier provider named registered hne =>
    cases hresult
    exact ⟨identifier, provider, named, registered, hne, rfl, rfl⟩
  | refused _ _ _ _ registered _ hrefused =>
    cases hresult
    obtain ⟨_, _, hvalue⟩ := (hf _ _ registered).of_refuses hrefused
    cases hvalue

theorem find_missing_iff (hf : formats.RefuseValues) :
    (∃ keys message, DiscoveredFormat.find? formats options slot consumed =
        .error (.missing keys message)) ↔
      ∃ identifier provider, options.get? slot.key = some identifier ∧
        formats.get? identifier = some provider ∧
        provider.missingKeys options (slot.scope identifier) ≠ [] := by
  constructor
  · rintro ⟨keys, message, h⟩
    obtain ⟨identifier, provider, named, registered, hne, rfl, -⟩ := find_missing hf h
    exact ⟨identifier, provider, named, registered, hne⟩
  · rintro ⟨identifier, provider, named, registered, hne⟩
    rcases find_registered named registered with ⟨-, h⟩ | ⟨hnil, -⟩
    · exact ⟨_, _, h⟩
    · exact absurd hnil hne

theorem find_some_iff :
    (∃ format rest, DiscoveredFormat.find? formats options slot consumed =
        .ok (some format, rest)) ↔
      ∃ identifier provider, options.get? slot.key = some identifier ∧
        formats.get? identifier = some provider ∧
        provider.missingKeys options (slot.scope identifier) = [] ∧
        ∀ error, ¬ provider.Refuses (options.withPrefix (slot.scope identifier)) error := by
  constructor
  · rintro ⟨format, rest, h⟩
    have d := find_some h
    refine ⟨_, _, d.named, d.registered, ?_⟩
    rcases find_registered d.named d.registered with ⟨-, h'⟩ | ⟨hnil, ⟨_, -, h'⟩ | ⟨haccepts, -⟩⟩
    · cases h.symm.trans h'
    · cases h.symm.trans h'
    · exact ⟨hnil, haccepts⟩
  · rintro ⟨identifier, provider, named, registered, hnil, haccepts⟩
    rcases find_registered named registered with ⟨hne, -⟩ | ⟨-, ⟨_, hrefused, -⟩ | ⟨-, h⟩⟩
    · exact absurd hnil hne
    · exact absurd hrefused (haccepts _)
    · exact h

end Find

/-- Every discovery yields nothing, a format or a fault under its own condition, and a format that
it finds has its options and accounts for those that it declares. -/
theorem discovery_scoped_exactly (formats : FormatRegistry) (hf : formats.RefuseValues)
    (options : OptionMap) (slot : FormatSlot) (consumed : List String) :
    DiscoversExactly formats options slot consumed where
  unset_iff := by
    simp only [Resolver.find_none_iff, exists_and_left, exists_eq, and_true]
  unset_kept := fun _ h => (Resolver.find_none_iff.mp h).2
  unknown_iff := fun _ _ _ => find_unknown_iff hf
  missing_iff := by
    simp only [find_missing_iff hf, FormatProvider.missingKeys_nil_iff_set, ne_eq, not_forall,
      not_not, exists_prop]
    rfl
  missing_listed := by
    intro keys message h
    obtain ⟨identifier, provider, named, registered, -, hkeys, hmessage⟩ := find_missing hf h
    exact ⟨identifier, provider, named, registered, hkeys, (TableError.missing.inj hmessage).2⟩
  found_iff := by
    simp only [find_some_iff, FormatProvider.missingKeys_nil_iff_set]
    rfl
  found_scoped := fun _ _ h => (find_some h).scoped

/-- A key format that needs its delimiter, with the delimiter in its scope and without it. -/
theorem key_delimiter_found_or_missing :
    Sample.registry.RefuseValues ∧
    (∃ format rest, DiscoveredFormat.find? Sample.registry Sample.keyValueOptions .ofKey [] =
        .ok (some format, rest) ∧
      format.options.get? "delimiter" = some "#" ∧ "key.test-format.delimiter" ∈ rest) ∧
    ∃ keys message, DiscoveredFormat.find? Sample.registry
        (Sample.sinkOptions.insert "key.format" "test-format") .ofKey [] =
          .error (.missing keys message) ∧
      keys = ["key.test-format.delimiter"] := by
  have hf : Sample.registry.RefuseValues := by
    intro identifier provider h
    rcases List.mem_cons.mp (FormatRegistry.mem_of_get_ofList h) with rfl | h
    · exact Delimited.provider_refusesValues _ _
    · obtain ⟨identifier, -, rfl⟩ := List.mem_map.mp h
      exact Delimited.provider_refusesValues _ _
  have hstrict : Sample.registry.get? "test-format" = some Delimited.strict := rfl
  have hset := discovery_scoped_exactly Sample.registry hf Sample.keyValueOptions .ofKey []
  have hunset := discovery_scoped_exactly Sample.registry hf
    (Sample.sinkOptions.insert "key.format" "test-format") .ofKey []
  obtain ⟨⟨found?, rest⟩, hrun⟩ := exists_ok
    (x := DiscoveredFormat.find? Sample.registry Sample.keyValueOptions .ofKey [])
    (by decide +kernel)
  have hnamed : Sample.keyValueOptions.get? FormatSlot.ofKey.key = some "test-format" := by
    decide +kernel
  cases found? with
  | none => cases hnamed.symm.trans (hset.unset_iff.mp ⟨rest, hrun⟩)
  | some format =>
    have hscoped := hset.found_scoped format rest hrun
    have hid : format.identifier = "test-format" :=
      (Option.some.inj (hnamed.symm.trans hscoped.named)).symm
    have hregistered := hscoped.registered
    rw [hid, hstrict] at hregistered
    have hoption : format.options.get? "delimiter" = some "#" := by
      rw [hscoped.options_iff, hid]
      decide +kernel
    have hconsumed : "key.test-format.delimiter" ∈ rest := by
      rw [hscoped.consumed_iff, hid, ← Option.some.inj hregistered]
      refine Or.inr (Or.inr ⟨_, List.mem_append_left _ (List.mem_cons_self ..), ?_⟩)
      decide +kernel
    have hother : (Sample.sinkOptions.insert "key.format" "test-format").get?
        FormatSlot.ofKey.key = some "test-format" := by
      decide +kernel
    obtain ⟨keys, message, herror⟩ := hunset.missing_iff.mpr
      ⟨_, _, hother, hstrict, _, List.mem_cons_self .., by decide +kernel⟩
    obtain ⟨_, _, hother', hstrict', hkeys, -⟩ := hunset.missing_listed keys message herror
    cases hother.symm.trans hother'
    cases hstrict.symm.trans hstrict'
    exact ⟨hf, ⟨format, rest, hrun, hoption, hconsumed⟩, keys, message, herror,
      hkeys.trans (by decide +kernel)⟩

end TopicTable
