import TopicTable.Proofs.Accounting
import TopicTable.Proofs.Agreement

/-! Whom an error blames. A sink lists options that nothing reads, and those may be subjects that
it filled in itself. A refused value names its option as the table has it, except where a format
refused it: formats do not know the scope that their options have in the table. -/

namespace TopicTable

open Outcome

namespace Delimited

theorem refuses_congr {identifier : String} {required : List String} {a b : FormatOptions}
    (hsame : ∀ key ∈ checkedKeys, a.get? key = b.get? key) {error : TableError}
    (h : (provider identifier required).Refuses a error) :
    (provider identifier required).Refuses b error := by
  have hchangelog : readChangelogMode a = readChangelogMode b := by
    unfold readChangelogMode
    rw [hsame _ (by decide)]
  have hmetadata : ∀ key ∈ checkedKeys, readMetadata key a = readMetadata key b := by
    intro key hkey
    unfold readMetadata
    rw [hsame key hkey]
  rcases h with h | h | h
  · exact Or.inl (hchangelog.symm.trans h)
  · exact Or.inr (Or.inl ((hmetadata _ (by decide)).symm.trans h))
  · exact Or.inr (Or.inr ((hmetadata _ (by decide)).symm.trans h))

/-- What delimited text reads at discovery is never filled in. -/
theorem get_scope_withSubjects (options : OptionMap) (topic : String) (slot : FormatSlot)
    (identifier : String) {key : String} (hkey : key ∈ checkedKeys) :
    ((options.withSubjects topic).withPrefix (slot.scope identifier)).get? key =
      (options.withPrefix (slot.scope identifier)).get? key := by
  have hapart : ∀ key ∈ checkedKeys, ¬ "subject".toList <:+ key.toList := by decide
  rw [OptionMap.get_withPrefix, OptionMap.get_withPrefix]
  exact options.get_withSubjects_of_notMem topic fun h => hapart key hkey (slot.subject_suffix h)

end Delimited

/-- Every registered format is delimited text, under whatever identifier. -/
def FormatRegistry.OnlyDelimited (formats : FormatRegistry) : Prop :=
  ∀ identifier provider, formats.get? identifier = some provider →
    ∃ name required, provider = Delimited.provider name required

namespace Resolver

/-- The selected formats of a resolved table are registered. -/
theorem FormatsRun.registered {formats : FormatRegistry} {options : OptionMap}
    {found : TableFormats} {consumed : List String}
    (run : FormatsRun formats options found consumed) {slot : FormatSlot} {identifier : String}
    (hslot : options.SelectedSlot slot) (hnamed : options.get? slot.key = some identifier) :
    ∃ provider, formats.get? identifier = some provider := by
  rcases hslot with hslot | rfl
  · cases run.slot_set.symm.trans hslot
    have d := find_some run.value_found
    cases d.named.symm.trans hnamed
    exact ⟨_, d.registered⟩
  · have hset : found.key?.isSome = true := by
      rw [run.key_isSome]
      exact options.contains_iff.mpr ⟨identifier, hnamed⟩
    obtain ⟨format, hformat⟩ := Option.isSome_iff_exists.mp hset
    have hfound := run.key_found
    rw [hformat] at hfound
    have d := find_some hfound
    cases d.named.symm.trans hnamed
    exact ⟨_, d.registered⟩

/-- The options that a sink refuses its table over. Subjects that were filled in are among them
exactly where the format does not take a subject. -/
structure LeftOver (r : Resolver) (table : TableDefinition) (keys : List String) : Prop where
  nonempty : keys ≠ []
  increasing : keys.Pairwise (· < ·)
  listed_iff : ∀ key, key ∈ keys ↔
    (table.options.contains key = true ∨ table.options.FilledIn key) ∧
      ¬ Recognised r.formats table.options key
  own_iff : (∀ key ∈ keys, table.options.contains key = true) ↔
    ∀ key, table.options.FilledIn key → Recognised r.formats table.options key
  filled : ∀ key ∈ keys, table.options.contains key = false →
    ∃ slot : FormatSlot, ∃ format : SchemaRegistryFormat, ∃ provider,
      table.options.get? slot.key = some format.identifier ∧
      key = slot.scope format.identifier ++ "subject" ∧
      r.formats.get? format.identifier = some provider ∧ "subject" ∉ provider.declaredKeys

theorem recognised_of_selected {formats : FormatRegistry} {options : OptionMap} {slot : FormatSlot}
    (hslot : options.SelectedSlot slot) {identifier k : String} {provider : FormatProvider}
    (hnamed : options.get? slot.key = some identifier)
    (hregistered : formats.get? identifier = some provider) (hk : k ∈ provider.declaredKeys) :
    Recognised formats options (slot.scope identifier ++ k) := by
  have hdeclared : DeclaredBy formats options slot (slot.scope identifier ++ k) :=
    ⟨identifier, provider, k, hnamed, hregistered, hk, rfl⟩
  rcases hslot with hslot | rfl
  · exact .value slot hslot hdeclared
  · exact .key hdeclared

/-- The keys that a sink lists are set once the subjects are filled in, and nothing reads them. -/
theorem unsupported_of_sink {r : Resolver} (hf : r.formats.RefuseValues)
    {table : TableDefinition} {connector : String} {keys : List String}
    (h : r.sink table = .error (.unsupportedOptions connector keys)) :
    ∃ topic found consumed,
      Nonempty (FormatsRun r.formats (table.options.withSubjects topic) found consumed) ∧
      keys = (table.options.withSubjects topic).unconsumedKeys consumed [propertiesPrefix] ∧
      keys ≠ [] := by
  rcases sink_error h with hgrounded | ⟨topic, hchecked⟩
  · exact hgrounded.elim
  · exact ⟨topic, unsupported_of_checked hf hchecked⟩

/-- A subject that nothing reads belongs to a format that takes none. -/
theorem FormatsRun.undeclared_of_filled {formats : FormatRegistry} {options : OptionMap}
    {topic : String} {found : TableFormats} {consumed : List String}
    (run : FormatsRun formats (options.withSubjects topic) found consumed) {key : String}
    (hfilled : options.FilledIn key) (hnot : ¬ Recognised formats options key) :
    ∃ slot : FormatSlot, ∃ format : SchemaRegistryFormat, ∃ provider,
      options.get? slot.key = some format.identifier ∧
      key = slot.scope format.identifier ++ "subject" ∧
      formats.get? format.identifier = some provider ∧ "subject" ∉ provider.declaredKeys := by
  obtain ⟨_, slot, format, hslot, hnamed, rfl⟩ := hfilled
  have hagree := options.withSubjects_agrees topic
  have hcompleted := (hagree _ hslot.mem_catalogue).trans hnamed
  obtain ⟨provider, hregistered⟩ :=
    run.registered (hagree.selectedSlot_iff.mpr hslot) hcompleted
  refine ⟨slot, format, provider, hnamed, rfl, hregistered, fun hdeclared => hnot ?_⟩
  exact recognised_of_selected hslot hnamed hregistered hdeclared

/-- A sink checks its completed options, so it can list an option that its table never set: the
subject of a format that takes none. -/
theorem sink_left_over (r : Resolver) (hf : r.formats.RefuseValues) (table : TableDefinition)
    (connector : String) (keys : List String)
    (h : r.sink table = .error (.unsupportedOptions connector keys)) : LeftOver r table keys := by
  obtain ⟨topic, found, consumed, ⟨run⟩, hkeys, hne⟩ := unsupported_of_sink hf h
  have hlisted : ∀ key, key ∈ keys ↔
      (table.options.contains key = true ∨ table.options.FilledIn key) ∧
        ¬ Recognised r.formats table.options key := by
    intro key
    rw [hkeys, run.mem_unconsumed, OptionMap.contains_withSubjects,
      recognised_agree_iff (table.options.withSubjects_agrees topic)]
  refine {
    nonempty := hne
    increasing := hkeys ▸ OptionMap.unconsumed_increasing ..
    listed_iff := hlisted
    own_iff := ⟨fun hown key hfilled => ?_, fun hrecognised key hkey => ?_⟩
    filled := fun key hkey hunset => ?_ }
  · by_contra hnot
    have hset := hown key ((hlisted key).mpr ⟨Or.inr hfilled, hnot⟩)
    cases hfilled.1.symm.trans hset
  · obtain ⟨hset | hfilled, hnot⟩ := (hlisted key).mp hkey
    · exact hset
    · exact absurd (hrecognised key hfilled) hnot
  · obtain ⟨hset | hfilled, hnot⟩ := (hlisted key).mp hkey
    · cases hunset.symm.trans hset
    · exact run.undeclared_of_filled hfilled hnot

/-- The registry knows a single format, with a schema registry and without options. -/
theorem optionless_refuseValues : Sample.optionless.formats.RefuseValues := by
  intro identifier provider h
  have hm := FormatRegistry.mem_of_get_ofList h
  rw [List.mem_singleton.mp hm]
  have hvalues := Delimited.provider_refusesValues "avro-confluent" []
  exact ⟨hvalues.changelog, hvalues.readable, hvalues.writable⟩

/-- The table sets nothing that its format does not take, and its source resolves. -/
theorem filled_subject_left_over :
    Sample.optionless.formats.RefuseValues ∧
    Sample.optionless.sink Sample.withoutSubject =
      .error (.unsupportedOptions "kafka" ["avro-confluent.subject"]) ∧
    Sample.withoutSubject.options.contains "avro-confluent.subject" = false ∧
    ∃ spec, Sample.optionless.source Sample.withoutSubject = .ok spec :=
  ⟨optionless_refuseValues, map_error_iff (f := fun _ => ()).mp (by decide +kernel),
    by decide +kernel, exists_ok (by decide +kernel)⟩

theorem codec_and_subject_left_over :
    LeftOver Sample.optionless Sample.withCodec
      ["avro-confluent.codec", "avro-confluent.subject"] ∧
    Sample.withCodec.options.contains "avro-confluent.codec" = true ∧
    Sample.withCodec.options.FilledIn "avro-confluent.subject" ∧
    ¬ Recognised Sample.optionless.formats Sample.withCodec.options "avro-confluent.subject" := by
  have herror : Sample.optionless.sink Sample.withCodec = .error (.unsupportedOptions "kafka"
      ["avro-confluent.codec", "avro-confluent.subject"]) :=
    map_error_iff (f := fun _ => ()).mp (by decide +kernel)
  have hleft := sink_left_over Sample.optionless optionless_refuseValues Sample.withCodec
    "kafka" ["avro-confluent.codec", "avro-confluent.subject"] herror
  have hunset : Sample.withCodec.options.contains "avro-confluent.subject" = false := by
    decide +kernel
  obtain ⟨hset | hfilled, hnot⟩ := (hleft.listed_iff "avro-confluent.subject").mp (by decide)
  · cases hunset.symm.trans hset
  · exact ⟨hleft, by decide +kernel, hfilled, hnot⟩

/-- Whom a refused value is blamed on: an option of the table, or an option of a format under the
name that the format has for it. -/
inductive Blamed (r : Resolver) (table : TableDefinition) (option message : String) : Prop where
  | own (set : table.options.contains option = true)
  | ofFormat (slot : FormatSlot) (identifier : String) (provider : FormatProvider)
      (selected : table.options.SelectedSlot slot)
      (named : table.options.get? slot.key = some identifier)
      (registered : r.formats.get? identifier = some provider)
      (checked : option ∈ Delimited.checkedKeys)
      (refused : provider.Refuses (table.options.withPrefix (slot.scope identifier))
        (.invalidValue option message))
      (set : table.options.contains (slot.scope identifier ++ option) = true)

/-- Values are refused at discovery by the provider of a selected format. -/
theorem refused_of_checked {r : Resolver} {options : OptionMap} {direction : Direction}
    {option message : String}
    (h : r.checkedFormats options direction = .error (.invalidValue option message)) :
    ∃ slot identifier provider, options.SelectedSlot slot ∧
      options.get? slot.key = some identifier ∧ r.formats.get? identifier = some provider ∧
      provider.Refuses (options.withPrefix (slot.scope identifier))
        (.invalidValue option message) := by
  rcases checkedFormats_error h with h | ⟨_, _, _, h⟩
  · rcases tableFormats_error_cases h with ⟨_, _, h⟩ | ⟨_, _, h⟩ | ⟨slot, _, hslot, h⟩
    · cases h
    · cases h
    · rcases find_error_cases h with ⟨_, _, h⟩ | ⟨_, h⟩ | ⟨identifier, provider, hrefused⟩
      · cases h
      · cases h
      · exact ⟨slot, identifier, provider, hslot, hrefused⟩
  · unfold checkConsumed at h
    split at h <;> cases h

theorem blamed_of_refused {r : Resolver} (hf : r.formats.OnlyDelimited) {table : TableDefinition}
    {slot : FormatSlot} {identifier : String} {provider : FormatProvider}
    {option message : String} (hslot : table.options.SelectedSlot slot)
    (hnamed : table.options.get? slot.key = some identifier)
    (hregistered : r.formats.get? identifier = some provider)
    (hrefused : provider.Refuses (table.options.withPrefix (slot.scope identifier))
      (.invalidValue option message)) : Blamed r table option message := by
  obtain ⟨name, required, rfl⟩ := hf identifier provider hregistered
  obtain ⟨_, _, herror, hchecked, hset⟩ := Delimited.refuses_error hrefused
  cases herror
  rw [OptionMap.contains_withPrefix] at hset
  exact .ofFormat slot identifier _ hslot hnamed hregistered hchecked hrefused hset

/-- A refused value leads to an option that the table sets. Only a format leaves it to the reader
to put its scope before the name. -/
theorem refused_value_blamed (r : Resolver) (hf : r.formats.OnlyDelimited)
    (table : TableDefinition) (option message : String)
    (h : r.source table = .error (.invalidValue option message) ∨
      r.sink table = .error (.invalidValue option message)) : Blamed r table option message := by
  rcases h with h | h
  · rcases source_error h with hset | hchecked
    · exact .own hset
    · obtain ⟨slot, identifier, provider, hslot, hnamed, hregistered, hrefused⟩ :=
        refused_of_checked hchecked
      exact blamed_of_refused hf hslot hnamed hregistered hrefused
  · rcases sink_error h with hset | ⟨topic, hchecked⟩
    · exact .own hset
    · obtain ⟨slot, identifier, provider, hslot, hnamed, hregistered, hrefused⟩ :=
        refused_of_checked hchecked
      have hagree := table.options.withSubjects_agrees topic
      -- The format was found through the completed options, but it was given the same values.
      have hown := hagree.selectedSlot_iff.mp hslot
      rw [hagree _ hown.mem_catalogue] at hnamed
      obtain ⟨name, required, rfl⟩ := hf identifier provider hregistered
      exact blamed_of_refused hf hown hnamed hregistered (Delimited.refuses_congr
        (fun _ hkey => Delimited.get_scope_withSubjects _ _ _ _ hkey) hrefused)

theorem delimitedOnly_onlyDelimited : Sample.delimitedOnly.formats.OnlyDelimited := by
  intro identifier provider h
  have hm := FormatRegistry.mem_of_get_ofList h
  exact ⟨"csv", [], List.mem_singleton.mp hm⟩

/-- The key format names the option as it was given it, and the table knows no such option. -/
theorem unscoped_option_blamed :
    Sample.delimitedOnly.formats.OnlyDelimited ∧
    Sample.delimitedOnly.source Sample.unknownChange =
      .error (.invalidValue "changelog-mode" "unknown change kind: 'X'") ∧
    Sample.delimitedOnly.sink Sample.unknownChange =
      .error (.invalidValue "changelog-mode" "unknown change kind: 'X'") ∧
    Sample.unknownChange.options.contains "changelog-mode" = false ∧
    Sample.unknownChange.options.contains "key.csv.changelog-mode" = true :=
  ⟨delimitedOnly_onlyDelimited, map_error_iff (f := fun _ => ()).mp (by decide +kernel),
    map_error_iff (f := fun _ => ()).mp (by decide +kernel), by decide +kernel, by decide +kernel⟩

theorem key_change_blamed :
    Blamed Sample.delimitedOnly Sample.unknownChange "changelog-mode"
      "unknown change kind: 'X'" ∧
    ∃ slot identifier, Sample.unknownChange.options.SelectedSlot slot ∧
      Sample.unknownChange.options.contains (slot.scope identifier ++ "changelog-mode") =
        true := by
  have herror : Sample.delimitedOnly.source Sample.unknownChange =
      .error (.invalidValue "changelog-mode" "unknown change kind: 'X'") :=
    map_error_iff (f := fun _ => ()).mp (by decide +kernel)
  have hblamed := refused_value_blamed Sample.delimitedOnly delimitedOnly_onlyDelimited
    Sample.unknownChange "changelog-mode" "unknown change kind: 'X'" (Or.inl herror)
  have hunset : Sample.unknownChange.options.contains "changelog-mode" = false := by
    decide +kernel
  refine ⟨hblamed, ?_⟩
  cases hblamed with
  | own hset => cases hunset.symm.trans hset
  | ofFormat slot identifier _ hslot _ _ _ _ hset => exact ⟨slot, identifier, hslot, hset⟩

end Resolver

end TopicTable
