import TopicTable.Proofs.Faults
import TopicTable.Sample

/-! Every option is accounted for. A key is recognised through the connector, the client prefix
or a declaration of a selected format; discovery consumes the recognised keys of a map and no
others, so the left-over check refuses exactly the unrecognised ones. -/

namespace TopicTable

open Outcome

namespace Delimited

/-- The options that delimited text reads when it is discovered. -/
def checkedKeys : List String := [changelogModeKey, readableMetadataKey, writableMetadataKey]

theorem readChangelogMode_error {own : FormatOptions} {error : TableError}
    (h : readChangelogMode own = .error error) :
    own.contains changelogModeKey = true ∧
      ∃ message, error = .invalidValue changelogModeKey message := by
  unfold readChangelogMode at h
  split at h
  · cases h
  next raw hraw =>
    obtain ⟨reason, _, rfl⟩ := mapError_error_iff.mp h
    exact ⟨own.contains_iff.mpr ⟨raw, hraw⟩, _, rfl⟩

theorem readMetadata_error {key : String} {own : FormatOptions} {error : TableError}
    (h : readMetadata key own = .error error) :
    own.contains key = true ∧ ∃ message, error = .invalidValue key message := by
  unfold readMetadata at h
  split at h
  · cases h
  next raw hraw =>
    refine ⟨own.contains_iff.mpr ⟨raw, hraw⟩, ?_⟩
    rcases bind_error_iff.mp h with h | ⟨_, _, h⟩
    · obtain ⟨entry, _, hentry⟩ := exists_error_of_mapM h
      unfold readMetadataEntry at hentry
      split at hentry
      · cases hentry
        exact ⟨_, rfl⟩
      · split at hentry
        · cases hentry
          exact ⟨_, rfl⟩
        · cases hentry
    · exact absurd h pure_ne_error

/-- Delimited text refuses values of its own options only, and only of those that are set. -/
theorem refuses_error {identifier : String} {required : List String} {own : FormatOptions}
    {error : TableError} (h : (provider identifier required).Refuses own error) :
    ∃ option message, error = .invalidValue option message ∧ option ∈ checkedKeys ∧
      own.contains option = true := by
  rcases h with h | h | h
  · obtain ⟨hset, message, rfl⟩ := readChangelogMode_error h
    exact ⟨_, message, rfl, by decide, hset⟩
  · obtain ⟨hset, message, rfl⟩ := readMetadata_error h
    exact ⟨_, message, rfl, by decide, hset⟩
  · obtain ⟨hset, message, rfl⟩ := readMetadata_error h
    exact ⟨_, message, rfl, by decide, hset⟩

theorem provider_refusesValues (identifier : String) (required : List String) :
    (provider identifier required).RefusesValues := by
  have hvalue : ∀ own error, (provider identifier required).Refuses own error →
      ∃ option message, error = .invalidValue option message := by
    intro own error h
    obtain ⟨option, message, herror, _⟩ := refuses_error h
    exact ⟨option, message, herror⟩
  exact {
    changelog := fun own error h => hvalue own error (Or.inl h)
    readable := fun own error h => hvalue own error (Or.inr (Or.inl h))
    writable := fun own error h => hvalue own error (Or.inr (Or.inr h)) }

end Delimited

/-- The format that a slot names declares the key, in the scope of the slot. -/
def DeclaredBy (formats : FormatRegistry) (options : OptionMap) (slot : FormatSlot)
    (key : String) : Prop :=
  ∃ identifier provider k, options.get? slot.key = some identifier ∧
    formats.get? identifier = some provider ∧ k ∈ provider.declaredKeys ∧
    key = slot.optionPrefix ++ identifier ++ "." ++ k

/-- How a table can account for an option key. -/
inductive Recognised (formats : FormatRegistry) (options : OptionMap) (key : String) : Prop where
  | connector (h : key ∈ Catalogue.keys)
  | client (rest : String) (h : key = "properties." ++ rest)
  | value (slot : FormatSlot) (selected : options.valueSlot? = some slot)
      (h : DeclaredBy formats options slot key)
  | key (h : DeclaredBy formats options .ofKey key)

/-- Among the keys of a map, a discovery adds its slot and what the named format declares. -/
theorem find_mem_consumed {formats : FormatRegistry} {options : OptionMap} {slot : FormatSlot}
    {consumed rest : List String} {format? : Option DiscoveredFormat} {key : String}
    (h : DiscoveredFormat.find? formats options slot consumed = .ok (format?, rest))
    (hset : options.contains key = true) :
    key ∈ rest ↔ key ∈ consumed ∨ key = slot.key ∨ DeclaredBy formats options slot key := by
  cases format? with
  | none =>
    obtain ⟨hnone, hrest⟩ := Resolver.find_none_iff.mp h
    rw [hrest]
    constructor
    · exact Or.inl
    · rintro (h | rfl | ⟨identifier, _, _, hnamed, _⟩)
      · exact h
      · obtain ⟨value, hvalue⟩ := options.contains_iff.mp hset
        rw [hnone] at hvalue
        cases hvalue
      · rw [hnone] at hnamed
        cases hnamed
  | some format =>
    have d := find_some h
    rw [d.mem_consumed]
    constructor
    · rintro (h | h | ⟨k, hk, -, hkey⟩)
      · exact Or.inl h
      · exact Or.inr (Or.inl h)
      · exact Or.inr (Or.inr ⟨_, _, k, d.named, d.registered, hk, hkey⟩)
    · rintro (h | h | ⟨identifier, provider, k, hnamed, hregistered, hk, hkey⟩)
      · exact Or.inl h
      · exact Or.inr (Or.inl h)
      · cases d.named.symm.trans hnamed
        cases d.registered.symm.trans hregistered
        exact Or.inr (Or.inr ⟨k, hk, hkey ▸ hset, hkey⟩)

theorem DeclaredBy.agree {formats : FormatRegistry} {a b : OptionMap}
    (h : a.AgreesOnCatalogue b) {slot : FormatSlot} (hslot : slot.key ∈ Catalogue.keys)
    {key : String} (hd : DeclaredBy formats a slot key) : DeclaredBy formats b slot key := by
  obtain ⟨identifier, provider, k, hnamed, hrest⟩ := hd
  exact ⟨identifier, provider, k, by rw [← h _ hslot, hnamed], hrest⟩

/-- Recognition reads nothing but the connector's own options. -/
theorem Recognised.agree {formats : FormatRegistry} {a b : OptionMap}
    (h : a.AgreesOnCatalogue b) {key : String} (hr : Recognised formats a key) :
    Recognised formats b key := by
  cases hr with
  | connector hk => exact .connector hk
  | client rest hk => exact .client rest hk
  | value slot hs hd =>
    have hslot : slot.key ∈ Catalogue.keys := OptionMap.valueSlot_mem_catalogue a hs
    exact .value slot (h.valueSlot_eq ▸ hs) (hd.agree h hslot)
  | key hd => exact .key (hd.agree h (by decide))

theorem recognised_agree_iff {formats : FormatRegistry} {a b : OptionMap}
    (h : a.AgreesOnCatalogue b) {key : String} :
    Recognised formats a key ↔ Recognised formats b key :=
  ⟨Recognised.agree h, Recognised.agree h.symm⟩

namespace Resolver

theorem FormatsRun.mem_consumed {formats : FormatRegistry} {options : OptionMap}
    {found : TableFormats} {consumed : List String}
    (run : FormatsRun formats options found consumed) {key : String}
    (hset : options.contains key = true) :
    key ∈ consumed ↔ key ∈ Catalogue.keys ∨ DeclaredBy formats options run.slot key ∨
      DeclaredBy formats options .ofKey key := by
  have hslot : run.slot.key ∈ Catalogue.keys :=
    OptionMap.valueSlot_mem_catalogue options run.slot_set
  rw [find_mem_consumed run.key_found hset, find_mem_consumed run.value_found hset]
  constructor
  · rintro ((h | rfl | h) | rfl | h)
    · exact Or.inl h
    · exact Or.inl hslot
    · exact Or.inr (Or.inl h)
    · exact Or.inl (by decide)
    · exact Or.inr (Or.inr h)
  · rintro (h | h | h)
    · exact Or.inl (Or.inl h)
    · exact Or.inl (Or.inr (Or.inr h))
    · exact Or.inr (Or.inr h)

/-- What is left over is what nothing recognises. -/
theorem FormatsRun.mem_unconsumed {formats : FormatRegistry} {options : OptionMap}
    {found : TableFormats} {consumed : List String}
    (run : FormatsRun formats options found consumed) (key : String) :
    key ∈ options.unconsumedKeys consumed [propertiesPrefix] ↔
      options.contains key = true ∧ ¬ Recognised formats options key := by
  rw [OptionMap.mem_unconsumed]
  constructor
  · rintro ⟨hset, hconsumed, hclient⟩
    rw [run.mem_consumed hset] at hconsumed
    refine ⟨hset, fun h => ?_⟩
    cases h with
    | connector h => exact hconsumed (Or.inl h)
    | client rest h => exact hclient _ (List.mem_singleton_self _) ⟨rest, h⟩
    | value slot hslot h =>
      cases run.slot_set.symm.trans hslot
      exact hconsumed (Or.inr (Or.inl h))
    | key h => exact hconsumed (Or.inr (Or.inr h))
  · rintro ⟨hset, hnot⟩
    refine ⟨hset, fun hconsumed => ?_, ?_⟩
    · rw [run.mem_consumed hset] at hconsumed
      rcases hconsumed with h | h | h
      · exact hnot (.connector h)
      · exact hnot (.value _ run.slot_set h)
      · exact hnot (.key h)
    · rintro start hstart ⟨rest, hrest⟩
      rw [List.mem_singleton.mp hstart] at hrest
      exact hnot (.client rest hrest)

/-- Formats are only found for maps without left-over keys. -/
theorem recognised_of_checked {r : Resolver} {options : OptionMap} {direction : Direction}
    {found : TableFormats} (h : r.checkedFormats options direction = .ok found) {key : String}
    (hset : options.contains key = true) : Recognised r.formats options key := by
  obtain ⟨consumed, ⟨run⟩, hc⟩ := checkedFormats_run h
  unfold checkConsumed at hc
  split at hc
  next hnone =>
    by_contra hnot
    have hm := (run.mem_unconsumed key).mpr ⟨hset, hnot⟩
    rw [hnone] at hm
    cases hm
  · cases hc

/-- The only rule that lists unsupported options is the check for left-over ones. -/
theorem unsupported_of_checked {r : Resolver} (hf : r.formats.RefuseValues) {options : OptionMap}
    {direction : Direction} {connector : String} {keys : List String}
    (h : r.checkedFormats options direction = .error (.unsupportedOptions connector keys)) :
    ∃ found consumed, Nonempty (FormatsRun r.formats options found consumed) ∧
      keys = options.unconsumedKeys consumed [propertiesPrefix] ∧ keys ≠ [] := by
  rcases checkedFormats_error h with h | ⟨found, consumed, run, h⟩
  · exact absurd rfl (tableFormats_error hf h connector keys)
  · refine ⟨found, consumed, run, ?_⟩
    unfold checkConsumed at h
    split at h
    · cases h
    next hne =>
      cases h
      exact ⟨rfl, hne⟩

theorem unsupported_of_source {r : Resolver} (hf : r.formats.RefuseValues)
    {table : TableDefinition} {connector : String} {keys : List String}
    (h : r.source table = .error (.unsupportedOptions connector keys)) :
    ∃ found consumed, Nonempty (FormatsRun r.formats table.options found consumed) ∧
      keys = table.options.unconsumedKeys consumed [propertiesPrefix] ∧ keys ≠ [] := by
  rcases source_error h with hgrounded | hchecked
  · exact hgrounded.elim
  · exact unsupported_of_checked hf hchecked

/-- A resolved table has only options that something reads, and a refusal over unsupported options
lists precisely the others. -/
theorem options_accounted_for (r : Resolver) (hf : r.formats.RefuseValues)
    (table : TableDefinition) :
    ((∃ spec, r.source table = .ok spec) ∨ (∃ spec, r.sink table = .ok spec) →
      ∀ key, table.options.contains key = true → Recognised r.formats table.options key) ∧
    (∀ connector keys, r.source table = .error (.unsupportedOptions connector keys) →
      keys ≠ [] ∧ keys.Pairwise (· < ·) ∧
      ∀ key, key ∈ keys ↔ table.options.contains key = true ∧
        ¬ Recognised r.formats table.options key) := by
  constructor
  · rintro (⟨spec, h⟩ | ⟨spec, h⟩) key hset
    · obtain ⟨run⟩ := source_run h
      exact recognised_of_checked run.formats_ok hset
    · obtain ⟨run⟩ := sink_run h
      have hagree : run.options.AgreesOnCatalogue table.options := by
        rw [run.options_eq]
        exact table.options.withSubjects_agrees run.topic
      have hkept : run.options.contains key = true := by
        obtain ⟨value, hvalue⟩ := table.options.contains_iff.mp hset
        rw [run.options_eq]
        exact OptionMap.contains_iff _ |>.mpr
          ⟨value, table.options.get_withSubjects_of_set run.topic hvalue⟩
      exact (recognised_of_checked run.formats_ok hkept).agree hagree
  · intro connector keys h
    obtain ⟨found, consumed, ⟨run⟩, hkeys, hne⟩ := unsupported_of_source hf h
    refine ⟨hne, ?_, fun key => ?_⟩
    · rw [hkeys]
      exact table.options.unconsumed_increasing consumed _
    · rw [hkeys]
      exact run.mem_unconsumed key

theorem misspelt_option_listed :
    Sample.delimitedOnly.formats.RefuseValues ∧
    (∃ spec, Sample.delimitedOnly.source Sample.prefixedKeys = .ok spec) ∧
    (∃ spec, Sample.delimitedOnly.sink Sample.prefixedKeys = .ok spec) ∧
    Recognised Sample.delimitedOnly.formats Sample.prefixedKeys.options "key.csv.delimiter" ∧
    Sample.delimitedOnly.source Sample.misspelt =
      .error (.unsupportedOptions "kafka" ["key.csv.delimeter"]) ∧
    ¬ Recognised Sample.delimitedOnly.formats Sample.misspelt.options "key.csv.delimeter" := by
  have hf : Sample.delimitedOnly.formats.RefuseValues := by
    intro identifier provider h
    have hm := FormatRegistry.mem_of_get_ofList h
    rw [List.mem_singleton.mp hm]
    exact Delimited.provider_refusesValues _ _
  have hsource := exists_ok (x := Sample.delimitedOnly.source Sample.prefixedKeys)
    (by decide +kernel)
  have hsink := exists_ok (x := Sample.delimitedOnly.sink Sample.prefixedKeys)
    (by decide +kernel)
  have herror : Sample.delimitedOnly.source Sample.misspelt =
      .error (.unsupportedOptions "kafka" ["key.csv.delimeter"]) :=
    map_error_iff (f := fun _ => ()).mp (by decide +kernel)
  have hgood := options_accounted_for Sample.delimitedOnly hf Sample.prefixedKeys
  have hbad := options_accounted_for Sample.delimitedOnly hf Sample.misspelt
  obtain ⟨_, _, hlisted⟩ := hbad.2 _ _ herror
  exact ⟨hf, hsource, hsink, hgood.1 (Or.inr hsink) _ (by decide +kernel), herror,
    ((hlisted _).mp (List.mem_singleton_self _)).2⟩

end Resolver

end TopicTable
