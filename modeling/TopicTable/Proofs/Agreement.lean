import TopicTable.Proofs.Layout
import TopicTable.Proofs.Settings

/-! A source and a sink of one table agree. Both directions name the same formats and lay the
columns out alike; what a sink fills in beforehand ends in `subject`, and nothing else differs. -/

namespace TopicTable

theorem OptionMap.subject_suffix {k : String} (h : k ∈ OptionMap.subjectKeys) :
    "subject".toList <:+ k.toList := by
  obtain ⟨slot, -, hslot⟩ := List.mem_flatMap.mp h
  obtain ⟨format, -, rfl⟩ := List.mem_map.mp hslot
  rw [String.toList_append]
  exact List.suffix_append ..

/-- The dot of a scope keeps the keys below it apart from the scope itself. -/
theorem FormatSlot.subject_suffix (slot : FormatSlot) {identifier k : String}
    (h : slot.scope identifier ++ k ∈ OptionMap.subjectKeys) :
    "subject".toList <:+ k.toList := by
  have hwhole : "subject".toList <:+ (slot.optionPrefix ++ identifier).toList ++
      '.' :: k.toList := by
    have hs := OptionMap.subject_suffix h
    simpa [scope] using hs
  by_cases hlong : "subject".toList.length ≤ k.toList.length
  · have hk : k.toList <:+ (slot.optionPrefix ++ identifier).toList ++ '.' :: k.toList :=
      (List.suffix_cons '.' k.toList).trans (List.suffix_append ..)
    exact List.suffix_of_suffix_length_le hwhole hk hlong
  · -- A shorter key would leave the dot inside the word.
    exfalso
    have hdot : '.' :: k.toList <:+ "subject".toList := by
      refine List.suffix_of_suffix_length_le (List.suffix_append ..) hwhole ?_
      rw [List.length_cons]
      omega
    have hmem : '.' ∈ "subject".toList := hdot.subset (List.mem_cons_self ..)
    revert hmem
    decide

/-- One format as two option maps describe it. -/
structure SameFormat (a b : DiscoveredFormat) : Prop where
  identifier : a.identifier = b.identifier
  optionPrefix : a.optionPrefix = b.optionPrefix
  provider : a.provider = b.provider
  option : ∀ k, ¬ "subject".toList <:+ k.toList → a.options.get? k = b.options.get? k

theorem Discovered.same {formats : FormatRegistry} {a b : OptionMap} {slot : FormatSlot}
    {consumed rest consumed' rest' : List String} {f g : DiscoveredFormat}
    (hf : Discovered formats a slot consumed f rest)
    (hg : Discovered formats b slot consumed' g rest')
    (hagree : ∀ k, k ∉ OptionMap.subjectKeys → a.get? k = b.get? k)
    (hslot : slot.key ∈ Catalogue.keys) : SameFormat f g := by
  have hid : f.identifier = g.identifier := by
    have hnamed := hf.named
    rw [hagree _ (OptionMap.catalogue_not_subject hslot), hg.named] at hnamed
    exact (Option.some.inj hnamed).symm
  have hprovider : f.provider = g.provider := by
    have hregistered := hf.registered
    rw [hid, hg.registered] at hregistered
    exact (Option.some.inj hregistered).symm
  refine ⟨hid, hf.prefix_eq.trans hg.prefix_eq.symm, hprovider, fun k hk => ?_⟩
  rw [hf.options_eq, hg.options_eq, OptionMap.get_withPrefix, OptionMap.get_withPrefix, hid]
  exact hagree _ fun h => hk (slot.subject_suffix h)

theorem rel_map {α β γ δ : Type} {R : α → β → Prop} {S : γ → δ → Prop} {f : α → γ} {g : β → δ}
    {a : Option α} {b : Option β} (h : Option.Rel R a b) (hfg : ∀ x y, R x y → S (f x) (g y)) :
    Option.Rel S (a.map f) (b.map g) := by
  cases h with
  | none => exact .none
  | some h => exact .some (hfg _ _ h)

namespace Resolver

/-- What the two directions of a table have in common. -/
structure Counterparts (source : SourceSpec) (sink : SinkSpec) : Prop where
  physical : source.physical = sink.physical
  layout : source.layout = sink.layout
  keyPrefix : source.keyPrefix? = sink.keyPrefix?
  key : Option.Rel (fun a b : FormatHandle =>
    SameFormat a.toDiscoveredFormat b.toDiscoveredFormat ∧ a.rowType = b.rowType)
    source.keyFormat? sink.keyFormat?
  value : SameFormat source.valueFormat.toDiscoveredFormat sink.valueFormat.toDiscoveredFormat

theorem FormatsRun.same {formats : FormatRegistry} {a b : OptionMap} {f g : TableFormats}
    {consumed consumed' : List String} (hf : FormatsRun formats a f consumed)
    (hg : FormatsRun formats b g consumed')
    (hagree : ∀ k, k ∉ OptionMap.subjectKeys → a.get? k = b.get? k) :
    SameFormat f.value g.value ∧ Option.Rel SameFormat f.key? g.key? := by
  have hcatalogue : a.AgreesOnCatalogue b := fun k hk =>
    hagree k (OptionMap.catalogue_not_subject hk)
  have hslot : hf.slot = hg.slot := hf.slot_eq hg hcatalogue
  have hmem : hg.slot.key ∈ Catalogue.keys :=
    OptionMap.valueSlot_mem_catalogue b hg.slot_set
  constructor
  · have hvalue := hf.value_found
    rw [hslot] at hvalue
    exact (find_some hvalue).same (find_some hg.value_found) hagree hmem
  · have hpresent : f.key?.isSome = g.key?.isSome := by
      rw [hf.key_isSome, hg.key_isSome]
      exact hcatalogue.contains_eq (by decide)
    have hkeyf := hf.key_found
    have hkeyg := hg.key_found
    cases hfk : f.key? with
    | none =>
      rw [hfk] at hpresent
      have hnone : g.key? = none := by simpa using hpresent.symm
      rw [hnone]
      exact .none
    | some x =>
      rw [hfk] at hpresent hkeyf
      obtain ⟨y, hy⟩ := Option.isSome_iff_exists.mp hpresent.symm
      rw [hy] at hkeyg ⊢
      exact .some ((find_some hkeyf).same (find_some hkeyg) hagree (by decide))

theorem counterparts {r : Resolver} {table : TableDefinition} {source : SourceSpec}
    {sink : SinkSpec} (hsource : r.source table = .ok source)
    (hsink : r.sink table = .ok sink) : Counterparts source sink := by
  obtain ⟨scan⟩ := source_run hsource
  obtain ⟨write⟩ := sink_run hsink
  obtain ⟨_, ⟨scanned⟩, -⟩ := checkedFormats_run scan.formats_ok
  obtain ⟨_, ⟨written⟩, -⟩ := checkedFormats_run write.formats_ok
  have hagree : ∀ k, k ∉ OptionMap.subjectKeys → table.options.get? k = write.options.get? k := by
    intro k hk
    rw [write.options_eq]
    exact (table.options.get_withSubjects_of_notMem write.topic hk).symm
  have hcatalogue : table.options.AgreesOnCatalogue write.options := fun k hk =>
    hagree k (OptionMap.catalogue_not_subject hk)
  have hlayout : scan.rows.layout = write.rows.layout :=
    Outcome.ok_unique ((RecordLayout.ofOptions_reads _).agree (by decide) hcatalogue)
      scan.rows_run.layout_ok write.rows_run.layout_ok
  have hprefix : scan.rows.keyPrefix? = write.rows.keyPrefix? :=
    Outcome.ok_unique (RecordLayout.keyPrefix_reads.agree (by decide) hcatalogue)
      scan.rows_run.prefix_ok write.rows_run.prefix_ok
  obtain ⟨hvalue, hkey⟩ := scanned.same written hagree
  rw [scan.spec_eq, write.spec_eq]
  refine ⟨rfl, hlayout, hprefix, ?_, ?_⟩
  · dsimp only
    rw [scan.rows_run.key_eq, write.rows_run.key_eq, hlayout, hprefix]
    exact rel_map hkey fun _ _ h => ⟨h, rfl⟩
  · dsimp only
    rw [scan.rows_run.value_eq, write.rows_run.value_eq]
    exact hvalue

/-- Discovery of partitions is the only property that a source sets on its own. -/
theorem get_sourceProperties_of_ne {options properties : OptionMap}
    (h : sourceProperties options = .ok properties) {k : String}
    (hk : k ≠ partitionDiscoveryProperty) :
    properties.get? k = (options.withPrefix propertiesPrefix).get? k := by
  obtain ⟨_, _, hget⟩ := get_sourceProperties h
  rw [hget, if_neg hk, Option.none_or, OptionMap.get_withPrefix]

/-- The two directions of a table, side by side. A reader and a writer see the same columns in
the same places under the same formats, and the reader looks where the writer writes. -/
structure SideBySide (source : SourceSpec) (sink : SinkSpec) : Prop where
  physical : source.physical = sink.physical
  layout : source.layout = sink.layout
  keyPrefix : source.keyPrefix? = sink.keyPrefix?
  key : Option.Rel (fun a b : FormatHandle => a.identifier = b.identifier ∧
    a.optionPrefix = b.optionPrefix ∧ a.rowType = b.rowType) source.keyFormat? sink.keyFormat?
  value_identifier : source.valueFormat.identifier = sink.valueFormat.identifier
  value_prefix : source.valueFormat.optionPrefix = sink.valueFormat.optionPrefix
  value_row : source.valueFormat.rowType.take source.layout.value.length =
    sink.valueFormat.rowType.take sink.layout.value.length
  topics : source.topics = .topics [sink.topic]
  properties : ∀ k, k ≠ partitionDiscoveryProperty →
    source.properties.get? k = sink.properties.get? k

/-- Both directions place the same columns in the value, before any metadata. -/
theorem value_rows_eq {table : TableDefinition} {source : SourceSpec} {sink : SinkSpec}
    (hsource : ColumnsPlaced table source.physical source.layout source.keyPrefix?
      source.keyFormat? source.valueFormat)
    (hsink : ColumnsPlaced table sink.physical sink.layout sink.keyPrefix? sink.keyFormat?
      sink.valueFormat)
    (hphysical : source.physical = sink.physical) (hlayout : source.layout = sink.layout) :
    source.valueFormat.rowType.take source.layout.value.length =
      sink.valueFormat.rowType.take sink.layout.value.length := by
  have hread := hsource.value_row
  have hwritten := hsink.value_row
  rw [hphysical] at hread
  rw [← hlayout] at hwritten ⊢
  have hunique : Relator.RightUnique fun (p : Nat) field => sink.physical[p]? = some field :=
    fun p a b ha hb => Option.some.inj (ha.symm.trans hb)
  exact List.right_unique_forall₂' hunique hread hwritten

/-- A resolved source and a resolved sink of one table are two sides of the same records, though
they are resolved from different option maps. -/
theorem source_and_sink_agree (r : Resolver) (table : TableDefinition) (source : SourceSpec)
    (sink : SinkSpec) (hsource : r.source table = .ok source) (hsink : r.sink table = .ok sink) :
    SideBySide source sink := by
  have hsame := counterparts hsource hsink
  obtain ⟨scan⟩ := source_run hsource
  obtain ⟨write⟩ := sink_run hsink
  have htopics : scan.topics = .topics [write.topic] := by
    have hread := scan.topics_ok
    rw [write.topics_ok, Except.ok.injEq] at hread
    rw [← hread]
    exact TopicSelection.sinkTopic_ok_iff.mp write.topic_ok
  refine {
    physical := hsame.physical
    layout := hsame.layout
    keyPrefix := hsame.keyPrefix
    key := ?_
    value_identifier := hsame.value.identifier
    value_prefix := hsame.value.optionPrefix
    value_row := value_rows_eq scan.columns_placed write.columns_placed hsame.physical hsame.layout
    topics := ?_
    properties := fun k hk => ?_ }
  · have hkey := hsame.key
    generalize source.keyFormat? = a?, sink.keyFormat? = b? at hkey ⊢
    cases hkey with
    | none => exact .none
    | some h => exact .some ⟨h.1.identifier, h.1.optionPrefix, h.2⟩
  · rw [scan.spec_eq, write.spec_eq]
    exact htopics
  · rw [scan.spec_eq, write.spec_eq]
    dsimp only
    rw [get_sourceProperties_of_ne scan.properties_ok hk, write.options_eq,
      OptionMap.get_client_withSubjects]

theorem exactly_once_directions_agree : ∃ source sink,
    Sample.ringed.source Sample.exactlyOnce = .ok source ∧
    Sample.ringed.sink Sample.exactlyOnce = .ok sink ∧ SideBySide source sink ∧
    source.valueFormat.metadataKeys = ["note", "sequence"] ∧
    sink.valueFormat.metadataKeys = ["note"] := by
  have hscan : (Sample.ringed.source Sample.exactlyOnce).map (·.valueFormat.metadataKeys) =
      .ok ["note", "sequence"] := by decide +kernel
  have hwrite : (Sample.ringed.sink Sample.exactlyOnce).map (·.valueFormat.metadataKeys) =
      .ok ["note"] := by decide +kernel
  obtain ⟨source, hsource, hread⟩ := Outcome.map_ok_iff.mp hscan
  obtain ⟨sink, hsink, hwritten⟩ := Outcome.map_ok_iff.mp hwrite
  exact ⟨source, sink, hsource, hsink, source_and_sink_agree Sample.ringed Sample.exactlyOnce
    source sink hsource hsink, hread, hwritten⟩

end Resolver

end TopicTable
