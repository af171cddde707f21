import TopicTable.Proofs.Durations
import TopicTable.Proofs.Resolution
import TopicTable.Sample

/-! What the client of a resolved table is told: the properties that the user sets, each under the
rest of its key, and nothing besides. Only the interval of partition discovery, an option of the
connector itself, comes before what the user says there. -/

namespace TopicTable

/-- The client hears of a property exactly what the options say under the prefix. -/
def PassedOn (options properties : OptionMap) (k : String) : Prop :=
  ∀ v, properties.get? k = some v ↔ options.get? (propertiesPrefix ++ k) = some v

theorem PassedOn.of_get {options properties : OptionMap} {k : String}
    (h : properties.get? k = options.get? (propertiesPrefix ++ k)) :
    PassedOn options properties k := by
  intro v
  rw [h]

namespace Resolver

/-- What the client of a source is told and what follows for its offsets. The interval is counted
in whole milliseconds, however many these are. -/
structure ToldBySource (options : OptionMap) (spec : SourceSpec) : Prop where
  passed : ∀ k, k ≠ partitionDiscoveryProperty → PassedOn options spec.properties k
  interval_unset : options.get? Catalogue.partitionDiscovery.key = none →
    PassedOn options spec.properties partitionDiscoveryProperty
  interval_set : ∀ raw, options.get? Catalogue.partitionDiscovery.key = some raw →
    ∃ amount each, Duration.Written raw amount each ∧
      spec.properties.get? partitionDiscoveryProperty = some (toString (amount * each))
  commits : spec.commitsOffsets = true ↔ ∃ group, options.get? Catalogue.groupId.key = some group

/-- The interval is what its text writes. -/
theorem interval_written {options : OptionMap} {interval : Duration} {raw : String}
    (h : options.read? Catalogue.partitionDiscovery = .ok (some interval))
    (hraw : options.get? Catalogue.partitionDiscovery.key = some raw) :
    ∃ amount each, Duration.Written raw amount each ∧ interval.millis = amount * each := by
  obtain ⟨read, hread, hparse⟩ := OptionMap.read_some_iff.mp h
  rw [hraw, Option.some.injEq] at hread
  subst hread
  have hduration := Outcome.mapError_ok_iff.mp (OptionMap.parse_ok_iff.mp hparse).1
  obtain ⟨amount, each, hwritten, -, -, hmillis⟩ := Duration.parse_ok_iff.mp hduration
  exact ⟨amount, each, hwritten, hmillis⟩

theorem told_by_source {r : Resolver} {table : TableDefinition} {spec : SourceSpec}
    (h : r.source table = .ok spec) : ToldBySource table.options spec := by
  obtain ⟨run⟩ := source_run h
  obtain ⟨interval?, hread, hget⟩ := get_sourceProperties run.properties_ok
  have hproperties : spec.properties = run.properties := congrArg (·.properties) run.spec_eq
  have hpassed : ∀ k, k ≠ partitionDiscoveryProperty →
      PassedOn table.options spec.properties k := by
    intro k hk
    apply PassedOn.of_get
    rw [hproperties, hget, if_neg hk, Option.none_or]
  refine ⟨hpassed, ?_, ?_, ?_⟩
  · intro hunset
    have hnone : interval? = none :=
      Except.ok.inj (hread.symm.trans (OptionMap.read_none_iff.mpr hunset))
    apply PassedOn.of_get
    rw [hproperties, hget, hnone]
    rfl
  · intro raw hset
    cases interval? with
    | none =>
      rw [OptionMap.read_none_iff.mp hread] at hset
      cases hset
    | some interval =>
      obtain ⟨amount, each, hwritten, hmillis⟩ := interval_written hread hset
      refine ⟨amount, each, hwritten, ?_⟩
      rw [hproperties, hget, if_pos rfl, ← hmillis]
      rfl
  · unfold SourceSpec.commitsOffsets
    rw [OptionMap.contains_iff]
    exact exists_congr (hpassed "group.id" (by decide))

theorem told_by_sink {r : Resolver} {table : TableDefinition} {spec : SinkSpec}
    (h : r.sink table = .ok spec) (k : String) : PassedOn table.options spec.properties k := by
  obtain ⟨run⟩ := sink_run h
  apply PassedOn.of_get
  rw [run.spec_eq]
  dsimp only
  rw [run.options_eq, OptionMap.get_client_withSubjects, OptionMap.get_withPrefix]

/-- The client of a sink is told exactly the user's properties, and so is that of a source but for
the interval of partition discovery where the table sets it. -/
theorem client_properties_passed_on (r : Resolver) (table : TableDefinition) :
    (∀ spec, r.sink table = .ok spec → ∀ k, PassedOn table.options spec.properties k) ∧
      ∀ spec, r.source table = .ok spec → ToldBySource table.options spec := by
  constructor
  · intro spec h k
    exact told_by_sink h k
  · intro spec h
    exact told_by_source h

/-- The user's own interval reaches the client that writes, the table's the client that reads. -/
theorem long_interval_told : ∃ source sink,
    Sample.ringed.source Sample.seldomDiscovering = .ok source ∧
    Sample.ringed.sink Sample.seldomDiscovering = .ok sink ∧
    ToldBySource Sample.seldomDiscovering.options source ∧
    (∀ k, PassedOn Sample.seldomDiscovering.options sink.properties k) ∧
    source.properties.get? partitionDiscoveryProperty = some "18446744073709526400000" ∧
    sink.properties.get? partitionDiscoveryProperty = some "7" ∧
    source.commitsOffsets = true := by
  have hrun : (Sample.ringed.source Sample.seldomDiscovering).map (fun spec =>
        (spec.properties.get? partitionDiscoveryProperty, spec.commitsOffsets)) =
        .ok (some "18446744073709526400000", true) ∧
      (Sample.ringed.sink Sample.seldomDiscovering).map
        (·.properties.get? partitionDiscoveryProperty) = .ok (some "7") := by decide +kernel
  obtain ⟨hscan, hwrite⟩ := hrun
  obtain ⟨source, hsource, htold⟩ := Outcome.map_ok_iff.mp hscan
  obtain ⟨sink, hsink, hsent⟩ := Outcome.map_ok_iff.mp hwrite
  obtain ⟨hinterval, hcommits⟩ := Prod.mk.inj htold
  have hpassed := client_properties_passed_on Sample.ringed Sample.seldomDiscovering
  exact ⟨source, sink, hsource, hsink, hpassed.2 source hsource, hpassed.1 sink hsink, hinterval,
    hsent, hcommits⟩

end Resolver

end TopicTable
