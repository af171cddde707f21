import TopicTable.Proofs.Resolution
import TopicTable.Proofs.Settings
import TopicTable.Sample

/-! Where a resolved source starts. The position has the mode that the options ask for, and
offsets by partition number become offsets by topic and partition without a loss: all of them
belong to the one topic of the table. -/

namespace TopicTable

open Outcome

/-- A list in strictly increasing key order is the list of entries of its map. -/
theorem OrderedMap.entries_ofList {α β : Type} [Ord α] [DecidableEq α] [Std.TransOrd α]
    [Std.LawfulEqOrd α] {pairs : List (α × β)}
    (h : pairs.Pairwise fun a b => compare a.1 b.1 = .lt) : (ofList pairs).entries = pairs := by
  have hdistinct : pairs.Pairwise fun a b => a.1 ≠ b.1 := distinct_keys ⟨pairs, h⟩
  apply eq_of_mem_iff (ofList pairs).sorted h
  intro e
  rw [← get?_eq_some_iff (k := e.1) (v := e.2)]
  exact get_ofList_distinct hdistinct e.1 e.2

/-- Among the partitions of one topic the order is that of the numbers. -/
theorem TopicPartition.compare_same_topic (topic : String) (m n : Int32) :
    compare (⟨topic, m⟩ : TopicPartition) ⟨topic, n⟩ = compare m n := by
  change (compare topic topic).then (compare m n) = compare m n
  simp

/-- What is accepted as offsets names a partition. -/
theorem PartitionOffsets.parse_nonempty {raw : String} {offsets : PartitionOffsets}
    (h : parse raw = .ok offsets) : offsets.entries ≠ [] := by
  unfold parse at h
  dsimp only at h
  split at h
  next e es _ =>
    cases h
    intro hempty
    have hlast := OrderedMap.get?_ofList (e :: es) e.1
    have hnone : (OrderedMap.ofList (e :: es)).get? e.1 = none := by
      simp [OrderedMap.get?, hempty]
    rw [hnone] at hlast
    simp at hlast
  · cases h

namespace StartupPosition

/-- The mode that a table asks for. -/
def Asked (options : OptionMap) (mode : StartupMode) : Prop :=
  options.readOrDefault? Catalogue.startupMode = .ok (some mode)

theorem Asked.of_unset {options : OptionMap} {mode : StartupMode} (h : Asked options mode)
    (hunset : options.get? Catalogue.startupMode.key = none) : mode = .groupOffsets := by
  obtain ⟨raw, hraw, hparse⟩ := OptionMap.readOrDefault_some_iff.mp h
  rw [hunset] at hraw
  cases hraw
  have hdefault : Catalogue.startupMode.parse "group-offsets" = .ok .groupOffsets := by rfl
  exact Except.ok.inj (hparse.symm.trans hdefault)

theorem Asked.of_set {options : OptionMap} {mode : StartupMode} {raw : String}
    (h : Asked options mode) (hset : options.get? Catalogue.startupMode.key = some raw) :
    StartupMode.parse raw = .ok mode := by
  obtain ⟨read, hread, hparse⟩ := OptionMap.readOrDefault_some_iff.mp h
  rw [hset, Option.some_or, Option.some.injEq] at hread
  subst hread
  exact (OptionMap.parse_ok_iff.mp hparse).1

section OfTopic

variable (topic : String) (offsets : PartitionOffsets)

theorem entries_ofTopic :
    (ofTopic topic offsets).entries = offsets.entries.map fun e => (⟨topic, e.1⟩, e.2) := by
  apply OrderedMap.entries_ofList
  rw [List.pairwise_map]
  refine offsets.sorted.imp fun {a b} h => ?_
  rw [TopicPartition.compare_same_topic]
  exact h

theorem get_ofTopic (n : Int32) : (ofTopic topic offsets).get? ⟨topic, n⟩ = offsets.get? n := by
  unfold OrderedMap.get?
  rw [entries_ofTopic, List.find?_map, Option.map_map]
  simp [Function.comp_def]

theorem mem_keys_ofTopic {key : TopicPartition} (h : key ∈ (ofTopic topic offsets).keys) :
    key.topic = topic := by
  unfold OrderedMap.keys at h
  rw [entries_ofTopic, List.map_map] at h
  obtain ⟨e, -, rfl⟩ := List.mem_map.mp h
  rfl

end OfTopic

/-- The ways for a source to come to its position. -/
inductive Reached (options : OptionMap) (topics : TopicSelection) : StartupPosition → Prop where
  | earliest (mode : Asked options .earliestOffset) : Reached options topics .earliest
  | latest (mode : Asked options .latestOffset) : Reached options topics .latest
  | groupOffsets (mode : Asked options .groupOffsets) : Reached options topics .groupOffsets
  | specificOffsets (mode : Asked options .specificOffsets) (topic raw : String)
      (offsets : PartitionOffsets) (single : topics = .topics [topic])
      (set : options.get? Catalogue.specificOffsets.key = some raw)
      (read : PartitionOffsets.parse raw = .ok offsets) :
      Reached options topics (.specificOffsets (ofTopic topic offsets))
  | timestamp (mode : Asked options .timestamp) (millis : Int64)
      (read : options.read? Catalogue.timestampMillis = .ok (some millis)) :
      Reached options topics (.timestamp millis)

theorem Reached.mode_asked {options : OptionMap} {topics : TopicSelection}
    {position : StartupPosition} (h : Reached options topics position) :
    Asked options position.mode := by
  cases h with
  | earliest mode => exact mode
  | latest mode => exact mode
  | groupOffsets mode => exact mode
  | specificOffsets mode => exact mode
  | timestamp mode => exact mode

theorem reached_of_ok {options : OptionMap} {topics : TopicSelection} {position : StartupPosition}
    (h : ofOptions options topics = .ok position) : Reached options topics position := by
  unfold ofOptions at h
  obtain ⟨mode?, hmode, h⟩ := bind_ok_iff.mp h
  obtain ⟨mode, rfl⟩ := OptionMap.readOrDefault_of_default rfl hmode
  cases mode with
  | earliestOffset =>
    cases h
    exact .earliest hmode
  | latestOffset =>
    cases h
    exact .latest hmode
  | groupOffsets =>
    cases h
    exact .groupOffsets hmode
  | timestamp =>
    obtain ⟨millis?, hmillis, h⟩ := bind_ok_iff.mp h
    cases millis? with
    | none => cases h
    | some millis =>
      cases h
      exact .timestamp hmode millis hmillis
  | specificOffsets =>
    dsimp only [Option.getD_some] at h
    split at h
    · cases h
    · cases h
    next raw topic hraw htopic =>
      obtain ⟨offsets, hoffsets, h⟩ := bind_ok_iff.mp h
      cases h
      exact .specificOffsets hmode topic raw offsets (TopicSelection.single_iff.mp htopic) hraw
        hoffsets

/-- The offsets of a source are those that its table lists, each for a partition of the only
topic there is. -/
structure OffsetsListed (options : OptionMap) (topics : TopicSelection)
    (offsets : OrderedMap TopicPartition Int64) (topic : String) : Prop where
  single : topics = .topics [topic]
  included : topics.includes topic = true
  nonempty : offsets.entries ≠ []
  own : ∀ key ∈ offsets.keys, key.topic = topic
  kept : ∃ raw listed, options.get? Catalogue.specificOffsets.key = some raw ∧
    PartitionOffsets.parse raw = .ok listed ∧ ∀ n, offsets.get? ⟨topic, n⟩ = listed.get? n

/-- A source starts in the mode that its table asks for, with what that mode needs. -/
structure StartsAsAsked (options : OptionMap) (topics : TopicSelection)
    (position : StartupPosition) : Prop where
  mode_unset : options.get? Catalogue.startupMode.key = none → position.mode = .groupOffsets
  mode_set : ∀ raw, options.get? Catalogue.startupMode.key = some raw →
    StartupMode.parse raw = .ok position.mode
  offsets : ∀ offsets, position = .specificOffsets offsets →
    ∃ topic, OffsetsListed options topics offsets topic
  timestamp : ∀ millis, position = .timestamp millis →
    ∃ raw, options.get? Catalogue.timestampMillis.key = some raw ∧
      Text.parseInt64 (Text.trim raw) = .ok millis

theorem offsetsListed_ofTopic {options : OptionMap} {topic raw : String}
    {listed : PartitionOffsets} (hset : options.get? Catalogue.specificOffsets.key = some raw)
    (hread : PartitionOffsets.parse raw = .ok listed) :
    OffsetsListed options (.topics [topic]) (ofTopic topic listed) topic := by
  constructor
  · rfl
  · simp [TopicSelection.includes]
  · rw [entries_ofTopic]
    intro hempty
    exact PartitionOffsets.parse_nonempty hread (List.map_eq_nil_iff.mp hempty)
  · intro key hkey
    exact mem_keys_ofTopic topic listed hkey
  · exact ⟨raw, listed, hset, hread, get_ofTopic topic listed⟩

theorem Reached.startsAsAsked {options : OptionMap} {topics : TopicSelection}
    {position : StartupPosition} (h : Reached options topics position) :
    StartsAsAsked options topics position := by
  constructor
  · exact h.mode_asked.of_unset
  · intro raw hset
    exact h.mode_asked.of_set hset
  · intro offsets hposition
    subst hposition
    cases h with
    | specificOffsets mode topic raw listed single set read =>
      subst single
      exact ⟨topic, offsetsListed_ofTopic set read⟩
  · intro millis hposition
    subst hposition
    cases h with
    | timestamp mode millis read =>
      obtain ⟨raw, hraw, hparse⟩ := OptionMap.read_some_iff.mp read
      have hnumber : parseNumber Text.parseInt64 raw = .ok millis :=
        (OptionMap.parse_ok_iff.mp hparse).1
      exact ⟨raw, hraw, parseNumber_ok_iff.mp hnumber⟩

end StartupPosition

namespace Resolver

/-- A resolved source starts where its table asks it to, and nowhere outside its topics. -/
theorem source_starts_as_asked (r : Resolver) (table : TableDefinition) (spec : SourceSpec)
    (h : r.source table = .ok spec) :
    StartupPosition.StartsAsAsked table.options spec.topics spec.startup := by
  obtain ⟨run⟩ := source_run h
  rw [run.spec_eq]
  exact (StartupPosition.reached_of_ok run.startup_ok).startsAsAsked

/-- The later entry of a partition counts, and no other partition is touched by it. -/
theorem relisted_partition_starts_as_asked : ∃ spec offsets,
    Sample.ringed.source Sample.replayed = .ok spec ∧
    StartupPosition.StartsAsAsked Sample.replayed.options spec.topics spec.startup ∧
    spec.startup = .specificOffsets offsets ∧
    offsets.entries = [(⟨"myTopic", 0⟩, -2), (⟨"myTopic", 1⟩, 300)] := by
  have hrun : (Sample.ringed.source Sample.replayed).map (·.startup) =
      .ok (.specificOffsets (.ofList [(⟨"myTopic", 0⟩, -2), (⟨"myTopic", 1⟩, 300)])) := by
    decide +kernel
  obtain ⟨spec, hspec, hstartup⟩ := map_ok_iff.mp hrun
  exact ⟨spec, _, hspec, source_starts_as_asked Sample.ringed Sample.replayed spec hspec,
    hstartup, by decide⟩

end Resolver

end TopicTable
