import TopicTable.Connector.Delivery
import TopicTable.Partition.Selection
import TopicTable.Proofs.Entries
import TopicTable.Proofs.Subjects
import TopicTable.Topic.Startup

/-! What the settings of a table establish once they are read, and what they are read from. The
settings of a sink look at the connector's own options alone, so filled-in subjects do not
change them. -/

namespace TopicTable

open Outcome

namespace TopicPattern

variable {compile : PatternCompiler} {source : String}

theorem parse_ok_iff {p : TopicPattern} : parse compile source = .ok p ↔
    p.source = source ∧ compile (anchored source) = .ok p.found := by
  unfold parse
  split
  next found hcompiled =>
    rw [hcompiled, Except.ok.injEq, Except.ok.injEq]
    constructor
    · rintro rfl
      exact ⟨rfl, rfl⟩
    · rintro ⟨rfl, rfl⟩
      rfl
  next message hcompiled => simp [hcompiled]

theorem parse_error_iff {reason : String} : parse compile source = .error reason ↔
    ∃ message, compile (anchored source) = .error message ∧ refusal source message = reason := by
  unfold parse
  split
  next found hcompiled => simp [hcompiled]
  next message hcompiled => simp [hcompiled]

end TopicPattern

namespace TopicSelection

theorem single_iff {selection : TopicSelection} {topic : String} :
    selection.single? = some topic ↔ selection = .topics [topic] := by
  cases selection with
  | pattern p => simp [single?]
  | topics names =>
    cases names with
    | nil => simp [single?]
    | cons name rest => cases rest <;> simp [single?]

theorem sinkTopic_ok_iff {selection : TopicSelection} {topic : String} :
    selection.sinkTopic = .ok topic ↔ selection = .topics [topic] := by
  cases selection with
  | pattern p => simp [sinkTopic]
  | topics names =>
    cases names with
    | nil => simp [sinkTopic]
    | cons name rest => cases rest <;> simp [sinkTopic]

theorem read_topic_iff {options : OptionMap} {names : List String} :
    options.read? Catalogue.topic = .ok (some names) ↔
      ∃ raw, options.get? Catalogue.topic.key = some raw ∧ Text.listEntries raw = names := by
  have hparse : ∀ raw, (OptionValue.parse raw : Except String (List String)) =
      .ok (Text.listEntries raw) := fun _ => rfl
  have haccepted : ∀ names, Catalogue.topic.refusal? names = none := fun _ => rfl
  simp only [OptionMap.read_some_iff, OptionMap.parse_ok_iff, hparse, haccepted, and_true,
    Except.ok.injEq]

theorem readPattern_none_iff (compile : PatternCompiler) {options : OptionMap} :
    readPattern? compile options = .ok none ↔
      options.get? Catalogue.topicPattern.key = none :=
  let := TopicPattern.optionValue compile
  OptionMap.read_none_iff

theorem readPattern_some_iff {compile : PatternCompiler} {options : OptionMap} {p : TopicPattern} :
    readPattern? compile options = .ok (some p) ↔
      options.get? Catalogue.topicPattern.key = some p.source ∧
        compile (TopicPattern.anchored p.source) = .ok p.found := by
  let := TopicPattern.optionValue compile
  have hparse : ∀ raw, (OptionValue.parse raw : Except String TopicPattern) = .ok p ↔
      p.source = raw ∧ compile (TopicPattern.anchored raw) = .ok p.found :=
    fun _ => TopicPattern.parse_ok_iff
  have haccepted : Catalogue.topicPattern.refusal? p = none := rfl
  refine OptionMap.read_some_iff.trans ?_
  simp only [OptionMap.parse_ok_iff, hparse, haccepted, and_true]
  constructor
  · rintro ⟨raw, hset, rfl, h⟩
    exact ⟨hset, h⟩
  · rintro ⟨hset, h⟩
    exact ⟨p.source, hset, rfl, h⟩

theorem readPattern_congr (compile : PatternCompiler) {a b : OptionMap}
    (h : a.get? Catalogue.topicPattern.key = b.get? Catalogue.topicPattern.key) :
    readPattern? compile a = readPattern? compile b :=
  let := TopicPattern.optionValue compile
  OptionMap.read_congr h

/-- Topics are selected by name exactly where the pattern is left out and the list has entries. -/
theorem ofOptions_topics_iff {compile : PatternCompiler} {options : OptionMap}
    {names : List String} : ofOptions compile options = .ok (.topics names) ↔ names ≠ [] ∧
      (∃ raw, options.get? Catalogue.topic.key = some raw ∧ Text.listEntries raw = names) ∧
      options.get? Catalogue.topicPattern.key = none := by
  rw [← read_topic_iff, ← readPattern_none_iff compile]
  unfold ofOptions
  rw [bind_ok_iff]
  constructor
  · rintro ⟨names?, hnames, h⟩
    obtain ⟨pattern?, hpattern, h⟩ := bind_ok_iff.mp h
    split at h
    · cases h
    · cases h
      exact ⟨List.cons_ne_nil _ _, hnames, hpattern⟩
    · cases h
    · cases h
  · rintro ⟨hne, hnames, hpattern⟩
    refine ⟨some names, hnames, bind_ok_iff.mpr ⟨none, hpattern, ?_⟩⟩
    obtain ⟨name, rest, rfl⟩ := List.exists_cons_of_ne_nil hne
    rfl

theorem ofOptions_reads (compile : PatternCompiler) :
    OptionMap.Reads [Catalogue.topic.key, Catalogue.topicPattern.key] (ofOptions compile) := by
  intro a b h
  unfold ofOptions
  rw [OptionMap.read_congr (h Catalogue.topic.key (by decide)),
    readPattern_congr compile (h Catalogue.topicPattern.key (by decide))]

/-- The topic of a sink is an entry of its own in the list of topics. -/
theorem ofOptions_sinkTopic {compile : PatternCompiler} {options : OptionMap}
    {selection : TopicSelection} {topic : String} (h : ofOptions compile options = .ok selection)
    (htopic : selection.sinkTopic = .ok topic) :
    (∃ raw, options.get? Catalogue.topic.key = some raw ∧ Text.listEntries raw = [topic]) ∧
      options.get? Catalogue.topicPattern.key = none := by
  rw [sinkTopic_ok_iff.mp htopic] at h
  exact (ofOptions_topics_iff.mp h).2

end TopicSelection

/-- The offsets and the timestamp count only in the mode that needs them. -/
theorem StartupPosition.ofOptions_congr {a b : OptionMap} (topics : TopicSelection)
    (hmode : a.get? Catalogue.startupMode.key = b.get? Catalogue.startupMode.key)
    (hoffsets : a.readOrDefault? Catalogue.startupMode = .ok (some .specificOffsets) →
      a.get? Catalogue.specificOffsets.key = b.get? Catalogue.specificOffsets.key)
    (hmillis : a.readOrDefault? Catalogue.startupMode = .ok (some .timestamp) →
      a.get? Catalogue.timestampMillis.key = b.get? Catalogue.timestampMillis.key) :
    StartupPosition.ofOptions a topics = StartupPosition.ofOptions b topics := by
  unfold StartupPosition.ofOptions
  rw [← OptionMap.readOrDefault_congr hmode]
  cases hread : a.readOrDefault? Catalogue.startupMode with
  | error error => rfl
  | ok mode? =>
    cases mode? with
    | none => rfl
    | some mode =>
      cases mode with
      | earliestOffset => rfl
      | latestOffset => rfl
      | groupOffsets => rfl
      | specificOffsets =>
        rw [hoffsets hread]
        rfl
      | timestamp =>
        rw [OptionMap.read_congr (hmillis hread)]
        rfl

section Delivery

variable {options a b : OptionMap}

theorem DeliveryGuarantee.ofOptions_reads : OptionMap.Reads
    [Catalogue.deliveryGuarantee.key, Catalogue.semantic.key] DeliveryGuarantee.ofOptions := by
  intro a b h
  unfold DeliveryGuarantee.ofOptions
  rw [OptionMap.read_congr (h Catalogue.deliveryGuarantee.key (by decide)),
    OptionMap.readOrDefault_congr (h Catalogue.semantic.key (by decide))]

/-- The older option for the guarantee does not count beside the newer one. -/
theorem DeliveryGuarantee.ofOptions_of_set
    (hset : a.contains Catalogue.deliveryGuarantee.key = true)
    (h : a.get? Catalogue.deliveryGuarantee.key = b.get? Catalogue.deliveryGuarantee.key) :
    DeliveryGuarantee.ofOptions a = DeliveryGuarantee.ofOptions b := by
  obtain ⟨raw, hraw⟩ := a.contains_iff.mp hset
  unfold DeliveryGuarantee.ofOptions OptionMap.read?
  rw [← h, hraw]
  dsimp only
  cases Catalogue.deliveryGuarantee.parse raw <;> rfl

theorem transactionalIdPrefix_reads (guarantee : DeliveryGuarantee) : OptionMap.Reads
    [Catalogue.transactionalIdPrefix.key] (transactionalIdPrefix · guarantee) := by
  intro a b h
  dsimp only
  unfold transactionalIdPrefix
  rw [OptionMap.read_congr (h Catalogue.transactionalIdPrefix.key (by decide))]

/-- Without a prefix for transactional ids nothing is promised to arrive exactly once. -/
theorem transactionalIdPrefix_present {start? : Option String}
    (h : transactionalIdPrefix options .exactlyOnce = .ok start?) :
    ∃ start, start? = some start ∧ Text.isBlank start = false := by
  unfold transactionalIdPrefix at h
  obtain ⟨raw?, _, h⟩ := bind_ok_iff.mp h
  dsimp only at h
  split at h
  · cases h
  next hpresent =>
    rw [pure_ok_iff] at h
    have hsome : start? ≠ none := fun hnone => hpresent ⟨rfl, h.trans hnone⟩
    obtain ⟨start, hstart⟩ := Option.ne_none_iff_exists'.mp hsome
    rw [hstart, Option.filter_eq_some_iff] at h
    exact ⟨start, hstart, by simpa using h.2⟩

theorem SinkBuffer.ofOptions_reads : OptionMap.Reads
    [Catalogue.bufferFlushMaxRows.key, Catalogue.bufferFlushInterval.key]
    SinkBuffer.ofOptions := by
  intro a b h
  unfold SinkBuffer.ofOptions
  rw [OptionMap.readOrDefault_congr (h Catalogue.bufferFlushMaxRows.key (by decide)),
    OptionMap.readOrDefault_congr (h Catalogue.bufferFlushInterval.key (by decide))]

/-- A buffer is bounded in rows and in time, or there is none. -/
theorem SinkBuffer.ofOptions_ok {buffer : SinkBuffer}
    (h : SinkBuffer.ofOptions options = .ok buffer) :
    (buffer.rows = 0 ∧ buffer.interval.millis = 0) ∨
      (0 < buffer.rows ∧ 0 < buffer.interval.millis) := by
  unfold SinkBuffer.ofOptions at h
  obtain ⟨rows?, _, h⟩ := bind_ok_iff.mp h
  obtain ⟨interval?, _, h⟩ := bind_ok_iff.mp h
  dsimp only at h
  split at h
  next hwhole =>
    rw [pure_ok_iff] at h
    rw [h] at hwhole
    rcases hwhole with henabled | hdisabled
    · right
      obtain ⟨hrows, hinterval⟩ : 0 < buffer.rows ∧ buffer.interval ≠ .zero := by
        simpa [isEnabled] using henabled
      refine ⟨hrows, Nat.pos_of_ne_zero fun hzero => hinterval ?_⟩
      exact congrArg Duration.mk hzero
    · left
      rw [hdisabled]
      exact ⟨rfl, rfl⟩
  · cases h

theorem parallelism_pos {n : UInt32} (h : options.read? Catalogue.parallelism = .ok (some n)) :
    1 ≤ n.toNat := by
  obtain ⟨raw, -, hparse⟩ := OptionMap.read_some_iff.mp h
  have haccepted := (OptionMap.parse_ok_iff.mp hparse).2
  have hne : n ≠ 0 := by
    rintro rfl
    cases haccepted
  exact Nat.one_le_iff_ne_zero.mpr fun hzero => hne (UInt32.toNat_inj.mp hzero)

end Delivery

/-- The names of the partitioners that need no registration. -/
def PartitionerChoice.builtIn : List String :=
  [PartitionerChoice.default, .fixed, .roundRobin].map PartitionerChoice.text

theorem PartitionerChoice.parse_custom {raw name : String}
    (h : PartitionerChoice.parse raw = .ok (.custom name)) :
    name = Text.trim raw ∧ name ≠ "" ∧ name ∉ PartitionerChoice.builtIn := by
  unfold PartitionerChoice.parse at h
  split at h
  · cases h
  · cases h
  · cases h
  · cases h
  next hempty hdefault hfixed hround =>
    cases h
    refine ⟨rfl, hempty, fun hbuiltIn => ?_⟩
    simp only [builtIn, List.map_cons, List.map_nil, List.mem_cons, List.not_mem_nil,
      or_false] at hbuiltIn
    rcases hbuiltIn with h | h | h
    · exact hdefault h
    · exact hfixed h
    · exact hround h

namespace SinkPartitioner

/-- The ways for a sink to come to its partitioner. -/
inductive Chosen (options : OptionMap) (registry : PartitionerRegistry) :
    SinkPartitioner → Prop where
  | default : Chosen options registry ⟨.default, .keyHash⟩
  | fixed : Chosen options registry ⟨.fixed, .fixed 0⟩
  | roundRobin (keyless : options.contains Catalogue.keyFields.key = false) :
      Chosen options registry ⟨.roundRobin, .roundRobin 0⟩
  | custom (name : String) (fresh : Partitioner) (trimmed : Text.Trimmed name)
      (named : name ≠ "" ∧ name ∉ PartitionerChoice.builtIn)
      (registered : registry.get? name = some fresh) :
      Chosen options registry ⟨.custom name, fresh⟩

variable {options : OptionMap} {registry : PartitionerRegistry}

theorem chosen_of_ok {p : SinkPartitioner} (h : ofOptions options registry = .ok p) :
    Chosen options registry p := by
  unfold ofOptions at h
  obtain ⟨raw?, _, h⟩ := bind_ok_iff.mp h
  dsimp only at h
  split at h
  · cases h
  · cases h
    exact .default
  · cases h
    exact .fixed
  · split at h
    · cases h
    next hkeys =>
      cases h
      exact .roundRobin (by simpa using hkeys)
  next name hname =>
    obtain ⟨htrim, hnamed⟩ := PartitionerChoice.parse_custom hname
    split at h
    next fresh hregistered =>
      cases h
      exact .custom name fresh (htrim ▸ Text.trimmed_trim _) hnamed hregistered
    · cases h

theorem Chosen.keyless_of_roundRobin {p : SinkPartitioner} (h : Chosen options registry p)
    (hround : p.choice = .roundRobin) : options.contains Catalogue.keyFields.key = false := by
  cases h with
  | roundRobin keyless => exact keyless
  | default => cases hround
  | fixed => cases hround
  | custom => cases hround

theorem Chosen.registered_of_custom {p : SinkPartitioner} {name : String}
    (h : Chosen options registry p) (hcustom : p.choice = .custom name) :
    Text.Trimmed name ∧ name ≠ "" ∧ name ∉ PartitionerChoice.builtIn ∧
      registry.get? name = some p.fresh := by
  cases h with
  | custom name fresh trimmed named registered =>
    cases hcustom
    exact ⟨trimmed, named.1, named.2, registered⟩
  | default => cases hcustom
  | fixed => cases hcustom
  | roundRobin => cases hcustom

theorem ofOptions_reads (registry : PartitionerRegistry) : OptionMap.Reads
    [Catalogue.partitioner.key, Catalogue.keyFields.key] (ofOptions · registry) := by
  intro a b h
  dsimp only
  unfold ofOptions
  rw [OptionMap.readOrDefault_congr (h Catalogue.partitioner.key (by decide)),
    OptionMap.contains_congr (h Catalogue.keyFields.key (by decide))]

end SinkPartitioner

end TopicTable
