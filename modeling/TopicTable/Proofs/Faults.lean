import TopicTable.Proofs.Layout
import TopicTable.Proofs.Settings

/-! What the rules of a resolution may say when they refuse a table. Apart from format discovery
and the check for left-over options, every rule that refuses a value names an option that is
set, and none lists unsupported options. -/

namespace TopicTable

open Outcome

/-- The error keeps to the options that the map has. -/
def TableError.Grounded (options : OptionMap) : TableError → Prop
  | .invalidValue option _ => options.contains option = true
  | .unsupportedOptions _ _ => False
  | _ => True

/-- Every failure of a rule keeps to the options that the map has. -/
def Grounded {α : Type} (options : OptionMap) (x : Except TableError α) : Prop :=
  ∀ error, x = .error error → error.Grounded options

section Rules

variable {α β : Type} {options : OptionMap}

theorem grounded_ok (a : α) : Grounded options (.ok a) := by
  intro error h
  cases h

theorem grounded_error {error : TableError} (h : error.Grounded options) :
    Grounded options (.error error : Except TableError α) := by
  intro error' h'
  cases h'
  exact h

theorem grounded_bind {x : Except TableError α} {f : α → Except TableError β}
    (hx : Grounded options x) (hf : ∀ a, x = .ok a → Grounded options (f a)) :
    Grounded options (x >>= f) := by
  intro error h
  rcases bind_error_iff.mp h with h | ⟨a, ha, h⟩
  · exact hx error h
  · exact hf a ha error h

theorem grounded_map {x : Except TableError α} (f : α → β) (hx : Grounded options x) :
    Grounded options (x.map f) := fun error h => hx error (map_error_iff.mp h)

theorem grounded_mapM {f : α → Except TableError β} {as : List α}
    (hf : ∀ a ∈ as, Grounded options (f a)) : Grounded options (as.mapM f) := by
  intro error h
  obtain ⟨a, ha, he⟩ := exists_error_of_mapM h
  exact hf a ha error he

theorem grounded_foldlM {f : β → α → Except TableError β} {as : List α}
    (hf : ∀ b a, Grounded options (f b a)) (b : β) : Grounded options (as.foldlM f b) := by
  induction as generalizing b with
  | nil => exact grounded_ok b
  | cons a as ih => exact grounded_bind (hf b a) fun b' _ => ih b'

variable [OptionValue α]

theorem parse_error {option : DeclaredOption α} {raw : String} {error : TableError}
    (h : option.parse raw = .error error) :
    ∃ message, error = .invalidValue option.key message := by
  unfold DeclaredOption.parse at h
  split at h
  · cases h
    exact ⟨_, rfl⟩
  · split at h
    · cases h
      exact ⟨_, rfl⟩
    · cases h

theorem grounded_parse {option : DeclaredOption α} {raw : String}
    (hraw : options.get? option.key = some raw) : Grounded options (option.parse raw) := by
  intro error h
  obtain ⟨message, rfl⟩ := parse_error h
  exact options.contains_iff.mpr ⟨raw, hraw⟩

theorem grounded_read (option : DeclaredOption α) : Grounded options (options.read? option) := by
  unfold OptionMap.read?
  cases hraw : options.get? option.key with
  | none => exact grounded_ok none
  | some raw => exact grounded_map some (grounded_parse hraw)

/-- A default that its own option accepts is never blamed. -/
theorem grounded_readOrDefault {option : DeclaredOption α}
    (hd : (option.default?.all fun raw => (option.parse raw).toOption.isSome) = true) :
    Grounded options (options.readOrDefault? option) := by
  unfold OptionMap.readOrDefault?
  cases hraw : options.get? option.key with
  | none =>
    cases hdefault : option.default? with
    | none => exact grounded_ok none
    | some raw =>
      rw [hdefault, Option.all_some] at hd
      obtain ⟨a, ha⟩ := exists_ok hd
      simp only [Option.none_or, ha]
      exact grounded_ok (some a)
  | some raw => exact grounded_map some (grounded_parse hraw)

theorem grounded_require (key : String) : Grounded options (options.require key) := by
  unfold OptionMap.require
  split
  · exact grounded_ok _
  · exact grounded_error trivial

end Rules

section Steps

variable (options : OptionMap)

theorem grounded_checkConnector : Grounded options (Resolver.checkConnector options) := by
  unfold Resolver.checkConnector
  refine grounded_bind (grounded_require _) fun connector hc => ?_
  split
  · refine grounded_error (options.contains_iff.mpr ⟨connector, ?_⟩)
    unfold OptionMap.require at hc
    split at hc
    next value hv =>
      cases hc
      exact hv
    · cases hc
  · exact grounded_bind (grounded_require _) fun _ _ => grounded_ok _

theorem grounded_topics {compile : PatternCompiler} :
    Grounded options (TopicSelection.ofOptions compile options) := by
  let := TopicPattern.optionValue compile
  unfold TopicSelection.ofOptions TopicSelection.readPattern?
  refine grounded_bind (grounded_read _) fun names _ => ?_
  refine grounded_bind (grounded_read _) fun pattern _ => ?_
  split
  · exact grounded_error trivial
  · exact grounded_ok _
  · exact grounded_ok _
  · exact grounded_error trivial

theorem grounded_offsets {raw : String}
    (h : options.get? Catalogue.specificOffsets.key = some raw) :
    Grounded options (PartitionOffsets.parse raw) := by
  unfold PartitionOffsets.parse
  dsimp only
  split
  · exact grounded_ok _
  · exact grounded_error (options.contains_iff.mpr ⟨raw, h⟩)

theorem grounded_startup (topics : TopicSelection) :
    Grounded options (StartupPosition.ofOptions options topics) := by
  unfold StartupPosition.ofOptions
  refine grounded_bind (grounded_readOrDefault (by rfl)) fun mode? _ => ?_
  dsimp only
  split
  · exact grounded_ok _
  · exact grounded_ok _
  · exact grounded_ok _
  · refine grounded_bind (grounded_read _) fun millis? _ => ?_
    split
    · exact grounded_ok _
    · exact grounded_error trivial
  · split
    · exact grounded_error trivial
    · exact grounded_error trivial
    next raw topic hraw htopic =>
      exact grounded_bind (grounded_offsets options hraw) fun _ _ => grounded_ok _

theorem grounded_primaryKey (table : TableDefinition) (value : DiscoveredFormat) :
    Grounded options (Resolver.checkPrimaryKey table value) := by
  unfold Resolver.checkPrimaryKey
  split
  · exact grounded_error trivial
  · exact grounded_ok _

theorem grounded_keyPosition {names : List String} {start field : String}
    (h : options.contains Catalogue.keyFields.key = true) :
    Grounded options (RecordLayout.keyPosition names start field) := by
  unfold RecordLayout.keyPosition
  split
  · exact grounded_error trivial
  · split
    · exact grounded_ok _
    · exact grounded_error h

theorem grounded_keyPositions (names : List String) (start : String) :
    Grounded options (RecordLayout.keyPositions options names start) := by
  unfold RecordLayout.keyPositions
  refine grounded_bind (grounded_read _) fun fields? hf => ?_
  dsimp only
  split
  · exact grounded_ok _
  · exact grounded_error trivial
  next field rest _ =>
    have hset : options.contains Catalogue.keyFields.key = true := by
      unfold OptionMap.read? at hf
      split at hf
      next raw hraw => exact options.contains_iff.mpr ⟨raw, hraw⟩
      · cases hf
    split
    · exact grounded_error hset
    · exact grounded_mapM fun _ _ => grounded_keyPosition options hset
  · exact grounded_error trivial

theorem grounded_layout (schema : Schema) :
    Grounded options (RecordLayout.ofOptions options schema) := by
  unfold RecordLayout.ofOptions
  refine grounded_bind (grounded_read _) fun start? _ => ?_
  refine grounded_bind (grounded_keyPositions options _ _) fun key _ => ?_
  refine grounded_bind (grounded_readOrDefault (by rfl)) fun choice? _ => ?_
  dsimp only
  split
  · split
    · exact grounded_error trivial
    · exact grounded_ok _
  · exact grounded_ok _

theorem grounded_keyPrefix : Grounded options (RecordLayout.keyPrefix? options) :=
  grounded_bind (grounded_read _) fun _ _ => grounded_ok _

theorem grounded_metadata (access : MetadataAccess) (name : TableName) (schema : Schema)
    (declared : MetadataTypes) :
    Grounded options (MetadataKeys.ofSchema access name schema declared) := by
  unfold MetadataKeys.ofSchema
  refine grounded_foldlM (fun keys column => ?_) _
  unfold MetadataKeys.addColumn
  split
  · exact grounded_ok _
  · split
    · exact grounded_ok _
    · exact grounded_ok _
    · exact grounded_error trivial

theorem grounded_rows (table : TableDefinition) (found : TableFormats)
    (access : MetadataAccess) :
    Grounded options (Resolver.resolveRows table options found access) := by
  unfold Resolver.resolveRows
  refine grounded_bind (grounded_layout options _) fun layout _ => ?_
  refine grounded_bind (grounded_keyPrefix options) fun start? _ => ?_
  exact grounded_bind (grounded_metadata options _ _ _ _) fun metadata _ => grounded_ok _

theorem grounded_sinkTopic (selection : TopicSelection) :
    Grounded options selection.sinkTopic := by
  unfold TopicSelection.sinkTopic
  split
  · exact grounded_ok _
  · exact grounded_error trivial
  · exact grounded_error trivial

theorem grounded_guarantee : Grounded options (DeliveryGuarantee.ofOptions options) := by
  unfold DeliveryGuarantee.ofOptions
  refine grounded_bind (grounded_read _) fun guarantee? _ => ?_
  split
  · exact grounded_ok _
  · exact grounded_bind (grounded_readOrDefault (by rfl)) fun _ _ => grounded_ok _

theorem grounded_transactionalId (guarantee : DeliveryGuarantee) :
    Grounded options (transactionalIdPrefix options guarantee) := by
  unfold transactionalIdPrefix
  refine grounded_bind (grounded_read _) fun start? _ => ?_
  dsimp only
  split
  · exact grounded_error trivial
  · exact grounded_ok _

/-- The name of a partitioner can only be refused where one is given. -/
theorem grounded_partitioner (registry : PartitionerRegistry) :
    Grounded options (SinkPartitioner.ofOptions options registry) := by
  unfold SinkPartitioner.ofOptions
  refine grounded_bind (grounded_readOrDefault (by rfl)) fun raw? hraw => ?_
  dsimp only
  split
  next reason hrefused =>
    cases hset : options.get? Catalogue.partitioner.key with
    | some raw => exact grounded_error (options.contains_iff.mpr ⟨raw, hset⟩)
    | none =>
      unfold OptionMap.readOrDefault? at hraw
      rw [hset] at hraw
      cases hraw
      cases hrefused
  · exact grounded_ok _
  · exact grounded_ok _
  · split
    · exact grounded_error trivial
    · exact grounded_ok _
  · split
    · exact grounded_ok _
    · exact grounded_error trivial

theorem grounded_buffer : Grounded options (SinkBuffer.ofOptions options) := by
  unfold SinkBuffer.ofOptions
  refine grounded_bind (grounded_readOrDefault (by rfl)) fun rows? _ => ?_
  refine grounded_bind (grounded_readOrDefault (by rfl)) fun interval? _ => ?_
  dsimp only
  split
  · exact grounded_ok _
  · exact grounded_error trivial

theorem grounded_properties : Grounded options (Resolver.sourceProperties options) := by
  unfold Resolver.sourceProperties
  refine grounded_bind (grounded_read _) fun interval? _ => ?_
  split
  · exact grounded_ok _
  · exact grounded_ok _

end Steps

namespace Resolver

/-- The formats of a table fail over the slots themselves, or over one that is set. -/
theorem tableFormats_error_cases {formats : FormatRegistry} {options : OptionMap}
    {direction : Direction} {consumed : List String} {error : TableError}
    (h : tableFormats formats options direction consumed = .error error) :
    (∃ keys message, error = .conflict keys message) ∨
      (∃ keys message, error = .missing keys message) ∨
      ∃ slot before, options.SelectedSlot slot ∧
        DiscoveredFormat.find? formats options slot before = .error error := by
  unfold tableFormats at h
  split at h
  · cases h
    exact Or.inl ⟨_, _, rfl⟩
  · right
    rcases bind_error_iff.mp h with h | ⟨⟨value, before⟩, _, h⟩
    · unfold valueFormat at h
      rcases bind_error_iff.mp h with h | ⟨⟨shared?, first⟩, hs, h⟩
      · have hset := find_error_set h
        exact Or.inr ⟨.shared, _, Or.inl (by simp [OptionMap.valueSlot?, hset]), h⟩
      · cases shared? with
        | some format => cases h
        | none =>
          -- Only a slot that is left out lets the search go on to the next one.
          have hunset : options.contains FormatSlot.shared.key = false := by
            rw [OrderedMap.contains_eq_isSome_get?, (find_none_iff.mp hs).1, Option.isSome_none]
          rcases bind_error_iff.mp h with h | ⟨⟨own?, second⟩, _, h⟩
          · have hset := find_error_set h
            exact Or.inr ⟨.ofValue, _, Or.inl (by simp [OptionMap.valueSlot?, hunset, hset]), h⟩
          · cases own? with
            | some format => cases h
            | none =>
              cases h
              exact Or.inl ⟨_, _, rfl⟩
    · rcases bind_error_iff.mp h with h | ⟨⟨key?, rest⟩, _, h⟩
      · exact Or.inr ⟨.ofKey, _, Or.inr rfl, h⟩
      · cases h

/-- Formats fail over their name, a missing option or a value, never over left-over options. -/
theorem tableFormats_error {formats : FormatRegistry} (hf : formats.RefuseValues)
    {options : OptionMap} {direction : Direction} {consumed : List String} {error : TableError}
    (h : tableFormats formats options direction consumed = .error error)
    (connector : String) (keys : List String) : error ≠ .unsupportedOptions connector keys := by
  rintro rfl
  rcases tableFormats_error_cases h with ⟨_, _, h⟩ | ⟨_, _, h⟩ | ⟨_, _, _, h⟩
  · cases h
  · cases h
  · rcases find_error hf h with ⟨_, _, h⟩ | ⟨_, h⟩ | ⟨_, _, h⟩ <;> cases h

/-- A format is refused where it is found or where options are left over. -/
theorem checkedFormats_error {r : Resolver} {options : OptionMap} {direction : Direction}
    {error : TableError} (h : r.checkedFormats options direction = .error error) :
    tableFormats r.formats options direction Catalogue.keys = .error error ∨
      ∃ found consumed, Nonempty (FormatsRun r.formats options found consumed) ∧
        checkConsumed options consumed = .error error := by
  unfold checkedFormats at h
  rcases bind_error_iff.mp h with h | ⟨⟨found, consumed⟩, hfound, h⟩
  · exact Or.inl h
  · rcases bind_error_iff.mp h with h | ⟨_, _, h⟩
    · exact Or.inr ⟨found, consumed, tableFormats_run hfound, h⟩
    · exact absurd h pure_ne_error

/-- Beyond its formats, a source blames only options that are set. -/
theorem source_error {r : Resolver} {table : TableDefinition} {error : TableError}
    (h : r.source table = .error error) :
    error.Grounded table.options ∨ r.checkedFormats table.options .scan = .error error := by
  unfold source at h
  rcases bind_error_iff.mp h with h | ⟨_, _, h⟩
  · exact Or.inl (grounded_checkConnector _ _ h)
  rcases bind_error_iff.mp h with h | ⟨topics, _, h⟩
  · exact Or.inl (grounded_topics _ _ h)
  rcases bind_error_iff.mp h with h | ⟨found, _, h⟩
  · exact Or.inr h
  left
  rcases bind_error_iff.mp h with h | ⟨startup, _, h⟩
  · exact grounded_startup _ _ _ h
  rcases bind_error_iff.mp h with h | ⟨_, _, h⟩
  · exact grounded_primaryKey table.options _ _ _ h
  rcases bind_error_iff.mp h with h | ⟨rows, _, h⟩
  · exact grounded_rows _ _ _ _ _ h
  rcases bind_error_iff.mp h with h | ⟨properties, _, h⟩
  · exact grounded_properties _ _ h
  exact absurd h pure_ne_error

/-- Beyond its formats, a sink blames only options that its table sets. What it reads from the
completed options it would read from the table's own. -/
theorem sink_error {r : Resolver} {table : TableDefinition} {error : TableError}
    (h : r.sink table = .error error) :
    error.Grounded table.options ∨
      ∃ topic, r.checkedFormats (table.options.withSubjects topic) .sink = .error error := by
  unfold sink at h
  rcases bind_error_iff.mp h with h | ⟨_, _, h⟩
  · exact Or.inl (grounded_checkConnector _ _ h)
  rcases bind_error_iff.mp h with h | ⟨topics, _, h⟩
  · exact Or.inl (grounded_topics _ _ h)
  rcases bind_error_iff.mp h with h | ⟨topic, _, h⟩
  · exact Or.inl (grounded_sinkTopic _ _ _ h)
  rcases bind_error_iff.mp h with h | ⟨found, _, h⟩
  · exact Or.inr ⟨topic, h⟩
  left
  have hagree := table.options.withSubjects_agrees topic
  rcases bind_error_iff.mp h with h | ⟨guarantee, _, h⟩
  · rw [DeliveryGuarantee.ofOptions_reads.agree (by decide) hagree] at h
    exact grounded_guarantee _ _ h
  rcases bind_error_iff.mp h with h | ⟨start?, _, h⟩
  · rw [(transactionalIdPrefix_reads guarantee).agree (by decide) hagree] at h
    exact grounded_transactionalId _ _ _ h
  rcases bind_error_iff.mp h with h | ⟨partitioner, _, h⟩
  · rw [(SinkPartitioner.ofOptions_reads r.partitioners).agree (by decide) hagree] at h
    exact grounded_partitioner _ _ _ h
  rcases bind_error_iff.mp h with h | ⟨parallelism?, _, h⟩
  · rw [OptionMap.read_congr (hagree Catalogue.parallelism.key (by decide))] at h
    exact grounded_read _ _ h
  rcases bind_error_iff.mp h with h | ⟨buffer, _, h⟩
  · rw [SinkBuffer.ofOptions_reads.agree (by decide) hagree] at h
    exact grounded_buffer _ _ h
  rcases bind_error_iff.mp h with h | ⟨_, _, h⟩
  · exact grounded_primaryKey table.options _ _ _ h
  rcases bind_error_iff.mp h with h | ⟨rows, _, h⟩
  · rw [(resolveRows_reads table found .write).agree (by decide) hagree] at h
    exact grounded_rows _ _ _ _ _ h
  exact absurd h pure_ne_error

end Resolver

end TopicTable
