import Mathlib.Data.List.Induction
import TopicTable.Proofs.MetadataRows

/-! Which metadata columns a table may have. A schema is accepted exactly where every key that it
asks for is listed, and its keys are then split by who provides them, each once and in the order in
which it is first asked for. -/

namespace TopicTable

open Outcome

namespace MetadataAccess

variable {access : MetadataAccess} {declared : MetadataTypes} {key : String}

theorem isConnectorKey_iff :
    access.isConnectorKey key = true ↔ key ∈ access.connectorKeys.map (·.1) := by
  cases access with
  | read =>
    simp only [isConnectorKey, ReadableMetadata.ofKey?, List.find?_isSome, decide_eq_true_eq,
      connectorKeys, List.map_map, List.mem_map, Function.comp]
  | write =>
    simp only [isConnectorKey, WritableMetadata.ofKey?, List.find?_isSome, decide_eq_true_eq,
      connectorKeys, List.map_map, List.mem_map, Function.comp]

/-- No property of the record itself is named like metadata of the value format. -/
theorem connector_unprefixed (h : access.isConnectorKey key = true) (k : String) :
    key ≠ valuePrefix ++ k := by
  have hplain : ∀ key ∈ access.connectorKeys.map (·.1), Text.hasPrefix valuePrefix key = false := by
    cases access <;> decide +kernel
  rintro rfl
  have hprefix := hplain _ (isConnectorKey_iff.mp h)
  rw [Text.hasPrefix_iff.mpr ⟨k, rfl⟩] at hprefix
  cases hprefix

theorem mem_supported : key ∈ (access.supported declared).map (·.1) ↔
    (∃ k, key = valuePrefix ++ k ∧ declared.contains k = true) ∨
      access.isConnectorKey key = true := by
  have hdeclared : key ∈ declared.entries.map (fun e => valuePrefix ++ e.1) ↔
      ∃ k, key = valuePrefix ++ k ∧ declared.contains k = true := by
    simp only [List.mem_map, OrderedMap.contains, List.any_eq_true, decide_eq_true_eq]
    constructor
    · rintro ⟨e, he, rfl⟩
      exact ⟨e.1, rfl, e, he, rfl⟩
    · rintro ⟨k, rfl, e, he, rfl⟩
      exact ⟨e, he, rfl⟩
  rw [supported, List.map_append, List.mem_append, List.map_map, isConnectorKey_iff]
  exact or_congr_left hdeclared

end MetadataAccess

namespace MetadataKeys

/-- Keys that are told apart by their owner's part of them are taken up in the order in which they
first occur. -/
theorem foldl_parts_order (part : String → Option String)
    (hpart : ∀ x y k, part x = some k → part y = some k → x = y) (asked : List String) :
    ((asked.filterMap part).foldl addDistinct []).Pairwise fun a b =>
      ∀ x y, part x = some a → part y = some b → asked.idxOf x < asked.idxOf y := by
  induction asked using List.reverseRecOn with
  | nil => exact .nil
  | append_singleton asked key ih =>
    have hasked : ∀ k ∈ (asked.filterMap part).foldl addDistinct [], ∀ x, part x = some k →
        x ∈ asked := by
      intro k hk x hx
      rcases mem_foldl_addDistinct.mp hk with hk | hk
      · cases hk
      · obtain ⟨y, hy, hyk⟩ := List.mem_filterMap.mp hk
        rwa [hpart x y k hx hyk]
    have hbefore : ((asked.filterMap part).foldl addDistinct []).Pairwise fun a b => ∀ x y,
        part x = some a → part y = some b → (asked ++ [key]).idxOf x < (asked ++ [key]).idxOf y := by
      refine ih.imp_of_mem fun {a b} ha hb hab x y hx hy => ?_
      rw [List.idxOf_append_of_mem (hasked a ha x hx), List.idxOf_append_of_mem (hasked b hb y hy)]
      exact hab x y hx hy
    rw [List.filterMap_append, List.foldl_append]
    cases hkey : part key with
    | none => rwa [List.filterMap_cons_none hkey]
    | some k =>
      rw [List.filterMap_cons_some hkey, List.filterMap_nil, List.foldl_cons, List.foldl_nil]
      by_cases hk : k ∈ (asked.filterMap part).foldl addDistinct []
      · rwa [addDistinct, if_pos hk]
      · rw [addDistinct, if_neg hk]
        refine List.pairwise_append.mpr ⟨hbefore, List.pairwise_singleton _ _, ?_⟩
        intro a ha b hb x y hx hy
        cases List.mem_singleton.mp hb
        cases hpart y key k hy hkey
        have hnew : key ∉ asked := fun hm =>
          hk (mem_foldl_addDistinct.mpr (Or.inr (List.mem_filterMap.mpr ⟨key, hm, hkey⟩)))
        rw [List.idxOf_append_of_mem (hasked a ha x hx), List.idxOf_append_of_notMem hnew]
        exact Nat.lt_add_right _ (List.idxOf_lt_length_of_mem (hasked a ha x hx))

/-- The keys that columns ask for, as often as they do. -/
def askedKeys (columns : List Column) : List String := columns.filterMap Column.metadataKey?

/-- A column asks for a key that is listed for the access. -/
def Listed (access : MetadataAccess) (declared : MetadataTypes) (c : Column) : Prop :=
  ∃ key, c.metadataKey? = some key ∧ key ∈ (access.supported declared).map (·.1)

/-- The keys of accepted columns, split by who provides them. -/
structure SplitInOrder (access : MetadataAccess) (declared : MetadataTypes)
    (columns : List Column) (keys : MetadataKeys) : Prop where
  columns_eq : keys.columns = columns
  connector_distinct : keys.connector.Nodup
  connector_order : keys.connector.Pairwise fun a b =>
    (askedKeys columns).idxOf a < (askedKeys columns).idxOf b
  format_distinct : keys.format.Nodup
  format_order : keys.format.Pairwise fun a b =>
    (askedKeys columns).idxOf ("value." ++ a) < (askedKeys columns).idxOf ("value." ++ b)
  represented : ∀ key ∈ askedKeys columns,
    (key ∈ keys.connector ↔ ¬ ∃ k ∈ keys.format, key = "value." ++ k)
  mem_connector : ∀ key, key ∈ keys.connector ↔
    key ∈ askedKeys columns ∧ key ∈ access.connectorKeys.map (·.1)
  mem_format : ∀ key, key ∈ keys.format ↔
    "value." ++ key ∈ askedKeys columns ∧ declared.contains key = true

/-- The error names the first of the columns whose key is not listed. -/
def NamesFirstUnlisted (access : MetadataAccess) (name : TableName) (declared : MetadataTypes)
    (columns : List Column) (error : TableError) : Prop :=
  ∃ before c after key, columns = before ++ c :: after ∧
    (∀ b ∈ before, Listed access declared b) ∧ ¬ Listed access declared c ∧
    c.metadataKey? = some key ∧ error = unsupportedKey access name declared key c.name

/-- What comes of the metadata columns of a schema under the list of an access. -/
structure AcceptedAsListed (access : MetadataAccess) (name : TableName) (schema : Schema)
    (declared : MetadataTypes) : Prop where
  accepted_iff : (∃ keys, ofSchema access name schema declared = .ok keys) ↔
    ∀ c ∈ access.columns schema, Listed access declared c
  split : ∀ keys, ofSchema access name schema declared = .ok keys →
    SplitInOrder access declared (access.columns schema) keys
  refused : ∀ error, ofSchema access name schema declared = .error error →
    NamesFirstUnlisted access name declared (access.columns schema) error

section Owners

variable {access : MetadataAccess} {name : TableName} {declared : MetadataTypes}

/-- The part of a key that a value format knows it by. -/
def formatPart? (declared : MetadataTypes) (key : String) : Option String :=
  (Text.stripPrefix? valuePrefix key).filter declared.contains

theorem formatPart_iff {key k : String} : formatPart? declared key = some k ↔
    key = valuePrefix ++ k ∧ declared.contains k = true := by
  rw [formatPart?, Option.filter_eq_some_iff, Text.stripPrefix_iff]

/-- A key of the record itself is never taken for one of the value format. -/
theorem owner_connector_iff {key k : String} : owner? access declared key = some (.connector k) ↔
    key = k ∧ access.isConnectorKey k = true := by
  constructor
  · intro h
    obtain ⟨rfl, hknown⟩ := owner_connector h
    exact ⟨rfl, hknown⟩
  · rintro ⟨rfl, hknown⟩
    have hpart : (Text.stripPrefix? valuePrefix key).filter declared.contains = none := by
      by_contra hsome
      obtain ⟨k, hk⟩ := Option.ne_none_iff_exists'.mp hsome
      exact MetadataAccess.connector_unprefixed hknown k (formatPart_iff.mp hk).1
    rw [owner?, hpart]
    exact if_pos hknown

/-- Somebody provides a key exactly where it is listed. -/
theorem owner_isSome_iff {key : String} : (owner? access declared key).isSome = true ↔
    key ∈ (access.supported declared).map (·.1) := by
  rw [MetadataAccess.mem_supported, Option.isSome_iff_exists]
  constructor
  · rintro ⟨owner, howner⟩
    cases owner with
    | format k => exact Or.inl ⟨k, owner_format_iff.mp howner⟩
    | connector k =>
      obtain ⟨rfl, hknown⟩ := owner_connector_iff.mp howner
      exact Or.inr hknown
  · rintro (⟨k, hk⟩ | hknown)
    · exact ⟨_, owner_format_iff.mpr hk⟩
    · exact ⟨_, owner_connector_iff.mpr ⟨rfl, hknown⟩⟩

theorem listed_iff {c : Column} :
    Listed access declared c ↔ (ownerOf? access declared c).isSome = true := by
  rw [Listed, ownerOf?]
  cases c.metadataKey? with
  | none => simp
  | some key => simp [owner_isSome_iff]

/-- What columns ask of one owner is a part of all that they ask. -/
theorem filterMap_asked {ask : Column → Option String} {part : String → Option String}
    (h : ∀ c, ask c = c.metadataKey?.bind part) (columns : List Column) :
    columns.filterMap ask = (askedKeys columns).filterMap part := by
  rw [askedKeys, List.filterMap_filterMap]
  exact congrArg (columns.filterMap ·) (funext h)

theorem formatKeyOf_eq (access : MetadataAccess) (declared : MetadataTypes) (c : Column) :
    formatKeyOf? access declared c = c.metadataKey?.bind (formatPart? declared) := by
  refine Option.ext fun k => ?_
  rw [formatKeyOf_iff, Option.bind_eq_some_iff]
  simp only [formatPart_iff]
  constructor
  · rintro ⟨hkey, hdeclared⟩
    exact ⟨_, hkey, rfl, hdeclared⟩
  · rintro ⟨key, hkey, rfl, hdeclared⟩
    exact ⟨hkey, hdeclared⟩

theorem connectorKeyOf_eq (access : MetadataAccess) (declared : MetadataTypes) (c : Column) :
    connectorKeyOf? access declared c =
      c.metadataKey?.bind (Option.guard access.isConnectorKey) := by
  unfold connectorKeyOf? ownerOf?
  cases c.metadataKey? with
  | none => rfl
  | some key =>
    rw [Option.bind_some, Option.bind_some]
    by_cases hknown : access.isConnectorKey key = true
    · rw [owner_connector_iff.mpr ⟨rfl, hknown⟩]
      exact (Option.guard_eq_some_iff.mpr ⟨rfl, hknown⟩).symm
    · rw [Option.guard, if_neg hknown]
      split
      next k howner =>
        obtain ⟨rfl, hk⟩ := owner_connector_iff.mp howner
        exact absurd hk hknown
      · rfl

theorem addColumn_error {keys : MetadataKeys} {c : Column} {error : TableError}
    (h : addColumn access name declared keys c = .error error) :
    ¬ Listed access declared c ∧ ∃ key, c.metadataKey? = some key ∧
      error = unsupportedKey access name declared key c.name := by
  unfold addColumn at h
  split at h
  · cases h
  next key hkey =>
    split at h
    · cases h
    · cases h
    next hnobody =>
      cases h
      refine ⟨fun hlisted => ?_, key, hkey, rfl⟩
      rw [listed_iff, ownerOf?, hkey, Option.bind_some, hnobody] at hlisted
      cases hlisted

/-- The columns before the one that is refused have been accepted. -/
theorem addColumns_error {columns : List Column} (hm : ∀ c ∈ columns, c.isMetadata = true)
    {keys : MetadataKeys} {error : TableError}
    (h : columns.foldlM (addColumn access name declared) keys = .error error) :
    NamesFirstUnlisted access name declared columns error := by
  induction columns generalizing keys with
  | nil => exact absurd h pure_ne_error
  | cons c columns ih =>
    rw [List.foldlM_cons] at h
    rcases bind_error_iff.mp h with h | ⟨keys', hadded, h⟩
    · obtain ⟨hunlisted, key, hkey, herror⟩ := addColumn_error h
      exact ⟨[], c, columns, key, rfl, List.forall_mem_nil _, hunlisted, hkey, herror⟩
    · have hlisted : Listed access declared c :=
        listed_iff.mpr ((addColumn_ok_iff (hm c (List.mem_cons_self ..))).mp hadded).1
      obtain ⟨before, c', after, key, rfl, hbefore, hrest⟩ :=
        ih (fun c' hc' => hm c' (List.mem_cons_of_mem _ hc')) h
      exact ⟨c :: before, c', after, key, rfl, List.forall_mem_cons.mpr ⟨hlisted, hbefore⟩, hrest⟩

end Owners

section Schema

variable {access : MetadataAccess} {name : TableName} {schema : Schema} {declared : MetadataTypes}
  {keys : MetadataKeys}

theorem connector_eq (h : ofSchema access name schema declared = .ok keys) :
    keys.connector = ((askedKeys (access.columns schema)).filterMap
      (Option.guard access.isConnectorKey)).foldl addDistinct [] := by
  obtain ⟨-, rfl⟩ := ofSchema_ok_iff.mp h
  rw [← filterMap_asked (connectorKeyOf_eq access declared)]

theorem format_eq (h : ofSchema access name schema declared = .ok keys) :
    keys.format = ((askedKeys (access.columns schema)).filterMap
      (formatPart? declared)).foldl addDistinct [] := by
  obtain ⟨-, rfl⟩ := ofSchema_ok_iff.mp h
  rw [← filterMap_asked (formatKeyOf_eq access declared)]

theorem mem_connector_iff (h : ofSchema access name schema declared = .ok keys) {key : String} :
    key ∈ keys.connector ↔
      key ∈ askedKeys (access.columns schema) ∧ access.isConnectorKey key = true := by
  rw [connector_eq h, mem_foldl_addDistinct, List.mem_filterMap]
  simp [Option.guard_eq_some_iff]

theorem mem_format_iff (h : ofSchema access name schema declared = .ok keys) {key : String} :
    key ∈ keys.format ↔
      valuePrefix ++ key ∈ askedKeys (access.columns schema) ∧ declared.contains key = true := by
  rw [format_eq h, mem_foldl_addDistinct, List.mem_filterMap]
  simp [formatPart_iff]

/-- Every key that is asked for has one of the two owners, and not the other. -/
theorem represented_once (h : ofSchema access name schema declared = .ok keys) {key : String}
    (hkey : key ∈ askedKeys (access.columns schema)) :
    key ∈ keys.connector ↔ ¬ ∃ k ∈ keys.format, key = valuePrefix ++ k := by
  rw [mem_connector_iff h]
  constructor
  · rintro ⟨-, hknown⟩ ⟨k, -, hk⟩
    exact MetadataAccess.connector_unprefixed hknown k hk
  · intro hnone
    refine ⟨hkey, ?_⟩
    obtain ⟨c, hc, hask⟩ := List.mem_filterMap.mp hkey
    obtain ⟨key', hask', hlisted⟩ := listed_iff.mpr ((ofSchema_ok_iff.mp h).1 c hc)
    cases hask.symm.trans hask'
    rcases MetadataAccess.mem_supported.mp hlisted with ⟨k, rfl, hdeclared⟩ | hknown
    · exact absurd ⟨k, (mem_format_iff h).mpr ⟨hkey, hdeclared⟩, rfl⟩ hnone
    · exact hknown

theorem splitInOrder_of_ok (h : ofSchema access name schema declared = .ok keys) :
    SplitInOrder access declared (access.columns schema) keys := by
  refine {
    columns_eq := congrArg columns (ofSchema_ok_iff.mp h).2
    connector_distinct := ?_
    connector_order := ?_
    format_distinct := format_nodup h
    format_order := ?_
    represented := fun key hkey => represented_once h hkey
    mem_connector := fun key => by rw [mem_connector_iff h, MetadataAccess.isConnectorKey_iff]
    mem_format := fun key => mem_format_iff h }
  · rw [connector_eq h]
    exact nodup_foldl_addDistinct List.nodup_nil _
  · have horder := foldl_parts_order (Option.guard access.isConnectorKey)
      (by simp [Option.guard_eq_some_iff]) (askedKeys (access.columns schema))
    rw [← connector_eq h] at horder
    refine horder.imp_of_mem fun {a b} ha hb hab => hab a b ?_ ?_
    · exact Option.guard_eq_some_iff.mpr ⟨rfl, ((mem_connector_iff h).mp ha).2⟩
    · exact Option.guard_eq_some_iff.mpr ⟨rfl, ((mem_connector_iff h).mp hb).2⟩
  · have horder := foldl_parts_order (formatPart? declared)
      (fun x y k hx hy => (formatPart_iff.mp hx).1.trans (formatPart_iff.mp hy).1.symm)
      (askedKeys (access.columns schema))
    rw [← format_eq h] at horder
    refine horder.imp_of_mem fun {a b} ha hb hab => hab _ _ ?_ ?_
    · exact formatPart_iff.mpr ⟨rfl, ((mem_format_iff h).mp ha).2⟩
    · exact formatPart_iff.mpr ⟨rfl, ((mem_format_iff h).mp hb).2⟩

end Schema

/-- The metadata columns of a table are accepted by the list that its messages show, and by nothing
else: what is listed is split in order, and the first column that is not listed is named. -/
theorem metadata_accepted_as_listed (access : MetadataAccess) (name : TableName) (schema : Schema)
    (declared : MetadataTypes) : AcceptedAsListed access name schema declared := by
  constructor
  · simp only [ofSchema_ok_iff, exists_and_left, exists_eq, and_true, listed_iff]
  · intro keys h
    exact splitInOrder_of_ok h
  · intro error h
    exact addColumns_error columns_metadata h

/-- A source asks for three keys of two owners, each once. The sink takes all of them but one. -/
theorem shared_keys_split :
    (∀ c ∈ MetadataAccess.read.columns Sample.sharedMetadata,
      Listed .read Sample.topicMetadata c) ∧
    SplitInOrder .read Sample.topicMetadata (MetadataAccess.read.columns Sample.sharedMetadata)
      ⟨["timestamp", "topic"], ["topic"], Sample.sharedMetadata.metadataColumns⟩ ∧
    NamesFirstUnlisted .write Sample.tableName Sample.topicMetadata
      (MetadataAccess.write.columns Sample.sharedMetadata)
      (unsupportedKey .write Sample.tableName Sample.topicMetadata "topic" "topic") := by
  have hread : ofSchema .read Sample.tableName Sample.sharedMetadata Sample.topicMetadata =
      .ok ⟨["timestamp", "topic"], ["topic"], Sample.sharedMetadata.metadataColumns⟩ := by
    decide +kernel
  have hwrite : ofSchema .write Sample.tableName Sample.sharedMetadata Sample.topicMetadata =
      .error (unsupportedKey .write Sample.tableName Sample.topicMetadata "topic" "topic") := by
    decide +kernel
  have hsource := metadata_accepted_as_listed .read Sample.tableName Sample.sharedMetadata
    Sample.topicMetadata
  have hsink := metadata_accepted_as_listed .write Sample.tableName Sample.sharedMetadata
    Sample.topicMetadata
  exact ⟨hsource.accepted_iff.mp ⟨_, hread⟩, hsource.split _ hread, hsink.refused _ hwrite⟩

end MetadataKeys

end TopicTable
