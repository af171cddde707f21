import Mathlib.Data.List.Nodup
import Mathlib.Data.List.Sort
import TopicTable.Format.Subject
import TopicTable.Proofs.Outcome

/-! Option maps under a prefix, and the keys that nobody accounts for.
The stripped view of a map answers a key exactly as the map answers the whole key. -/

namespace TopicTable

namespace Text

theorem stripPrefix_iff {start s rest : String} :
    stripPrefix? start s = some rest ↔ s = start ++ rest := by
  unfold stripPrefix?
  rw [Option.map_eq_some_iff]
  constructor
  · rintro ⟨cs, hcs, rfl⟩
    rw [stripChars?_eq_some_iff] at hcs
    exact String.toList_inj.mp (by simpa using hcs)
  · rintro rfl
    exact ⟨rest.toList, by simp [stripChars?_eq_some_iff], by simp⟩

theorem hasPrefix_iff {start s : String} :
    hasPrefix start s = true ↔ ∃ rest, s = start ++ rest := by
  have : hasPrefix start s = (stripPrefix? start s).isSome := by
    simp [hasPrefix, stripPrefix?]
  simp [this, Option.isSome_iff_exists, stripPrefix_iff]

end Text

namespace OrderedMap

variable {α β : Type} [Ord α] [DecidableEq α] [Std.TransOrd α] [Std.LawfulEqOrd α]

omit [DecidableEq α] [Std.LawfulEqOrd α] in
theorem distinct_keys (m : OrderedMap α β) : m.entries.Pairwise fun a b => a.1 ≠ b.1 := by
  refine m.sorted.imp fun {a b} h hk => ?_
  rw [hk] at h
  exact compare_self_ne_lt b.1 h

/-- Without repeated keys no pair of the list is lost. -/
theorem get_ofList_distinct {pairs : List (α × β)} (h : pairs.Pairwise fun a b => a.1 ≠ b.1)
    (k : α) (v : β) : (ofList pairs).get? k = some v ↔ (k, v) ∈ pairs := by
  rw [get?_ofList]
  constructor
  · intro hv
    obtain ⟨e, he, rfl⟩ := Option.map_eq_some_iff.mp hv
    have hk := List.find?_some he
    simp only [decide_eq_true_eq] at hk
    subst hk
    exact List.mem_reverse.mp (List.mem_of_find?_eq_some he)
  · intro hm
    cases hf : pairs.reverse.find? fun e => e.1 = k with
    | none =>
      have := List.find?_eq_none.mp hf (k, v) (List.mem_reverse.mpr hm)
      simp at this
    | some e =>
      have hk := List.find?_some hf
      simp only [decide_eq_true_eq] at hk
      have he := List.mem_reverse.mp (List.mem_of_find?_eq_some hf)
      have hn : (pairs.map (·.1)).Nodup := List.pairwise_map.mpr h
      have : e = (k, v) := List.inj_on_of_nodup_map hn he hm hk
      simp [this]

/-- The entries of a map make it in any order. -/
theorem ofList_of_perm {m : OrderedMap α β} {pairs : List (α × β)} (h : pairs.Perm m.entries) :
    ofList pairs = m := by
  have hdistinct : pairs.Pairwise fun a b => a.1 ≠ b.1 :=
    (h.pairwise_iff fun hne => Ne.symm hne).mpr m.distinct_keys
  refine ext_get? fun k => Option.ext fun v => ?_
  rw [get_ofList_distinct hdistinct, h.mem_iff, get?_eq_some_iff]

end OrderedMap

/-- Numbers are read from the trimmed text. -/
theorem parseNumber_ok_iff {α : Type} {read : String → Except Text.IntegerFault α} {raw : String}
    {value : α} : parseNumber read raw = .ok value ↔ read (Text.trim raw) = .ok value :=
  Outcome.mapError_ok_iff

namespace OptionMap

variable (options : OptionMap)

theorem get_withPrefix (start k : String) :
    (options.withPrefix start).get? k = options.get? (start ++ k) := by
  have hd : (options.entries.filterMap fun e =>
      (Text.stripPrefix? start e.1).map fun rest => (rest, e.2)).Pairwise
        fun a b => a.1 ≠ b.1 := by
    refine options.distinct_keys.filterMap _ fun a b hab a' ha b' hb hk => hab ?_
    obtain ⟨r, hr, rfl⟩ := Option.map_eq_some_iff.mp ha
    obtain ⟨q, hq, rfl⟩ := Option.map_eq_some_iff.mp hb
    rw [Text.stripPrefix_iff.mp hr, Text.stripPrefix_iff.mp hq]
    exact congrArg (start ++ ·) hk
  refine Option.ext fun v => ?_
  unfold withPrefix
  rw [OrderedMap.get_ofList_distinct hd, OrderedMap.get?_eq_some_iff, List.mem_filterMap]
  constructor
  · rintro ⟨e, he, hk⟩
    obtain ⟨r, hr, hkv⟩ := Option.map_eq_some_iff.mp hk
    cases hkv
    rw [← Text.stripPrefix_iff.mp hr]
    exact he
  · intro he
    exact ⟨(start ++ k, v), he, by simp [Text.stripPrefix_iff.mpr rfl]⟩

/-- What is handed on under a prefix depends on nothing outside it. -/
theorem withPrefix_congr {a b : OptionMap} {start : String}
    (h : ∀ rest, a.get? (start ++ rest) = b.get? (start ++ rest)) :
    a.withPrefix start = b.withPrefix start :=
  OrderedMap.ext_get? fun rest => by rw [get_withPrefix, get_withPrefix, h]

theorem contains_withPrefix (start k : String) :
    (options.withPrefix start).contains k = options.contains (start ++ k) := by
  rw [OrderedMap.contains_eq_isSome_get?, OrderedMap.contains_eq_isSome_get?, get_withPrefix]

theorem contains_iff {key : String} :
    options.contains key = true ↔ ∃ value, options.get? key = some value := by
  rw [OrderedMap.contains_eq_isSome_get?, Option.isSome_iff_exists]

theorem mem_keys_iff_contains {key : String} : key ∈ options.keys ↔ options.contains key = true := by
  rw [OrderedMap.mem_keys_iff, OrderedMap.contains_eq_isSome_get?]

theorem mem_unconsumed {consumed passedOn : List String} {key : String} :
    key ∈ options.unconsumedKeys consumed passedOn ↔
      options.contains key = true ∧ key ∉ consumed ∧
        ∀ start ∈ passedOn, ¬ ∃ rest, key = start ++ rest := by
  simp only [unconsumedKeys, List.mem_filter, mem_keys_iff_contains, Bool.and_eq_true,
    Bool.not_eq_true', List.contains_eq_mem, decide_eq_false_iff_not, List.any_eq_false,
    Text.hasPrefix_iff]

theorem keys_increasing : options.keys.Pairwise (· < ·) := by
  unfold OrderedMap.keys
  rw [List.pairwise_map]
  exact options.sorted.imp fun h => compareOfLessAndEq_eq_lt.mp h

theorem unconsumed_increasing (consumed passedOn : List String) :
    (options.unconsumedKeys consumed passedOn).Pairwise (· < ·) :=
  (options.keys_increasing).filter _

theorem contains_congr {a b : OptionMap} {key : String} (h : a.get? key = b.get? key) :
    a.contains key = b.contains key := by
  rw [OrderedMap.contains_eq_isSome_get?, OrderedMap.contains_eq_isSome_get?, h]

/-- Maps that differ in consumed options alone leave the same ones over. -/
theorem unconsumed_congr {a b : OptionMap} {consumed passedOn : List String}
    (h : ∀ key, key ∉ consumed → a.get? key = b.get? key) :
    a.unconsumedKeys consumed passedOn = b.unconsumedKeys consumed passedOn := by
  refine List.Pairwise.eq_of_mem_iff (a.unconsumed_increasing consumed passedOn)
    (b.unconsumed_increasing consumed passedOn) fun key => ?_
  rw [mem_unconsumed, mem_unconsumed]
  by_cases hkey : key ∈ consumed
  · simp [hkey]
  · rw [contains_congr (h key hkey)]

/-- Maps that hold the same connector options. -/
def AgreesOnCatalogue (a b : OptionMap) : Prop := ∀ key ∈ Catalogue.keys, a.get? key = b.get? key

theorem AgreesOnCatalogue.contains_eq {a b : OptionMap} (h : a.AgreesOnCatalogue b)
    {key : String} (hkey : key ∈ Catalogue.keys) : a.contains key = b.contains key :=
  contains_congr (h key hkey)

/-- The rule looks at an option map under these keys and nowhere else. -/
def Reads {β : Type} (keys : List String) (rule : OptionMap → β) : Prop :=
  ∀ a b : OptionMap, (∀ key ∈ keys, a.get? key = b.get? key) → rule a = rule b

theorem Reads.congr {β : Type} {keys : List String} {rule : OptionMap → β} {a b : OptionMap}
    (h : Reads keys rule) (hab : ∀ key ∈ keys, a.get? key = b.get? key) : rule a = rule b :=
  h a b hab

/-- Rules about the connector's options cannot tell maps apart that agree on these. -/
theorem Reads.agree {β : Type} {keys : List String} {rule : OptionMap → β} {a b : OptionMap}
    (h : Reads keys rule) (hkeys : keys ⊆ Catalogue.keys) (hab : a.AgreesOnCatalogue b) :
    rule a = rule b :=
  h.congr fun key hkey => hab key (hkeys hkey)

variable {α : Type} [OptionValue α] {a b : OptionMap} {option : DeclaredOption α}

theorem parse_ok_iff {raw : String} {value : α} : option.parse raw = .ok value ↔
    OptionValue.parse raw = .ok value ∧ option.refusal? value = none := by
  unfold DeclaredOption.parse
  cases hparse : (OptionValue.parse raw : Except String α) with
  | error reason => simp
  | ok parsed =>
    simp only [Except.ok.injEq]
    constructor
    · intro h
      split at h
      · cases h
      next haccepted =>
        cases h
        exact ⟨rfl, haccepted⟩
    · rintro ⟨rfl, haccepted⟩
      rw [haccepted]

/-- A read yields a value exactly for an option that is set to one. -/
theorem read_some_iff {value : α} : a.read? option = .ok (some value) ↔
    ∃ raw, a.get? option.key = some raw ∧ option.parse raw = .ok value := by
  unfold read?
  cases a.get? option.key with
  | none => simp
  | some raw => simp [Outcome.map_ok_iff]

theorem read_none_iff : a.read? option = .ok none ↔ a.get? option.key = none := by
  unfold read?
  cases a.get? option.key with
  | none => simp
  | some raw => simp [Outcome.map_ok_iff]

theorem readOrDefault_some_iff {value : α} : a.readOrDefault? option = .ok (some value) ↔
    ∃ raw, (a.get? option.key).or option.default? = some raw ∧ option.parse raw = .ok value := by
  unfold readOrDefault?
  cases (a.get? option.key).or option.default? with
  | none => simp
  | some raw => simp [Outcome.map_ok_iff]

/-- An option with a default always has a value, or is refused. -/
theorem readOrDefault_of_default {start : String} {value? : Option α}
    (hdefault : option.default? = some start) (h : a.readOrDefault? option = .ok value?) :
    ∃ value, value? = some value := by
  unfold readOrDefault? at h
  split at h
  · obtain ⟨value, _, rfl⟩ := Outcome.map_ok_iff.mp h
    exact ⟨value, rfl⟩
  next hnone =>
    rw [hdefault, Option.or_eq_none_iff] at hnone
    cases hnone.2

theorem read_congr (h : a.get? option.key = b.get? option.key) :
    a.read? option = b.read? option := by
  unfold read?
  rw [h]

theorem readOrDefault_congr (h : a.get? option.key = b.get? option.key) :
    a.readOrDefault? option = b.readOrDefault? option := by
  unfold readOrDefault?
  rw [h]

end OptionMap

end TopicTable
