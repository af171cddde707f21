/-!
# Ordered finite maps

A map is the list of its pairs in strictly increasing key order, so two maps with the same
entries are equal (`OrderedMap.ext_get?`) and every listing of keys is sorted. Each operation
has one lemma that says what it does to `get?`.
-/

namespace TopicTable

universe u v w

/-- A finite map kept as pairs in strictly increasing key order. -/
structure OrderedMap (α : Type u) (β : Type v) [Ord α] where
  entries : List (α × β)
  sorted : entries.Pairwise fun a b => compare a.1 b.1 = .lt

namespace OrderedMap

section Operations

variable {α : Type u} {β : Type v} [Ord α]

theorem ext_entries {m n : OrderedMap α β} (h : m.entries = n.entries) : m = n := by
  cases m
  cases n
  cases h
  rfl

instance [DecidableEq α] [DecidableEq β] : DecidableEq (OrderedMap α β) := fun m n =>
  decidable_of_iff (m.entries = n.entries) ⟨ext_entries, fun h => h ▸ rfl⟩

instance [Repr α] [Repr β] : Repr (OrderedMap α β) where
  reprPrec m p := reprPrec m.entries p

theorem compare_self_ne_lt [Std.TransOrd α] (a : α) : compare a a ≠ .lt := by
  simp

def empty : OrderedMap α β := ⟨[], .nil⟩

instance : EmptyCollection (OrderedMap α β) := ⟨empty⟩
instance : Inhabited (OrderedMap α β) := ⟨empty⟩

def get? [DecidableEq α] (m : OrderedMap α β) (key : α) : Option β :=
  (m.entries.find? fun e => e.1 = key).map (·.2)

def contains [DecidableEq α] (m : OrderedMap α β) (key : α) : Bool :=
  m.entries.any fun e => e.1 = key

def keys (m : OrderedMap α β) : List α := m.entries.map (·.1)

def isEmpty (m : OrderedMap α β) : Bool := m.entries.isEmpty

/-- Puts a pair at its place in a sorted list, in place of a pair with an equal key. -/
def insertEntry (key : α) (value : β) : List (α × β) → List (α × β)
  | [] => [(key, value)]
  | e :: rest =>
    match compare key e.1 with
    | .lt => (key, value) :: e :: rest
    | .eq => (key, value) :: rest
    | .gt => e :: insertEntry key value rest

theorem mem_insertEntry_imp {key : α} {value : β} {e : α × β} {l : List (α × β)}
    (h : e ∈ insertEntry key value l) : e = (key, value) ∨ e ∈ l := by
  induction l with
  | nil => simp_all [insertEntry]
  | cons a l ih =>
    unfold insertEntry at h
    split at h
    · simpa using h
    · rcases List.mem_cons.mp h with h | h
      · exact Or.inl h
      · exact Or.inr (List.mem_cons_of_mem _ h)
    · rcases List.mem_cons.mp h with h | h
      · exact Or.inr (by simp [h])
      · exact (ih h).imp_right (List.mem_cons_of_mem _)

theorem sorted_insertEntry [Std.TransOrd α] [Std.LawfulEqOrd α] (key : α) (value : β)
    {l : List (α × β)} (h : l.Pairwise fun a b => compare a.1 b.1 = .lt) :
    (insertEntry key value l).Pairwise fun a b => compare a.1 b.1 = .lt := by
  induction l with
  | nil => simp [insertEntry]
  | cons a l ih =>
    rw [List.pairwise_cons] at h
    unfold insertEntry
    split
    next hlt =>
      refine List.pairwise_cons.mpr ⟨fun e he => ?_, List.pairwise_cons.mpr h⟩
      rcases List.mem_cons.mp he with rfl | he
      · exact hlt
      · exact Std.TransCmp.lt_trans hlt (h.1 e he)
    next heq =>
      have hk : key = a.1 := Std.LawfulEqOrd.eq_of_compare heq
      exact List.pairwise_cons.mpr ⟨fun e he => hk ▸ h.1 e he, h.2⟩
    next hgt =>
      refine List.pairwise_cons.mpr ⟨fun e he => ?_, ih h.2⟩
      rcases mem_insertEntry_imp he with rfl | he
      · exact Std.OrientedCmp.lt_of_gt hgt
      · exact h.1 e he

def insert [Std.TransOrd α] [Std.LawfulEqOrd α] (m : OrderedMap α β) (key : α) (value : β) :
    OrderedMap α β :=
  ⟨insertEntry key value m.entries, sorted_insertEntry key value m.sorted⟩

def erase [DecidableEq α] (m : OrderedMap α β) (key : α) : OrderedMap α β :=
  ⟨m.entries.filter fun e => e.1 ≠ key, m.sorted.filter _⟩

/-- The map of a list of pairs; of two pairs with one key the later counts. -/
def ofList [Std.TransOrd α] [Std.LawfulEqOrd α] (pairs : List (α × β)) : OrderedMap α β :=
  pairs.foldl (fun m e => m.insert e.1 e.2) empty

theorem eq_of_mem_iff [Std.TransOrd α] {l l' : List (α × β)}
    (h : l.Pairwise fun a b => compare a.1 b.1 = .lt)
    (h' : l'.Pairwise fun a b => compare a.1 b.1 = .lt)
    (hm : ∀ e, e ∈ l ↔ e ∈ l') : l = l' := by
  induction l generalizing l' with
  | nil =>
    cases l' with
    | nil => rfl
    | cons b l' => exact absurd ((hm b).mpr (List.mem_cons_self ..)) List.not_mem_nil
  | cons a l ih =>
    cases l' with
    | nil => exact absurd ((hm a).mp (List.mem_cons_self ..)) List.not_mem_nil
    | cons b l' =>
      rw [List.pairwise_cons] at h h'
      have hab : a = b := by
        rcases List.mem_cons.mp ((hm a).mp (List.mem_cons_self ..)) with hab | ha
        · exact hab
        · rcases List.mem_cons.mp ((hm b).mpr (List.mem_cons_self ..)) with hba | hb
          · exact hba.symm
          · exact absurd (Std.TransCmp.lt_trans (h.1 b hb) (h'.1 a ha)) (compare_self_ne_lt _)
      subst hab
      refine congrArg (a :: ·) (ih h.2 h'.2 fun e => ?_)
      constructor
      · intro he
        rcases List.mem_cons.mp ((hm e).mp (List.mem_cons_of_mem _ he)) with rfl | h₂
        · exact absurd (h.1 e he) (compare_self_ne_lt _)
        · exact h₂
      · intro he
        rcases List.mem_cons.mp ((hm e).mpr (List.mem_cons_of_mem _ he)) with rfl | h₂
        · exact absurd (h'.1 e he) (compare_self_ne_lt _)
        · exact h₂

end Operations

section Lookup

variable {α : Type u} {β : Type v} [Ord α] [DecidableEq α]

@[simp] theorem get?_empty (k : α) : (∅ : OrderedMap α β).get? k = none := rfl

theorem find?_insertEntry [Std.TransOrd α] [Std.LawfulEqOrd α] (key k : α) (value : β)
    {l : List (α × β)} (h : l.Pairwise fun a b => compare a.1 b.1 = .lt) :
    (insertEntry key value l).find? (fun e => e.1 = k) =
      if key = k then some (key, value) else l.find? (fun e => e.1 = k) := by
  induction l with
  | nil =>
    by_cases hk : key = k <;> simp [insertEntry, hk]
  | cons a l ih =>
    rw [List.pairwise_cons] at h
    unfold insertEntry
    split
    next => by_cases hk : key = k <;> simp [hk]
    next heq =>
      have ha : key = a.1 := Std.LawfulEqOrd.eq_of_compare heq
      by_cases hk : key = k
      · simp [hk]
      · have : a.1 ≠ k := fun h => hk (ha.trans h)
        simp [hk, this]
    next hgt =>
      have ha : key ≠ a.1 := by
        rintro rfl
        simp at hgt
      by_cases hk : a.1 = k
      · have : key ≠ k := fun h => ha (h.trans hk.symm)
        simp [hk, this]
      · simp only [List.find?_cons, hk, decide_false, ih h.2]

theorem get?_insert [Std.TransOrd α] [Std.LawfulEqOrd α] (m : OrderedMap α β) (key k : α)
    (value : β) : (m.insert key value).get? k = if key = k then some value else m.get? k := by
  unfold get? insert
  rw [find?_insertEntry key k value m.sorted]
  split <;> simp

theorem get?_erase (m : OrderedMap α β) (key k : α) :
    (m.erase key).get? k = if key = k then none else m.get? k := by
  unfold get? erase
  simp only [List.find?_filter]
  by_cases hk : key = k
  · subst hk
    have : m.entries.find? (fun e => decide (e.1 ≠ key) && decide (e.1 = key)) = none := by
      refine List.find?_eq_none.mpr fun e _ => ?_
      by_cases h : e.1 = key <;> simp [h]
    simp
  · rw [if_neg hk]
    congr 2
    funext e
    by_cases h : e.1 = k
    · have : k ≠ key := fun h' => hk h'.symm
      simp [h, this]
    · simp [h]

theorem mem_entries_of_get? {m : OrderedMap α β} {k : α} {v : β} (h : m.get? k = some v) :
    (k, v) ∈ m.entries := by
  unfold get? at h
  obtain ⟨e, he, rfl⟩ := Option.map_eq_some_iff.mp h
  have hk := List.find?_some he
  simp only [decide_eq_true_eq] at hk
  exact hk ▸ List.mem_of_find?_eq_some he

theorem find?_of_mem [Std.TransOrd α] {l : List (α × β)}
    (h : l.Pairwise fun a b => compare a.1 b.1 = .lt) {e : α × β} (he : e ∈ l) :
    l.find? (fun a => a.1 = e.1) = some e := by
  induction l with
  | nil => cases he
  | cons a l ih =>
    rw [List.pairwise_cons] at h
    rcases List.mem_cons.mp he with rfl | he
    · simp
    · have hlt := h.1 e he
      have hne : a.1 ≠ e.1 := by
        intro hk
        rw [hk] at hlt
        simp at hlt
      simp [hne, ih h.2 he]

theorem get?_eq_some_iff [Std.TransOrd α] {m : OrderedMap α β} {k : α} {v : β} :
    m.get? k = some v ↔ (k, v) ∈ m.entries := by
  refine ⟨mem_entries_of_get?, fun h => ?_⟩
  unfold get?
  rw [find?_of_mem m.sorted h]
  rfl

theorem contains_eq_isSome_get? (m : OrderedMap α β) (k : α) :
    m.contains k = (m.get? k).isSome := by
  unfold contains get?
  rw [Option.isSome_map, Bool.eq_iff_iff, List.any_eq_true, List.find?_isSome]

theorem mem_keys_iff [Std.TransOrd α] {m : OrderedMap α β} {k : α} :
    k ∈ m.keys ↔ (m.get? k).isSome := by
  unfold keys
  rw [List.mem_map]
  constructor
  · rintro ⟨e, he, rfl⟩
    rw [get?_eq_some_iff.mpr he]
    rfl
  · intro h
    obtain ⟨v, hv⟩ := Option.isSome_iff_exists.mp h
    exact ⟨(k, v), get?_eq_some_iff.mp hv, rfl⟩

theorem ext_get? [Std.TransOrd α] {m n : OrderedMap α β} (h : ∀ k, m.get? k = n.get? k) :
    m = n :=
  ext_entries (eq_of_mem_iff m.sorted n.sorted fun e => by
    rw [← get?_eq_some_iff (k := e.1) (v := e.2), ← get?_eq_some_iff (k := e.1) (v := e.2), h])

theorem get?_foldl_insert [Std.TransOrd α] [Std.LawfulEqOrd α] (pairs : List (α × β))
    (m : OrderedMap α β) (k : α) :
    (pairs.foldl (fun m e => m.insert e.1 e.2) m).get? k =
      ((pairs.reverse.find? fun e => e.1 = k).map (·.2)).or (m.get? k) := by
  induction pairs generalizing m with
  | nil => simp
  | cons e pairs ih =>
    rw [List.foldl_cons, ih, get?_insert, List.reverse_cons, List.find?_append]
    cases pairs.reverse.find? (fun e => e.1 = k) with
    | some a => simp
    | none => by_cases hk : e.1 = k <;> simp [hk]

theorem get?_ofList [Std.TransOrd α] [Std.LawfulEqOrd α] (pairs : List (α × β)) (k : α) :
    (ofList pairs).get? k = (pairs.reverse.find? fun e => e.1 = k).map (·.2) := by
  unfold ofList
  rw [get?_foldl_insert]
  exact Option.or_none

end Lookup

end OrderedMap

end TopicTable
