import Mathlib.Data.List.TakeWhile
import TopicTable.Text.Basic

/-! What trimming and splitting leave of a text. Trimmed text has no white space at its ends, and
an entry of a list holds none of the characters that separate entries. What was taken away can be
put back: a text is what is trimmed with white space around it, or its pieces joined. -/

namespace TopicTable.Text

/-- No white space at either end. -/
structure Trimmed (s : String) : Prop where
  start : ∀ c, s.toList.head? = some c → Unicode.isWhiteSpace c = false
  stop : ∀ c, s.toList.getLast? = some c → Unicode.isWhiteSpace c = false

theorem head_dropWhile {p : Char → Bool} {cs : List Char} {c : Char}
    (h : (cs.dropWhile p).head? = some c) : p c = false := by
  have hnot := List.head?_dropWhile_not p cs
  rw [h] at hnot
  exact hnot

/-- Dropping from the front keeps the last character of what is left. -/
theorem getLast_dropWhile {p : Char → Bool} {cs : List Char} {c : Char}
    (h : (cs.dropWhile p).getLast? = some c) : cs.getLast? = some c := by
  obtain ⟨dropped, hcs⟩ := List.dropWhile_suffix p (l := cs)
  rw [← hcs, List.getLast?_append, h, Option.some_or]

theorem trimmed_trim (s : String) : Trimmed (trim s) := by
  unfold trim trimChars
  constructor
  · intro c hc
    rw [String.toList_ofList, List.head?_reverse] at hc
    have hlast := getLast_dropWhile hc
    rw [List.getLast?_reverse] at hlast
    exact head_dropWhile hlast
  · intro c hc
    rw [String.toList_ofList, List.getLast?_reverse] at hc
    exact head_dropWhile hc

theorem dropWhile_of_head {p : Char → Bool} {cs : List Char}
    (h : ∀ c, cs.head? = some c → p c = false) : cs.dropWhile p = cs := by
  cases cs with
  | nil => rfl
  | cons c cs => rw [List.dropWhile_cons_of_neg (by simp [h c rfl])]

/-- White space around what has none at its ends is trimmed. -/
theorem trim_around {before core after : String} (hbefore : isBlank before = true)
    (hcore : Trimmed core) (hafter : isBlank after = true) :
    trim (before ++ core ++ after) = core := by
  have hbefore := List.all_eq_true.mp hbefore
  have hafter := List.all_eq_true.mp hafter
  have hfront : (before.toList ++ (core.toList ++ after.toList)).dropWhile Unicode.isWhiteSpace =
      (core.toList ++ after.toList).dropWhile Unicode.isWhiteSpace :=
    List.dropWhile_append_of_pos hbefore
  have hback : ((core.toList ++ after.toList).reverse.dropWhile Unicode.isWhiteSpace).reverse =
      core.toList := by
    have hlast : ∀ c, core.toList.reverse.head? = some c → Unicode.isWhiteSpace c = false := by
      intro c hc
      rw [List.head?_reverse] at hc
      exact hcore.stop c hc
    rw [List.reverse_append, List.dropWhile_append_of_pos fun c hc =>
      hafter c (List.mem_reverse.mp hc), dropWhile_of_head hlast, List.reverse_reverse]
  have hchars : trimChars (before ++ core ++ after).toList = core.toList := by
    rw [trimChars, String.toList_append, String.toList_append, List.append_assoc, hfront]
    cases hcs : core.toList with
    | nil =>
      rw [List.nil_append, List.dropWhile_eq_nil_iff.mpr hafter]
      rfl
    | cons c cs =>
      have hhead : ∀ d, (c :: cs ++ after.toList).head? = some d →
          Unicode.isWhiteSpace d = false := fun d hd => hcore.start d (by rw [hcs]; exact hd)
      rw [hcs] at hback
      rw [dropWhile_of_head hhead, hback]
  rw [trim, hchars, String.ofList_toList]

@[simp] theorem isBlank_append (s t : String) : isBlank (s ++ t) = (isBlank s && isBlank t) := by
  rw [isBlank, String.toList_append, List.all_append]
  rfl

theorem isBlank_ofList {cs : List Char} (h : ∀ c ∈ cs, Unicode.isWhiteSpace c = true) :
    isBlank (String.ofList cs) = true := by
  rw [isBlank, String.toList_ofList]
  exact List.all_eq_true.mpr h

/-- Only white space is trimmed. -/
theorem around_trim (s : String) : ∃ before after, isBlank before = true ∧ isBlank after = true ∧
    s = before ++ trim s ++ after := by
  let p := Unicode.isWhiteSpace
  let rest := s.toList.dropWhile p
  refine ⟨.ofList (s.toList.takeWhile p), .ofList (rest.reverse.takeWhile p).reverse,
    isBlank_ofList (List.all_eq_true.mp List.all_takeWhile), isBlank_ofList fun c hc => ?_, ?_⟩
  · exact List.all_eq_true.mp List.all_takeWhile c (List.mem_reverse.mp hc)
  · have hback : trimChars s.toList ++ (rest.reverse.takeWhile p).reverse = rest := by
      rw [trimChars, ← List.reverse_append, List.takeWhile_append_dropWhile, List.reverse_reverse]
    apply String.toList_inj.mp
    rw [trim, String.toList_append, String.toList_append, String.toList_ofList,
      String.toList_ofList, String.toList_ofList, List.append_assoc, hback,
      List.takeWhile_append_dropWhile]

/-- A text that does not start with white space starts with the same character when trimmed. -/
theorem head_trim {s : String} {c : Char} (hc : Unicode.isWhiteSpace c = false)
    (h : s.toList.head? = some c) : (trim s).toList.head? = some c := by
  obtain ⟨before, after, hbefore, hafter, hs⟩ := around_trim s
  have hblank : ∀ t : String, isBlank t = true → t.toList.head? ≠ some c := by
    intro t ht hhead
    rw [List.all_eq_true.mp ht c (List.mem_of_head? hhead)] at hc
    cases hc
  rw [hs] at h
  simp only [String.toList_append, List.head?_append, Option.or_eq_some_iff] at h
  rcases h with (h | ⟨-, h⟩) | ⟨-, h⟩
  · exact absurd h (hblank before hbefore)
  · exact h
  · exact absurd h (hblank after hafter)

/-- A piece of a split holds no separator. -/
theorem splitOnP_piece {p : Char → Bool} {cs piece : List Char} (h : piece ∈ cs.splitOnP p) :
    ∀ c ∈ piece, p c = false := by
  induction cs generalizing piece with
  | nil =>
    rw [List.splitOnP_nil, List.mem_singleton] at h
    subst h
    simp
  | cons d cs ih =>
    rw [List.splitOnP_cons_eq_if_modifyHead] at h
    split at h
    · rcases List.mem_cons.mp h with rfl | h
      · simp
      · exact ih h
    next hd =>
      obtain ⟨first, rest, hsplit⟩ := List.exists_cons_of_ne_nil (List.splitOnP_ne_nil p cs)
      rw [hsplit] at h ih
      rw [List.modifyHead_cons] at h
      rcases List.mem_cons.mp h with rfl | h
      · intro c hc
        rcases List.mem_cons.mp hc with rfl | hc
        · simpa using hd
        · exact ih (List.mem_cons_self ..) c hc
      · exact ih (List.mem_cons_of_mem _ h)

theorem splitOnceChars_iff {separator : Char} {cs left right : List Char} :
    splitOnceChars? separator cs = some (left, right) ↔
      cs = left ++ separator :: right ∧ separator ∉ left := by
  induction cs generalizing left with
  | nil => simp [splitOnceChars?]
  | cons c cs ih =>
    unfold splitOnceChars?
    by_cases hc : c = separator
    · subst hc
      cases left with
      | nil => simp [eq_comm]
      | cons d left =>
        simp only [if_true, Option.some.injEq, Prod.mk.injEq, reduceCtorEq, false_and, false_iff]
        rintro ⟨heq, hnot⟩
        exact hnot ((List.cons.inj heq).1 ▸ List.mem_cons_self ..)
    · rw [if_neg hc, Option.map_eq_some_iff]
      cases left with
      | nil => simp [hc]
      | cons d left =>
        simp only [Prod.exists, Prod.mk.injEq, List.cons.injEq, List.cons_append, List.mem_cons]
        constructor
        · rintro ⟨l, r, hsplit, ⟨rfl, rfl⟩, rfl⟩
          obtain ⟨hcs, hnot⟩ := ih.mp hsplit
          exact ⟨⟨rfl, hcs⟩, by simp [hnot, Ne.symm hc]⟩
        · rintro ⟨⟨rfl, hcs⟩, hnot⟩
          exact ⟨left, right, ih.mpr ⟨hcs, fun h => hnot (.inr h)⟩, ⟨rfl, rfl⟩, rfl⟩

theorem splitOnce_iff {separator : Char} {s left right : String} :
    splitOnce? separator s = some (left, right) ↔
      s = left ++ String.singleton separator ++ right ∧ separator ∉ left.toList := by
  have hchars : splitOnce? separator s = some (left, right) ↔
      splitOnceChars? separator s.toList = some (left.toList, right.toList) := by
    unfold splitOnce?
    rw [Option.map_eq_some_iff]
    constructor
    · rintro ⟨⟨l, r⟩, hsplit, heq⟩
      cases heq
      rw [hsplit, String.toList_ofList, String.toList_ofList]
    · intro hsplit
      exact ⟨_, hsplit, by simp⟩
  rw [hchars, splitOnceChars_iff, ← String.toList_inj]
  simp

/-- A text is split into the pieces without the separator that it joins. -/
theorem splitAt_eq_iff {separator : Char} {s : String} {pieces : List String} :
    splitAt (· = separator) s = pieces ↔ pieces ≠ [] ∧
      (∀ piece ∈ pieces, separator ∉ piece.toList) ∧
      s = (String.singleton separator).intercalate pieces := by
  have hsplit : ∀ cs : List Char, cs.splitOnP (· = separator) = cs.splitOn separator := by
    intro cs
    rw [List.splitOn_eq_splitOnP]
    rfl
  unfold splitAt
  constructor
  · rintro rfl
    refine ⟨by simp [List.splitOnP_ne_nil], ?_, ?_⟩
    · intro piece hpiece hmem
      obtain ⟨cs, hcs, rfl⟩ := List.mem_map.mp hpiece
      rw [String.toList_ofList] at hmem
      simpa using splitOnP_piece hcs separator hmem
    · rw [← String.toList_inj, String.toList_intercalate, List.map_map, hsplit]
      simp [Function.comp_def, List.intercalate_splitOn]
  · rintro ⟨hne, hfree, rfl⟩
    rw [hsplit, String.toList_intercalate, String.toList_singleton, List.splitOn_intercalate]
    · simp [Function.comp_def]
    · intro cs hcs
      obtain ⟨piece, hpiece, rfl⟩ := List.mem_map.mp hcs
      exact hfree piece hpiece
    · simpa using hne

theorem mem_trim {s : String} {c : Char} (h : c ∈ (trim s).toList) : c ∈ s.toList := by
  unfold trim trimChars at h
  rw [String.toList_ofList, List.mem_reverse] at h
  have hreverse := (List.dropWhile_suffix _).subset h
  exact (List.dropWhile_suffix _).subset (List.mem_reverse.mp hreverse)

theorem isListSeparator_iff {c : Char} : isListSeparator c = true ↔ c = ';' ∨ c = ',' := by
  simp [isListSeparator]

/-- What a list can have for an entry. -/
structure IsEntry (s : String) : Prop where
  nonempty : s ≠ ""
  trimmed : Trimmed s
  whole : ∀ c ∈ s.toList, c ≠ ';' ∧ c ≠ ','

/-- The entries of a list option are not empty, trimmed and free of separators. -/
theorem mem_listEntries {s entry : String} (h : entry ∈ listEntries s) : IsEntry entry := by
  obtain ⟨hentry, hne⟩ := List.mem_filter.mp h
  obtain ⟨piece, hpiece, rfl⟩ := List.mem_map.mp hentry
  obtain ⟨cs, hcs, rfl⟩ := List.mem_map.mp hpiece
  refine ⟨by simpa using hne, trimmed_trim _, fun c hc => ?_⟩
  have hmem := mem_trim hc
  rw [String.toList_ofList] at hmem
  have hseparator := splitOnP_piece hcs c hmem
  rw [← Bool.not_eq_true, isListSeparator_iff, not_or] at hseparator
  exact hseparator

end TopicTable.Text
