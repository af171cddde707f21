import TopicTable.Options.Value
import TopicTable.Proofs.Entries

/-! The text of a list option against the entries that it lists. However entries are joined, with
the two separators mixed and with separators and white space to spare, they are read back in order,
and every text joins what it is read as in one of these ways. A separator parts a text into two that
are read each on its own; the rest follows from that. -/

namespace TopicTable.Text

/-- The separators of entries. -/
def Separates (separator : String) : Prop := separator = ";" ∨ separator = ","

/-- What stands between two separators: an entry with white space around it, or white space. -/
inductive Piece : List String → String → Prop where
  | blank (gap : String) (h : isBlank gap = true) : Piece [] gap
  | entry (before entry after : String) (hbefore : isBlank before = true)
      (hafter : isBlank after = true) : Piece [entry] (before ++ entry ++ after)

/-- The text joins the entries, in order and each in a piece of its own. -/
inductive Joins : List String → String → Prop where
  | last {entries : List String} {piece : String} (h : Piece entries piece) : Joins entries piece
  | next {first entries : List String} {piece separator s : String} (h : Piece first piece)
      (hseparator : Separates separator) (rest : Joins entries s) :
      Joins (first ++ entries) (piece ++ separator ++ s)

/-- No separator occurs in the text. -/
def Unparted (s : String) : Prop := ∀ c ∈ s.toList, isListSeparator c = false

theorem Separates.exists_char {separator : String} (h : Separates separator) :
    ∃ c, isListSeparator c = true ∧ separator = String.singleton c := by
  rcases h with rfl | rfl
  · exact ⟨';', rfl, rfl⟩
  · exact ⟨',', rfl, rfl⟩

theorem separates_of_isListSeparator {c : Char} (h : isListSeparator c = true) :
    Separates (String.singleton c) := by
  rcases isListSeparator_iff.mp h with rfl | rfl
  · exact .inl rfl
  · exact .inr rfl

theorem not_white_of_isListSeparator {c : Char} (h : isListSeparator c = true) :
    Unicode.isWhiteSpace c = false := by
  rcases isListSeparator_iff.mp h with rfl | rfl
  · rfl
  · rfl

/-- A separator parts a text into two that are read each on its own. -/
theorem listEntries_parted {separator : String} (h : Separates separator) (left right : String) :
    listEntries (left ++ separator ++ right) = listEntries left ++ listEntries right := by
  obtain ⟨c, hc, rfl⟩ := h.exists_char
  have hchars : (left ++ String.singleton c ++ right).toList =
      left.toList ++ c :: right.toList := by simp
  unfold listEntries splitAt
  rw [hchars, List.splitOnP_append_cons _ _ hc, List.map_append, List.map_append,
    List.filter_append]

/-- A text without separators holds what is left of it when it is trimmed, if anything is. -/
theorem listEntries_unparted {s : String} (h : Unparted s) :
    listEntries s = [trim s].filter fun entry => entry ≠ "" := by
  have hone : s.toList.splitOnP isListSeparator = [s.toList] := by
    apply List.splitOnP_eq_singleton
    intro c hc
    simp [h c hc]
  unfold listEntries splitAt
  rw [hone, List.map_singleton, List.map_singleton, String.ofList_toList]

section Piece

variable {entries : List String} {s : String}

theorem unparted_empty : Unparted "" := by simp [Unparted]

theorem unparted_append {s t : String} : Unparted (s ++ t) ↔ Unparted s ∧ Unparted t := by
  unfold Unparted
  rw [String.toList_append, List.forall_mem_append]

theorem unparted_of_isBlank (h : isBlank s = true) : Unparted s := by
  intro c hc
  by_contra hseparator
  rw [Bool.not_eq_false] at hseparator
  have hwhite := List.all_eq_true.mp h c hc
  rw [not_white_of_isListSeparator hseparator] at hwhite
  cases hwhite

theorem IsEntry.unparted (h : IsEntry s) : Unparted s := by
  intro c hc
  rw [← Bool.not_eq_true, isListSeparator_iff, not_or]
  exact h.whole c hc

theorem trim_of_isBlank (h : isBlank s = true) : trim s = "" := by
  have htrim : trim (s ++ "" ++ "") = "" := trim_around h ⟨by simp, by simp⟩ rfl
  simpa using htrim

/-- A piece is read as the entry in it. -/
theorem Piece.listEntries_eq (h : Piece entries s) (hentries : ∀ entry ∈ entries, IsEntry entry) :
    listEntries s = entries := by
  cases h with
  | blank gap h =>
    rw [listEntries_unparted (unparted_of_isBlank h), trim_of_isBlank h]
    rfl
  | entry before entry after hbefore hafter =>
    have hentry : IsEntry entry := hentries entry (List.mem_singleton_self entry)
    have hunparted : Unparted (before ++ entry ++ after) := by
      rw [unparted_append, unparted_append]
      exact ⟨⟨unparted_of_isBlank hbefore, hentry.unparted⟩, unparted_of_isBlank hafter⟩
    rw [listEntries_unparted hunparted, trim_around hbefore hentry.trimmed hafter]
    simp [hentry.nonempty]

/-- A text without separators is a piece around what it is read as. -/
theorem piece_of_unparted (h : Unparted s) : Piece (listEntries s) s := by
  rw [listEntries_unparted h]
  obtain ⟨before, after, hbefore, hafter, hs⟩ := around_trim s
  by_cases hempty : trim s = ""
  · rw [hempty] at hs ⊢
    apply Piece.blank
    rw [hs, isBlank_append, isBlank_append, hbefore, hafter]
    rfl
  · have hpiece := Piece.entry before (trim s) after hbefore hafter
    rw [← hs] at hpiece
    simpa [hempty] using hpiece

end Piece

section Joins

variable {entries : List String} {s : String}

/-- Entries are read back from whatever joins them. -/
theorem Joins.listEntries_eq (h : Joins entries s) (hentries : ∀ entry ∈ entries, IsEntry entry) :
    listEntries s = entries := by
  induction h with
  | last h => exact h.listEntries_eq hentries
  | next h hseparator _ ih =>
    obtain ⟨hfirst, hrest⟩ := List.forall_mem_append.mp hentries
    rw [listEntries_parted hseparator, h.listEntries_eq hfirst, ih hrest]

/-- The induction takes characters into the piece that stands first, until a separator ends it. -/
theorem joins_behind (cs : List Char) {piece : String} (h : Unparted piece) :
    Joins (listEntries (piece ++ String.ofList cs)) (piece ++ String.ofList cs) := by
  induction cs generalizing piece with
  | nil =>
    rw [String.ofList_nil, String.append_empty]
    exact .last (piece_of_unparted h)
  | cons c cs ih =>
    have hsplit : piece ++ String.ofList (c :: cs) =
        piece ++ String.singleton c ++ String.ofList cs := by
      rw [← String.toList_inj]
      simp
    rw [hsplit]
    by_cases hc : isListSeparator c = true
    · have hseparator := separates_of_isListSeparator hc
      have hrest := ih unparted_empty
      rw [String.empty_append] at hrest
      rw [listEntries_parted hseparator]
      exact .next (piece_of_unparted h) hseparator hrest
    · apply ih
      rw [unparted_append]
      exact ⟨h, by simpa [Unparted] using hc⟩

/-- Every text joins what it is read as. -/
theorem joins_listEntries (s : String) : Joins (listEntries s) s := by
  have hwhole := joins_behind s.toList unparted_empty
  rwa [String.empty_append, String.ofList_toList] at hwhole

/-- A text is read as the entries that it joins, and as no others. -/
theorem listEntries_eq_iff : listEntries s = entries ↔
    (∀ entry ∈ entries, IsEntry entry) ∧ Joins entries s := by
  constructor
  · rintro rfl
    exact ⟨fun _ => mem_listEntries, joins_listEntries s⟩
  · rintro ⟨hentries, h⟩
    exact h.listEntries_eq hentries

end Joins

/-- A list option is never refused. What it holds are entries; these are read back in order from
whatever joins them, which is every text that is read as them; and a separator parts the text into
two that are read each on its own. -/
theorem lists_in_normal_form :
    (∀ raw, ∃ entries : List String, OptionValue.parse raw = Except.ok entries) ∧
      (∀ (raw : String) (entries : List String), OptionValue.parse raw = Except.ok entries ↔
        (∀ entry ∈ entries, IsEntry entry) ∧ Joins entries raw) ∧
      ∀ left right separator : String, Separates separator →
        (OptionValue.parse (left ++ separator ++ right) : Except String (List String)) = (do
          let first : List String ← OptionValue.parse left
          let second : List String ← OptionValue.parse right
          pure (first ++ second)) := by
  refine ⟨fun raw => ⟨_, rfl⟩, ?_, ?_⟩
  · intro raw entries
    rw [← listEntries_eq_iff]
    constructor
    · intro h
      exact Except.ok.inj h
    · intro h
      exact congrArg Except.ok h
  · intro left right separator h
    exact congrArg Except.ok (listEntries_parted h left right)

theorem mixed_list_read_back :
    OptionValue.parse " ;a b,,\tc ;" = Except.ok ["a b", "c"] ∧
      (OptionValue.parse " ;a b,,\tc ;" : Except String (List String)) = (do
        let first : List String ← OptionValue.parse " ;a b,"
        let second : List String ← OptionValue.parse "\tc ;"
        pure (first ++ second)) := by
  have hentries : ∀ entry ∈ ["a b", "c"], IsEntry entry := by
    intro entry hentry
    have hlisted : listEntries "a b;c" = ["a b", "c"] := by decide +kernel
    rw [← hlisted] at hentry
    exact mem_listEntries hentry
  have hjoins : Joins ["a b", "c"] " ;a b,,\tc ;" :=
    .next (.blank " " rfl) (.inl rfl) (.next (.entry "" "a b" "" rfl rfl) (.inr rfl)
      (.next (.blank "" rfl) (.inr rfl) (.next (.entry "\t" "c" " " rfl rfl) (.inl rfl)
        (.last (.blank "" rfl)))))
  exact ⟨(lists_in_normal_form.2.1 _ _).mpr ⟨hentries, hjoins⟩,
    lists_in_normal_form.2.2 " ;a b," "\tc ;" "," (.inr rfl)⟩

end TopicTable.Text
