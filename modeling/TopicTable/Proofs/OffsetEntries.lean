import TopicTable.Proofs.Entries
import TopicTable.Proofs.Numerals
import TopicTable.Proofs.Options
import TopicTable.Proofs.Outcome
import TopicTable.Topic.Startup

/-! The text of specific offsets, against the entries that it is made of. Each entry is read as what
it names and nothing else is accepted, the last entry of a partition counts, and a map is read back
from any of its printed forms. -/

namespace TopicTable.PartitionOffsets

open Text

/-- A label with what it stands for, and white space around both. -/
inductive Spaced (label content : String) : String → Prop where
  | mk (before gap after : String) (hbefore : isBlank before = true) (hgap : isBlank gap = true)
      (hafter : isBlank after = true) :
      Spaced label content (before ++ label ++ gap ++ content ++ after)

/-- A label with a literal for a number. -/
def Labelled (label : String) (n : Int) (s : String) : Prop :=
  ∃ literal : String, Literal literal.toList n ∧ Spaced label literal s

/-- The segment is an entry for a partition with its offset. The comma is its first. -/
def Names (segment : String) (p : Int32) (o : Int64) : Prop :=
  ∃ left right : String, segment = left ++ "," ++ right ∧ ',' ∉ left.toList ∧
    Labelled "partition:" p.toInt left ∧ Labelled "offset:" o.toInt right

/-- The segment is a printed entry, spaced in any way. -/
inductive Printed (p : Int32) (o : Int64) : String → Prop where
  | mk {left right : String} (hleft : Spaced "partition:" p.toInt.repr left)
      (hright : Spaced "offset:" o.toInt.repr right) : Printed p o (left ++ "," ++ right)

/-- The segments are the printed entries, with blank ones anywhere between them. -/
inductive Prints : List String → List (Int32 × Int64) → Prop where
  | nil : Prints [] []
  | blank {s : String} {segments : List String} {entries : List (Int32 × Int64)}
      (h : isBlank s = true) (rest : Prints segments entries) : Prints (s :: segments) entries
  | entry {s : String} {p : Int32} {o : Int64} {segments : List String}
      {entries : List (Int32 × Int64)} (h : Printed p o s) (rest : Prints segments entries) :
      Prints (s :: segments) ((p, o) :: entries)

/-- The text is the segments with semicolons between them, and none within. -/
structure Segments (raw : String) (segments : List String) : Prop where
  nonempty : segments ≠ []
  free : ∀ s ∈ segments, ';' ∉ s.toList
  joined : raw = ";".intercalate segments

/-- The last of the segments that name a partition says its offset. -/
def LastNamed (segments : List String) (p : Int32) (o : Int64) : Prop :=
  ∃ earlier segment later, segments = earlier ++ segment :: later ∧ Names segment p o ∧
    ∀ s ∈ later, ∀ o', ¬ Names s p o'

/-- No character of a literal is white space. -/
theorem not_white_of_literal {cs : List Char} {n : Int} (h : Literal cs n) :
    ∀ c ∈ cs, Unicode.isWhiteSpace c = false := by
  intro c hc
  rcases h.chars c hc with hdigit | rfl | rfl
  · exact not_white_of_isDigit hdigit
  · decide
  · decide

theorem trimmed_of_literal {literal : String} {n : Int} (h : Literal literal.toList n) :
    Trimmed literal where
  start c hc := not_white_of_literal h c (List.mem_of_head? hc)
  stop c hc := not_white_of_literal h c (List.mem_of_getLast? hc)

section Label

variable {label content s : String} {n : Int}

/-- What stands around a label and its content is white space, and so is what stands between. -/
theorem Spaced.trim_eq (h : Spaced label content s) (hlabel : Trimmed label) (hne : label ≠ "")
    (hcontent : Trimmed content) (hcontent_ne : content ≠ "") :
    ∃ gap, isBlank gap = true ∧ trim s = label ++ (gap ++ content) := by
  obtain ⟨before, gap, after, hbefore, hgap, hafter⟩ := h
  refine ⟨gap, hgap, ?_⟩
  have hcore : Trimmed (label ++ (gap ++ content)) := by
    constructor
    · intro c hc
      apply hlabel.start c
      rwa [String.toList_append, List.head?_append_of_ne_nil _ (by simpa using hne)] at hc
    · intro c hc
      apply hcontent.stop c
      rwa [String.toList_append, String.toList_append, ← List.append_assoc,
        List.getLast?_append_of_ne_nil _ (by simpa using hcontent_ne)] at hc
  have htext : before ++ label ++ gap ++ content ++ after =
      before ++ (label ++ (gap ++ content)) ++ after := by simp [String.append_assoc]
  rw [htext, trim_around hbefore hcore hafter]

/-- What is read after a label is a literal for it, spaced in any way. -/
theorem readLabelled_iff {α : Type} {read : String → Except IntegerFault α} {value : α}
    (hlabel : Trimmed label) (hne : label ≠ "")
    (hread : ∀ s, read s = .ok value ↔ Literal s.toList n) :
    readLabelled? label read s = some value ↔ Labelled label n s := by
  unfold readLabelled?
  simp only [Option.bind_eq_some_iff, stripPrefix_iff, Outcome.toOption_some_iff, hread]
  constructor
  · rintro ⟨rest, hrest, hliteral⟩
    obtain ⟨before, after, hbefore, hafter, hs⟩ := around_trim s
    obtain ⟨gap, behind, hgap, hbehind, htrimmed⟩ := around_trim rest
    refine ⟨trim rest, hliteral, ?_⟩
    have htext : s = before ++ label ++ gap ++ trim rest ++ (behind ++ after) := by
      rw [hrest] at hs
      rw [hs]
      conv_lhs => rw [htrimmed]
      simp only [String.append_assoc]
    rw [htext]
    exact .mk before gap _ hbefore hgap (by simp [hbehind, hafter])
  · rintro ⟨literal, hliteral, hspaced⟩
    have hliteral_ne : literal ≠ "" := fun h => hliteral.ne_nil (by rw [h]; rfl)
    obtain ⟨gap, hgap, htrim⟩ :=
      hspaced.trim_eq hlabel hne (trimmed_of_literal hliteral) hliteral_ne
    refine ⟨gap ++ literal, htrim, ?_⟩
    have hrest : trim (gap ++ literal ++ "") = literal :=
      trim_around hgap (trimmed_of_literal hliteral) rfl
    rw [String.append_empty] at hrest
    rwa [hrest]

end Label

/-- An entry is read as the partition and the offset that it names. -/
theorem readEntry_iff {segment : String} {p : Int32} {o : Int64} :
    readEntry? segment = some (p, o) ↔ Names segment p o := by
  have hpartition : ∀ left, readLabelled? "partition:" parseInt32 left = some p ↔
      Labelled "partition:" p.toInt left := fun left =>
    readLabelled_iff (by constructor <;> simp <;> decide) (by decide) fun _ => parseInt32_ok_iff
  have hoffset : ∀ right, readLabelled? "offset:" parseInt64 right = some o ↔
      Labelled "offset:" o.toInt right := fun right =>
    readLabelled_iff (by constructor <;> simp <;> decide) (by decide) fun _ => parseInt64_ok_iff
  unfold readEntry? Names
  simp only [Option.bind_eq_bind, Option.bind_eq_some_iff, Prod.exists, splitOnce_iff,
    Option.pure_def, Option.some.injEq, Prod.mk.injEq]
  constructor
  · rintro ⟨left, right, ⟨hsegment, hfirst⟩, p', hp, o', ho, rfl, rfl⟩
    exact ⟨left, right, hsegment, hfirst, (hpartition left).mp hp, (hoffset right).mp ho⟩
  · rintro ⟨left, right, hsegment, hfirst, hp, ho⟩
    exact ⟨left, right, ⟨hsegment, hfirst⟩, p, (hpartition left).mpr hp, o,
      (hoffset right).mpr ho, rfl, rfl⟩

theorem Names.not_blank {segment : String} {p : Int32} {o : Int64} (h : Names segment p o) :
    isBlank segment = false := by
  obtain ⟨left, right, rfl, -⟩ := h
  have hcomma : isBlank "," = false := by decide
  simp [hcomma]

theorem readEntry_blank {segment : String} (h : isBlank segment = true) :
    readEntry? segment = none := by
  rw [Option.eq_none_iff_forall_ne_some]
  rintro ⟨p, o⟩ hread
  rw [(readEntry_iff.mp hread).not_blank] at h
  cases h

section Parse

variable {raw : String} {segments : List String} {offsets : PartitionOffsets}

theorem segments_iff : Segments raw segments ↔ splitAt (· = ';') raw = segments := by
  rw [splitAt_eq_iff]
  exact ⟨fun ⟨hne, hfree, hjoined⟩ => ⟨hne, hfree, hjoined⟩,
    fun ⟨hne, hfree, hjoined⟩ => ⟨hne, hfree, hjoined⟩⟩

/-- What is accepted has an entry and beside its entries only blank segments, and all of its
entries are kept, in order. -/
theorem parse_ok_iff (h : Segments raw segments) : parse raw = .ok offsets ↔
    (∃ s ∈ segments, isBlank s = false) ∧
      (∀ s ∈ segments, isBlank s = false → ∃ e, readEntry? s = some e) ∧
      offsets = .ofList (segments.filterMap readEntry?) := by
  have hkept : (segments.filter fun s => !isBlank s).filterMap readEntry? =
      segments.filterMap readEntry? := by
    rw [List.filterMap_filter]
    refine List.filterMap_congr fun s _ => ?_
    cases hblank : isBlank s with
    | false => rfl
    | true => exact (readEntry_blank hblank).symm
  have hread : ∀ entries, (segments.filter fun s => !isBlank s).mapM readEntry? = some entries ↔
      (∀ s ∈ segments, isBlank s = false → ∃ e, readEntry? s = some e) ∧
        segments.filterMap readEntry? = entries := by
    intro entries
    rw [Outcome.mapM_some_iff, hkept]
    simp
  unfold parse
  rw [segments_iff.mp h]
  dsimp only
  constructor
  · intro hparse
    split at hparse
    next e es hentries =>
      cases hparse
      obtain ⟨hall, hentries⟩ := (hread _).mp hentries
      have he : e ∈ segments.filterMap readEntry? := hentries ▸ List.mem_cons_self ..
      obtain ⟨s, hs, hse⟩ := List.mem_filterMap.mp he
      have hblank : isBlank s = false := (readEntry_iff.mp hse).not_blank
      exact ⟨⟨s, hs, hblank⟩, hall, by rw [hentries]⟩
    · cases hparse
  · rintro ⟨⟨s, hs, hblank⟩, hall, rfl⟩
    obtain ⟨e, hse⟩ := hall s hs hblank
    have he : e ∈ segments.filterMap readEntry? := List.mem_filterMap.mpr ⟨s, hs, hse⟩
    rw [(hread _).mpr ⟨hall, rfl⟩]
    cases hentries : segments.filterMap readEntry? with
    | nil => simp [hentries] at he
    | cons e es => rfl

theorem parse_error {fault : TableError} (h : parse raw = .error fault) : fault = malformed raw := by
  unfold parse at h
  dsimp only at h
  split at h
  · cases h
  · cases h
    rfl

/-- The offset of a partition is that of the last segment that names it. -/
theorem get_ofList_iff {p : Int32} {o : Int64} :
    (OrderedMap.ofList (segments.filterMap readEntry?)).get? p = some o ↔
      LastNamed segments p o := by
  rw [OrderedMap.get?_ofList, Option.map_eq_some_iff]
  constructor
  · rintro ⟨⟨p', o'⟩, hfind, rfl⟩
    obtain ⟨hp, after, before, hentries, hafter⟩ := List.find?_eq_some_iff_append.mp hfind
    obtain rfl : p' = p := by simpa using hp
    have hordered : segments.filterMap readEntry? =
        before.reverse ++ (p', o') :: after.reverse := by
      rw [← List.reverse_reverse (segments.filterMap readEntry?), hentries]
      simp
    obtain ⟨first, last, rfl, -, hlast⟩ := List.filterMap_eq_append_iff.mp hordered
    obtain ⟨skipped, segment, later, rfl, -, hsegment, hlater⟩ :=
      List.filterMap_eq_cons_iff.mp hlast
    refine ⟨first ++ skipped, segment, later, by simp, readEntry_iff.mp hsegment, ?_⟩
    intro s hs o hnames
    have hmem : (p', o) ∈ after.reverse :=
      hlater ▸ List.mem_filterMap.mpr ⟨s, hs, readEntry_iff.mpr hnames⟩
    simpa using hafter _ (List.mem_reverse.mp hmem)
  · rintro ⟨earlier, segment, later, rfl, hsegment, hlater⟩
    refine ⟨(p, o), List.find?_eq_some_iff_append.mpr ⟨by simp, (later.filterMap readEntry?).reverse,
      (earlier.filterMap readEntry?).reverse, ?_, ?_⟩, rfl⟩
    · simp [readEntry_iff.mpr hsegment]
    · rintro ⟨p', o'⟩ hmem
      obtain ⟨s, hs, hread⟩ := List.mem_filterMap.mp (List.mem_reverse.mp hmem)
      have hother : p' ≠ p := fun hp => hlater s hs o' (readEntry_iff.mp (hp ▸ hread))
      simpa using hother

end Parse

section Print

/-- A character that is neither white space nor in the label or the content is not around them. -/
theorem Spaced.free {label content s : String} (h : Spaced label content s) {c : Char}
    (hc : Unicode.isWhiteSpace c = false) (hlabel : c ∉ label.toList)
    (hcontent : c ∉ content.toList) : c ∉ s.toList := by
  have hblank : ∀ t : String, isBlank t = true → c ∉ t.toList := by
    intro t ht hmem
    rw [List.all_eq_true.mp ht c hmem] at hc
    cases hc
  obtain ⟨before, gap, after, hbefore, hgap, hafter⟩ := h
  simp [hblank _ hbefore, hblank _ hgap, hblank _ hafter, hlabel, hcontent]

variable {segment : String} {p : Int32} {o : Int64} {segments : List String}
  {entries : List (Int32 × Int64)}

theorem Printed.names (h : Printed p o segment) : Names segment p o := by
  obtain ⟨hleft, hright⟩ := h
  have hcomma : ',' ∉ p.toInt.repr.toList := (literal_repr _).free (by decide)
  exact ⟨_, _, rfl, hleft.free (by decide) (by decide) hcomma, ⟨_, literal_repr _, hleft⟩, _,
    literal_repr _, hright⟩

theorem Printed.free (h : Printed p o segment) : ';' ∉ segment.toList := by
  obtain ⟨hleft, hright⟩ := h
  have hp : ';' ∉ p.toInt.repr.toList := (literal_repr _).free (by decide)
  have ho : ';' ∉ o.toInt.repr.toList := (literal_repr _).free (by decide)
  have hbefore := hleft.free (by decide) (by decide) hp
  have hafter := hright.free (by decide) (by decide) ho
  simp [hbefore, hafter]

theorem Prints.free (h : Prints segments entries) : ∀ s ∈ segments, ';' ∉ s.toList := by
  induction h with
  | nil => simp
  | blank hs _ ih =>
    refine List.forall_mem_cons.mpr ⟨fun hmem => ?_, ih⟩
    exact absurd (List.all_eq_true.mp hs ';' hmem) (by decide)
  | entry hs _ ih => exact List.forall_mem_cons.mpr ⟨hs.free, ih⟩

/-- The entries of what is printed are those that it prints. -/
theorem Prints.entries_eq (h : Prints segments entries) :
    segments.filterMap readEntry? = entries := by
  induction h with
  | nil => rfl
  | blank hs _ ih => rw [List.filterMap_cons_none (readEntry_blank hs), ih]
  | entry hs _ ih => rw [List.filterMap_cons_some (readEntry_iff.mpr hs.names), ih]

theorem Prints.readable (h : Prints segments entries) :
    ∀ s ∈ segments, isBlank s = false → ∃ e, readEntry? s = some e := by
  induction h with
  | nil => simp
  | blank hs _ ih =>
    refine List.forall_mem_cons.mpr ⟨fun hne => ?_, ih⟩
    rw [hs] at hne
    cases hne
  | entry hs _ ih =>
    exact List.forall_mem_cons.mpr ⟨fun _ => ⟨_, readEntry_iff.mpr hs.names⟩, ih⟩

/-- Entries that are printed are read back, the last one of each partition. -/
theorem Prints.parse_eq (h : Prints segments entries) (hne : entries ≠ []) :
    parse (";".intercalate segments) = .ok (.ofList entries) := by
  obtain ⟨⟨p, o⟩, he⟩ := List.exists_mem_of_ne_nil entries hne
  rw [← h.entries_eq] at he
  obtain ⟨s, hs, hread⟩ := List.mem_filterMap.mp he
  have hsegments : Segments (";".intercalate segments) segments :=
    ⟨List.ne_nil_of_mem hs, h.free, rfl⟩
  refine (parse_ok_iff hsegments).mpr ⟨⟨s, hs, (readEntry_iff.mp hread).not_blank⟩, h.readable, ?_⟩
  rw [h.entries_eq]

end Print

/-- What a text of specific offsets is read as, by its segments. -/
structure ReadExactly (raw : String) (segments : List String) : Prop where
  split : Segments raw segments
  accepted_iff : (∃ offsets, parse raw = .ok offsets) ↔ (∃ s ∈ segments, isBlank s = false) ∧
    ∀ s ∈ segments, isBlank s = false → ∃ p o, Names s p o
  last : ∀ offsets, parse raw = .ok offsets → ∀ p o,
    offsets.get? p = some o ↔ LastNamed segments p o
  refused : ∀ fault, parse raw = .error fault →
    fault = .invalidValue "scan.startup.specific-offsets"
      ("Invalid properties 'scan.startup.specific-offsets' should follow the format " ++
        "'partition:0,offset:42;partition:1,offset:300', but is '" ++ raw ++ "'.")

theorem Segments.readExactly {raw : String} {segments : List String} (h : Segments raw segments) :
    ReadExactly raw segments := by
  constructor
  · exact h
  · simp only [parse_ok_iff h, exists_and_left, exists_eq, and_true, Prod.exists, readEntry_iff]
  · intro offsets hparse p o
    obtain ⟨-, -, rfl⟩ := (parse_ok_iff h).mp hparse
    exact get_ofList_iff
  · intro fault hparse
    exact parse_error hparse

/-- Every text of specific offsets is read by its segments, each of them exactly, and every map that
is not empty is read back from its entries printed in any order, among blank segments and with white
space at every place that allows it. -/
theorem specific_offsets_exact : (∀ raw, ∃ segments, ReadExactly raw segments) ∧
    ∀ (offsets : PartitionOffsets) (entries : List (Int32 × Int64)) (segments : List String),
      offsets.entries ≠ [] → entries.Perm offsets.entries → Prints segments entries →
        parse (";".intercalate segments) = .ok offsets := by
  constructor
  · intro raw
    exact ⟨_, (segments_iff.mpr rfl).readExactly⟩
  · intro offsets entries segments hne hperm hprints
    have hentries : entries ≠ [] := fun hnil => hne (by rw [hnil] at hperm; exact hperm.nil_eq.symm)
    rw [hprints.parse_eq hentries, OrderedMap.ofList_of_perm hperm]

theorem spaced_offsets_read_back :
    parse " ;partition: 1 , offset:-5;;\tpartition:-2147483648,offset: 9223372036854775807\n" =
      .ok (.ofList [(-2147483648, 9223372036854775807), (1, -5)]) := by
  have hfirst : Printed 1 (-5) _ := .mk (.mk "" " " " " rfl rfl rfl) (.mk " " "" "" rfl rfl rfl)
  have hsecond : Printed (-2147483648) 9223372036854775807 _ :=
    .mk (.mk "\t" "" "" rfl rfl rfl) (.mk "" " " "\n" rfl rfl rfl)
  have hprints : Prints [" ", _, "", _] _ :=
    .blank rfl (.entry hfirst (.blank rfl (.entry hsecond .nil)))
  have hread := specific_offsets_exact.2
    (.ofList [(-2147483648, 9223372036854775807), (1, -5)]) _ _ (by decide) (by decide) hprints
  refine Eq.trans (congrArg parse ?_) hread
  decide +kernel

example : parse "partition:+0,offset:7;partition:0,offset:-7" = .ok (.ofList [(0, -7)]) := by
  decide +kernel

end TopicTable.PartitionOffsets
