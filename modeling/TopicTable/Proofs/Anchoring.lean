import TopicTable.Proofs.Resolution
import TopicTable.Proofs.TopicChoice
import TopicTable.Proofs.WordPatterns

/-! When a topic pattern matches whole names. The anchors are put around a source as text, so the
source stands inside a group that it did not open itself. Three kinds of sources break out: a
comment that is left open swallows the closing, a parenthesis of the source closes the group, and
a source at a limit of the library no longer fits with the group and the anchors around it. -/

namespace TopicTable.TopicPattern

open Outcome PatternLanguage Piece

theorem anchored_eq_row (source : String) :
    anchored source = row [.start, .group source, .stop] := by
  apply String.toList_inj.mp
  simp [anchored, row, Piece.text]

theorem anchored_eq_opened (source : String) :
    anchored source = row [.start] ++ "(?:" ++ (source ++ ")$") := by
  apply String.toList_inj.mp
  simp [anchored, row, Piece.text]

theorem anchored_split (x y : String) : anchored (x ++ ")|(" ++ y) =
    alternatives [.start, .group x] [[.capture y, .stop]] := by
  apply String.toList_inj.mp
  simp [anchored, alternatives, row, Piece.text]

/-- Where a parenthesis can stand in a source with the closing behind it. -/
theorem closing_split {source body after : String} (h : source ++ ")$" = body ++ ")" ++ after) :
    source = body ∨ ∃ rest, source = body ++ ")" ++ rest := by
  have hchars : source.toList ++ [')', '$'] = body.toList ++ ')' :: after.toList := by
    simpa using congrArg String.toList h
  rcases List.append_eq_append_iff.mp hchars with ⟨mid, hbody, hmid⟩ | ⟨mid, hsource, hmid⟩
  · left
    have hmid : mid = [] := by
      rcases mid with _ | ⟨c, _ | ⟨d, mid⟩⟩ <;> simp_all
    rw [hmid, List.append_nil] at hbody
    exact String.toList_inj.mp hbody.symm
  · rcases mid with _ | ⟨c, mid⟩
    · left
      rw [List.append_nil] at hsource
      exact String.toList_inj.mp hsource
    · right
      obtain ⟨rfl, -⟩ := List.cons.inj hmid
      refine ⟨String.ofList mid, ?_⟩
      apply String.toList_inj.mp
      simpa using hsource

/-- The pattern of a resolved table comes from its option. -/
theorem parsed_of_source {r : Resolver} {table : TableDefinition} {spec : SourceSpec}
    {p : TopicPattern} (h : r.source table = .ok spec) (hp : spec.topics = .pattern p) :
    parse r.compile p.source = .ok p := by
  obtain ⟨run⟩ := Resolver.source_run h
  have htopics := run.topics_ok
  have hspec : run.topics = .pattern p := (congrArg SourceSpec.topics run.spec_eq).symm.trans hp
  rw [hspec] at htopics
  cases TopicSelection.ofOptions_eq_iff.mp htopics with
  | pattern _ _ _ hcompiled => exact parse_ok_iff.mpr ⟨rfl, hcompiled⟩

variable {compile : PatternCompiler} {L : PatternLanguage}

/-- The source ends in an open comment: a parenthesis behind it changes nothing. -/
def LeavesComment (L : PatternLanguage) (source : String) : Prop :=
  L.WellFormed (source ++ ")")

/-- A parenthesis of the source closes a group that the source has not opened. -/
def LeavesGroup (L : PatternLanguage) (source : String) : Prop :=
  ∃ body rest, source = body ++ ")" ++ rest ∧ L.Closed body

/-- What a topic pattern is meant to do with a source. -/
structure MatchesWholeNames (compile : PatternCompiler) (L : PatternLanguage) (source : String) :
    Prop where
  accepts_iff : (∃ p, parse compile source = .ok p) ↔ L.Valid source
  matches_iff : ∀ p, parse compile source = .ok p → ∀ topic,
    p.isMatch topic = true ↔ L.Denotes source topic
  includes_iff : ∀ (r : Resolver) (table : TableDefinition) (spec : SourceSpec) (p : TopicPattern),
    r.compile = compile → r.source table = .ok spec → spec.topics = .pattern p →
      p.source = source → ∀ topic,
        spec.topics.includes topic = true ↔ L.Denotes source topic

/-- The sources that anchoring by text leaves intact. -/
structure Anchorable (compile : PatternCompiler) (L : PatternLanguage) (source : String) :
    Prop where
  comment_closed : L.Valid source → ¬ LeavesComment L source
  fits : L.Valid source → L.Fits (anchored source)
  group_kept : LeavesGroup L source → ∀ p, parse compile source ≠ .ok p

section Documented

variable (docs : Documented compile L) {source : String}

include docs

theorem accepts_iff_valid :
    (∃ p, parse compile source = .ok p) ↔ L.Valid (anchored source) := by
  rw [← docs.compiles_iff]
  constructor
  · rintro ⟨p, hp⟩
    exact ⟨p.found, (parse_ok_iff.mp hp).2⟩
  · rintro ⟨found, h⟩
    exact ⟨⟨source, found⟩, parse_ok_iff.mpr ⟨rfl, h⟩⟩

/-- What anchoring makes of an expression that ends outside of comments. -/
theorem anchored_of_closed (h : L.Closed source) : L.WellFormed (anchored source) ∧
    ∀ topic, (∃ i j, L.Spans (anchored source) topic i j) ↔ L.Denotes source topic := by
  have hwhole : ∀ qs ∈ [[.start, .group source, .stop]], ∀ q ∈ qs, Whole L q := by
    simpa [Whole] using h
  have hnames : ([[.start, .group source, .stop]].flatMap fun qs =>
      qs.flatMap (Piece.names L)).Nodup := by
    simpa [Piece.names] using docs.names_nodup source h.wellFormed
  obtain ⟨hformed, hspans⟩ := docs.composed _ [] hwhole hnames
  rw [alternatives, ← anchored_eq_row] at hformed hspans
  refine ⟨hformed, fun topic => ?_⟩
  simp only [hspans, List.mem_singleton, exists_eq_left, RowSpans, Piece.Spans]
  constructor
  · rintro ⟨_, _, _, ⟨-, rfl⟩, _, hbody, _, ⟨rfl, rfl⟩, -⟩
    exact hbody
  · intro hbody
    exact ⟨0, _, 0, ⟨rfl, rfl⟩, _, hbody, _, ⟨rfl, rfl⟩, rfl, Nat.le_refl _⟩

/-- Anchoring makes an expression of a source only if it was one, or closes the group around it. -/
theorem closed_of_anchored (h : L.WellFormed (anchored source)) :
    L.Closed source ∨ LeavesGroup L source := by
  rw [anchored_eq_opened] at h
  obtain ⟨body, after, hsplit, hbody⟩ := docs.group_body _ _ (by simp [Whole]) h
  rcases closing_split hsplit with rfl | ⟨rest, hrest⟩
  · exact Or.inl hbody
  · exact Or.inr ⟨body, rest, hrest, hbody⟩

theorem not_wellFormed_of_leavesGroup (h : LeavesGroup L source) : ¬ L.WellFormed source := by
  obtain ⟨body, rest, rfl, hbody⟩ := h
  exact docs.unopened body rest hbody

/-- Which valid sources are accepted. -/
theorem accepts_valid_iff (hvalid : L.Valid source) : (∃ p, parse compile source = .ok p) ↔
    ¬ LeavesComment L source ∧ L.Fits (anchored source) := by
  rw [accepts_iff_valid docs]
  constructor
  · intro h
    refine ⟨?_, h.fits⟩
    rcases closed_of_anchored docs h.wellFormed with hclosed | hleaves
    · exact hclosed.unopened
    · exact absurd hvalid.wellFormed (not_wellFormed_of_leavesGroup docs hleaves)
  · rintro ⟨hcomment, hfits⟩
    exact ⟨(anchored_of_closed docs ⟨hvalid.wellFormed, hcomment⟩).1, hfits⟩

/-- An accepted source that keeps to its group is valid, and its pattern matches what it denotes. -/
theorem matches_of_accepted {p : TopicPattern} (hp : parse compile source = .ok p)
    (hkept : ¬ LeavesGroup L source) :
    L.Valid source ∧ ∀ topic, p.isMatch topic = true ↔ L.Denotes source topic := by
  have hanchored := (accepts_iff_valid docs).mp ⟨p, hp⟩
  have hclosed : L.Closed source :=
    (closed_of_anchored docs hanchored.wellFormed).resolve_right hkept
  have hfits : L.Fits source := by
    rw [anchored_eq_row] at hanchored
    exact docs.body_fits _ source (by simpa [Whole] using hclosed) hanchored (by simp)
  refine ⟨⟨hclosed.wellFormed, hfits⟩, fun topic => ?_⟩
  have hfound := docs.found_iff _ _ (parse_ok_iff.mp hp).2 topic
  exact hfound.trans ((anchored_of_closed docs hclosed).2 topic)

/-- Two expressions with a parenthesis between them that closes the group and one that opens
another: the anchors end up on different sides of an alternative. -/
theorem matches_parts {x y : String} (hx : L.Closed x) (hy : L.Closed y)
    (hnames : (L.names x ++ L.names y).Nodup) (hfits : L.Fits (anchored (x ++ ")|(" ++ y))) :
    ∃ p, parse compile (x ++ ")|(" ++ y) = .ok p ∧ ∀ topic, p.isMatch topic = true ↔
      (∃ j ≤ topic.length, L.Spans x topic 0 j) ∨ ∃ i, L.Spans y topic i topic.length := by
  have hwhole : ∀ qs ∈ [[.start, .group x], [.capture y, .stop]], ∀ q ∈ qs, Whole L q := by
    simpa [Whole] using ⟨hx, hy⟩
  have hdistinct : ([[.start, .group x], [.capture y, .stop]].flatMap fun qs =>
      qs.flatMap (Piece.names L)).Nodup := by
    simpa [Piece.names] using hnames
  obtain ⟨hformed, hspans⟩ := docs.composed _ [[.capture y, .stop]] hwhole hdistinct
  rw [← anchored_split] at hformed hspans
  obtain ⟨p, hp⟩ := (accepts_iff_valid docs).mpr ⟨hformed, hfits⟩
  refine ⟨p, hp, fun topic => ?_⟩
  rw [isMatch, docs.found_iff _ _ (parse_ok_iff.mp hp).2 topic]
  simp only [hspans, List.mem_cons, List.not_mem_nil, or_false, exists_eq_or_imp, exists_eq_left,
    RowSpans, Piece.Spans]
  constructor
  · rintro ⟨i, j, ⟨_, ⟨-, rfl⟩, _, hbody, rfl, hj⟩ | ⟨_, hbody, _, ⟨rfl, rfl⟩, -⟩⟩
    · exact Or.inl ⟨_, hj, hbody⟩
    · exact Or.inr ⟨_, hbody⟩
  · rintro (⟨j, hj, hbody⟩ | ⟨i, hbody⟩)
    · exact ⟨0, j, Or.inl ⟨0, ⟨rfl, rfl⟩, j, hbody, rfl, hj⟩⟩
    · exact ⟨i, _, Or.inr ⟨_, hbody, _, ⟨rfl, rfl⟩, rfl, Nat.le_refl _⟩⟩

end Documented

end TopicTable.TopicPattern
