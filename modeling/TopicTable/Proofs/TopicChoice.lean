import TopicTable.Proofs.Settings
import TopicTable.Sample.Words

/-! Which topics the two topic options choose. They exclude each other, but both are read before
that is noticed, so a pattern that cannot be compiled is reported in place of the conflict. What
can be compiled, and with what message the rest is refused, is up to the library of regular
expressions. -/

namespace TopicTable.TopicSelection

open Outcome

/-- The ways for a choice of topics to end. -/
inductive ChoiceEnds (compile : PatternCompiler) (options : OptionMap) :
    Except TableError TopicSelection → Prop where
  | refused (source message : String)
      (set : options.get? Catalogue.topicPattern.key = some source)
      (h : compile (TopicPattern.anchored source) = .error message) :
      ChoiceEnds compile options (.error (.invalidValue Catalogue.topicPattern.key
        ("Invalid value for option '" ++ Catalogue.topicPattern.key ++ "': " ++
          ("invalid topic pattern '" ++ source ++ "': " ++ message))))
  | conflict (raw : String) (p : TopicPattern)
      (listed : options.get? Catalogue.topic.key = some raw)
      (set : options.get? Catalogue.topicPattern.key = some p.source)
      (h : compile (TopicPattern.anchored p.source) = .ok p.found) :
      ChoiceEnds compile options
        (.error (.exclusive Catalogue.topic.key Catalogue.topicPattern.key))
  | pattern (p : TopicPattern) (unlisted : options.get? Catalogue.topic.key = none)
      (set : options.get? Catalogue.topicPattern.key = some p.source)
      (h : compile (TopicPattern.anchored p.source) = .ok p.found) :
      ChoiceEnds compile options (.ok (.pattern p))
  | topics (raw : String) (listed : options.get? Catalogue.topic.key = some raw)
      (unset : options.get? Catalogue.topicPattern.key = none) (h : Text.listEntries raw ≠ []) :
      ChoiceEnds compile options (.ok (.topics (Text.listEntries raw)))
  | missing (unset : options.get? Catalogue.topicPattern.key = none)
      (h : ∀ raw, options.get? Catalogue.topic.key = some raw → Text.listEntries raw = []) :
      ChoiceEnds compile options
        (.error (.missing [Catalogue.topic.key, Catalogue.topicPattern.key]
          "Either 'topic' or 'topic-pattern' must be set."))

/-- Topics by name and by pattern at once are a conflict, whatever the options hold. -/
def ConflictFirst (compile : PatternCompiler) (options : OptionMap) : Prop :=
  ∀ raw source, options.get? Catalogue.topic.key = some raw →
    options.get? Catalogue.topicPattern.key = some source →
      ofOptions compile options =
        .error (.exclusive Catalogue.topic.key Catalogue.topicPattern.key)

variable {compile : PatternCompiler} {options : OptionMap}

/-- A list of topics is always read. -/
theorem read_topic (options : OptionMap) : options.read? Catalogue.topic =
    .ok ((options.get? Catalogue.topic.key).map Text.listEntries) := by
  unfold OptionMap.read?
  cases options.get? Catalogue.topic.key <;> rfl

theorem readPattern_error {source message : String}
    (hset : options.get? Catalogue.topicPattern.key = some source)
    (h : compile (TopicPattern.anchored source) = .error message) :
    readPattern? compile options = .error (.invalidValue Catalogue.topicPattern.key
      ("Invalid value for option '" ++ Catalogue.topicPattern.key ++ "': " ++
        ("invalid topic pattern '" ++ source ++ "': " ++ message))) := by
  let := TopicPattern.optionValue compile
  have hreason : (OptionValue.parse source : Except String TopicPattern) =
      .error (TopicPattern.refusal source message) := TopicPattern.parse_error_iff.mpr ⟨_, h, rfl⟩
  unfold readPattern? OptionMap.read? DeclaredOption.parse
  rw [hset]
  dsimp only
  rw [hreason]
  rfl

/-- However the options are set, one of the ways is open. -/
theorem exists_choiceEnds (compile : PatternCompiler) (options : OptionMap) :
    ∃ result, ChoiceEnds compile options result := by
  cases hpattern : options.get? Catalogue.topicPattern.key with
  | none =>
    by_cases hlisted : ∃ raw, options.get? Catalogue.topic.key = some raw ∧
        Text.listEntries raw ≠ []
    · obtain ⟨raw, htopic, hentries⟩ := hlisted
      exact ⟨_, .topics raw htopic hpattern hentries⟩
    · refine ⟨_, .missing hpattern fun raw htopic => ?_⟩
      by_contra hentries
      exact hlisted ⟨raw, htopic, hentries⟩
  | some source =>
    cases hcompiled : compile (TopicPattern.anchored source) with
    | error message => exact ⟨_, .refused source message hpattern hcompiled⟩
    | ok found =>
      cases htopic : options.get? Catalogue.topic.key with
      | none => exact ⟨_, .pattern ⟨source, found⟩ htopic hpattern hcompiled⟩
      | some raw => exact ⟨_, .conflict raw ⟨source, found⟩ htopic hpattern hcompiled⟩

theorem ofOptions_of_choiceEnds {result : Except TableError TopicSelection}
    (h : ChoiceEnds compile options result) : ofOptions compile options = result := by
  unfold ofOptions
  rw [read_topic]
  cases h with
  | refused source message hset hcompiled =>
    rw [readPattern_error hset hcompiled]
    rfl
  | conflict raw p hlisted hset hcompiled =>
    rw [hlisted, readPattern_some_iff.mpr ⟨hset, hcompiled⟩]
    rfl
  | pattern p hunlisted hset hcompiled =>
    rw [hunlisted, readPattern_some_iff.mpr ⟨hset, hcompiled⟩]
    rfl
  | topics raw hlisted hunset hentries =>
    obtain ⟨name, rest, hcons⟩ := List.exists_cons_of_ne_nil hentries
    rw [hlisted, (readPattern_none_iff compile).mpr hunset, Option.map_some, hcons]
    rfl
  | missing hunset hempty =>
    rw [(readPattern_none_iff compile).mpr hunset]
    cases htopic : options.get? Catalogue.topic.key with
    | none => rfl
    | some raw =>
      rw [Option.map_some, hempty raw htopic]
      rfl

/-- The ways are all there are, and no two are open to the same options. -/
theorem ofOptions_eq_iff {result : Except TableError TopicSelection} :
    ofOptions compile options = result ↔ ChoiceEnds compile options result := by
  constructor
  · rintro rfl
    obtain ⟨result, h⟩ := exists_choiceEnds compile options
    rwa [ofOptions_of_choiceEnds h]
  · intro h
    exact ofOptions_of_choiceEnds h

/-- The conflict comes first exactly where the pattern beside the topics can be compiled. -/
theorem conflictFirst_iff : ConflictFirst compile options ↔
    ∀ raw source, options.get? Catalogue.topic.key = some raw →
      options.get? Catalogue.topicPattern.key = some source →
        ∃ found, compile (TopicPattern.anchored source) = .ok found := by
  constructor
  · intro h raw source htopic hpattern
    cases hcompiled : compile (TopicPattern.anchored source) with
    | ok found => exact ⟨found, rfl⟩
    | error message =>
      have hrefused := ofOptions_of_choiceEnds (.refused source message hpattern hcompiled)
      cases hrefused.symm.trans (h raw source htopic hpattern)
  · intro h raw source htopic hpattern
    obtain ⟨found, hcompiled⟩ := h raw source htopic hpattern
    exact ofOptions_of_choiceEnds (.conflict raw ⟨source, found⟩ htopic hpattern hcompiled)

/-- What the two options choose with any library of regular expressions, and when that is a single
topic that a sink can write to. -/
theorem topic_options_classified (compile : PatternCompiler) (options : OptionMap) :
    (∀ result, ofOptions compile options = result ↔ ChoiceEnds compile options result) ∧
      (ConflictFirst compile options ↔
        ∀ raw source, options.get? Catalogue.topic.key = some raw →
          options.get? Catalogue.topicPattern.key = some source →
            ∃ found, compile (TopicPattern.anchored source) = .ok found) ∧
      ∀ (selection : TopicSelection) (topic : String),
        (selection.single? = some topic ↔ selection.sinkTopic = .ok topic) ∧
          (selection.sinkTopic = .ok topic ↔ selection = .topics [topic]) := by
  refine ⟨fun result => ofOptions_eq_iff, conflictFirst_iff, fun selection topic => ⟨?_, ?_⟩⟩
  · rw [single_iff, sinkTopic_ok_iff]
  · exact sinkTopic_ok_iff

/-- A topic beside a group that is left open: the pattern is refused, not the combination. -/
theorem unclosed_pattern_refused_first :
    let options : OptionMap := .ofList [("topic", "a"), ("topic-pattern", "(unclosed")]
    ofOptions Words.compile options = .error (.invalidValue "topic-pattern"
      ("Invalid value for option 'topic-pattern': " ++
        "invalid topic pattern '(unclosed': unclosed group")) ∧
      ¬ ConflictFirst Words.compile options := by
  intro options
  have hset : options.get? Catalogue.topicPattern.key = some "(unclosed" := by decide
  have hcompiled : Words.compile (TopicPattern.anchored "(unclosed") =
      .error "unclosed group" := by
    rfl
  refine ⟨ofOptions_of_choiceEnds (.refused _ _ hset hcompiled), fun h => ?_⟩
  obtain ⟨found, hfound⟩ := conflictFirst_iff.mp h "a" "(unclosed" (by decide) hset
  cases hcompiled.symm.trans hfound

end TopicTable.TopicSelection
