import TopicTable.Proofs.Outcome
import TopicTable.Proofs.PatternLanguage
import TopicTable.Sample.Words

/-! The small library keeps to its documentation. Reading the body of a group goes like reading the
body by itself, with more groups open around it, up to a parenthesis that the body does not open. -/

namespace TopicTable.Words

open Outcome

namespace Expr

variable {a b : Expr} {text : List Char} {i j : Nat}

theorem spans_within {e : Expr} (h : e.spans text i j = true) :
    i ≤ text.length ∧ j ≤ text.length := by
  induction e generalizing i j with
  | empty => simp only [spans, Bool.and_eq_true, decide_eq_true_eq] at h; omega
  | char c =>
    simp only [spans, Bool.and_eq_true, decide_eq_true_eq] at h
    have hlt := (List.getElem?_eq_some_iff.mp h.1).1
    omega
  | start => simp only [spans, Bool.and_eq_true, decide_eq_true_eq] at h; omega
  | stop => simp only [spans, Bool.and_eq_true, decide_eq_true_eq] at h; omega
  | seq a b iha ihb =>
    simp only [spans, List.any_eq_true, Bool.and_eq_true] at h
    obtain ⟨k, -, ha, hb⟩ := h
    exact ⟨(iha ha).1, (ihb hb).2⟩
  | alt a b iha ihb =>
    simp only [spans, Bool.or_eq_true] at h
    exact h.elim iha ihb

theorem seq_spans_iff : (seq a b).spans text i j = true ↔
    ∃ k, a.spans text i k = true ∧ b.spans text k j = true := by
  simp only [spans, List.any_eq_true, List.mem_range, Bool.and_eq_true]
  constructor
  · rintro ⟨k, -, h⟩
    exact ⟨k, h⟩
  · rintro ⟨k, ha, hb⟩
    exact ⟨k, Nat.lt_succ_of_le (spans_within ha).2, ha, hb⟩

theorem found_iff {e : Expr} {text : String} :
    e.found text = true ↔ ∃ i j, e.spans text.toList i j = true := by
  simp only [found, List.any_eq_true, List.mem_range]
  constructor
  · rintro ⟨i, -, j, -, h⟩
    exact ⟨i, j, h⟩
  · rintro ⟨i, j, h⟩
    have hwithin := spans_within h
    exact ⟨i, by omega, j, by omega, h⟩

end Expr

namespace State

/-- The same state with more groups open around it. -/
def nest (st : State) (outer : List Frame) : State := { st with outer := st.outer ++ outer }

theorem run_cons {st : State} {c : Char} {cs : List Char} :
    st.run (c :: cs) = st.step c >>= fun st => st.run cs :=
  List.foldlM_cons

theorem run_append {st : State} {xs ys : List Char} :
    st.run (xs ++ ys) = st.run xs >>= fun st => st.run ys :=
  List.foldlM_append

variable {st : State} {outer : List Frame} {c : Char}

theorem run_step {next : State} {cs : List Char} (h : st.step c = .ok next) :
    st.run (c :: cs) = next.run cs := by
  rw [run_cons, h]
  rfl

theorem close_nest (h : st.outer ≠ []) :
    (st.nest outer).close = st.close.map (·.nest outer) := by
  obtain ⟨f, fs, hcons⟩ := List.exists_cons_of_ne_nil h
  simp only [close, nest, hcons]
  rfl

theorem readText_nest (h : c = ')' → st.outer ≠ []) :
    (st.nest outer).readText c = (st.readText c).map (·.nest outer) := by
  unfold readText
  rw [show (st.nest outer).frame = st.frame from rfl]
  split_ifs
  all_goals first | rfl | exact close_nest (h (by assumption))

/-- Other groups around do not count, unless this one is closed. -/
theorem step_nest : (c = ')' ∧ st.mode = .text ∧ st.outer = []) ∨
    (st.nest outer).step c = (st.step c).map (·.nest outer) := by
  by_cases h : c = ')' ∧ st.mode = .text ∧ st.outer = []
  · exact Or.inl h
  · right
    unfold step
    rw [show (st.nest outer).mode = st.mode from rfl]
    cases hmode : st.mode with
    | text => exact readText_nest fun hc hempty => h ⟨hc, hmode, hempty⟩
    | opened =>
      dsimp only
      split
      · rfl
      · exact @readText_nest st.open' _ _ fun _ => List.cons_ne_nil _ _
    | asked => dsimp only; split_ifs <;> rfl
    | flagged => dsimp only; split_ifs <;> rfl
    | comment => dsimp only; split_ifs <;> rfl

/-- With no group open, a parenthesis is one too many. -/
theorem step_unopened (hmode : st.mode = .text) (houter : st.outer = []) :
    st.step ')' = .error "unopened group" := by
  simp [step, hmode, readText, close, houter]

theorem run_nest {cs : List Char} {last : State} (h : st.run cs = .ok last) :
    (st.nest outer).run cs = .ok (last.nest outer) := by
  induction cs generalizing st with
  | nil =>
    cases h
    rfl
  | cons c cs ih =>
    obtain ⟨next, hstep, h⟩ := bind_ok_iff.mp (run_cons.symm.trans h)
    rcases @step_nest st outer c with ⟨rfl, hmode, houter⟩ | hnest
    · cases (step_unopened hmode houter).symm.trans hstep
    · rw [hstep] at hnest
      exact (run_step hnest).trans (ih h)

/-- Before the groups around can be closed, a parenthesis closes the one at hand. -/
theorem run_nest_closes {cs : List Char} {last : State} (houter : outer ≠ [])
    (h : (st.nest outer).run cs = .ok last) (hlast : last.outer = []) :
    ∃ body after whole, cs = body ++ ')' :: after ∧ st.run body = .ok whole ∧
      whole.mode = .text ∧ whole.outer = [] := by
  induction cs generalizing st with
  | nil =>
    cases h
    exact absurd (List.append_eq_nil_iff.mp hlast).2 houter
  | cons c cs ih =>
    obtain ⟨next, hstep, h⟩ := bind_ok_iff.mp (run_cons.symm.trans h)
    rcases @step_nest st outer c with ⟨rfl, hmode, hempty⟩ | hnest
    · exact ⟨[], cs, st, rfl, rfl, hmode, hempty⟩
    · obtain ⟨inner, hinner, rfl⟩ := map_ok_iff.mp (hnest.symm.trans hstep)
      obtain ⟨body, after, whole, rfl, hrun, hwhole⟩ := ih h
      exact ⟨c :: body, after, whole, rfl, (run_step hinner).trans hrun, hwhole⟩

theorem finish_ok_iff {e : Expr} : st.finish = .ok e ↔
    (st.mode = .text ∨ st.mode = .comment) ∧ st.outer = [] ∧ st.frame.expr = e := by
  unfold finish
  split <;> simp_all

end State

theorem read_ok_iff {cs : List Char} {e : Expr} : read cs = .ok e ↔ ∃ st, State.run {} cs = .ok st ∧
    (st.mode = .text ∨ st.mode = .comment) ∧ st.outer = [] ∧ st.frame.expr = e := by
  unfold read
  simp only [bind_ok_iff, State.finish_ok_iff]

/-- The expressions of this library. It has no limits, and no names for groups. -/
def language : PatternLanguage where
  WellFormed source := ∃ e, read source.toList = .ok e
  Fits _ := True
  names _ := []
  Spans source text i j := ∃ e, read source.toList = .ok e ∧ e.spans text.toList i j = true

theorem spans_iff {source : String} {e : Expr} (h : read source.toList = .ok e) {text : String}
    {i j : Nat} : language.Spans source text i j ↔ e.spans text.toList i j = true := by
  constructor
  · rintro ⟨e', he', hspans⟩
    cases h.symm.trans he'
    exact hspans
  · exact fun hspans => ⟨e, h, hspans⟩

/-- An expression outside of comments leaves the reader where it found it. -/
theorem closed_iff {source : String} : language.Closed source ↔
    ∃ st, State.run {} source.toList = .ok st ∧ st.mode = .text ∧ st.outer = [] := by
  have hbehind : ∀ {st : State}, State.run {} source.toList = .ok st →
      State.run {} (source ++ ")").toList = st.step ')' := by
    intro st hrun
    rw [String.toList_append, State.run_append, hrun]
    exact State.run_cons.trans (bind_pure _)
  constructor
  · rintro ⟨⟨e, he⟩, hunopened⟩
    obtain ⟨st, hrun, hmode | hmode, houter, -⟩ := read_ok_iff.mp he
    · exact ⟨st, hrun, hmode, houter⟩
    · have hignored : State.run {} (source ++ ")").toList = .ok st := by
        rw [hbehind hrun, State.step, hmode]
        rfl
      exact absurd ⟨_, read_ok_iff.mpr ⟨st, hignored, Or.inr hmode, houter, rfl⟩⟩ hunopened
  · rintro ⟨st, hrun, hmode, houter⟩
    refine ⟨⟨st.frame.expr, read_ok_iff.mpr ⟨st, hrun, Or.inl hmode, houter, rfl⟩⟩, ?_⟩
    rintro ⟨e, he⟩
    obtain ⟨st', hrun', -⟩ := read_ok_iff.mp he
    rw [hbehind hrun, State.step_unopened hmode houter] at hrun'
    cases hrun'

namespace State

variable {f : Frame} {outer : List Frame}

/-- Behind the signs that open a group, reading begins anew with one more group around. -/
theorem run_group (hf : f.verbose = false) (rest : List Char) :
    State.run ⟨.text, f, outer⟩ ('(' :: '?' :: ':' :: rest) =
      (State.nest {} (f :: outer)).run rest := by
  have hopened : State.step ⟨.text, f, outer⟩ '(' = .ok ⟨.opened, f, outer⟩ := by
    simp [step, readText, hf]
  have hasked : State.step ⟨.opened, f, outer⟩ '?' = .ok ⟨.asked, f, outer⟩ := rfl
  have hgroup : State.step ⟨.asked, f, outer⟩ ':' = .ok (State.nest {} (f :: outer)) := by
    simp [step, open', nest, hf]
  rw [run_step hopened, run_step hasked, run_step hgroup]

/-- The same without further signs, since nothing that begins with them is an expression. -/
theorem run_capture (hf : f.verbose = false) {body after : List Char} {st : State}
    (hrun : State.run {} body = .ok st) :
    State.run ⟨.text, f, outer⟩ ('(' :: (body ++ ')' :: after)) =
      (State.nest {} (f :: outer)).run (body ++ ')' :: after) := by
  have hopened : State.step ⟨.text, f, outer⟩ '(' = .ok ⟨.opened, f, outer⟩ := by
    simp [step, readText, hf]
  have hplain : ∀ c cs, c ≠ '?' → State.run ⟨.opened, f, outer⟩ (c :: cs) =
      (State.nest {} (f :: outer)).run (c :: cs) := by
    intro c cs hc
    simp [run_cons, step, hc, open', nest, hf]
  rw [run_step hopened]
  cases body with
  | nil => exact hplain ')' after (by decide)
  | cons c cs =>
    refine hplain c _ ?_
    rintro rfl
    cases hrun

/-- The parenthesis behind a body adds it to the branch around. -/
theorem run_body {body after : List Char} {st : State} (hrun : State.run {} body = .ok st)
    (hmode : st.mode = .text) (houter : st.outer = []) :
    (State.nest {} (f :: outer)).run (body ++ ')' :: after) =
      State.run ⟨.text, f.push st.frame.expr, outer⟩ after := by
  have hclosed : (st.nest (f :: outer)).step ')' =
      .ok ⟨.text, f.push st.frame.expr, outer⟩ := by
    simp [step, nest, hmode, readText, close, houter]
  calc (State.nest {} (f :: outer)).run (body ++ ')' :: after)
      = (st.nest (f :: outer)).run (')' :: after) := by
        rw [run_append, run_nest hrun]
        rfl
    _ = State.run ⟨.text, f.push st.frame.expr, outer⟩ after := run_step hclosed

/-- Reading a piece adds an expression that matches what the piece stands for. -/
theorem run_piece {p : Piece} (hp : p.Whole language) (hf : f.verbose = false)
    (after : List Char) : ∃ e, State.run ⟨.text, f, outer⟩ (p.text.toList ++ after) =
      State.run ⟨.text, f.push e, outer⟩ after ∧
      ∀ text i j, e.spans text.toList i j = true ↔ p.Spans language text i j := by
  cases p with
  | start =>
    have hstart : State.step ⟨.text, f, outer⟩ '^' = .ok ⟨.text, f.push .start, outer⟩ := by
      simp [step, readText, hf]
    exact ⟨.start, run_step hstart, fun text i j => by simp [Expr.spans, Piece.Spans]⟩
  | stop =>
    have hstop : State.step ⟨.text, f, outer⟩ '$' = .ok ⟨.text, f.push .stop, outer⟩ := by
      simp [step, readText, hf]
    exact ⟨.stop, run_step hstop, fun text i j => by
      simp [Expr.spans, Piece.Spans, String.length_toList]⟩
  | group body =>
    obtain ⟨st, hrun, hmode, houter⟩ := closed_iff.mp hp
    have hread := read_ok_iff.mpr ⟨st, hrun, Or.inl hmode, houter, rfl⟩
    refine ⟨st.frame.expr, ?_, fun text i j => (spans_iff hread).symm⟩
    rw [← run_body hrun hmode houter, ← run_group hf]
    simp [Piece.text]
  | capture body =>
    obtain ⟨st, hrun, hmode, houter⟩ := closed_iff.mp hp
    have hread := read_ok_iff.mpr ⟨st, hrun, Or.inl hmode, houter, rfl⟩
    refine ⟨st.frame.expr, ?_, fun text i j => (spans_iff hread).symm⟩
    rw [← run_body hrun hmode houter, ← run_capture hf hrun]
    simp [Piece.text]

/-- Reading pieces in a row puts what they match behind the branch at hand. -/
theorem run_row {ps : List Piece} (hps : ∀ p ∈ ps, p.Whole language) (hf : f.verbose = false)
    (after : List Char) : ∃ e, State.run ⟨.text, f, outer⟩ ((Piece.row ps).toList ++ after) =
      State.run ⟨.text, { f with branch := e }, outer⟩ after ∧
      ∀ text i j, e.spans text.toList i j = true ↔
        ∃ k, f.branch.spans text.toList i k = true ∧ Piece.RowSpans language ps text k j := by
  induction ps generalizing f with
  | nil =>
    refine ⟨f.branch, rfl, fun text i j => ?_⟩
    simp only [Piece.RowSpans]
    constructor
    · intro h
      exact ⟨j, h, rfl, String.length_toList ▸ (Expr.spans_within h).2⟩
    · rintro ⟨k, h, rfl, -⟩
      exact h
  | cons p ps ih =>
    obtain ⟨hp, hrest⟩ := List.forall_mem_cons.mp hps
    obtain ⟨e, hpiece, hspans⟩ := run_piece hp hf ((Piece.row ps).toList ++ after)
    have hpushed : (f.push e).verbose = false := hf
    obtain ⟨whole, hrow, hwhole⟩ := ih hrest hpushed
    refine ⟨whole, ?_, fun text i j => ?_⟩
    · rw [Piece.row, String.toList_append, List.append_assoc, hpiece, hrow]
      rfl
    · simp only [hwhole, Frame.push, Expr.seq_spans_iff, hspans, Piece.RowSpans]
      constructor
      · rintro ⟨k, ⟨m, hbranch, hpiece⟩, hrow⟩
        exact ⟨m, hbranch, k, hpiece, hrow⟩
      · rintro ⟨m, hbranch, k, hpiece, hrow⟩
        exact ⟨k, ⟨m, hbranch, hpiece⟩, hrow⟩

end State

theorem Frame.expr_spans_iff {f : Frame} {text : List Char} {i j : Nat} :
    f.expr.spans text i j = true ↔
      (∃ e, f.before? = some e ∧ e.spans text i j = true) ∨ f.branch.spans text i j = true := by
  unfold Frame.expr
  cases f.before? <;> simp [Expr.spans]

theorem pieceSpans_within {p : Piece} {text : String} {i j : Nat}
    (h : p.Spans language text i j) : i ≤ text.length := by
  cases p with
  | start => exact h.1 ▸ Nat.zero_le _
  | stop => exact h.1 ▸ Nat.le_refl _
  | group body | capture body =>
    obtain ⟨e, -, hspans⟩ := h
    exact String.length_toList ▸ (Expr.spans_within hspans).1

theorem rowSpans_within {ps : List Piece} {text : String} {i j : Nat}
    (h : Piece.RowSpans language ps text i j) : i ≤ text.length := by
  cases ps with
  | nil => exact h.1 ▸ h.2
  | cons p ps =>
    obtain ⟨k, hp, -⟩ := h
    exact pieceSpans_within hp

/-- Reading pieces into an empty branch. -/
theorem run_branch {ps : List Piece} (hps : ∀ p ∈ ps, p.Whole language) {f : Frame}
    {outer : List Frame} (hf : f.verbose = false) (hempty : f.branch = .empty)
    (after : List Char) : ∃ e, State.run ⟨.text, f, outer⟩ ((Piece.row ps).toList ++ after) =
      State.run ⟨.text, { f with branch := e }, outer⟩ after ∧
      ∀ text i j, e.spans text.toList i j = true ↔ Piece.RowSpans language ps text i j := by
  obtain ⟨e, hrun, hspans⟩ := State.run_row hps hf after
  refine ⟨e, hrun, fun text i j => ?_⟩
  rw [hspans, hempty]
  simp only [Expr.spans, Bool.and_eq_true, decide_eq_true_eq]
  constructor
  · rintro ⟨k, ⟨rfl, -⟩, hrow⟩
    exact hrow
  · intro hrow
    exact ⟨i, ⟨rfl, String.length_toList ▸ rowSpans_within hrow⟩, hrow⟩

theorem run_alternatives {ps : List Piece} {more : List (List Piece)}
    (hps : ∀ qs ∈ ps :: more, ∀ q ∈ qs, q.Whole language) {f : Frame} {outer : List Frame}
    (hf : f.verbose = false) (hempty : f.branch = .empty) :
    ∃ last, State.run ⟨.text, f, outer⟩ (Piece.alternatives ps more).toList =
        .ok ⟨.text, last, outer⟩ ∧
      ∀ text i j, last.expr.spans text.toList i j = true ↔
        (∃ e, f.before? = some e ∧ e.spans text.toList i j = true) ∨
          ∃ qs ∈ ps :: more, Piece.RowSpans language qs text i j := by
  obtain ⟨hfirst, hrest⟩ := List.forall_mem_cons.mp hps
  induction more generalizing ps f with
  | nil =>
    obtain ⟨e, hrun, hspans⟩ := run_branch hfirst hf hempty []
    rw [List.append_nil] at hrun
    refine ⟨_, hrun, fun text i j => ?_⟩
    simp only [Frame.expr_spans_iff, hspans, List.mem_singleton, exists_eq_left]
  | cons qs more ih =>
    obtain ⟨e, hrun, hspans⟩ := run_branch hfirst hf hempty
      ('|' :: (Piece.alternatives qs more).toList)
    obtain ⟨hsecond, hmore⟩ := List.forall_mem_cons.mp hrest
    have hcut : ({ f with branch := e } : Frame).cut.verbose = false := hf
    obtain ⟨last, hlast, hwhole⟩ := ih hrest hcut rfl hsecond hmore
    refine ⟨last, ?_, fun text i j => ?_⟩
    · rw [Piece.alternatives, String.toList_append, String.toList_append, List.append_assoc]
      refine hrun.trans ?_
      rw [← hlast]
      exact State.run_step (by simp [State.step, State.readText, hf])
    · rw [hwhole]
      simp only [Frame.cut, Option.some.injEq, exists_eq_left', Frame.expr_spans_iff, hspans,
        List.mem_cons, exists_eq_or_imp, or_assoc]

theorem wellFormed_of_run {source : String} {f : Frame}
    (h : State.run {} source.toList = .ok ⟨.text, f, []⟩) : read source.toList = .ok f.expr :=
  read_ok_iff.mpr ⟨_, h, Or.inl rfl, rfl, rfl⟩

/-- The small library does what libraries of regular expressions document. -/
theorem documented : Documented compile language where
  compiles_iff source := by
    unfold compile
    constructor
    · rintro ⟨found, h⟩
      obtain ⟨e, he, -⟩ := map_ok_iff.mp h
      exact ⟨⟨e, he⟩, trivial⟩
    · rintro ⟨⟨e, he⟩, -⟩
      exact ⟨_, map_ok_iff.mpr ⟨e, he, rfl⟩⟩
  found_iff source found h text := by
    obtain ⟨e, he, rfl⟩ := map_ok_iff.mp h
    simp only [Expr.found_iff, spans_iff he]
  names_nodup _ _ := List.nodup_nil
  composed ps more hps _ := by
    obtain ⟨last, hrun, hspans⟩ := @run_alternatives ps more hps {} [] rfl rfl
    have hread := wellFormed_of_run hrun
    refine ⟨⟨_, hread⟩, fun text i j => ?_⟩
    rw [spans_iff hread, hspans]
    simp
  unopened body rest hbody := by
    rintro ⟨e, he⟩
    obtain ⟨st, hrun, hmode, houter⟩ := closed_iff.mp hbody
    obtain ⟨last, hlast, -⟩ := read_ok_iff.mp he
    have hbehind : st.run (')' :: rest.toList) = .ok last := by
      rw [String.toList_append, String.toList_append, List.append_assoc, State.run_append,
        hrun] at hlast
      exact hlast
    rw [State.run_cons, State.step_unopened hmode houter] at hbehind
    cases hbehind
  group_body ps rest hps h := by
    obtain ⟨e, he⟩ := h
    obtain ⟨last, hlast, -, houter, -⟩ := read_ok_iff.mp he
    obtain ⟨branch, hrow, -⟩ := @State.run_row {} [] ps hps rfl ("(?:" ++ rest).toList
    have hinner : (State.nest {} [{ branch := branch }]).run rest.toList = .ok last := by
      rw [String.append_assoc, String.toList_append, hrow, String.toList_append] at hlast
      exact (State.run_group rfl _).symm.trans hlast
    obtain ⟨body, after, whole, hrest, hrun, hmode, hwhole⟩ :=
      State.run_nest_closes (List.cons_ne_nil _ _) hinner houter
    refine ⟨String.ofList body, String.ofList after, ?_, closed_iff.mpr ⟨whole, ?_, hmode, hwhole⟩⟩
    · apply String.toList_inj.mp
      simpa using hrest
    · rwa [String.toList_ofList]
  body_fits _ _ _ _ _ := trivial

end TopicTable.Words
