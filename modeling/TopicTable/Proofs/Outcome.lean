import Mathlib.Data.List.Forall2

/-! Inversion of computations that may fail. A sequence succeeds only through a success of each
of its parts, and fails at the first part that does. -/

namespace TopicTable.Outcome

variable {ε δ α β : Type}

theorem bind_ok_iff {x : Except ε α} {f : α → Except ε β} {b : β} :
    (x >>= f) = .ok b ↔ ∃ a, x = .ok a ∧ f a = .ok b := by
  cases x <;> simp [bind, Except.bind]

theorem bind_error_iff {x : Except ε α} {f : α → Except ε β} {e : ε} :
    (x >>= f) = .error e ↔ x = .error e ∨ ∃ a, x = .ok a ∧ f a = .error e := by
  cases x <;> simp [bind, Except.bind]

theorem pure_ok_iff {a b : α} : (pure a : Except ε α) = .ok b ↔ a = b := by
  simp [pure, Except.pure]

theorem pure_ne_error {a : α} {e : ε} : (pure a : Except ε α) ≠ .error e := by
  simp [pure, Except.pure]

theorem map_ok_iff {x : Except ε α} {f : α → β} {b : β} :
    x.map f = .ok b ↔ ∃ a, x = .ok a ∧ f a = b := by
  cases x <;> simp [Except.map]

theorem map_error_iff {x : Except ε α} {f : α → β} {e : ε} :
    x.map f = .error e ↔ x = .error e := by
  cases x <;> simp [Except.map]

theorem mapError_ok_iff {x : Except ε α} {f : ε → δ} {a : α} :
    x.mapError f = .ok a ↔ x = .ok a := by
  cases x with
  | ok => simp [Except.mapError]
  | error => simp [Except.mapError]

theorem mapError_error_iff {x : Except ε α} {f : ε → δ} {d : δ} :
    x.mapError f = .error d ↔ ∃ e, x = .error e ∧ f e = d := by
  cases x with
  | ok => simp [Except.mapError]
  | error => simp [Except.mapError]

/-- One computation has one result. -/
theorem ok_unique {x y : Except ε α} {a b : α} (h : x = y) (ha : x = .ok a) (hb : y = .ok b) :
    a = b :=
  Except.ok.inj (ha.symm.trans (h.trans hb))

theorem toOption_some_iff {x : Except ε α} {a : α} : x.toOption = some a ↔ x = .ok a := by
  cases x <;> simp [Except.toOption]

theorem exists_ok {x : Except ε α} (h : x.toOption.isSome = true) : ∃ a, x = .ok a := by
  cases x with
  | ok a => exact ⟨a, rfl⟩
  | error => cases h

/-- A traversal succeeds exactly when every entry does, each with its own result. -/
theorem mapM_ok_iff {f : α → Except ε β} {as : List α} {bs : List β} :
    as.mapM f = .ok bs ↔ List.Forall₂ (fun a b => f a = .ok b) as bs := by
  induction as generalizing bs with
  | nil => cases bs <;> simp [pure, Except.pure]
  | cons a as ih =>
    simp only [List.mapM_cons, bind_ok_iff, pure_ok_iff]
    constructor
    · rintro ⟨b, hb, bs', hbs, rfl⟩
      exact .cons hb (ih.mp hbs)
    · rintro (_ | ⟨hb, hbs⟩)
      exact ⟨_, hb, _, ih.mpr hbs, rfl⟩

theorem mapM_ok_of_forall {f : α → Except ε β} {g : α → β} {as : List α}
    (h : ∀ a ∈ as, f a = .ok (g a)) : as.mapM f = .ok (as.map g) := by
  rw [mapM_ok_iff, List.forall₂_map_right_iff, List.forall₂_same]
  exact h

/-- Where an entry has one result if it has any, the traversal has one too. -/
theorem mapM_ok_iff_map {f : α → Except ε β} {g : α → β} {P : α → Prop} {as : List α}
    {bs : List β} (h : ∀ a ∈ as, ∀ b, f a = .ok b ↔ P a ∧ b = g a) :
    as.mapM f = .ok bs ↔ (∀ a ∈ as, P a) ∧ bs = as.map g := by
  rw [mapM_ok_iff]
  induction as generalizing bs with
  | nil => simp
  | cons a as ih =>
    obtain ⟨ha, has⟩ := List.forall_mem_cons.mp h
    simp only [List.forall₂_cons_left_iff, ih has, ha, List.forall_mem_cons, List.map_cons]
    constructor
    · rintro ⟨b, rest, ⟨hP, rfl⟩, ⟨hrest, rfl⟩, rfl⟩
      exact ⟨⟨hP, hrest⟩, rfl⟩
    · rintro ⟨⟨hP, hrest⟩, rfl⟩
      exact ⟨_, _, ⟨hP, rfl⟩, ⟨hrest, rfl⟩, rfl⟩

/-- A failing traversal fails with the error of one of its entries. -/
theorem exists_error_of_mapM {f : α → Except ε β} {as : List α} {e : ε}
    (h : as.mapM f = .error e) : ∃ a ∈ as, f a = .error e := by
  induction as with
  | nil => exact absurd h pure_ne_error
  | cons a as ih =>
    simp only [List.mapM_cons, bind_error_iff, pure_ne_error, and_false, exists_false,
      or_false] at h
    rcases h with h | ⟨_, _, h⟩
    · exact ⟨a, List.mem_cons_self .., h⟩
    · obtain ⟨a', ha', he⟩ := ih h
      exact ⟨a', List.mem_cons_of_mem _ ha', he⟩

theorem optional_ok_iff {f : α → Except ε β} {a? : Option α} {b? : Option β} :
    a?.mapM f = .ok b? ↔ Option.Rel (fun a b => f a = .ok b) a? b? := by
  cases a? with
  | none =>
    constructor
    · intro h
      cases h
      exact .none
    · intro h
      cases h
      rfl
  | some a =>
    constructor
    · intro h
      obtain ⟨b, hb, rfl⟩ := map_ok_iff.mp h
      exact .some hb
    · intro h
      cases h with
      | some hb => exact map_ok_iff.mpr ⟨_, hb, rfl⟩

theorem partner_of_mem {R : α → β → Prop} {as : List α} {bs : List β}
    (h : List.Forall₂ R as bs) {a : α} (ha : a ∈ as) : ∃ b ∈ bs, R a b := by
  induction h with
  | nil => cases ha
  | cons hr _ ih =>
    rcases List.mem_cons.mp ha with rfl | ha
    · exact ⟨_, List.mem_cons_self .., hr⟩
    · obtain ⟨b, hb, hr⟩ := ih ha
      exact ⟨b, List.mem_cons_of_mem _ hb, hr⟩

theorem compose_partners {γ : Type} {R : α → β → Prop} {S : β → γ → Prop} {as : List α}
    {bs : List β} {cs : List γ} (hab : List.Forall₂ R as bs) (hbc : List.Forall₂ S bs cs) :
    List.Forall₂ (fun a c => ∃ b, R a b ∧ S b c) as cs := by
  induction hab generalizing cs with
  | nil =>
    cases hbc
    exact .nil
  | cons hr _ ih =>
    cases hbc with
    | cons hs hbc => exact .cons ⟨_, hr, hs⟩ (ih hbc)

theorem exists_partners {R : α → β → Prop} {as : List α} :
    (∃ bs, List.Forall₂ R as bs) ↔ ∀ a ∈ as, ∃ b, R a b := by
  constructor
  · rintro ⟨bs, h⟩ a ha
    obtain ⟨b, -, hr⟩ := partner_of_mem h ha
    exact ⟨b, hr⟩
  · intro h
    induction as with
    | nil => exact ⟨[], .nil⟩
    | cons a as ih =>
      obtain ⟨⟨b, hr⟩, has⟩ := List.forall_mem_cons.mp h
      obtain ⟨bs, hbs⟩ := ih has
      exact ⟨b :: bs, .cons hr hbs⟩

/-- What belongs to two lists in a row belongs to each of them in turn. -/
theorem append_partners_iff {R : α → β → Prop} {as more : List α} {bs : List β} :
    List.Forall₂ R (as ++ more) bs ↔ ∃ front back,
      List.Forall₂ R as front ∧ List.Forall₂ R more back ∧ bs = front ++ back := by
  induction as generalizing bs with
  | nil => simp
  | cons a as ih =>
    rw [List.cons_append, List.forall₂_cons_left_iff]
    constructor
    · rintro ⟨b, rest, hr, hrest, rfl⟩
      obtain ⟨front, back, hfront, hback, rfl⟩ := ih.mp hrest
      exact ⟨b :: front, back, .cons hr hfront, hback, rfl⟩
    · rintro ⟨front, back, hfront, hback, rfl⟩
      cases hfront with
      | @cons _ b _ front hr hfront =>
        exact ⟨b, front ++ back, hr, ih.mpr ⟨front, back, hfront, hback, rfl⟩, rfl⟩

/-- Partners that are put together from two others are two lists of partners put together. -/
theorem zip_partners_iff {γ δ : Type} {R : α → β → Prop} {S : α → γ → Prop} {T : α → δ → Prop}
    {join : β → γ → δ} (h : ∀ a d, T a d ↔ ∃ b c, R a b ∧ S a c ∧ d = join b c) {as : List α}
    {ds : List δ} : List.Forall₂ T as ds ↔ ∃ bs cs,
      List.Forall₂ R as bs ∧ List.Forall₂ S as cs ∧ ds = List.zipWith join bs cs := by
  induction as generalizing ds with
  | nil => simp
  | cons a as ih =>
    rw [List.forall₂_cons_left_iff]
    constructor
    · rintro ⟨d, rest, hd, hrest, rfl⟩
      obtain ⟨b, c, hb, hc, rfl⟩ := (h a d).mp hd
      obtain ⟨bs, cs, hbs, hcs, rfl⟩ := ih.mp hrest
      exact ⟨b :: bs, c :: cs, .cons hb hbs, .cons hc hcs, rfl⟩
    · rintro ⟨bs, cs, hbs, hcs, rfl⟩
      cases hbs with
      | cons hb hbs =>
        cases hcs with
        | cons hc hcs =>
          exact ⟨_, _, (h _ _).mpr ⟨_, _, hb, hc, rfl⟩, ih.mpr ⟨_, _, hbs, hcs, rfl⟩, rfl⟩

theorem partners_and_iff {R : α → β → Prop} {p : β → Prop} {as : List α} {bs : List β} :
    List.Forall₂ (fun a b => R a b ∧ p b) as bs ↔ List.Forall₂ R as bs ∧ ∀ b ∈ bs, p b := by
  induction as generalizing bs with
  | nil => cases bs <;> simp
  | cons a as ih =>
    cases bs with
    | nil => simp
    | cons b bs => simp only [List.forall₂_cons, List.forall_mem_cons, ih, and_and_and_comm]

/-- A traversal that may stop runs through exactly where no step does. -/
theorem mapM_some_iff {f : α → Option β} {as : List α} {bs : List β} :
    as.mapM f = some bs ↔ (∀ a ∈ as, ∃ b, f a = some b) ∧ as.filterMap f = bs := by
  induction as generalizing bs with
  | nil => simp
  | cons a as ih =>
    rw [List.mapM_cons]
    cases ha : f a with
    | none => simp [ha]
    | some b =>
      have hfirst : ∃ b', f a = some b' := ⟨b, ha⟩
      simp only [Option.bind_eq_bind, Option.bind_some, Option.bind_eq_some_iff, ih,
        Option.pure_def, Option.some.injEq, List.forall_mem_cons, hfirst, true_and,
        List.filterMap_cons_some ha]
      constructor
      · rintro ⟨rest, ⟨hall, rfl⟩, rfl⟩
        exact ⟨hall, rfl⟩
      · rintro ⟨hall, rfl⟩
        exact ⟨_, ⟨hall, rfl⟩, rfl⟩

end TopicTable.Outcome
