import DirectoryQuery.Proofs.SearchFilter.Item

/-! Search filters in the grammar of RFC 4515: `Spelled` is its `filter`, `Inside` its `filtercomp`,
and a run of filters side by side is its `filterlist`, here with the empty run. A text spells at most
one filter, is at most one run, and no filter is the beginning of another text that is one. -/
namespace DirectoryQuery

inductive SearchFilter
  | item (item : Item)
  | all (members : List SearchFilter)
  | any (members : List SearchFilter)
  | neg (negated : SearchFilter)

namespace SearchFilter

mutual

inductive Spelled : List Char → SearchFilter → Prop
  | parenthesised : Inside text f → Spelled ('(' :: (text ++ [')'])) f

inductive Inside : List Char → SearchFilter → Prop
  | item : Item.Spelled text i → Inside text (.item i)
  | all : Run text fs → fs ≠ [] → Inside ('&' :: text) (.all fs)
  | any : Run text fs → fs ≠ [] → Inside ('|' :: text) (.any fs)
  | neg : Spelled text f → Inside ('!' :: text) (.neg f)

inductive Run : List Char → List SearchFilter → Prop
  | nil : Run [] []
  | cons : Spelled text f → Run rest fs → Run (text ++ rest) (f :: fs)

end

theorem Spelled.head (spelled : Spelled text f) : ∃ rest, text = '(' :: rest := by
  cases spelled with
  | parenthesised inside => exact ⟨_, rfl⟩

/-- What is inside a filter does not open with a parenthesis. -/
theorem Inside.head (inside : Inside text f) : ∃ c rest, text = c :: rest ∧ c ≠ '(' := by
  cases inside with
  | item spelled =>
    obtain ⟨c, rest, rfl, start⟩ := spelled.head
    refine ⟨c, rest, rfl, ?_⟩
    rintro rfl
    exact absurd start (by decide)
  | all | any | neg => exact ⟨_, _, rfl, by decide⟩

/-- So no text is a filter and the inside of one. -/
theorem Inside.not_spelled (inside : Inside text f) : ¬Spelled text g := by
  intro spelled
  obtain ⟨c, rest, rfl, other⟩ := inside.head
  obtain ⟨_, same⟩ := spelled.head
  exact other (List.cons.inj same).1

/-! Two readings of one text are compared with what follows them: the closing parenthesis ends what is
inside, and ends a run, since a filter can only open there. -/

mutual

theorem Spelled.cut : Spelled text f → Spelled other g → text ++ after = other ++ rest →
    text = other ∧ f = g
  | .parenthesised inside, .parenthesised inside', same => by
    simpa using inside.cut inside' (by simpa using same)

theorem Inside.cut : Inside text f → Inside other g →
    text ++ ')' :: after = other ++ ')' :: rest → text = other ∧ f = g
  | .item i, inside, same => by
    cases inside with
    | item j => simpa using i.cut j same
    | all | any | neg => exact absurd same (i.ne_operator (by simp) _ _)
  | .all run _, inside, same => by
    cases inside with
    | item j => exact absurd same.symm (j.ne_operator (by simp) _ _)
    | all run' => simpa using run.cut run' (by simpa using same)
    | any | neg => simp at same
  | .any run _, inside, same => by
    cases inside with
    | item j => exact absurd same.symm (j.ne_operator (by simp) _ _)
    | any run' => simpa using run.cut run' (by simpa using same)
    | all | neg => simp at same
  | .neg spelled, inside, same => by
    cases inside with
    | item j => exact absurd same.symm (j.ne_operator (by simp) _ _)
    | neg spelled' => simpa using spelled.cut spelled' (by simpa using same)
    | all | any => simp at same

theorem Run.cut : Run text fs → Run other gs →
    text ++ ')' :: after = other ++ ')' :: rest → text = other ∧ fs = gs
  | .nil, .nil, _ => ⟨rfl, rfl⟩
  | .nil, .cons spelled _, same => by
    obtain ⟨_, rfl⟩ := spelled.head
    simp at same
  | .cons spelled _, .nil, same => by
    obtain ⟨_, rfl⟩ := spelled.head
    simp at same
  | .cons spelled run, .cons spelled' run', same => by
    simp only [List.append_assoc] at same
    obtain ⟨rfl, rfl⟩ := spelled.cut spelled' same
    obtain ⟨rfl, rfl⟩ := run.cut run' (List.append_cancel_left same)
    exact ⟨rfl, rfl⟩

end

theorem Spelled.unique (first : Spelled text f) (second : Spelled text g) : f = g :=
  (first.cut second (show text ++ [] = text ++ [] from rfl)).2

theorem Run.unique (first : Run text fs) (second : Run text gs) : fs = gs :=
  (first.cut second (show text ++ [')'] = text ++ [')'] from rfl)).2

theorem Spelled.run (spelled : Spelled text f) : Run text [f] := by
  simpa using Run.cons spelled .nil

theorem run_singleton_iff : Run text [f] ↔ Spelled text f := by
  refine ⟨?_, Spelled.run⟩
  rintro (_ | ⟨spelled, _ | _⟩)
  simpa using spelled

theorem run_nil_iff : Run text [] ↔ text = [] := by
  constructor
  · rintro ⟨⟩
    rfl
  · rintro rfl
    exact .nil

/-- Only the empty run has no characters. -/
theorem Run.eq_nil_iff (run : Run text fs) : text = [] ↔ fs = [] := by
  constructor
  · rintro rfl
    exact run.unique .nil
  · rintro rfl
    exact run_nil_iff.mp run

/-- A run is one filter only if it has one member. -/
theorem Run.exists_spelled_iff (run : Run text fs) :
    (∃ f, ∀ g, Spelled text g ↔ g = f) ↔ fs.length = 1 := by
  constructor
  · rintro ⟨f, only⟩
    rw [run.unique ((only f).mpr rfl).run]
    rfl
  · intro single
    obtain ⟨f, rfl⟩ := List.length_eq_one_iff.mp single
    have spelled := run_singleton_iff.mp run
    exact ⟨f, fun g => ⟨fun other => other.unique spelled, fun same => same ▸ spelled⟩⟩

theorem Run.append (first : Run text fs) (second : Run rest gs) :
    Run (text ++ rest) (fs ++ gs) := by
  induction fs generalizing text with
  | nil =>
    obtain rfl := run_nil_iff.mp first
    exact second
  | cons f fs ih =>
    cases first with
    | cons spelled run => simpa using Run.cons spelled (ih run)

end SearchFilter

end DirectoryQuery
