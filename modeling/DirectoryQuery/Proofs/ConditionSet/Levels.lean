import DirectoryQuery.Proofs.ConditionSet.Meaning

/-! Queries of several levels. The filter of a set below is a verbatim fragment of the set above it:
as it is, negated, or, where the set was nested, inside the envelope that the set above supplies. The
meaning of such a query is defined along its levels, without its text. What holds nothing to read has
no meaning, and takes no part in the set above although it counts there. -/
namespace DirectoryQuery

open SearchFilter
open Condition (readings)
open Truth (least greatest)

/-- How the filter of a set enters the set above it. -/
inductive Embedding
  | plain | negated | disjoined | conjoined
  deriving DecidableEq, Repr

namespace Embedding

/-- The set is compiled without an envelope. -/
def nests : Embedding → Bool
  | plain | negated => false
  | disjoined | conjoined => true

def around (embedding : Embedding) (filters : String) : String :=
  match embedding with
  | plain => filters
  | negated => Envelope.negation.around filters
  | disjoined => Envelope.disjunction.around filters
  | conjoined => Envelope.conjunction.around filters

/-- The value of a set from those of the sets below, the required conditions and the alternatives. An
embedding that supplies the envelope decides between the parts of a set that collapses; between the
parts of any other it leaves the alternatives together. -/
def combined (embedding : Embedding) (collapses : Bool) (below required alternatives : List Truth) :
    Truth :=
  let together := if alternatives.isEmpty then [] else [greatest alternatives]
  let conjunction := least (below ++ required ++ together)
  match embedding with
  | plain => if collapses then greatest (required ++ alternatives) else conjunction
  | negated =>
    (if collapses then greatest (required ++ alternatives) else conjunction).negation
  | disjoined => greatest (below ++ required ++ alternatives)
  | conjoined => if collapses then least (required ++ alternatives) else conjunction

end Embedding

/-- A set of conditions and the sets below it. -/
inductive Levels
  | set (required alternatives : List Condition) (below : List (Embedding × Levels))

namespace Levels

mutual

def filter (nested : Bool) : Levels → Except InvalidOperator String
  | .set required alternatives below => do
    let texts ← filters below
    (ConditionSet.addVerbatim ⟨required, alternatives, [], nested⟩ (texts.map .text)).filter

def filters : List (Embedding × Levels) → Except InvalidOperator (List String)
  | [] => .ok []
  | (embedding, levels) :: rest => do
    let text ← levels.filter embedding.nests
    let texts ← filters rest
    return embedding.around text :: texts

end

/-- Several conditions without a set below, where the alternatives stand alone or one of them stands
beside one required condition. -/
def collapses (required alternatives : List Condition) (below : List (Embedding × Levels)) : Bool :=
  1 < required.length + alternatives.length && below.isEmpty && !alternatives.isEmpty &&
    (required.isEmpty || (required.length == 1 && alternatives.length == 1))

variable (assignment : Item → Truth)

mutual

def meaning (embedding : Embedding) : Levels → Option Truth
  | .set required alternatives below =>
    let under := meanings below
    let conditions := (readings required).map (value assignment)
    let choices := (readings alternatives).map (value assignment)
    if (under ++ conditions ++ choices).isEmpty then none
    else some (embedding.combined (collapses required alternatives below) under conditions choices)

/-- The values of the sets below that have one. -/
def meanings : List (Embedding × Levels) → List Truth
  | [] => []
  | (embedding, levels) :: rest => (levels.meaning embedding).toList ++ meanings rest

end

inductive Clean : Levels → Prop
  | set : (∀ c ∈ required, c.Clean) → (∀ c ∈ alternatives, c.Clean) →
      (∀ child ∈ below, Clean child.2) → Clean (.set required alternatives below)

end Levels

/-! One level: the text of a set as it enters the set above, from the trees of its fragments. -/

namespace ConditionSet

variable {query : ConditionSet} {raws : List SearchFilter}

/-- The value of a set in an embedding, given the trees of its verbatim fragments. -/
def embedded (query : ConditionSet) (raws : List SearchFilter) (embedding : Embedding)
    (assignment : Item → Truth) : Truth :=
  embedding.combined query.isDisjunction (raws.map (value assignment))
    ((readings query.required).map (value assignment))
    ((readings query.alternatives).map (value assignment))

theorem together_eq_gathered (assignment : Item → Truth) (fs : List SearchFilter) :
    (if (fs.map (value assignment)).isEmpty then []
      else [greatest (fs.map (value assignment))]) = (gathered .any fs).map (value assignment) := by
  cases fs <;> simp [gathered]

theorem embedded_plain (clean : query.Clean) (fragments : Fragments query.verbatim raws)
    (whole : query.nested = false) (assignment : Item → Truth) :
    query.embedded raws .plain assignment =
      least ((query.outermost raws).map (value assignment)) := by
  rw [least_outermost assignment clean fragments whole]
  simp only [embedded, Embedding.combined, together_eq_gathered, ← isDisjunction_iff,
    List.map_append]

theorem embedded_disjoined (assignment : Item → Truth) :
    query.embedded raws .disjoined assignment =
      (any (query.members raws)).value assignment := by
  rw [value_any, greatest_members]
  simp only [embedded, Embedding.combined, List.map_append]

theorem embedded_conjoined (clean : query.Clean) (fragments : Fragments query.verbatim raws)
    (assignment : Item → Truth) :
    query.embedded raws .conjoined assignment =
      (all (query.members raws)).value assignment := by
  rw [value_all]
  simp only [embedded, Embedding.combined, together_eq_gathered]
  split
  · rename_i collapses
    rw [members_of_collapses fragments (query.isDisjunction_iff.mp collapses), List.map_append]
  · rename_i other
    rw [least_members assignment clean (mt query.isDisjunction_iff.mpr other)]
    simp only [List.map_append]

/-- A text reads as the tree of a set in an embedding, or is blank if the set holds nothing to read. -/
def Reads (query : ConditionSet) (raws : List SearchFilter) (embedding : Embedding) (text : String)
    (tree : Option SearchFilter) : Prop :=
  Run text.toList tree.toList ∧ (tree = none ↔ query.members raws = []) ∧
    ∀ f, tree = some f → ∀ assignment, f.value assignment = query.embedded raws embedding assignment

theorem alone_reads (clean : query.Clean) (fragments : Fragments query.verbatim raws)
    (whole : query.nested = false) :
    ∃ text tree, query.filter = .ok text ∧ query.Reads raws .plain text tree := by
  obtain ⟨text, ok, run⟩ := filter_run clean fragments
  have values := embedded_plain clean fragments whole
  rcases outermost_cases clean fragments whole with ⟨empty, none⟩ | ⟨filled, f, one, _⟩
  · exact ⟨text, Option.none, ok, by simpa [none] using run, by simp [empty], by simp⟩
  · refine ⟨text, some f, ok, by simpa [one] using run, by simp [filled], ?_⟩
    rintro g ⟨⟩ assignment
    simp [values, one]

theorem negated_reads {text : String} {tree : Option SearchFilter}
    (reads : query.Reads raws .plain text tree) :
    query.Reads raws .negated (Envelope.negation.around text) (tree.map .neg) := by
  obtain ⟨run, absent, values⟩ := reads
  refine ⟨?_, by simpa using absent, ?_⟩
  · cases tree with
    | none =>
      obtain rfl : text = "" := by simpa using run_nil_iff.mp run
      exact .nil
    | some f =>
      have filled : text ≠ "" := by simpa using mt run.eq_nil_iff.mp (by simp)
      exact (Envelope.around_spelled rfl filled (.neg (run_singleton_iff.mp run))).run
  · intro g same assignment
    obtain ⟨f, rfl, rfl⟩ := Option.map_eq_some_iff.mp same
    rw [value, values f rfl]
    rfl

theorem gathered_reads {embedding : Embedding} {text : String}
    {connective : List SearchFilter → SearchFilter}
    (run : Run text.toList (gathered connective (query.members raws)))
    (values : ∀ assignment, query.embedded raws embedding assignment =
      (connective (query.members raws)).value assignment) :
    ∃ tree, query.Reads raws embedding text tree := by
  by_cases empty : query.members raws = []
  · exact ⟨none, by simpa [empty, gathered] using run, by simp [empty], by simp⟩
  · rw [gathered_of_ne_nil empty] at run
    refine ⟨some (connective (query.members raws)), run, by simp [empty], ?_⟩
    rintro g ⟨⟩ assignment
    rw [values]

theorem embedding_reads (clean : query.Clean) (fragments : Fragments query.verbatim raws)
    (embedding : Embedding) (nests : query.nested = embedding.nests) :
    ∃ text tree, query.filter = .ok text ∧
      query.Reads raws embedding (embedding.around text) tree := by
  have bare (nested : query.nested = true) : query.outermost raws = query.members raws := by
    simp [outermost, nested]
  cases embedding with
  | plain => exact alone_reads clean fragments nests
  | negated =>
    obtain ⟨text, tree, ok, reads⟩ := alone_reads clean fragments nests
    exact ⟨text, _, ok, negated_reads reads⟩
  | disjoined =>
    obtain ⟨text, ok, run⟩ := filter_run clean fragments
    rw [bare nests] at run
    obtain ⟨tree, reads⟩ := gathered_reads (Envelope.disjunction_run run) embedded_disjoined
    exact ⟨text, tree, ok, reads⟩
  | conjoined =>
    obtain ⟨text, ok, run⟩ := filter_run clean fragments
    rw [bare nests] at run
    obtain ⟨tree, reads⟩ := gathered_reads (Envelope.conjunction_run run)
      (embedded_conjoined clean fragments)
    exact ⟨text, tree, ok, reads⟩

end ConditionSet

namespace Levels

/-- In every embedding the text of a query has a tree with the query's meaning. -/
def Reads (levels : Levels) : Prop :=
  ∀ embedding : Embedding, ∃ (text : String) (tree : Option SearchFilter),
    levels.filter embedding.nests = .ok text ∧
      Run (embedding.around text).toList tree.toList ∧
      ∀ assignment, tree.map (value assignment) = levels.meaning assignment embedding

theorem filters_read {below : List (Embedding × Levels)}
    (reads : ∀ child ∈ below, child.2.Reads) :
    ∃ texts fs, filters below = .ok texts ∧ texts.length = below.length ∧
      Fragments (texts.map .text) fs ∧
      ∀ assignment, fs.map (value assignment) = meanings assignment below := by
  induction below with
  | nil => exact ⟨[], [], rfl, rfl, .nil, fun _ => rfl⟩
  | cons child rest ih =>
    obtain ⟨embedding, levels⟩ := child
    obtain ⟨texts, fs, oks, length, fragments, values⟩ :=
      ih fun child member => reads child (List.mem_cons_of_mem _ member)
    obtain ⟨text, tree, ok, run, value⟩ := reads (embedding, levels) (by simp) embedding
    refine ⟨embedding.around text :: texts, tree.toList ++ fs, ?_, by simp [length],
      fragments.cons_of_run run, ?_⟩
    · simp [filters, ok, oks, bind, Except.bind, pure, Except.pure]
    · intro assignment
      rw [List.map_append, values, ← Option.toList_map, value, meanings]

theorem isDisjunction_eq_collapses {texts : List String} (length : texts.length = below.length) :
    (ConditionSet.addVerbatim ⟨required, alternatives, [], nested⟩ (texts.map .text)).isDisjunction =
      collapses required alternatives below := by
  cases below with
  | nil =>
    obtain rfl : texts = [] := by simpa using length
    simp [ConditionSet.isDisjunction, ConditionSet.addVerbatim, ConditionSet.size, collapses]
  | cons child rest =>
    cases texts with
    | nil => simp at length
    | cons text texts => simp [ConditionSet.isDisjunction, ConditionSet.addVerbatim, collapses]

theorem reads_of_clean {levels : Levels} (clean : levels.Clean) : levels.Reads := by
  induction clean with
  | @set required alternatives below requiredClean alternativesClean _ ih =>
    intro embedding
    obtain ⟨texts, fs, oks, length, fragments, values⟩ := filters_read ih
    let query := ConditionSet.addVerbatim ⟨required, alternatives, [], embedding.nests⟩
      (texts.map .text)
    have clean : query.Clean := ⟨requiredClean, alternativesClean⟩
    obtain ⟨text, tree, ok, run, absent, value⟩ := query.embedding_reads clean fragments embedding rfl
    refine ⟨text, tree, by simpa [filter, oks, bind, Except.bind] using ok, run, ?_⟩
    intro assignment
    have empty : ((meanings assignment below ++
        (readings required).map (SearchFilter.value assignment) ++
        (readings alternatives).map (SearchFilter.value assignment)).isEmpty = true) ↔
          tree = none := by
      rw [absent, ConditionSet.members_eq_nil_iff, ← values]
      simp [query, ConditionSet.addVerbatim]
    simp only [meaning, empty]
    cases tree with
    | none => rfl
    | some f =>
      simp only [Option.map_some, value f rfl, ConditionSet.embedded, query,
        isDisjunction_eq_collapses length, values]
      rfl

/-- The text of a clean query of any number of levels is blank if the query has no meaning, and
otherwise is one filter with the meaning of the query. -/
theorem filter_has_meaning {levels : Levels} (clean : levels.Clean) :
    ∃ text, levels.filter false = .ok text ∧
      (text = "" ∧ (∀ assignment, levels.meaning assignment .plain = none) ∨
        ∃ f, (∀ g, Spelled text.toList g ↔ g = f) ∧
          ∀ assignment, levels.meaning assignment .plain = some (f.value assignment)) := by
  obtain ⟨text, tree, ok, run, value⟩ := reads_of_clean clean .plain
  change Run text.toList _ at run
  refine ⟨text, ok, ?_⟩
  cases tree with
  | none => exact Or.inl ⟨by simpa using run_nil_iff.mp run, fun assignment => (value assignment).symm⟩
  | some f =>
    have spelled := run_singleton_iff.mp run
    exact Or.inr ⟨f, fun g => ⟨fun other => other.unique spelled, fun same => same ▸ spelled⟩,
      fun assignment => (value assignment).symm⟩

/-- A set above two others: one that is negated, and one that is nested and disjoined. -/
def branches : Levels :=
  .set [⟨.text "objectClass", .text "=", .text "person"⟩] [] [
    (.negated, .set [] ConditionSet.staff.alternatives []),
    (.disjoined, .set ConditionSet.staff.required ConditionSet.staff.alternatives [])]

theorem branches_clean : branches.Clean := by
  obtain ⟨required, alternatives⟩ := ConditionSet.staff_clean
  refine .set required (by simp) ?_
  intro child member
  simp only [List.mem_cons, List.not_mem_nil, or_false] at member
  rcases member with rfl | rfl
  · exact .set (by simp) alternatives (by simp)
  · exact .set required alternatives (by simp)

theorem branches_have_meaning : branches.Clean ∧
    ∃ f, (∀ g, Spelled ("(&(!(|(cn=adm*)(!(cn=root))))" ++
        "(|(objectClass=person)(|(cn=adm*)(!(cn=root))))(objectClass=person))").toList g ↔ g = f) ∧
      ∀ assignment, branches.meaning assignment .plain = some (f.value assignment) := by
  refine ⟨branches_clean, ?_⟩
  obtain ⟨text, ok, blank | one⟩ := filter_has_meaning branches_clean
  · exact absurd (blank.2 fun _ => .yes) (by decide)
  · obtain rfl := Except.ok.inj ((show branches.filter false = .ok _ from rfl).symm.trans ok)
    exact one

end Levels

end DirectoryQuery
