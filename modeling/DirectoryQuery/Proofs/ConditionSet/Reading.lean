import DirectoryQuery.ConditionSet.Filter
import DirectoryQuery.Proofs.Condition.Reading

/-! The filter of a clean condition set, read back in the grammar of filters. Its parts are the trees
of the verbatim fragments that are not blank, of the required conditions and of the alternatives. The
text of the set is a run of these trees, inside an envelope unless the set is nested or holds a single
filter, and the grammar admits no other reading of it. -/
namespace DirectoryQuery

open SearchFilter
open Condition (readings fragments_run length_readings)

/-- A connective around filters. Around none of them there is none. -/
def SearchFilter.gathered (connective : List SearchFilter → SearchFilter) :
    List SearchFilter → List SearchFilter
  | [] => []
  | f :: fs => [connective (f :: fs)]

@[simp] theorem SearchFilter.gathered_eq_nil_iff : gathered connective fs = [] ↔ fs = [] := by
  cases fs <;> simp [gathered]

theorem SearchFilter.gathered_of_ne_nil (filled : fs ≠ []) :
    gathered connective fs = [connective fs] := by
  cases fs with
  | nil => exact absurd rfl filled
  | cons f fs => rfl

namespace Envelope

variable {text : String} {envelope : Envelope}

theorem around_spelled (opening : envelope.opening.toList = ['(', operator]) (filled : text ≠ "")
    (inside : Inside (operator :: text.toList) f) : Spelled (envelope.around text).toList f := by
  simpa [around, filled, opening] using Spelled.parenthesised inside

theorem around_run (opening : envelope.opening.toList = ['(', operator])
    (run : Run text.toList fs) (inside : fs ≠ [] → Inside (operator :: text.toList) (connective fs)) :
    Run (envelope.around text).toList (gathered connective fs) := by
  have blank : text = "" ↔ fs = [] := by simpa using run.eq_nil_iff
  by_cases filled : fs = []
  · simpa [blank.mpr filled, filled, gathered] using Run.nil
  · rw [gathered_of_ne_nil filled]
    exact (around_spelled opening (mt blank.mp filled) (inside filled)).run

theorem conjunction_run (run : Run text.toList fs) :
    Run (conjunction.around text).toList (gathered .all fs) :=
  around_run rfl run (.all run)

theorem disjunction_run (run : Run text.toList fs) :
    Run (disjunction.around text).toList (gathered .any fs) :=
  around_run rfl run (.any run)

end Envelope

namespace ConditionSet

structure Clean (query : ConditionSet) : Prop where
  required : ∀ c ∈ query.required, c.Clean
  alternatives : ∀ c ∈ query.alternatives, c.Clean

/-- Several filters without a verbatim one, where the alternatives stand alone or one of them stands
beside one required condition. -/
def Collapses (query : ConditionSet) : Prop :=
  1 < query.size ∧ query.verbatim = [] ∧ query.alternatives ≠ [] ∧
    (query.required = [] ∨ query.required.length = 1 ∧ query.alternatives.length = 1)

theorem isDisjunction_iff (query : ConditionSet) : query.isDisjunction = true ↔ query.Collapses := by
  simp [isDisjunction, Collapses, and_assoc]

instance (query : ConditionSet) : Decidable query.Collapses :=
  decidable_of_iff _ query.isDisjunction_iff

/-- The trees of the alternatives, under one disjunction where they stand beside other filters. -/
def grouped (query : ConditionSet) : List SearchFilter :=
  if 1 < query.size ∧ ¬query.Collapses then gathered .any (readings query.alternatives)
  else readings query.alternatives

/-- The trees of the filters side by side, given those of the verbatim fragments. -/
def members (query : ConditionSet) (raws : List SearchFilter) : List SearchFilter :=
  raws ++ readings query.required ++ query.grouped

/-- The trees of a set's text: those side by side, or the one of the envelope. -/
def outermost (query : ConditionSet) (raws : List SearchFilter) : List SearchFilter :=
  if query.nested ∨ query.size ≤ 1 then query.members raws
  else if query.Collapses then gathered .any (query.members raws)
  else gathered .all (query.members raws)

variable {query : ConditionSet} {raws : List SearchFilter}

theorem body_run (clean : query.Clean) (fragments : Fragments query.verbatim raws) :
    ∃ text, query.body = .ok text ∧ Run text.toList (query.members raws) := by
  obtain ⟨required, requiredOk, requiredRun⟩ := fragments_run clean.required
  obtain ⟨alternatives, alternativesOk, alternativesRun⟩ := fragments_run clean.alternatives
  have groupedRun : Run (query.group alternatives).toList query.grouped := by
    simp only [group, grouped, Bool.and_eq_true, Bool.not_eq_true', decide_eq_true_eq,
      ← isDisjunction_iff, Bool.not_eq_true]
    split
    · exact Envelope.disjunction_run alternativesRun
    · exact alternativesRun
  refine ⟨Value.joined query.verbatim ++ required ++ query.group alternatives, ?_, ?_⟩
  · simp only [body, requiredOk, alternativesOk, bind, Except.bind, pure, Except.pure]
  · simpa [members] using fragments.run.append (requiredRun.append groupedRun)

theorem filter_run (clean : query.Clean) (fragments : Fragments query.verbatim raws) :
    ∃ text, query.filter = .ok text ∧ Run text.toList (query.outermost raws) := by
  obtain ⟨body, ok, run⟩ := body_run clean fragments
  have bare : (query.nested || decide (query.size ≤ 1)) = true ↔ query.nested ∨ query.size ≤ 1 := by
    simp
  refine ⟨_, by rw [filter, ok]; rfl, ?_⟩
  simp only [envelope?, outermost, bare, ← isDisjunction_iff]
  by_cases plain : query.nested ∨ query.size ≤ 1
  · simpa only [if_pos plain]
  · by_cases disjunction : query.isDisjunction = true
    · simpa only [if_neg plain, if_pos disjunction] using Envelope.disjunction_run run
    · simpa only [if_neg plain, if_neg disjunction] using Envelope.conjunction_run run

theorem members_eq_nil_iff : query.members raws = [] ↔
    raws ++ readings query.required ++ readings query.alternatives = [] := by
  unfold members grouped
  split <;> simp

theorem members_of_collapses (fragments : Fragments query.verbatim raws)
    (collapses : query.Collapses) :
    query.members raws = readings query.required ++ readings query.alternatives := by
  have none : raws = [] := by
    have := fragments.length_le
    simpa [collapses.2.1] using this
  simp [members, grouped, collapses, none]

theorem members_of_several (several : 1 < query.size) (other : ¬query.Collapses) :
    query.members raws =
      raws ++ readings query.required ++ gathered .any (readings query.alternatives) := by
  simp [members, grouped, several, other]

theorem members_of_single (single : query.size ≤ 1) :
    query.members raws = raws ++ readings query.required ++ readings query.alternatives := by
  simp [members, grouped, Nat.not_lt.mpr single]

theorem length_members_le (clean : query.Clean) (fragments : Fragments query.verbatim raws)
    (single : query.size ≤ 1) : (query.members raws).length ≤ 1 := by
  have fewer := fragments.length_le
  simp only [members_of_single single, List.length_append, length_readings clean.required,
    length_readings clean.alternatives]
  simp only [size] at single
  omega

/-- What a set on its own is read as: nothing, or the one tree of its envelope, or its only part. -/
theorem outermost_cases (clean : query.Clean) (fragments : Fragments query.verbatim raws)
    (whole : query.nested = false) :
    query.members raws = [] ∧ query.outermost raws = [] ∨
      query.members raws ≠ [] ∧ ∃ f, query.outermost raws = [f] ∧
        (query.Collapses → f = .any (query.members raws)) ∧
        (1 < query.size → ¬query.Collapses → f = .all (query.members raws)) ∧
        (query.size ≤ 1 → query.members raws = [f]) := by
  rcases Nat.lt_or_ge 1 query.size with several | single
  · have enclosed : query.outermost raws =
        gathered (if query.Collapses then .any else .all) (query.members raws) := by
      simp only [outermost, whole, Bool.false_eq_true, Nat.not_le.mpr several, or_self, if_false]
      split <;> rfl
    by_cases empty : query.members raws = []
    · exact Or.inl ⟨empty, by simpa [enclosed] using empty⟩
    · refine Or.inr ⟨empty, _, by rw [enclosed, gathered_of_ne_nil empty], ?_, ?_, by omega⟩
      · intro collapses
        simp [collapses]
      · intro _ other
        simp [other]
  · have bare : query.outermost raws = query.members raws := by simp [outermost, single]
    have short := length_members_le clean fragments single
    rw [bare]
    match query.members raws, short with
    | [], _ => exact Or.inl ⟨rfl, rfl⟩
    | [f], _ => exact Or.inr ⟨by simp, f, rfl, fun collapses => absurd collapses.1 (by omega),
        fun several => absurd several (by omega), fun _ => rfl⟩

/-- The text of a clean set reads as exactly the trees that the set describes. Alone, it is blank if
there is nothing to read, and otherwise one filter; as a nested set it is a run without an envelope. -/
theorem filter_has_one_reading (clean : query.Clean) (fragments : Fragments query.verbatim raws) :
    ∃ text, query.filter = .ok text ∧
      (query.nested = false →
        (text = "" ↔ raws ++ readings query.required ++ readings query.alternatives = []) ∧
        (text ≠ "" → ∃ f, (∀ g, Spelled text.toList g ↔ g = f) ∧
          (query.Collapses → f = .any (readings query.required ++ readings query.alternatives)) ∧
          (1 < query.size → ¬query.Collapses → f = .all (raws ++ readings query.required ++
            gathered .any (readings query.alternatives))) ∧
          (query.size ≤ 1 →
            raws ++ readings query.required ++ readings query.alternatives = [f]))) ∧
      (query.nested = true → ∀ fs, Run text.toList fs ↔ fs = raws ++ readings query.required ++
        if 1 < query.size ∧ ¬query.Collapses then gathered .any (readings query.alternatives)
        else readings query.alternatives) := by
  obtain ⟨text, ok, run⟩ := filter_run clean fragments
  refine ⟨text, ok, ?_, ?_⟩
  · intro whole
    have blank : text = "" ↔ query.outermost raws = [] := by simpa using run.eq_nil_iff
    rw [blank, ← members_eq_nil_iff]
    rcases outermost_cases clean fragments whole with ⟨empty, none⟩ | ⟨filled, f, one, shape⟩
    · exact ⟨by simp [empty, none], fun filled => absurd (blank.mpr none) filled⟩
    · refine ⟨by simp [filled, one], fun _ => ⟨f, ?_, ?_, ?_, ?_⟩⟩
      · rw [one, run_singleton_iff] at run
        exact fun g => ⟨fun spelled => spelled.unique run, fun same => same ▸ run⟩
      · intro collapses
        rw [shape.1 collapses, members_of_collapses fragments collapses]
      · intro several other
        rw [shape.2.1 several other, members_of_several several other]
      · intro single
        rw [← members_of_single single]
        exact shape.2.2 single
  · intro nested fs
    have bare : query.outermost raws = query.members raws := by simp [outermost, nested]
    rw [bare] at run
    exact ⟨fun other => other.unique run, fun same => same ▸ run⟩

/-- A set with parts of each kind, and a fragment that is blank. -/
def staff : ConditionSet where
  required := [⟨.text "objectClass", .text "=", .text "person"⟩]
  alternatives := [
    ⟨.text "cn", .text "starts_with", .text "adm"⟩, ⟨.text "cn", .text "!=", .text "root"⟩]
  verbatim := [.text "(uid=j)", .text ""]
  nested := false

def staffRaws : List SearchFilter := [.item (.comparison .equal "uid".toList "j".toList)]

theorem staff_clean : staff.Clean := by
  constructor
  · intro c member
    obtain rfl := List.mem_singleton.mp member
    exact Condition.clean_of_plain (by decide) (by decide) (by decide) (by decide)
  · intro c member
    simp only [staff, List.mem_cons, List.not_mem_nil, or_false] at member
    rcases member with rfl | rfl
    all_goals exact Condition.clean_of_plain (by decide) (by decide) (by decide) (by decide)

theorem staff_fragments : Fragments staff.verbatim staffRaws := by
  have isField : Item.IsField "uid".toList := by decide
  have isValue : Item.IsValue "j".toList := Item.isValue_of_plain (by decide)
  exact .filter (Operator.equal.fragment_spelled isField isValue (by decide)) (.blank rfl .nil)

theorem staff_has_one_reading :
    (staff.Clean ∧ Fragments staff.verbatim staffRaws) ∧
      ∃ f, (∀ g, Spelled "(&(uid=j)(objectClass=person)(|(cn=adm*)(!(cn=root))))".toList g ↔ g = f) ∧
        f = .all (staffRaws ++ readings staff.required ++ [.any (readings staff.alternatives)]) := by
  refine ⟨⟨staff_clean, staff_fragments⟩, ?_⟩
  obtain ⟨text, ok, alone, _⟩ := filter_has_one_reading staff_clean staff_fragments
  obtain rfl : "(&(uid=j)(objectClass=person)(|(cn=adm*)(!(cn=root))))" = text :=
    Except.ok.inj ((show staff.filter = .ok _ from rfl).symm.trans ok)
  obtain ⟨f, only, _, shape, _⟩ := (alone rfl).2 (by decide)
  exact ⟨f, only, shape (by decide) (by decide)⟩

end ConditionSet

end DirectoryQuery
