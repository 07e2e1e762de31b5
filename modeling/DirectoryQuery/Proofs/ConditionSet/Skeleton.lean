import DirectoryQuery.ConditionSet.Filter
import DirectoryQuery.Proofs.Text.Parentheses
import Mathlib.Data.List.Forall2

/-! The parentheses of a filter do not depend on the texts of its conditions, as long as these hold none
themselves: two sets that agree in everything else have filters with the same parentheses. These are
balanced, and the filter of a set that is not nested is one group. -/
namespace DirectoryQuery

open Text (Balanced Flat IsGroup skeleton)

/-- Two balanced texts with the same parentheses, both of them blank or neither. -/
structure Text.SameParentheses (text other : String) : Prop where
  skeleton : skeleton text.toList = skeleton other.toList
  balanced : Balanced text.toList
  blank : text = "" ↔ other = ""

open Text (SameParentheses)

namespace Text.SameParentheses

variable {text other rest rest' : String}

theorem refl (balanced : Balanced text.toList) : SameParentheses text text :=
  ⟨rfl, balanced, Iff.rfl⟩

theorem append (first : SameParentheses text other) (second : SameParentheses rest rest') :
    SameParentheses (text ++ rest) (other ++ rest') := by
  refine ⟨?_, ?_, ?_⟩
  · simp only [String.toList_append, skeleton_append, first.skeleton, second.skeleton]
  · simpa using first.balanced.append second.balanced
  · simp only [String.append_eq_empty_iff, first.blank, second.blank]

end Text.SameParentheses

namespace Text

variable {text other opening : String}

theorem balanced_enclosed (balanced : Balanced text.toList) (opens : opening.toList = '(' :: sign)
    (flat : Flat sign) : Balanced (opening ++ text ++ ")").toList := by
  have whole : Balanced ('(' :: ((sign ++ text.toList) ++ [')'])) :=
    (flat.balanced.append balanced).enclosed
  simpa [opens] using whole

theorem isGroup_enclosed (balanced : Balanced text.toList) (opens : opening.toList = '(' :: sign)
    (flat : Flat sign) : IsGroup (opening ++ text ++ ")").toList := by
  have group : IsGroup ('(' :: ((sign ++ text.toList) ++ [')'])) :=
    (flat.balanced.append balanced).isGroup_enclosed
  simpa [opens] using group

/-- The same pair of parentheses is put around both texts. -/
theorem SameParentheses.enclosed (same : Text.skeleton text.toList = Text.skeleton other.toList)
    (balanced : Balanced text.toList) (opens : opening.toList = '(' :: sign) (flat : Flat sign) :
    SameParentheses (opening ++ text ++ ")") (opening ++ other ++ ")") := by
  refine ⟨?_, balanced_enclosed balanced opens flat, by simp⟩
  simp only [String.toList_append, skeleton_append, same]

end Text

namespace Envelope

variable {text other : String}

theorem opening_flat (envelope : Envelope) :
    ∃ sign, envelope.opening.toList = '(' :: sign ∧ Flat sign := by
  cases envelope
  · exact ⟨['&'], rfl, by decide⟩
  · exact ⟨['|'], rfl, by decide⟩
  · exact ⟨['!'], rfl, by decide⟩

theorem around_same (envelope : Envelope) (same : SameParentheses text other) :
    SameParentheses (envelope.around text) (envelope.around other) := by
  obtain ⟨sign, opens, flat⟩ := envelope.opening_flat
  unfold around
  by_cases blank : text = ""
  · rw [if_pos blank, if_pos (same.blank.mp blank)]
    exact .refl Text.balanced_nil
  · rw [if_neg blank, if_neg (mt same.blank.mpr blank)]
    exact .enclosed same.skeleton same.balanced opens flat

theorem around_isGroup (envelope : Envelope) (balanced : Balanced text.toList)
    (filled : envelope.around text ≠ "") : IsGroup (envelope.around text).toList := by
  obtain ⟨sign, opens, flat⟩ := envelope.opening_flat
  have some : text ≠ "" := mt (envelope.around_eq_empty_iff text).mpr filled
  rw [around, if_neg some]
  exact Text.isGroup_enclosed balanced opens flat

end Envelope

/-! The fragment of a condition is one pair of parentheses around flat texts, or two where its operator
is negated. -/

theorem Test.item_flat (test : Test) {field value : String} (first : Flat field.toList)
    (second : Flat value.toList) : Flat (test.item field value).toList := by
  cases test
  all_goals
    simp only [item, String.toList_append, Text.flat_append_iff, first, second, true_and, and_true]
    decide

namespace Operator

variable {field value field' value' : String}

theorem single_opening : "(".toList = '(' :: [] ∧ Flat [] := ⟨rfl, nofun⟩

theorem negated_opening : "(!".toList = '(' :: ['!'] ∧ Flat ['!'] := ⟨rfl, by decide⟩

theorem fragment_same (operator : Operator) (flat : Flat (operator.test.item field value).toList)
    (flat' : Flat (operator.test.item field' value').toList) :
    SameParentheses (operator.fragment field value) (operator.fragment field' value') := by
  have empty : skeleton (operator.test.item field value).toList =
      skeleton (operator.test.item field' value').toList := by
    rw [flat.skeleton, flat'.skeleton]
  have positive := SameParentheses.enclosed empty flat.balanced single_opening.1 single_opening.2
  unfold fragment
  cases operator.negated with
  | false => exact positive
  | true =>
    exact .enclosed positive.skeleton positive.balanced negated_opening.1 negated_opening.2

theorem fragment_isGroup (operator : Operator)
    (flat : Flat (operator.test.item field value).toList) :
    IsGroup (operator.fragment field value).toList := by
  unfold fragment
  cases operator.negated with
  | false => exact Text.isGroup_enclosed flat.balanced single_opening.1 single_opening.2
  | true =>
    have positive := Text.balanced_enclosed flat.balanced single_opening.1 single_opening.2
    exact Text.isGroup_enclosed positive negated_opening.1 negated_opening.2

end Operator

namespace Condition

/-- Two conditions with the same valid operator, none of whose texts holds a parenthesis. -/
structure SameShape (condition other : Condition) : Prop where
  operator : ∃ operator, Operator.ofToken? condition.operator = some operator ∧
    Operator.ofToken? other.operator = some operator
  field : Flat condition.field.shown.toList
  value : Flat (valueText condition.value).toList
  field' : Flat other.field.shown.toList
  value' : Flat (valueText other.value).toList

variable {condition other : Condition} {conditions others : List Condition}

theorem SameShape.symm (shape : SameShape condition other) : SameShape other condition := by
  obtain ⟨operator, valid, valid'⟩ := shape.operator
  exact ⟨⟨operator, valid', valid⟩, shape.field', shape.value', shape.field, shape.value⟩

theorem SameShape.fragment (shape : SameShape condition other) :
    ∃ text text', condition.fragment = .ok text ∧ other.fragment = .ok text' ∧
      SameParentheses text text' ∧ IsGroup text.toList := by
  obtain ⟨operator, valid, valid'⟩ := shape.operator
  have flat := operator.test.item_flat shape.field shape.value
  have flat' := operator.test.item_flat shape.field' shape.value'
  refine ⟨_, _, ?_, ?_, operator.fragment_same flat flat', operator.fragment_isGroup flat⟩
  · simp only [Condition.fragment, Operator.resolve, valid]
    rfl
  · simp only [Condition.fragment, Operator.resolve, valid']
    rfl

theorem fragments_same (shape : List.Forall₂ SameShape conditions others) :
    ∃ text text', fragments conditions = .ok text ∧ fragments others = .ok text' ∧
      SameParentheses text text' := by
  induction shape with
  | nil => exact ⟨"", "", rfl, rfl, .refl Text.balanced_nil⟩
  | cons first _ ih =>
    obtain ⟨text, text', ok, ok', same, _⟩ := first.fragment
    obtain ⟨rest, rest', oks, oks', sames⟩ := ih
    refine ⟨text ++ rest, text' ++ rest', ?_, ?_, same.append sames⟩
    · simp only [fragments, ok, oks]
      rfl
    · simp only [fragments, ok', oks']
      rfl

/-- One condition is one group. -/
theorem fragments_single (shape : List.Forall₂ SameShape conditions others)
    (single : conditions.length ≤ 1) (ok : fragments conditions = .ok text) :
    text ≠ "" → IsGroup text.toList := by
  intro filled
  cases shape with
  | nil => exact absurd (Except.ok.inj ok).symm filled
  | cons first rest =>
    cases rest with
    | cons => simp at single
    | nil =>
      obtain ⟨whole, _, written, _, _, group⟩ := first.fragment
      simp only [fragments, written, bind, Except.bind, pure, Except.pure, String.append_empty,
        Except.ok.injEq] at ok
      exact ok ▸ group

end Condition

namespace Value

variable {fragments : List Value}

theorem joined_balanced (balanced : ∀ v ∈ fragments, Balanced v.shown.toList) :
    Balanced (joined fragments).toList := by
  induction fragments with
  | nil => exact Text.balanced_nil
  | cons fragment rest ih =>
    have later := ih fun v listed => balanced v (by simp [listed])
    simpa using (balanced fragment (by simp)).append later

theorem joined_single (groups : ∀ v ∈ fragments, v.shown ≠ "" → IsGroup v.shown.toList)
    (single : fragments.length ≤ 1) : joined fragments ≠ "" → IsGroup (joined fragments).toList := by
  match fragments, single with
  | [], _ => simp
  | [fragment], _ => simpa using groups fragment (by simp)

end Value

namespace ConditionSet

/-- Two sets that differ in the texts of their conditions only, none of which holds a parenthesis. -/
structure SameShape (query other : ConditionSet) : Prop where
  required : List.Forall₂ Condition.SameShape query.required other.required
  alternatives : List.Forall₂ Condition.SameShape query.alternatives other.alternatives
  verbatim : query.verbatim = other.verbatim
  nested : query.nested = other.nested

namespace SameShape

variable {query other : ConditionSet}

theorem symm (shape : SameShape query other) : SameShape other query where
  required := shape.required.flip.imp fun _ _ same => same.symm
  alternatives := shape.alternatives.flip.imp fun _ _ same => same.symm
  verbatim := shape.verbatim.symm
  nested := shape.nested.symm

theorem size (shape : SameShape query other) : query.size = other.size := by
  simp only [ConditionSet.size, shape.required.length_eq, shape.alternatives.length_eq, shape.verbatim]

theorem isDisjunction (shape : SameShape query other) :
    query.isDisjunction = other.isDisjunction := by
  have empty {first second : List Condition} (lengths : first.length = second.length) :
      first.isEmpty = second.isEmpty := by
    cases first <;> cases second <;> simp_all
  have required := shape.required.length_eq
  have alternatives := shape.alternatives.length_eq
  simp only [ConditionSet.isDisjunction, shape.size, shape.verbatim, empty required,
    empty alternatives, required, alternatives]

theorem envelope? (shape : SameShape query other) : query.envelope? = other.envelope? := by
  simp only [ConditionSet.envelope?, shape.nested, shape.size, shape.isDisjunction]

theorem group_same (shape : SameShape query other) (same : SameParentheses text text') :
    SameParentheses (query.group text) (other.group text') := by
  unfold group
  rw [shape.size, shape.isDisjunction]
  split
  · exact Envelope.disjunction.around_same same
  · exact same

theorem body_same (shape : SameShape query other)
    (balanced : ∀ v ∈ query.verbatim, Balanced v.shown.toList) :
    ∃ text text', query.body = .ok text ∧ other.body = .ok text' ∧ SameParentheses text text' := by
  obtain ⟨required, required', ok, ok', same⟩ := Condition.fragments_same shape.required
  obtain ⟨alternatives, alternatives', oks, oks', sames⟩ :=
    Condition.fragments_same shape.alternatives
  have verbatim := SameParentheses.refl (Value.joined_balanced balanced)
  refine ⟨_, _, ?_, ?_, (verbatim.append same).append (shape.group_same sames)⟩
  · exact body_eq_ok_iff.mpr ⟨required, alternatives, ok, oks, rfl⟩
  · exact body_eq_ok_iff.mpr ⟨required', alternatives', ok', oks', by rw [shape.verbatim]⟩

/-- The text of a set with one filter at most is that filter. -/
theorem body_single (shape : SameShape query other) (single : query.size ≤ 1)
    (groups : ∀ v ∈ query.verbatim, v.shown ≠ "" → IsGroup v.shown.toList)
    (ok : query.body = .ok text) : text ≠ "" → IsGroup text.toList := by
  obtain ⟨required, alternatives, written, written', rfl⟩ := body_eq_ok_iff.mp ok
  have bare : query.group alternatives = alternatives := by
    simp [group, Nat.not_lt.mpr single]
  rw [bare]
  have nothing {conditions : List Condition} {text : String} (none : conditions.length = 0)
      (ok : Condition.fragments conditions = .ok text) : text = "" := by
    obtain rfl := List.length_eq_zero_iff.mp none
    exact (Except.ok.inj ok).symm
  have few : query.required.length + query.alternatives.length + query.verbatim.length ≤ 1 := single
  by_cases verbatim : query.verbatim = []
  · by_cases required' : query.required.length = 0
    · rw [verbatim, nothing required' written]
      simpa using Condition.fragments_single shape.alternatives (by omega) written'
    · rw [verbatim, nothing (by omega) written']
      simpa using Condition.fragments_single shape.required (by omega) written
  · have some := List.length_pos_iff.mpr verbatim
    rw [nothing (by omega) written, nothing (by omega) written']
    simpa using Value.joined_single groups (by omega)

end SameShape

variable {query other : ConditionSet}

theorem filter_isGroup (shape : SameShape query other) (whole : query.nested = false)
    (balanced : ∀ v ∈ query.verbatim, Balanced v.shown.toList)
    (groups : ∀ v ∈ query.verbatim, v.shown ≠ "" → IsGroup v.shown.toList)
    (ok : query.filter = .ok text) (filled : text ≠ "") : IsGroup text.toList := by
  obtain ⟨inside, _, written, _, same⟩ := shape.body_same balanced
  rw [filter_of_body written] at ok
  obtain rfl := Except.ok.inj ok
  cases envelope : query.envelope? with
  | some envelope' =>
    simp only [envelope, Option.elim_some] at filled ⊢
    exact envelope'.around_isGroup same.balanced filled
  | none =>
    simp only [envelope, Option.elim_none] at filled ⊢
    have single : query.size ≤ 1 :=
      (envelope?_eq_none_iff.mp envelope).resolve_left (by simp [whole])
    exact shape.body_single single groups written filled

/-- Texts without parentheses leave those of the filter as they are. -/
theorem skeleton_independent_of_texts (shape : SameShape query other)
    (balanced : ∀ fragment ∈ query.verbatim, Balanced fragment.shown.toList) :
    ∃ text text', query.filter = .ok text ∧ other.filter = .ok text' ∧
      skeleton text.toList = skeleton text'.toList ∧ Balanced (skeleton text.toList) ∧
      (query.nested = false →
        (∀ fragment ∈ query.verbatim, fragment.shown ≠ "" → IsGroup fragment.shown.toList) →
          (text ≠ "" → IsGroup text.toList) ∧ (text' ≠ "" → IsGroup text'.toList)) := by
  obtain ⟨inside, inside', written, written', same⟩ := shape.body_same balanced
  have ok := filter_of_body written
  have ok' := filter_of_body written'
  have around : SameParentheses (query.envelope?.elim inside (·.around inside))
      (other.envelope?.elim inside' (·.around inside')) := by
    rw [← shape.envelope?]
    cases query.envelope? with
    | none => exact same
    | some envelope => exact envelope.around_same same
  refine ⟨_, _, ok, ok', around.skeleton, Text.balanced_skeleton_iff.mpr around.balanced, ?_⟩
  intro whole groups
  constructor
  · exact filter_isGroup shape whole balanced groups ok
  · apply filter_isGroup shape.symm (shape.nested ▸ whole) _ _ ok'
    · exact shape.verbatim ▸ balanced
    · exact shape.verbatim ▸ groups

/-- A search for a person by name. -/
def person : ConditionSet where
  required := [⟨.text "cn", .text "=", .text "bob"⟩]
  alternatives := [
    ⟨.text "sn", .text "starts_with", .text "a"⟩, ⟨.text "mail", .text "!=", .null⟩]
  verbatim := [.text "(uid=j)", .text ""]
  nested := false

/-- The same search with texts that look like parts of a filter. -/
def intruder : ConditionSet where
  required := [⟨.text "&cn=*|", .text "=", .text "*!x\\"⟩]
  alternatives := [⟨.text "", .text "starts_with", .null⟩, ⟨.text "|~", .text "!", .text "=* &"⟩]
  verbatim := [.text "(uid=j)", .text ""]
  nested := false

theorem person_sameShape : SameShape person intruder := by
  refine ⟨.cons ?_ .nil, .cons ?_ (.cons ?_ .nil), rfl, rfl⟩
  all_goals exact ⟨⟨_, rfl, rfl⟩, by decide, by decide, by decide, by decide⟩

theorem person_skeleton :
    (SameShape person intruder ∧ (∀ fragment ∈ person.verbatim, Balanced fragment.shown.toList) ∧
      ∀ fragment ∈ person.verbatim, fragment.shown ≠ "" → IsGroup fragment.shown.toList) ∧
      person.filter = .ok "(&(uid=j)(cn=bob)(|(sn=a*)(!(mail=))))" ∧
      intruder.filter = .ok "(&(uid=j)(&cn=*|=*!x\\)(|(=*)(!(|~==* &))))" ∧
      skeleton "(&(uid=j)(cn=bob)(|(sn=a*)(!(mail=))))".toList =
        skeleton "(&(uid=j)(&cn=*|=*!x\\)(|(=*)(!(|~==* &))))".toList ∧
      IsGroup "(&(uid=j)(&cn=*|=*!x\\)(|(=*)(!(|~==* &))))".toList := by
  have flat : Flat "uid=j".toList := by decide
  have balanced : ∀ fragment ∈ person.verbatim, Balanced fragment.shown.toList := by
    intro fragment listed
    simp only [person, List.mem_cons, List.not_mem_nil, or_false] at listed
    rcases listed with rfl | rfl
    · exact flat.balanced.enclosed
    · exact Text.balanced_nil
  have groups : ∀ fragment ∈ person.verbatim, fragment.shown ≠ "" → IsGroup fragment.shown.toList := by
    intro fragment listed filled
    simp only [person, List.mem_cons, List.not_mem_nil, or_false] at listed
    rcases listed with rfl | rfl
    · exact flat.balanced.isGroup_enclosed
    · exact absurd rfl filled
  have plain : person.filter = .ok "(&(uid=j)(cn=bob)(|(sn=a*)(!(mail=))))" := rfl
  have hostile : intruder.filter = .ok "(&(uid=j)(&cn=*|=*!x\\)(|(=*)(!(|~==* &))))" := rfl
  obtain ⟨text, text', ok, ok', same, _, alone⟩ :=
    skeleton_independent_of_texts person_sameShape balanced
  obtain rfl : "(&(uid=j)(cn=bob)(|(sn=a*)(!(mail=))))" = text := Except.ok.inj (plain.symm.trans ok)
  obtain rfl : "(&(uid=j)(&cn=*|=*!x\\)(|(=*)(!(|~==* &))))" = text' :=
    Except.ok.inj (hostile.symm.trans ok')
  exact ⟨⟨person_sameShape, balanced, groups⟩, plain, hostile, same,
    (alone rfl groups).2 (by decide)⟩

/-- A parenthesis in a value does change the structure. -/
example : (ConditionSet.mk [⟨.text "cn", .text "=", .text "x)(uid=*"⟩] [] [] false).filter =
    .ok "(cn=x)(uid=*)" := rfl

end ConditionSet

end DirectoryQuery
