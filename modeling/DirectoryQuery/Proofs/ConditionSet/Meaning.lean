import DirectoryQuery.Proofs.ConditionSet.Reading
import DirectoryQuery.Proofs.SearchFilter.Truth

/-! The value of a set's filter for an entry, from the values of its parts. A set that collapses is the
disjunction of its conditions. Any other set is a conjunction, of its verbatim fragments, its required
conditions, and the disjunction of its alternatives if it has some. -/
namespace DirectoryQuery

open SearchFilter
open Condition (readings)
open Truth (least greatest)

/-- The value of filters side by side under a disjunction does not change when some of them are put
under one of their own. -/
theorem SearchFilter.greatest_gathered (assignment : Item → Truth) (fs : List SearchFilter) :
    greatest ((gathered .any fs).map (value assignment)) =
      greatest (fs.map (value assignment)) := by
  cases fs <;> simp [gathered]

namespace ConditionSet

variable {query : ConditionSet} {raws : List SearchFilter} (assignment : Item → Truth)

theorem greatest_members : greatest ((query.members raws).map (value assignment)) =
    greatest ((raws ++ readings query.required ++ readings query.alternatives).map
      (value assignment)) := by
  unfold members grouped
  split
  · simp [greatest_gathered]
  · rfl

theorem least_members (clean : query.Clean) (other : ¬query.Collapses) :
    least ((query.members raws).map (value assignment)) =
      least ((raws ++ readings query.required ++
        gathered .any (readings query.alternatives)).map (value assignment)) := by
  rcases Nat.lt_or_ge 1 query.size with several | single
  · rw [members_of_several several other]
  · -- Without a group there is one alternative at most.
    have short : (readings query.alternatives).length ≤ 1 := by
      rw [Condition.length_readings clean.alternatives]
      simp only [size] at single
      omega
    rw [members_of_single single]
    cases alternatives : readings query.alternatives with
    | nil => rfl
    | cons f others =>
      obtain rfl : others = [] := by simpa [alternatives] using short
      simp [gathered]

theorem members_ne_nil_of_collapses (clean : query.Clean) (fragments : Fragments query.verbatim raws)
    (collapses : query.Collapses) : query.members raws ≠ [] := by
  intro empty
  rw [members_of_collapses fragments collapses, List.append_eq_nil_iff,
    Condition.readings_eq_nil_iff clean.alternatives] at empty
  exact collapses.2.2.1 empty.2

/-- The value of a set on its own, where a blank text counts as true. -/
theorem least_outermost (clean : query.Clean) (fragments : Fragments query.verbatim raws)
    (whole : query.nested = false) :
    least ((query.outermost raws).map (value assignment)) =
      if query.Collapses then
        greatest ((readings query.required ++ readings query.alternatives).map (value assignment))
      else least ((raws ++ readings query.required ++
        gathered .any (readings query.alternatives)).map (value assignment)) := by
  split
  · rename_i collapses
    have filled := members_ne_nil_of_collapses clean fragments collapses
    rcases outermost_cases clean fragments whole with ⟨empty, _⟩ | ⟨_, f, one, shape, _⟩
    · exact absurd empty filled
    · rw [one, shape collapses, members_of_collapses fragments collapses]
      simp
  · rename_i other
    rw [← least_members assignment clean other]
    rcases outermost_cases clean fragments whole with ⟨empty, none⟩ | ⟨_, f, one, _, several, single⟩
    · rw [none, empty]
    · rw [one]
      rcases Nat.lt_or_ge 1 query.size with h | h
      · simp [several h other]
      · rw [single h]

end ConditionSet

end DirectoryQuery
