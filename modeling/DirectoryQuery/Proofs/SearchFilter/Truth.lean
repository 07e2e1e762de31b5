import DirectoryQuery.Proofs.SearchFilter.Grammar
import Mathlib.Data.Nat.Basic
import Mathlib.Order.Lattice
import Mathlib.Order.MinMax

/-! The value of a filter for an entry. An item may be undefined there, so there are three truth
values in a row: a conjunction has the least value of its members, a disjunction the greatest, and
negation turns the row round. Nothing is assumed of the items: any assignment of values to them is
admitted. -/
namespace DirectoryQuery

inductive Truth
  | no | unknown | yes
  deriving DecidableEq, Repr

namespace Truth

def rank : Truth → Nat
  | no => 0
  | unknown => 1
  | yes => 2

theorem rank_injective : Function.Injective rank := by
  intro a b same
  cases a <;> cases b <;> first | rfl | simp [rank] at same

instance : LinearOrder Truth := LinearOrder.lift' rank rank_injective

def negation : Truth → Truth
  | no => yes
  | unknown => unknown
  | yes => no

/-- The least of several values, and true if there are none. -/
def least (values : List Truth) : Truth := values.foldr min yes

/-- The greatest of several values, and false if there are none. -/
def greatest (values : List Truth) : Truth := values.foldr max no

@[simp] theorem yes_min (value : Truth) : min yes value = value := by cases value <;> rfl

@[simp] theorem min_yes (value : Truth) : min value yes = value := by cases value <;> rfl

@[simp] theorem no_max (value : Truth) : max no value = value := by cases value <;> rfl

@[simp] theorem max_no (value : Truth) : max value no = value := by cases value <;> rfl

theorem min_eq_yes_iff {a b : Truth} : min a b = yes ↔ a = yes ∧ b = yes := by
  cases a <;> cases b <;> decide

@[simp] theorem least_nil : least [] = yes := rfl

@[simp] theorem least_cons (value : Truth) (rest : List Truth) :
    least (value :: rest) = min value (least rest) := rfl

@[simp] theorem greatest_nil : greatest [] = no := rfl

@[simp] theorem greatest_cons (value : Truth) (rest : List Truth) :
    greatest (value :: rest) = max value (greatest rest) := rfl

@[simp] theorem least_append (values others : List Truth) :
    least (values ++ others) = min (least values) (least others) := by
  induction values with
  | nil => exact (yes_min _).symm
  | cons value rest ih => rw [List.cons_append, least_cons, least_cons, ih, min_assoc]

@[simp] theorem greatest_append (values others : List Truth) :
    greatest (values ++ others) = max (greatest values) (greatest others) := by
  induction values with
  | nil => exact (no_max _).symm
  | cons value rest ih => rw [List.cons_append, greatest_cons, greatest_cons, ih, max_assoc]

end Truth

namespace SearchFilter

variable (assignment : Item → Truth)

mutual

def value : SearchFilter → Truth
  | .item i => assignment i
  | .all members => Truth.least (values members)
  | .any members => Truth.greatest (values members)
  | .neg negated => negated.value.negation

def values : List SearchFilter → List Truth
  | [] => []
  | f :: fs => f.value :: values fs

end

theorem values_eq_map (fs : List SearchFilter) : values assignment fs = fs.map (value assignment) := by
  induction fs with
  | nil => rfl
  | cons f fs ih => rw [values, ih, List.map_cons]

@[simp] theorem value_all (fs : List SearchFilter) :
    (all fs).value assignment = Truth.least (fs.map (value assignment)) := by
  rw [value, values_eq_map]

@[simp] theorem value_any (fs : List SearchFilter) :
    (any fs).value assignment = Truth.greatest (fs.map (value assignment)) := by
  rw [value, values_eq_map]

end SearchFilter

end DirectoryQuery
