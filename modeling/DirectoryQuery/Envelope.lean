import DirectoryQuery.Value

/-! Envelopes put one connective around a run of filters. There is no filter without content: around
nothing there is no envelope either. -/
namespace DirectoryQuery

inductive Envelope
  | conjunction | disjunction | negation
  deriving DecidableEq, Repr

namespace Envelope

def opening : Envelope → String
  | conjunction => "(&"
  | disjunction => "(|"
  | negation => "(!"

def around (envelope : Envelope) (filters : String) : String :=
  if filters = "" then "" else envelope.opening ++ filters ++ ")"

/-- An envelope around the text of any value. -/
def aroundValue (envelope : Envelope) (value : Value) : String :=
  if value.isVoid then "" else envelope.opening ++ value.shown ++ ")"

@[simp] theorem around_empty (envelope : Envelope) : envelope.around "" = "" := rfl

theorem around_eq_empty_iff (envelope : Envelope) (filters : String) :
    envelope.around filters = "" ↔ filters = "" := by
  unfold around
  split <;> simp [*]

end Envelope

/-- A value's text between two others. -/
def Value.between (value opening closing : Value) : String :=
  opening.shown ++ value.shown ++ closing.shown

/-- The texts of several values, one after another. -/
def Value.joined (values : List Value) : String := String.join (values.map Value.shown)

@[simp] theorem Value.joined_nil : joined [] = "" := rfl

@[simp] theorem Value.joined_cons (value : Value) (rest : List Value) :
    joined (value :: rest) = value.shown ++ joined rest := by
  simp [joined, String.join_cons]

end DirectoryQuery
