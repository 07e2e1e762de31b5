import DirectoryQuery.CommandLine.Request
import Mathlib.Data.List.TakeWhile

/-! Command lines put together from portions. A text without a hyphen in front is plain, whatever else
it holds; the name of a switch stands for it, and so does the name with a text attached by an equals
sign. So the arguments of portions, written one after another, are cut into these portions again. -/
namespace DirectoryQuery.CommandLine

/-- No hyphen stands in front. -/
def IsPlain (text : String) : Prop := text.toList.head? ≠ some '-'

instance (text : String) : Decidable (IsPlain text) :=
  decidable_of_iff ((text.toList.head? != some '-') = true) (by simp [IsPlain])

theorem IsPlain.ne_end (plain : IsPlain text) : text ≠ "--" := by
  rintro rfl
  exact absurd plain (by decide)

namespace Argument

theorem classify_plain (plain : IsPlain text) : classify text = .ok (.plain text) := by
  simp only [classify]
  split
  · rename_i start
    exact absurd (by rw [start]; rfl) plain
  · rfl

theorem names_spelled : ∀ entry ∈ Switch.names,
    Switch.names.lookup entry.1 = some entry.2 ∧ entry.1.toList.head? = some '-' ∧
      '=' ∉ entry.1.toList := by
  decide

theorem named?_of_equals {text : List Char} (equals : '=' ∈ text) : named? text = none := by
  rw [named?, List.lookup_eq_none_iff]
  intro entry listed
  rw [bne_iff_ne]
  intro same
  have spelled : text = entry.1.toList := by simp [← same]
  exact (names_spelled entry listed).2.2 (spelled ▸ equals)

theorem attachment_of_equals {start : List Char} (absent : '=' ∉ start) (rest : List Char) :
    attachment (start ++ '=' :: rest) = (start, some (String.ofList rest)) := by
  have before : ∀ c ∈ start, (c != '=') = true := by
    intro c listed
    simpa using ne_of_mem_of_not_mem listed absent
  simp [attachment, List.takeWhile_append_of_pos before, List.dropWhile_append_of_pos before]

variable {name : String} {switch : Switch}

theorem classify_name (listed : (name, switch) ∈ Switch.names) :
    classify name = .ok (.switch switch (isShort name.toList) none) := by
  obtain ⟨found, hyphen, _⟩ := names_spelled _ listed
  obtain ⟨rest, spelled⟩ := List.head?_eq_some_iff.mp hyphen
  have named : named? name.toList = some switch := by simpa [named?] using found
  unfold classify
  rw [spelled] at named ⊢
  simp only [named]

theorem classify_attached (listed : (name, switch) ∈ Switch.names) (text : String) :
    classify (name ++ "=" ++ text) = .ok (.switch switch (isShort name.toList) (some text)) := by
  obtain ⟨found, hyphen, absent⟩ := names_spelled _ listed
  obtain ⟨rest, spelled⟩ := List.head?_eq_some_iff.mp hyphen
  have whole : (name ++ "=" ++ text).toList = name.toList ++ '=' :: text.toList := by simp
  have named : named? name.toList = some switch := by simpa [named?] using found
  have unnamed : named? (name.toList ++ '=' :: text.toList) = none := named?_of_equals (by simp)
  unfold classify
  rw [whole, attachment_of_equals absent]
  simp only [unnamed, named]
  rw [spelled]
  simp

/-- Arguments that are classified one after another. -/
theorem classifyAll_append {texts others : List String}
    (first : classifyAll texts = .ok arguments) (second : classifyAll others = .ok rest) :
    classifyAll (texts ++ others) = .ok (arguments ++ rest) := by
  induction texts generalizing arguments with
  | nil =>
    obtain rfl : [] = arguments := Except.ok.inj first
    exact second
  | cons text texts ih =>
    simp only [List.cons_append, classifyAll] at first ⊢
    cases one : classify text with
    | error e => simp [one, bind, Except.bind] at first
    | ok argument =>
      cases many : classifyAll texts with
      | error e => simp [one, many, bind, Except.bind] at first
      | ok later =>
        simp only [one, many, bind, Except.bind, pure, Except.pure, Except.ok.injEq] at first
        simp only [ih many, ← first, bind, Except.bind, pure, Except.pure, List.cons_append]

theorem classifyAll_cons (one : classify text = .ok argument)
    (many : classifyAll texts = .ok arguments) :
    classifyAll (text :: texts) = .ok (argument :: arguments) := by
  simp only [classifyAll, one, many]
  rfl

theorem classifyAll_plain {texts : List String} (plain : ∀ text ∈ texts, IsPlain text) :
    classifyAll texts = .ok (texts.map .plain) := by
  induction texts with
  | nil => rfl
  | cons text texts ih =>
    exact classifyAll_cons (classify_plain (plain text (by simp)))
      (ih fun other listed => plain other (by simp [listed]))

end Argument

namespace Portion

/-- The arguments of a portion as they are classified. -/
def arguments (portion : Portion) : List Argument :=
  portion.head :: portion.followers.map .plain

/-- Texts that are classified as the arguments of one portion. -/
structure Written (texts : List String) (portion : Portion) : Prop where
  classified : Argument.classifyAll texts = .ok portion.arguments
  head : ∀ text, portion.head ≠ .plain text
  unended : "--" ∉ texts

end Portion

theorem portions_plains (texts : List String) (rest : List Argument) :
    portions (texts.map .plain ++ rest) = (texts ++ (portions rest).1, (portions rest).2) := by
  induction texts with
  | nil => rfl
  | cons text texts ih => simp [ih]

theorem portions_head {head : Argument} (other : ∀ text, head ≠ .plain text)
    (rest : List Argument) :
    portions (head :: rest) = ([], ⟨head, (portions rest).1⟩ :: (portions rest).2) := by
  cases head with
  | plain text => exact absurd rfl (other text)
  | switch | unknown => rfl

theorem portions_flatMap {list : List Portion} (heads : ∀ p ∈ list, ∀ text, p.head ≠ .plain text) :
    portions (list.flatMap Portion.arguments) = ([], list) := by
  induction list with
  | nil => rfl
  | cons portion list ih =>
    have later := ih fun p listed => heads p (by simp [listed])
    rw [List.flatMap_cons, Portion.arguments, List.cons_append,
      portions_head (heads portion (by simp)), portions_plains, later]
    simp

/-- Without `--`, the whole command line is read. -/
theorem takeWhile_unended {arguments : List String} (unended : "--" ∉ arguments) :
    arguments.takeWhile (· != "--") = arguments ∧ arguments.dropWhile (· != "--") = [] := by
  have all : ∀ text ∈ arguments, (text != "--") = true := by
    intro text listed
    simpa using ne_of_mem_of_not_mem listed unended
  exact ⟨List.takeWhile_eq_self_iff.mpr all, List.dropWhile_eq_nil_iff.mpr all⟩

variable {texts : α → List String} {portion : α → Portion} {list : List α}

theorem classifyAll_flatMap (written : ∀ a ∈ list, (portion a).Written (texts a)) :
    Argument.classifyAll (list.flatMap texts) =
      .ok ((list.map portion).flatMap Portion.arguments) := by
  induction list with
  | nil => rfl
  | cons a list ih =>
    exact Argument.classifyAll_append (written a (by simp)).classified
      (ih fun b listed => written b (by simp [listed]))

/-- A command line of portions is carried out portion by portion, and nothing of it goes unread. -/
theorem ofArguments_flatMap (written : ∀ a ∈ list, (portion a).Written (texts a))
    (carried : Draft.carryOutAll ⟨.empty, []⟩ (list.map portion) = .ok draft) :
    Request.ofArguments (list.flatMap texts) = draft.finish [] := by
  have classified := classifyAll_flatMap written
  have unended : "--" ∉ list.flatMap texts := by
    intro listed
    obtain ⟨a, member, inside⟩ := List.mem_flatMap.mp listed
    exact (written a member).unended inside
  have heads : ∀ p ∈ list.map portion, ∀ text, p.head ≠ .plain text := by
    intro p listed
    obtain ⟨a, member, rfl⟩ := List.mem_map.mp listed
    exact (written a member).head
  obtain ⟨whole, none⟩ := takeWhile_unended unended
  simp only [Request.ofArguments, whole, none, classified, portions_flatMap heads, carried]

end DirectoryQuery.CommandLine
