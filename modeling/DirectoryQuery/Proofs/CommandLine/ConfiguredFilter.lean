import DirectoryQuery.Proofs.CommandLine.Course
import DirectoryQuery.Proofs.Condition.Reading
import DirectoryQuery.Proofs.Settings

/-! The filter that an environment adds to every search. It may be given with its parentheses or without
them: every filter opens with a parenthesis and nothing that stands inside one does, so the first character
tells which. Either way the first fragment of a search is the one filter that is meant. -/
namespace DirectoryQuery

open SearchFilter (Inside Spelled)

namespace Settings

variable {given : String} {text : List Char} {f : SearchFilter}

theorem standardFilter_spelled (core : Text.IsCore text given.toList) (spelled : Spelled text f) :
    standardFilter given = some (.ofList text) := by
  obtain ⟨rest, rfl⟩ := spelled.head
  exact standardFilter_opened core

theorem standardFilter_inside (core : Text.IsCore text given.toList) (inside : Inside text f) :
    standardFilter given = some ("(" ++ .ofList text ++ ")") := by
  obtain ⟨c, rest, rfl, bare⟩ := inside.head
  exact standardFilter_bare core bare

/-- A filter, with its parentheses or without them, becomes the text that spells it. -/
theorem exists_standardFilter (core : Text.IsCore text given.toList)
    (means : Spelled text f ∨ Inside text f) :
    ∃ fragment, standardFilter given = some fragment ∧ (Spelled text f → fragment.toList = text) ∧
      (Inside text f → fragment.toList = '(' :: (text ++ [')'])) ∧ Spelled fragment.toList f := by
  rcases means with spelled | inside
  · refine ⟨_, standardFilter_spelled core spelled, fun _ => String.toList_ofList,
      fun inside => absurd spelled inside.not_spelled, ?_⟩
    rwa [String.toList_ofList]
  · have whole : ("(" ++ String.ofList text ++ ")").toList = '(' :: (text ++ [')']) := by simp
    refine ⟨_, standardFilter_inside core inside, fun spelled => absurd spelled inside.not_spelled,
      fun _ => whole, ?_⟩
    rw [whole]
    exact .parenthesised inside

end Settings

namespace CommandLine

open Settings (standardFilter)

theorem Searches.verbatim (searches : Searches environment arguments settings request query)
    (configured : environment "LDAP_FILTER" = some given) (standard : standardFilter given = some fragment) :
    query.verbatim = .text fragment :: request.verbatim := by
  have filter : settings.filter = some fragment := by
    rw [Settings.filter_of_configured searches.configured, configured, Option.bind_some, standard]
  simpa [filter] using verbatim_query searches.built

/-- No filter is configured by blanks alone. Any other text becomes one that opens with a parenthesis, has
no blanks around it, and is kept if it is given again. What is a filter, or the inside of one, becomes that
filter, and this is the first fragment of every search. -/
theorem configured_filter_wellformed (given : String) :
    (Settings.withFilter (some given)).filter = standardFilter given ∧
    (standardFilter given = none ↔ ∀ c ∈ given.toList, Text.isBlank c = true) ∧
    (∀ fragment, standardFilter given = some fragment →
      fragment.toList.head? = some '(' ∧ Text.IsTrimmed fragment.toList ∧
        standardFilter fragment = some fragment) ∧
    ∀ text f, Text.IsCore text given.toList → Spelled text f ∨ Inside text f →
      ∃ fragment, standardFilter given = some fragment ∧
        (Spelled text f → fragment.toList = text) ∧
        (Inside text f → fragment.toList = '(' :: (text ++ [')'])) ∧
        (∀ g, Spelled fragment.toList g ↔ g = f) ∧
        ∀ environment arguments settings request query, environment "LDAP_FILTER" = some given →
          Searches environment arguments settings request query →
          query.verbatim = .text fragment :: request.verbatim := by
  refine ⟨rfl, Settings.standardFilter_eq_none_iff, fun fragment standard => ?_, ?_⟩
  · obtain ⟨opens, trimmed⟩ := Settings.standardFilter_standard standard
    exact ⟨opens, trimmed, Settings.standardFilter_again standard⟩
  · intro text f core means
    obtain ⟨fragment, standard, kept, enclosed, spelled⟩ := Settings.exists_standardFilter core means
    refine ⟨fragment, standard, kept, enclosed, fun g => ⟨fun other => other.unique spelled, ?_⟩, ?_⟩
    · rintro rfl
      exact spelled
    · intro environment arguments settings request query configured searches
      exact searches.verbatim configured standard

/-- The inside of a negated disjunction, with blanks around it. -/
def refusal : String := "\t!(|(a=1)(b=*))\u00a0"

theorem refusal_wellformed :
    (Text.IsCore "!(|(a=1)(b=*))".toList refusal.toList ∧ ∃ f, Inside "!(|(a=1)(b=*))".toList f) ∧
      ∃ settings request query, Searches
        (fun name => if name = "LDAP_FILTER" then some refusal else none)
        ["--where", "uid", "=", "j", "--raw", "(x=y)", "--search"] settings request query ∧
        query.verbatim = [.text "(!(|(a=1)(b=*)))", .text "(x=y)"] := by
  have core : Text.IsCore "!(|(a=1)(b=*))".toList refusal.toList := Text.isCore_iff.mpr rfl
  have isField : Item.IsField "a".toList ∧ Item.IsField "b".toList := by decide
  have isValue : Item.IsValue "1".toList ∧ Item.IsValue "".toList := ⟨.plain rfl .empty, .empty⟩
  have a : Spelled "(a=1)".toList _ := Operator.equal.fragment_spelled isField.1 isValue.1 (by decide)
  have b : Spelled "(b=*)".toList _ := Operator.present.fragment_spelled isField.2 isValue.2 (by decide)
  have inside : Inside "!(|(a=1)(b=*))".toList _ := .neg (.parenthesised (.any (.cons a b.run) (by simp)))
  have searches : Searches (fun name => if name = "LDAP_FILTER" then some refusal else none)
      ["--where", "uid", "=", "j", "--raw", "(x=y)", "--search"] _ _ _ := ⟨rfl, rfl, rfl, rfl, rfl⟩
  refine ⟨⟨core, _, inside⟩, _, _, _, searches, ?_⟩
  obtain ⟨_, _, _, read⟩ := configured_filter_wellformed refusal
  obtain ⟨fragment, _, _, enclosed, _, first⟩ := read _ _ core (.inr inside)
  rw [first _ _ _ _ _ rfl searches]
  obtain rfl : fragment = "(!(|(a=1)(b=*)))" := String.toList_inj.mp (enclosed inside)
  rfl

end CommandLine

end DirectoryQuery
