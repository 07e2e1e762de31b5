import DirectoryQuery.Proofs.ConditionSet.Meaning
import DirectoryQuery.Proofs.Directory.SentFilters
import DirectoryQuery.Proofs.Settings

/-! A verbatim fragment restricts a query: what the set matches with it is what the set and the fragment
both match. The one exception is a pair of a required condition and an alternative without a fragment.
It is a disjunction, and turns into a conjunction with the first fragment, even a blank one. -/
namespace DirectoryQuery

open SearchFilter
open Condition (readings readings_nil readings_eq_nil_iff)
open Truth (least greatest)

/-- The value of a text for an entry: that of the filter it spells, and true if it is blank. -/
inductive HasValue (assignment : Item → Truth) : String → Truth → Prop
  | blank : HasValue assignment "" .yes
  | filter : Spelled text.toList f → HasValue assignment text (f.value assignment)

namespace HasValue

variable {assignment : Item → Truth}

theorem of_run (run : Run text.toList fs) (short : fs.length ≤ 1) :
    HasValue assignment text (least (fs.map (value assignment))) := by
  match fs, short with
  | [], _ =>
    obtain rfl : text = "" := by simpa using run.eq_nil_iff
    exact .blank
  | [f], _ => simpa using HasValue.filter (run_singleton_iff.mp run)

theorem unique (first : HasValue assignment text v) (second : HasValue assignment text w) : v = w := by
  cases first with
  | blank =>
    cases second with
    | blank => rfl
    | filter spelled => exact absurd (spelled.run.eq_nil_iff.mp rfl) (by simp)
  | filter spelled =>
    cases second with
    | blank => exact absurd (spelled.run.eq_nil_iff.mp rfl) (by simp)
    | filter spelled' => rw [spelled.unique spelled']

theorem iff_of_same (first : HasValue assignment text v) (second : HasValue assignment other v) :
    HasValue assignment text w ↔ HasValue assignment other w := by
  constructor
  · intro value
    rw [value.unique first]
    exact second
  · intro value
    rw [value.unique second]
    exact first

/-- What the conjunction of two texts matches, both match. -/
theorem yes_iff (together : HasValue assignment both (min v w))
    (first : HasValue assignment text v) (second : HasValue assignment other w) :
    HasValue assignment both .yes ↔ HasValue assignment text .yes ∧ HasValue assignment other .yes := by
  constructor
  · intro matched
    obtain ⟨rfl, rfl⟩ := Truth.min_eq_yes_iff.mp (together.unique matched)
    exact ⟨first, second⟩
  · rintro ⟨matched, matched'⟩
    rw [first.unique matched, second.unique matched'] at together
    exact together

end HasValue

namespace ConditionSet

variable {query : ConditionSet} {raws : List SearchFilter}

/-- A required condition and an alternative, and nothing else. -/
def IsPair (query : ConditionSet) : Prop :=
  query.required.length = 1 ∧ query.alternatives.length = 1 ∧ query.verbatim = []

/-- The value of the conditions of a set that is a conjunction. -/
def conditionsValue (query : ConditionSet) (assignment : Item → Truth) : Truth :=
  least ((readings query.required ++ gathered .any (readings query.alternatives)).map
    (value assignment))

theorem least_outermost_of_not_pair (clean : query.Clean)
    (fragments : Fragments query.verbatim raws) (whole : query.nested = false)
    (other : ¬query.IsPair) (assignment : Item → Truth) :
    least ((query.outermost raws).map (value assignment)) =
      min (least (raws.map (value assignment))) (query.conditionsValue assignment) := by
  rw [least_outermost assignment clean fragments whole]
  split
  · rename_i collapses
    obtain ⟨_, bare, chosen, none | ⟨one, single⟩⟩ := collapses
    · have blank : raws = [] := by simpa [bare] using fragments.length_le
      have filled := mt (readings_eq_nil_iff clean.alternatives).mp chosen
      rw [conditionsValue, none, readings_nil, gathered_of_ne_nil filled, blank]
      simp
    · exact absurd ⟨one, single, bare⟩ other
  · rw [List.append_assoc, List.map_append, Truth.least_append]
    rfl

/-- A pair is a disjunction. -/
theorem least_outermost_of_pair (clean : query.Clean) (fragments : Fragments query.verbatim raws)
    (whole : query.nested = false) (pair : query.IsPair) (assignment : Item → Truth) :
    least ((query.outermost raws).map (value assignment)) =
      greatest ((readings query.required ++ readings query.alternatives).map (value assignment)) := by
  obtain ⟨one, single, bare⟩ := pair
  have collapses : query.Collapses := by
    refine ⟨by simp only [size, one, single]; omega, bare, ?_, Or.inr ⟨one, single⟩⟩
    intro none
    simp [none] at single
  rw [least_outermost assignment clean fragments whole, if_pos collapses]

/-- The text of a set on its own, with the value of what it reads as. -/
theorem filter_hasValue (clean : query.Clean) (fragments : Fragments query.verbatim raws)
    (whole : query.nested = false) :
    ∃ text, query.filter = .ok text ∧ (text = "" → raws = []) ∧ ∀ assignment,
      HasValue assignment text (least ((query.outermost raws).map (value assignment))) := by
  obtain ⟨text, ok, run⟩ := filter_run clean fragments
  have short := (length_outermost_le clean fragments).mpr (Or.inl whole)
  refine ⟨text, ok, ?_, fun assignment => .of_run run short⟩
  rintro rfl
  have none : query.outermost raws = [] := run.eq_nil_iff.mp rfl
  rcases outermost_cases clean fragments whole with ⟨empty, _⟩ | ⟨_, f, one, _⟩
  · rw [members_eq_nil_iff, List.append_assoc, List.append_eq_nil_iff] at empty
    exact empty.1
  · simp [one] at none

variable {trees : List SearchFilter} {fragment : String}

theorem addVerbatim_value (clean : query.Clean) (whole : query.nested = false)
    (fragments : Fragments query.verbatim raws) (added : Fragments [.text fragment] trees) :
    ∃ text, (query.addVerbatim [.text fragment]).filter = .ok text ∧ ∀ assignment,
      HasValue assignment text (min (min (least (raws.map (value assignment)))
        (least (trees.map (value assignment)))) (query.conditionsValue assignment)) := by
  have clean : (query.addVerbatim [.text fragment]).Clean := ⟨clean.required, clean.alternatives⟩
  have other : ¬(query.addVerbatim [.text fragment]).IsPair := fun pair => by
    simpa [addVerbatim] using pair.2.2
  obtain ⟨text, ok, _, values⟩ := filter_hasValue clean (fragments.append added) whole
  refine ⟨text, ok, fun assignment => ?_⟩
  have value := values assignment
  rw [least_outermost_of_not_pair clean (fragments.append added) whole other, List.map_append,
    Truth.least_append] at value
  exact value

theorem precede_value (clean : query.Clean) (whole : query.nested = false)
    (fragments : Fragments query.verbatim raws) (added : Fragments [.text fragment] trees)
    (filled : fragment ≠ "") :
    ∃ text, (query.precede (.text fragment)).filter = .ok text ∧ text ≠ "" ∧ ∀ assignment,
      HasValue assignment text (min (min (least (raws.map (value assignment)))
        (least (trees.map (value assignment)))) (query.conditionsValue assignment)) := by
  have clean : (query.precede (.text fragment)).Clean := ⟨clean.required, clean.alternatives⟩
  have other : ¬(query.precede (.text fragment)).IsPair := fun pair => by
    simpa [precede] using pair.2.2
  have some : trees ++ raws ≠ [] := by
    cases added with
    | blank blank _ => exact absurd blank filled
    | filter => simp
  obtain ⟨text, ok, present, values⟩ := filter_hasValue clean (added.append fragments) whole
  refine ⟨text, ok, mt present some, fun assignment => ?_⟩
  have value := values assignment
  rw [least_outermost_of_not_pair clean (added.append fragments) whole other, List.map_append,
    Truth.least_append, min_comm (least (trees.map _))] at value
  exact value

theorem value_of_pair (clean : query.Clean) (fragments : Fragments query.verbatim raws)
    (whole : query.nested = false) (pair : query.IsPair) :
    ∃ a b, readings query.required = [a] ∧ readings query.alternatives = [b] ∧ ∀ assignment,
      least ((query.outermost raws).map (value assignment)) =
        max (a.value assignment) (b.value assignment) ∧
      least (raws.map (value assignment)) = .yes ∧
      query.conditionsValue assignment = min (a.value assignment) (b.value assignment) := by
  have bare : raws = [] := by simpa [pair.2.2] using fragments.length_le
  obtain ⟨a, required⟩ : ∃ a, readings query.required = [a] := by
    rw [← List.length_eq_one_iff, Condition.length_readings clean.required, pair.1]
  obtain ⟨b, alternatives⟩ : ∃ b, readings query.alternatives = [b] := by
    rw [← List.length_eq_one_iff, Condition.length_readings clean.alternatives, pair.2.1]
  refine ⟨a, b, required, alternatives, fun assignment => ⟨?_, by simp [bare], ?_⟩⟩
  · rw [least_outermost_of_pair clean fragments whole pair, required, alternatives]
    simp
  · rw [conditionsValue, required, alternatives]
    simp [gathered]

/-- A run whose settings have a filter sends the query of its request with the filter before it. -/
theorem sends_preceded (clean : query.Clean) (whole : query.nested = false)
    (fragments : Fragments query.verbatim raws) (added : Fragments [.text fragment] trees)
    (searches : CommandLine.Searches environment arguments settings request configured)
    (standard : settings.filter = some fragment) (plain : request.query none = .ok query)
    (directory : Directory) :
    ∃ sent, sentFilters (CommandLine.run directory environment arguments).calls =
        (if (directory (CommandLine.connection settings)).isOk then [sent] else []) ∧
      ∀ assignment, HasValue assignment sent (min (min (least (raws.map (value assignment)))
        (least (trees.map (value assignment)))) (query.conditionsValue assignment)) := by
  have filled := Settings.filter_ne_blank searches.configured standard
  obtain ⟨sent, ok, present, values⟩ := precede_value clean whole fragments added filled
  have built := searches.built
  rw [standard, CommandLine.query_configured, plain] at built
  obtain rfl := Except.ok.inj built
  refine ⟨sent, ?_, values⟩
  rw [CommandLine.calls_run searches directory, sentFilters_search ok, SearchReport.sent, if_neg present]
  rfl

/-- A verbatim fragment restricts every set but a pair. A pair with one is the conjunction of its
conditions and the fragment. What a run sends whose settings have the fragment for a filter has the
value of the set with the fragment. -/
theorem addVerbatim_restricts (clean : query.Clean) (whole : query.nested = false)
    (fragments : Fragments query.verbatim raws) (added : Fragments [.text fragment] trees) :
    ∃ text restricted, query.filter = .ok text ∧
      (query.addVerbatim [.text fragment]).filter = .ok restricted ∧
      (∀ assignment, ∃ v w, HasValue assignment text v ∧ HasValue assignment fragment w ∧
        (¬query.IsPair → HasValue assignment restricted (min v w)) ∧
        (query.IsPair → ∃ a b, readings query.required = [a] ∧ readings query.alternatives = [b] ∧
          v = max (a.value assignment) (b.value assignment) ∧
          HasValue assignment restricted
            (min (min (a.value assignment) (b.value assignment)) w))) ∧
      ∀ directory environment arguments settings request configured,
        CommandLine.Searches environment arguments settings request configured →
        settings.filter = some fragment → request.query none = .ok query →
          ∃ sent, sentFilters (CommandLine.run directory environment arguments).calls =
              (if (directory (CommandLine.connection settings)).isOk then [sent] else []) ∧
            (∀ assignment v, HasValue assignment sent v ↔ HasValue assignment restricted v) ∧
            (¬query.IsPair → ∀ assignment, HasValue assignment sent .yes ↔
              HasValue assignment text .yes ∧ HasValue assignment fragment .yes) := by
  obtain ⟨text, ok, _, values⟩ := filter_hasValue clean fragments whole
  obtain ⟨restricted, restrictedOk, restrictedValues⟩ :=
    addVerbatim_value clean whole fragments added
  have addedValue (assignment : Item → Truth) :
      HasValue assignment fragment (least (trees.map (value assignment))) :=
    .of_run (by simpa using added.run) (by simpa using added.length_le)
  have restricts (other : ¬query.IsPair) (assignment : Item → Truth) :
      HasValue assignment restricted (min (least ((query.outermost raws).map (value assignment)))
        (least (trees.map (value assignment)))) := by
    rw [least_outermost_of_not_pair clean fragments whole other, min_right_comm]
    exact restrictedValues assignment
  refine ⟨text, restricted, ok, restrictedOk, ?_, ?_⟩
  · intro assignment
    refine ⟨_, _, values assignment, addedValue assignment, (restricts · assignment), ?_⟩
    intro pair
    obtain ⟨a, b, required, alternatives, alone⟩ := value_of_pair clean fragments whole pair
    obtain ⟨disjunction, bare, conjunction⟩ := alone assignment
    refine ⟨a, b, required, alternatives, disjunction, ?_⟩
    have together := restrictedValues assignment
    rw [bare, conjunction, Truth.yes_min, min_comm] at together
    exact together
  · intro directory environment arguments settings request configured searches standard plain
    obtain ⟨sent, calls, sentValues⟩ :=
      sends_preceded clean whole fragments added searches standard plain directory
    refine ⟨sent, calls, ?_, ?_⟩
    · intro assignment v
      exact (sentValues assignment).iff_of_same (restrictedValues assignment)
    · intro other assignment
      rw [(sentValues assignment).iff_of_same (restrictedValues assignment)]
      exact (restricts other assignment).yes_iff (values assignment) (addedValue assignment)

/-- A required condition and an alternative. -/
def pair : ConditionSet where
  required := [⟨.text "a", .text "=", .text "1"⟩]
  alternatives := [⟨.text "b", .text "=", .text "2"⟩]
  verbatim := []
  nested := false

theorem pair_clean : pair.Clean := by
  constructor
  all_goals
    intro c member
    obtain rfl := List.mem_singleton.mp member
    exact Condition.clean_of_plain (by decide) (by decide) (by decide) (by decide)

theorem pair_changed_by_blank :
    (pair.Clean ∧ Fragments pair.verbatim [] ∧ Fragments [.text ""] []) ∧
      pair.filter = .ok "(|(a=1)(b=2))" ∧
      (pair.addVerbatim [.text ""]).filter = .ok "(&(a=1)(|(b=2)))" ∧
      ∃ assignment, HasValue assignment "(|(a=1)(b=2))" .yes ∧ HasValue assignment "" .yes ∧
        HasValue assignment "(&(a=1)(|(b=2)))" .no := by
  have blank : Fragments [.text ""] [] := .blank rfl .nil
  refine ⟨⟨pair_clean, .nil, blank⟩, rfl, rfl, ?_⟩
  let assignment : Item → Truth
    | .comparison _ field _ => if field = "a".toList then .yes else .no
    | _ => .no
  obtain ⟨text, ok, _, values⟩ := filter_hasValue pair_clean .nil rfl
  obtain rfl := Except.ok.inj ((show pair.filter = .ok _ from rfl).symm.trans ok)
  obtain ⟨changed, ok', values'⟩ := addVerbatim_value pair_clean rfl .nil blank
  obtain rfl := Except.ok.inj
    ((show (pair.addVerbatim [.text ""]).filter = .ok _ from rfl).symm.trans ok')
  exact ⟨assignment, values assignment, .blank, values' assignment⟩

theorem staff_restricted :
    (staff.Clean ∧ staff.nested = false ∧ Fragments staff.verbatim staffRaws ∧
      Fragments [.text "(mail=*)"] [.item (.presence "mail".toList)]) ∧
      ∃ sent, sentFilters (CommandLine.run (fun _ => .ok fun _ => .ok [])
        (fun name => if name = "LDAP_FILTER" then some "mail=*" else none)
        ["--search", "--where", "objectClass", "=", "person", "--or-where", "cn starts_with adm",
          "--or-where", "cn", "!=", "root", "--raw", "(uid=j)", "--raw", ""]).calls = [sent] ∧
        ∀ assignment, HasValue assignment sent .yes ↔
          HasValue assignment "(&(uid=j)(objectClass=person)(|(cn=adm*)(!(cn=root))))" .yes ∧
            HasValue assignment "(mail=*)" .yes := by
  have isField : Item.IsField "mail".toList := by decide
  have isValue : Item.IsValue "".toList := .empty
  have added : Fragments [.text "(mail=*)"] [.item (.presence "mail".toList)] :=
    .filter (Operator.present.fragment_spelled isField isValue (by decide)) .nil
  refine ⟨⟨staff_clean, rfl, staff_fragments, added⟩, ?_⟩
  obtain ⟨text, _, ok, _, _, runs⟩ := addVerbatim_restricts staff_clean rfl staff_fragments added
  obtain rfl := Except.ok.inj ((show staff.filter = .ok _ from rfl).symm.trans ok)
  have searches : CommandLine.Searches
      (fun name => if name = "LDAP_FILTER" then some "mail=*" else none)
      ["--search", "--where", "objectClass", "=", "person", "--or-where", "cn starts_with adm",
        "--or-where", "cn", "!=", "root", "--raw", "(uid=j)", "--raw", ""]
      _ _ (staff.precede (.text "(mail=*)")) := ⟨rfl, rfl, rfl, rfl, rfl⟩
  obtain ⟨sent, calls, _, matched⟩ :=
    runs (fun _ => .ok fun _ => .ok []) _ _ _ _ _ searches rfl rfl
  exact ⟨sent, calls, matched fun pair => absurd pair.2.2 (by simp [staff])⟩

end ConditionSet

end DirectoryQuery
