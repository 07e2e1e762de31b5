import DirectoryQuery.Proofs.CommandLine.Directives
import DirectoryQuery.Proofs.CommandLine.Drafts
import DirectoryQuery.Proofs.Text.Words

/-! Conditions in one argument. Such an argument is a condition exactly if it holds two words or more; these
are the field and the token, and the value is whatever stands behind the blanks after them. It is then the
same condition as in separate arguments, wherever it stands on a command line, except that its value may
start like a switch. -/
namespace DirectoryQuery.CommandLine

open Text (IsBlanks IsFlush IsGap IsWord allWords words)

/-- One argument that holds a wording: its parts with blanks between them, and possibly in front. A value
starts with no blank, and any other blanks in it belong to it. Without one, blanks may stand at the end. -/
inductive Wording.Quoted : Wording → List Char → Prop
  | bare {field token : String} {front gap back : List Char} (front_blanks : IsBlanks front)
      (field_word : IsWord field.toList) (apart : IsGap gap) (token_word : IsWord token.toList)
      (back_blanks : IsBlanks back) :
      Quoted ⟨field, token, none⟩ (front ++ (field.toList ++ (gap ++ (token.toList ++ back))))
  | valued {field token value : String} {front gap second : List Char}
      (front_blanks : IsBlanks front) (field_word : IsWord field.toList) (apart : IsGap gap)
      (token_word : IsWord token.toList) (apart' : IsGap second) (filled : value.toList ≠ [])
      (flush : IsFlush value.toList) :
      Quoted ⟨field, token, some value⟩
        (front ++ (field.toList ++ (gap ++ (token.toList ++ (second ++ value.toList)))))

variable {wording : Wording} {cs : List Char} {text : String}

/-- The parts are taken out of the argument as they are. -/
theorem Wording.Quoted.words_eq (quoted : wording.Quoted cs) :
    (words 2 cs).map String.ofList = wording.arguments := by
  cases quoted with
  | bare front field apart token back =>
    rw [Text.words_succ front field (apart.startsBlank_append _),
      Text.words_succ apart.blanks token back.startsBlank, Text.words_blanks back]
    simp [arguments]
  | valued front field apart token apart' filled flush =>
    rw [Text.words_succ front field (apart.startsBlank_append _),
      Text.words_succ apart.blanks token (apart'.startsBlank_append _),
      Text.words_zero apart'.blanks flush filled]
    simp [arguments]

/-- A text of two words or more is a condition. -/
theorem Wording.exists_quoted (several : 2 ≤ (allWords cs).length) :
    ∃ wording : Wording, wording.Quoted cs := by
  have spelled (part : List Char) : ∃ s : String, s.toList = part := ⟨.ofList part, by simp⟩
  rcases Text.isBlanks_or_word cs with blanks | ⟨front, field, rest, before, isWord, apart, rfl⟩
  · simp [Text.allWords_blanks blanks] at several
  rw [Text.allWords_word before isWord apart, List.length_cons] at several
  rcases Text.isBlanks_or_word rest with blanks | ⟨gap, token, rest, between, isWord', apart', rfl⟩
  · simp [Text.allWords_blanks blanks] at several
  have gapped := Text.isGap_of_startsBlank apart between (isWord'.isFlush_append rest)
    (isWord'.append_ne_nil rest)
  obtain ⟨field, rfl⟩ := spelled field
  obtain ⟨token, rfl⟩ := spelled token
  obtain ⟨second, behind, whole⟩ := Text.exists_dropBlanks rest
  have flush := Text.isFlush_dropBlanks rest
  obtain ⟨value, start⟩ := spelled (Text.dropBlanks rest)
  rw [← start] at whole flush
  subst whole
  by_cases filled : value.toList = []
  · have back : IsBlanks (second ++ value.toList) := by simpa [filled] using behind
    exact ⟨_, .bare before isWord gapped isWord' back⟩
  · have gapped' := Text.isGap_of_startsBlank apart' behind flush filled
    exact ⟨_, .valued before isWord gapped isWord' gapped' filled flush⟩

theorem parts_quoted (quoted : wording.Quoted text.toList) : parts [text] = wording.arguments :=
  quoted.words_eq

/-- The words of an argument, however many there are. -/
def wordsOf (text : String) : List String := (allWords text.toList).map String.ofList

theorem exists_quoted_iff : (∃ wording : Wording, wording.Quoted text.toList) ↔ 2 ≤ (wordsOf text).length := by
  rw [wordsOf, List.length_map]
  refine ⟨?_, Wording.exists_quoted⟩
  rintro ⟨wording, quoted⟩
  have taken := congrArg List.length quoted.words_eq
  rw [List.length_map, Text.length_words, Wording.arguments] at taken
  simp only [List.length_cons] at taken
  omega

/-! What becomes of the argument. -/

theorem conditionOf_quoted (switch : Switch) (quoted : wording.Quoted text.toList) :
    conditionOf switch [text] = .ok wording.condition := by
  have same : parts wording.arguments = wording.arguments := by
    obtain ⟨field, token, value⟩ := wording
    cases value <;> rfl
  rw [← conditionOf_arguments switch wording]
  simp only [conditionOf, parts_quoted quoted, same]

/-- Neither two parts nor three make a condition. -/
theorem conditionOf_of_length {group : List String}
    (other : (parts group).length ≠ 2 ∧ (parts group).length ≠ 3) (switch : Switch) :
    conditionOf switch group = .error (.malformed switch (parts group)) := by
  unfold conditionOf
  split
  · rename_i two
    simp [two] at other
  · rename_i three
    simp [three] at other
  · rfl

theorem parts_few (few : (wordsOf text).length < 2) : parts [text] = wordsOf text := by
  rw [wordsOf, List.length_map] at few
  rw [parts, Text.words_eq_allWords (by omega), wordsOf]

theorem conditionOf_few (few : (wordsOf text).length < 2) (switch : Switch) :
    conditionOf switch [text] = .error (.malformed switch (wordsOf text)) := by
  have whole := parts_few few
  rw [conditionOf_of_length (by rw [whole]; omega), whole]

variable {name : String} {switch : Switch}
  {add : ConditionSet → Condition → Except InvalidOperator ConditionSet}

/-- A request for one group of arguments. -/
def Request.ofGroup (switch : Switch) (group : List String) : Request :=
  match switch with
  | .required => { empty with required := [group] }
  | .alternative => { empty with alternatives := [group] }
  | _ => empty

theorem TakesConditions.ofArguments_group (takes : TakesConditions name switch add)
    {group : List String} (filled : group ≠ []) (plain : ∀ text ∈ group, IsPlain text) :
    Request.ofArguments (name :: group) = .ok (.ofGroup switch group) := by
  obtain ⟨first, rest, rfl⟩ := List.exists_cons_of_ne_nil filled
  cases takes with
  | required =>
    have named : ("--where", Switch.required) ∈ Switch.names := by decide
    exact ofArguments_portion (Directive.written_plain named (by decide) (by decide) plain) rfl
  | alternative =>
    have named : ("--or-where", Switch.alternative) ∈ Switch.names := by decide
    exact ofArguments_portion (Directive.written_plain named (by decide) (by decide) plain) rfl

theorem TakesConditions.query_ofGroup (takes : TakesConditions name switch add)
    {group : List String} (described : conditionOf switch group = .ok condition) :
    (Request.ofGroup switch group).query none = (add .empty condition).mapError .invalidOperator := by
  cases takes with
  | required =>
    simp only [Request.query, Request.ofGroup, Request.empty, addGroups, described, Option.map_none,
      Option.toList_none, List.append_nil, ConditionSet.empty]
    cases ConditionSet.require _ condition <;> rfl
  | alternative =>
    simp only [Request.query, Request.ofGroup, Request.empty, addGroups, described, Option.map_none,
      Option.toList_none, List.append_nil, ConditionSet.empty]
    cases ConditionSet.allow _ condition <;> rfl

/-- A group that is no condition is refused in the name of its switch. -/
theorem TakesConditions.report_malformed (takes : TakesConditions name switch add)
    (parts : List String) :
    Refusal.report (.usage (.malformed switch parts)) =
      ⟨.exited 2, "", overview ++ programName ++ ": error: " ++
        (name ++ " expects FIELD OP [VALUE], got " ++
          Text.quoted (String.intercalate " " parts)) ++ "\n", [], []⟩ := by
  cases takes <;> rfl

/-- A command line of one group that is no condition. -/
theorem TakesConditions.run_malformed (takes : TakesConditions name switch add)
    {group : List String} (filled : group ≠ []) (plain : ∀ text ∈ group, IsPlain text)
    (failed : conditionOf switch group = .error e) (directory : Directory) (environment : Environment) :
    run directory environment (name :: group) = Refusal.report (.usage e) := by
  rw [run, takes.ofArguments_group filled plain]
  cases takes with
  | required =>
    simp only [carryOut, Request.ofGroup, Request.empty, compile, withQuery, Request.query, addGroups,
      failed, Bool.false_eq_true, if_false]
  | alternative =>
    simp only [carryOut, Request.ofGroup, Request.empty, compile, withQuery, Request.query, addGroups,
      failed, Bool.false_eq_true, if_false]

/-- Two groups that describe the same make the same query. -/
theorem addGroups_congr (add : ConditionSet → Condition → Except InvalidOperator ConditionSet)
    {group other : List String} (same : conditionOf switch group = conditionOf switch other)
    (before after : List (List String)) (query : ConditionSet) :
    addGroups switch add query (before ++ group :: after) =
      addGroups switch add query (before ++ other :: after) := by
  induction before generalizing query with
  | nil => simp only [List.nil_append, addGroups, same]
  | cons first rest ih => simp only [List.cons_append, addGroups, ih]

theorem TakesConditions.query_congr (takes : TakesConditions name switch add)
    {group other : List String} (same : conditionOf switch group = conditionOf switch other)
    (first last : Request) (configured : Option String) :
    ((first.joined (.ofGroup switch group)).joined last).query configured =
      ((first.joined (.ofGroup switch other)).joined last).query configured := by
  cases takes with
  | required =>
    have required := addGroups_congr ConditionSet.require same first.required last.required
    simp only [Request.query, Request.joined, Request.ofGroup, Request.empty, List.append_assoc,
      List.singleton_append, required]
  | alternative =>
    have alternatives := addGroups_congr ConditionSet.allow same first.alternatives last.alternatives
    simp only [Request.query, Request.joined, Request.ofGroup, Request.empty, List.append_assoc,
      List.singleton_append, alternatives]

/-- An argument in this form starts like a switch only if its field does. -/
theorem Wording.Quoted.isPlain (quoted : wording.Quoted text.toList) (plain : IsPlain wording.field) :
    IsPlain text := by
  obtain ⟨front, rest, blanks, field, whole⟩ : ∃ front rest, IsBlanks front ∧
      IsWord wording.field.toList ∧ text.toList = front ++ (wording.field.toList ++ rest) := by
    generalize text.toList = cs at quoted
    cases quoted with
    | bare front field | valued front field => exact ⟨_, _, front, field, rfl⟩
  rw [IsPlain, whole]
  cases front with
  | nil => simpa [IsPlain, List.head?_append_of_ne_nil _ field.filled] using plain
  | cons c front =>
    have blank := blanks c (by simp)
    rintro ⟨rfl⟩
    exact absurd blank (by decide)

/-- An argument that does not start like a switch is a condition exactly if it holds two words or more, and
then it counts as the same condition in separate arguments, on its own and in any command line. -/
theorem quoted_as_separate (takes : TakesConditions name switch add) (text : String) :
    (∀ wording : Wording, wording.Quoted text.toList → IsPlain wording.field → IsPlain text) ∧
    (IsPlain text →
      ((∃ wording : Wording, wording.Quoted text.toList) ↔ 2 ≤ (wordsOf text).length) ∧
      (∀ wording : Wording, wording.Quoted text.toList →
        (∃ request, Request.ofArguments [name, text] = .ok request ∧
          request.query none = (add .empty wording.condition).mapError .invalidOperator) ∧
        ∀ before after first last, Request.ofArguments before = .ok first →
          Request.ofArguments after = .ok last →
          ∃ request, Request.ofArguments (before ++ [name, text] ++ after) = .ok request ∧
            ∀ configured, request.query configured =
              ((first.joined (.ofGroup switch wording.arguments)).joined last).query configured) ∧
      ((wordsOf text).length < 2 → ∀ directory environment,
        run directory environment [name, text] =
          ⟨.exited 2, "", overview ++ programName ++ ": error: " ++
            (name ++ " expects FIELD OP [VALUE], got " ++
              Text.quoted (String.intercalate " " (wordsOf text))) ++ "\n", [], []⟩)) := by
  refine ⟨fun wording quoted plain => quoted.isPlain plain, fun plain => ⟨exists_quoted_iff, ?_, ?_⟩⟩
  all_goals
    have parsed : Request.ofArguments [name, text] = .ok (.ofGroup switch [text]) :=
      takes.ofArguments_group (by simp) (by simpa using plain)
  · intro wording quoted
    have described := conditionOf_quoted switch quoted
    refine ⟨⟨_, parsed, takes.query_ofGroup described⟩, ?_⟩
    intro before after first last parsedBefore parsedAfter
    have joined := ofArguments_append (ofArguments_append parsedBefore parsed) parsedAfter
    refine ⟨_, joined, fun configured => takes.query_congr ?_ first last configured⟩
    rw [described, conditionOf_arguments]
  · intro few directory environment
    have failed := conditionOf_few few switch
    rw [takes.run_malformed (by simp) (by simpa using plain) failed, takes.report_malformed]

/-- A value with a hyphen in front and a blank behind, after two kinds of blanks. -/
def padded : String := "\u2003n\t= -1 "

theorem padded_as_separate :
    (Wording.Quoted ⟨"n", "=", some "-1 "⟩ padded.toList ∧ IsPlain padded) ∧
      (∃ request, Request.ofArguments ["--or-where", padded] = .ok request ∧
        request.query none = .ok ⟨[], [⟨.text "n", .text "=", .text "-1 "⟩], [], false⟩) ∧
      (∃ request, Request.ofArguments (["--nested"] ++ ["--or-where", padded] ++ ["--search"]) =
          .ok request ∧
        request.query (some "(a=b)") =
          .ok ⟨[], [⟨.text "n", .text "=", .text "-1 "⟩], [.text "(a=b)"], true⟩) ∧
      ∀ directory environment,
        (run directory environment ["--where", " n=-1 "]).ending = .exited 2 := by
  have quoted : Wording.Quoted ⟨"n", "=", some "-1 "⟩ padded.toList :=
    .valued (show IsBlanks ['\u2003'] by decide) (by decide) (show IsGap ['\t'] by decide) (by decide)
      (show IsGap [' '] by decide) (by decide) (by decide)
  obtain ⟨plain, counted⟩ := quoted_as_separate .alternative padded
  have plain := plain _ quoted (by decide)
  obtain ⟨_, same, _⟩ := counted plain
  obtain ⟨⟨request, parsed, query⟩, context⟩ := same _ quoted
  obtain ⟨request', parsed', query'⟩ := context ["--nested"] ["--search"] _ _ rfl rfl
  refine ⟨⟨quoted, plain⟩, ⟨request, parsed, query⟩, ⟨request', parsed', query' _⟩, ?_⟩
  intro directory environment
  obtain ⟨_, counted⟩ := quoted_as_separate .required " n=-1 "
  obtain ⟨_, _, few⟩ := counted (by decide)
  rw [few (by decide)]

end DirectoryQuery.CommandLine
