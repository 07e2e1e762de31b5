/-! Items of search filters, with the spelling that RFC 4515 gives them. A field names an attribute;
it is any non-empty text over letters, digits, hyphens, points and semicolons. Where the RFC admits
two readings one is fixed here: a lone asterisk asks for presence, and `dn` is a matching rule only
where it cannot be the mark for the names above an entry. Values are kept as they are written,
escapes included. -/
namespace DirectoryQuery

inductive Comparison
  | equal | approximate | atLeast | atMost
  deriving DecidableEq, Repr

/-- What stands between the field and the equals sign. -/
def Comparison.mark : Comparison → List Char
  | equal => []
  | approximate => ['~']
  | atLeast => ['>']
  | atMost => ['<']

inductive Item
  | comparison (kind : Comparison) (field value : List Char)
  | presence (field : List Char)
  /-- Empty pieces at either end do not restrict the value. -/
  | substrings (field initial : List Char) (middle : List (List Char)) (final : List Char)
  | extensible (field : Option (List Char)) (withNames : Bool) (rule : Option (List Char))
      (value : List Char)
  deriving DecidableEq, Repr

namespace Item

def isFieldChar (c : Char) : Bool := c.isAlphanum || c == '-' || c == '.' || c == ';'

def IsField (text : List Char) : Prop := text ≠ [] ∧ ∀ c ∈ text, isFieldChar c = true

instance (text : List Char) : Decidable (IsField text) :=
  decidable_of_iff ((!text.isEmpty && text.all isFieldChar) = true) (by simp [IsField])

/-- A character of a value that stands for itself. -/
def isPlain (c : Char) : Bool :=
  c != Char.ofNat 0 && c != '(' && c != ')' && c != '*' && c != '\\'

def isHex (c : Char) : Bool :=
  c.isDigit || ('a' ≤ c && c ≤ 'f') || ('A' ≤ c && c ≤ 'F')

inductive IsValue : List Char → Prop
  | empty : IsValue []
  | plain : isPlain c = true → IsValue text → IsValue (c :: text)
  | escaped : isHex high = true → isHex low = true → IsValue text →
      IsValue ('\\' :: high :: low :: text)

/-- A number of an object identifier: no zero in front. -/
def isNumber (text : List Char) : Bool :=
  !text.isEmpty && text.all Char.isDigit && (text.length == 1 || text.head? != some '0')

/-- A matching rule is named by a keyword, or by two numbers or more between points. -/
def isRule (text : List Char) : Bool :=
  match text with
  | [] => false
  | first :: rest =>
    (first.isAlpha && rest.all fun c => c.isAlphanum || c == '-') ||
      (1 < (text.splitOn '.').length && (text.splitOn '.').all isNumber)

/-- The mark `dn`, in capitals or not, counts the names above an entry among its attributes. -/
def isNamesMark : List Char → Bool
  | [first, second] => (first == 'd' || first == 'D') && (second == 'n' || second == 'N')
  | _ => false

/-- The parts of an extensible match that are there, each behind a colon. -/
def colons (part : Option (List Char)) : List Char :=
  match part with
  | none => []
  | some text => ':' :: text

inductive Spelled : List Char → Item → Prop
  | comparison : IsField field → IsValue value →
      Spelled (field ++ kind.mark ++ '=' :: value) (.comparison kind field value)
  | presence : IsField field → Spelled (field ++ ['=', '*']) (.presence field)
  | substrings {field initial final : List Char} {middle : List (List Char)} : IsField field →
      (∀ piece ∈ initial :: (middle ++ [final]), IsValue piece) →
      initial :: (middle ++ [final]) ≠ [[], []] →
      Spelled (field ++ '=' :: ['*'].intercalate (initial :: (middle ++ [final])))
        (.substrings field initial middle final)
  | extensible {field mark rule : Option (List Char)} : (∀ f ∈ field, IsField f) →
      (∀ m ∈ mark, isNamesMark m = true) → (∀ r ∈ rule, isRule r = true) →
      (field.isSome ∨ rule.isSome) → IsValue value →
      (∀ r ∈ rule, isNamesMark r = true → mark.isSome ∨ field = none) →
      Spelled (field.getD [] ++ colons mark ++ colons rule ++ ':' :: '=' :: value)
        (.extensible field mark.isSome rule value)

/-! No part of an item holds a parenthesis, and only values hold an equals sign. -/

theorem IsField.not_mem (field : IsField text) (h : isFieldChar c = false) :
    c ∉ text := by
  intro member
  have := field.2 c member
  simp [h] at this

theorem isValue_of_plain (plain : text.all isPlain = true) : IsValue text := by
  induction text with
  | nil => exact .empty
  | cons c rest ih =>
    rw [List.all_cons, Bool.and_eq_true] at plain
    exact .plain plain.1 (ih plain.2)

/-- The characters that give a filter its structure: they never stand in a value. -/
def isStructural (c : Char) : Bool := c == '(' || c == ')' || c == '*'

theorem IsValue.not_mem (value : IsValue text) (structural : isStructural c = true) : c ∉ text := by
  have special : isPlain c = false ∧ isHex c = false ∧ c ≠ '\\' := by
    simp only [isStructural, Bool.or_eq_true, beq_iff_eq] at structural
    rcases structural with (rfl | rfl) | rfl <;> decide
  obtain ⟨noPlain, noHex, noSlash⟩ := special
  induction value with
  | empty => simp
  | plain other _ ih =>
    simp only [List.mem_cons, not_or]
    exact ⟨fun same => by simp [← same, noPlain] at other, ih⟩
  | escaped high low _ ih =>
    simp only [List.mem_cons, not_or]
    exact ⟨noSlash, fun same => by simp [← same, noHex] at high,
      fun same => by simp [← same, noHex] at low, ih⟩

theorem mem_intercalate {pieces : List (List Char)} (member : c ∈ [separator].intercalate pieces) :
    c = separator ∨ ∃ piece ∈ pieces, c ∈ piece := by
  induction pieces with
  | nil => simp at member
  | cons piece rest ih =>
    cases rest with
    | nil => exact Or.inr (by simpa using member)
    | cons next rest =>
      simp only [List.intercalate_cons_cons, List.mem_append, List.mem_singleton] at member
      rcases member with (first | same) | later
      · exact Or.inr ⟨piece, by simp, first⟩
      · exact Or.inl same
      · refine (ih later).imp_right ?_
        rintro ⟨found, listed, inside⟩
        exact ⟨found, List.mem_cons_of_mem _ listed, inside⟩

theorem isField_of_isNumber (number : isNumber text = true) : IsField text := by
  simp only [isNumber, Bool.and_eq_true, Bool.not_eq_true', List.isEmpty_eq_false_iff,
    List.all_eq_true] at number
  refine ⟨number.1.1, ?_⟩
  intro c member
  simp [isFieldChar, Char.isAlphanum, number.1.2 c member]

theorem isField_of_isRule (rule : isRule text = true) : IsField text := by
  cases text with
  | nil => simp [isRule] at rule
  | cons first rest =>
    refine ⟨by simp, ?_⟩
    intro c member
    simp only [isRule, Bool.or_eq_true, Bool.and_eq_true, List.all_eq_true] at rule
    rcases rule with ⟨letter, keyword⟩ | ⟨-, numbers⟩
    · rcases List.mem_cons.mp member with rfl | later
      · simp [isFieldChar, Char.isAlphanum, letter]
      · rcases keyword c later with ok | ok
        · simp [isFieldChar, ok]
        · simp [isFieldChar, eq_of_beq ok]
    · have joined : ['.'].intercalate ((first :: rest).splitOn '.') = first :: rest :=
        List.intercalate_splitOn '.'
      rw [← joined] at member
      rcases mem_intercalate member with rfl | ⟨piece, listed, inside⟩
      · rfl
      · exact (isField_of_isNumber (numbers piece listed)).2 c inside

theorem isField_of_isNamesMark (mark : isNamesMark text = true) : IsField text := by
  match text, mark with
  | [first, second], mark =>
    simp only [isNamesMark, Bool.and_eq_true, Bool.or_eq_true, beq_iff_eq] at mark
    rcases mark with ⟨rfl | rfl, rfl | rfl⟩ <;> decide

/-! Reading an item back. The text before the first equals sign tells the kind of item by its last
character. -/

/-- The item with this field whose value has these pieces between asterisks. -/
def ofPieces (field : List Char) : List (List Char) → Item
  | [value] => .comparison .equal field value
  | [[], []] => .presence field
  | initial :: rest => .substrings field initial rest.dropLast (rest.getLastD [])
  | [] => .presence field

/-- The extensible match with these parts between colons. -/
def ofParts (value : List Char) : List (List Char) → Item
  | [field] => .extensible (some field) false none value
  | [[], rule] => .extensible none false (some rule) value
  | [field, name] =>
    if isNamesMark name then .extensible (some field) true none value
    else .extensible (some field) false (some name) value
  | field :: _ :: rule :: _ =>
    .extensible (if field = [] then none else some field) true (some rule) value
  | [] => .extensible none false none value

/-- The item with this text in front of its first equals sign. -/
def ofFront (front value : List Char) : Item :=
  match front.getLast? with
  | some '~' => .comparison .approximate front.dropLast value
  | some '>' => .comparison .atLeast front.dropLast value
  | some '<' => .comparison .atMost front.dropLast value
  | some ':' => ofParts value (front.dropLast.splitOn ':')
  | _ => ofPieces front (value.splitOn '*')

def ofText (text : List Char) : Item :=
  ofFront (text.takeWhile (· != '=')) ((text.dropWhile (· != '=')).drop 1)

theorem bne_of_notMem {front : List Char} (absent : c ∉ front) : ∀ d ∈ front, (d != c) = true := by
  intro d member
  simpa using ne_of_mem_of_not_mem member absent

/-- A text is cut at the first character of a kind in one way. -/
theorem cut_at {text other : List Char} (absent : c ∉ text) (absent' : c ∉ other)
    (same : text ++ c :: rest = other ++ c :: rest') : text = other ∧ rest = rest' := by
  have before := congrArg (List.takeWhile (· != c)) same
  rw [List.takeWhile_append_of_pos (bne_of_notMem absent),
    List.takeWhile_append_of_pos (bne_of_notMem absent')] at before
  obtain rfl : text = other := by simpa using before
  exact ⟨rfl, by simpa using same⟩

theorem ofText_before {front : List Char} (absent : '=' ∉ front) (value : List Char) :
    ofText (front ++ '=' :: value) = ofFront front value := by
  have before := bne_of_notMem absent
  simp [ofText, List.takeWhile_append_of_pos before, List.dropWhile_append_of_pos before]

/-- A field alone in front of the equals sign leaves the reading to the asterisks. -/
theorem ofFront_field (field : IsField text) (value : List Char) :
    ofFront text value = ofPieces text (value.splitOn '*') := by
  have last : ∀ c, isFieldChar c = false → text.getLast? ≠ some c := by
    intro c h same
    exact field.not_mem h (List.mem_of_getLast? same)
  unfold ofFront
  split
  · exact absurd ‹_› (last _ rfl)
  · exact absurd ‹_› (last _ rfl)
  · exact absurd ‹_› (last _ rfl)
  · exact absurd ‹_› (last _ rfl)
  · rfl

theorem ofPieces_substrings {initial final : List Char} {middle : List (List Char)}
    (several : initial :: (middle ++ [final]) ≠ [[], []]) :
    ofPieces field (initial :: (middle ++ [final])) = .substrings field initial middle final := by
  unfold ofPieces
  split
  · simp_all
  · simp_all
  · rename_i h
    simp only [List.cons.injEq] at h
    obtain ⟨rfl, rfl⟩ := h
    simp
  · simp_all

/-- The parts of an extensible match between its colons. -/
def parts (field mark rule : Option (List Char)) : List (List Char) :=
  field.getD [] :: (mark.toList ++ rule.toList)

theorem intercalate_parts (field mark rule : Option (List Char)) :
    [':'].intercalate (parts field mark rule) = field.getD [] ++ colons mark ++ colons rule := by
  cases mark <;> cases rule <;> simp [parts, colons]

theorem parts_not_mem (fields : ∀ f ∈ field, IsField f) (marks : ∀ m ∈ mark, isNamesMark m = true)
    (rules : ∀ r ∈ rule, isRule r = true) (h : isFieldChar c = false) :
    ∀ part ∈ parts field mark rule, c ∉ part := by
  intro part listed
  simp only [parts, List.mem_cons, List.mem_append, Option.mem_toList] at listed
  rcases listed with rfl | listed | listed
  · cases field with
    | none => simp
    | some f => exact (fields f rfl).not_mem h
  · exact (isField_of_isNamesMark (marks part listed)).not_mem h
  · exact (isField_of_isRule (rules part listed)).not_mem h

theorem colons_not_mem (inside : ∀ part ∈ parts field mark rule, c ∉ part) (other : c ≠ ':') :
    c ∉ field.getD [] ++ colons mark ++ colons rule := by
  cases mark <;> cases rule <;> simp_all [parts, colons]

theorem ofParts_parts (fields : ∀ f ∈ field, IsField f) (marks : ∀ m ∈ mark, isNamesMark m = true)
    (named : field.isSome ∨ rule.isSome)
    (preferred : ∀ r ∈ rule, isNamesMark r = true → mark.isSome ∨ field = none) :
    ofParts value (parts field mark rule) = .extensible field mark.isSome rule value := by
  have filled : ∀ f, field = some f → f ≠ [] := fun f same => (fields f same).1
  cases field with
  | none =>
    obtain ⟨r, rfl⟩ := Option.isSome_iff_exists.mp (named.resolve_left (by simp))
    cases mark <;> simp [parts, ofParts]
  | some f =>
    obtain ⟨c, cs, rfl⟩ := List.exists_cons_of_ne_nil (filled f rfl)
    cases mark with
    | none =>
      cases rule with
      | none => simp [parts, ofParts]
      | some r =>
        have other : isNamesMark r = false :=
          Bool.eq_false_iff.mpr fun h => by simpa using preferred r rfl h
        simp [parts, ofParts, other]
    | some m => cases rule <;> simp [parts, ofParts, marks m rfl]

theorem Spelled.ofText (spelled : Spelled text item) : ofText text = item := by
  cases spelled with
  | @comparison field value kind isField isValue =>
    have absent : '=' ∉ field ++ kind.mark := by
      have := isField.not_mem (c := '=') rfl
      cases kind <;> simpa [Comparison.mark]
    rw [ofText_before absent]
    cases kind with
    | equal =>
      have whole : value.splitOn '*' = [value] :=
        List.splitOn_eq_singleton (isValue.not_mem rfl)
      simp only [Comparison.mark, List.append_nil, ofFront_field isField, whole, ofPieces]
    | approximate | atLeast | atMost => simp [ofFront, Comparison.mark]
  | presence isField =>
    rw [ofText_before (isField.not_mem rfl), ofFront_field isField]
    simp [ofPieces, List.splitOn_cons_eq_if_modifyHead]
  | @substrings field initial final middle isField values several =>
    have pieces : (['*'].intercalate (initial :: (middle ++ [final]))).splitOn '*' =
        initial :: (middle ++ [final]) := by
      apply List.splitOn_intercalate
      · intro piece listed
        exact (values piece listed).not_mem rfl
      · simp
    rw [ofText_before (isField.not_mem rfl), ofFront_field isField, pieces,
      ofPieces_substrings several]
  | @extensible value field mark rule fields marks rules named isValue preferred =>
    have absent : '=' ∉ field.getD [] ++ colons mark ++ colons rule ++ [':'] := by
      have := colons_not_mem (parts_not_mem fields marks rules (c := '=') rfl) (by decide)
      simpa using this
    have split : (field.getD [] ++ colons mark ++ colons rule).splitOn ':' =
        parts field mark rule := by
      rw [← intercalate_parts]
      exact List.splitOn_intercalate _ (parts_not_mem fields marks rules rfl) (by simp [parts])
    rw [List.append_cons, ofText_before absent]
    simp only [ofFront, List.getLast?_concat, List.dropLast_concat, split]
    exact ofParts_parts fields marks named preferred

theorem Spelled.unique (first : Spelled text item) (second : Spelled text other) : item = other :=
  first.ofText.symm.trans second.ofText

theorem Spelled.not_mem (spelled : Spelled text item) (paren : c = '(' ∨ c = ')') : c ∉ text := by
  have outside : isFieldChar c = false ∧ isStructural c = true ∧
      c ∉ ['=', '*', ':', '~', '<', '>'] := by
    rcases paren with rfl | rfl <;> decide
  obtain ⟨noField, structural, noSign⟩ := outside
  cases spelled with
  | @comparison field value kind isField isValue =>
    have := isField.not_mem noField
    have := isValue.not_mem structural
    cases kind <;> simp_all [Comparison.mark]
  | presence isField =>
    have := isField.not_mem noField
    simp_all
  | @substrings field initial final middle isField values several =>
    have := isField.not_mem noField
    have : c ∉ ['*'].intercalate (initial :: (middle ++ [final])) := by
      intro member
      rcases mem_intercalate member with rfl | ⟨piece, listed, inside⟩
      · simp at noSign
      · exact (values piece listed).not_mem structural inside
    simp_all
  | @extensible value field mark rule fields marks rules named isValue preferred =>
    have := colons_not_mem (parts_not_mem fields marks rules noField) (by simp_all)
    have := isValue.not_mem structural
    simp_all

/-- A parenthesis behind an item ends it. -/
theorem Spelled.cut (first : Spelled text item) (second : Spelled other item')
    (same : text ++ ')' :: after = other ++ ')' :: rest) : text = other ∧ item = item' := by
  obtain ⟨rfl, _⟩ := cut_at (first.not_mem (Or.inr rfl)) (second.not_mem (Or.inr rfl)) same
  exact ⟨rfl, first.unique second⟩

/-- An item starts with its field, or with the colon in front of a matching rule. -/
theorem Spelled.head (spelled : Spelled text item) :
    ∃ c rest, text = c :: rest ∧ (isFieldChar c = true ∨ c = ':') := by
  have start : ∀ {field : List Char} (rest : List Char), IsField field →
      ∃ c tail, field ++ rest = c :: tail ∧ (isFieldChar c = true ∨ c = ':') := by
    intro field rest isField
    obtain ⟨c, cs, rfl⟩ := List.exists_cons_of_ne_nil isField.1
    exact ⟨c, cs ++ rest, rfl, Or.inl (isField.2 c (by simp))⟩
  cases spelled with
  | comparison isField => simpa only [List.append_assoc] using start _ isField
  | presence isField => exact start _ isField
  | substrings isField => exact start _ isField
  | @extensible value field mark rule fields marks rules named isValue preferred =>
    cases field with
    | some f => simpa only [Option.getD_some, List.append_assoc] using start _ (fields f rfl)
    | none =>
      obtain ⟨r, rfl⟩ := Option.isSome_iff_exists.mp (named.resolve_left (by simp))
      cases mark <;> exact ⟨':', _, rfl, Or.inr rfl⟩

theorem Spelled.ne_operator (spelled : Spelled text item) (operator : c ∈ ['&', '|', '!'])
    (after other : List Char) : text ++ after ≠ c :: other := by
  obtain ⟨first, rest, rfl, start⟩ := spelled.head
  intro same
  obtain rfl : first = c := (List.cons.inj same).1
  simp only [List.mem_cons, List.not_mem_nil, or_false] at operator
  rcases operator with rfl | rfl | rfl <;> exact absurd start (by decide)

end Item

end DirectoryQuery
