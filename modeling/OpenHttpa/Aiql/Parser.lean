import OpenHttpa.Aiql.Engine
import OpenHttpa.Lib.Parse

/-!
# The text form of AIQL conditions

`AiqlParser::parse_dsl` of `openhttpa-aiql/src/parser.rs` over the library of parsers, and the grammar
it reads: alternatives separated by `OR` of conditions separated by `AND` of comparisons and
conditions in parentheses. What the parser reads it reads by the grammar, and it reads a text of the
grammar whole where nothing but blanks or a closing parenthesis follows. But it does not look at what
it leaves.
-/
namespace OpenHttpa.Aiql

open OpenHttpa.Parser

/-! ## The code -/

/-- `char::is_alphanumeric`; of its tables only the part for ASCII is used. -/
structure Alphanumeric where
  test : Char → Bool
  ascii : ∀ c, c.toNat < 128 → test c = c.isAlphanum

def isBlank (c : Char) : Bool := c == ' ' || c == '\t'

def space0 : Parser String := takeWhile 0 isBlank

def quote : Char := '\x22'

def keyword (word : String) : Parser String := do
  let _ ← space0
  let found ← literal word
  let _ ← space0
  return found

def parseString : Parser String := do
  let _ ← literal "\x22"
  let value ← takeWhile 0 (· != quote)
  let _ ← literal "\x22"
  return value

def collapse (node : List Condition → Condition) : List Condition → Condition
  | [cond] => cond
  | conds => node conds

/-- The end of `parse_primitive`; nothing else than the three texts comes here. -/
def comparison (op field value : String) : Parser Condition :=
  match op with
  | "==" => pure (.Equals field value)
  | "contains" => pure (.Contains field value)
  | "not contains" => pure (.NotContains field value)
  | _ => failure

section Code

variable (letters : Alphanumeric)

def isField (c : Char) : Bool := letters.test c || c == '.' || c == '_'

def parseField : Parser String := takeWhile 1 (isField letters)

def parsePrimitive : Parser Condition := do
  let field ← parseField letters
  let _ ← space0
  let op ← literal "==" <|> literal "contains" <|> literal "not contains"
  let _ ← space0
  let value ← parseString
  comparison op field value

variable (condition : Parser Condition)

/-- `parse_primitive_or_paren`, over the parser for what is in parentheses. -/
def parsePrimitiveOrParen : Parser Condition :=
  (do
    let _ ← literal "("
    let _ ← space0
    let cond ← condition
    let _ ← space0
    let _ ← literal ")"
    return cond) <|>
  parsePrimitive letters

/-- `parse_and_condition`, over the same. -/
def parseAndCondition : Parser Condition := do
  let andConds ← separated (parsePrimitiveOrParen letters condition) (keyword "AND")
  return collapse .And andConds

/-- `parse_condition`, over itself for what is in parentheses. -/
def parseConditionOver : Parser Condition := do
  let _ ← space0
  let orConds ← separated (parseAndCondition letters condition) (keyword "OR")
  return collapse .Or orConds

/-- `parse_condition`. A text is not nested deeper than it is long. -/
def parseCondition : Parser Condition := fun input =>
  nest (parseConditionOver letters) (input.length + 1) input

/-- `AiqlParser::parse_dsl`. No parser adds context to its errors, so their text is empty. -/
def parseDsl (dsl : String) : Except String Condition :=
  (parseCondition letters dsl.toList).elim (.error "") fun parsed => .ok parsed.1

end Code

/-! ## The grammar -/

/-- Spaces and tabs. -/
def Blank (text : List Char) : Prop := ∀ c ∈ text, isBlank c = true

def Word (word : String) (text : List Char) : Prop :=
  ∃ left right, text = left ++ (word.toList ++ right) ∧ Blank left ∧ Blank right

inductive Operator where
  | equals
  | contains
  | notContains
deriving DecidableEq

namespace Operator

def text : Operator → String
  | .equals => "=="
  | .contains => "contains"
  | .notContains => "not contains"

def condition : Operator → String → String → Condition
  | .equals => .Equals
  | .contains => .Contains
  | .notContains => .NotContains

end Operator

section Grammar

variable (letters : Alphanumeric)

def Field (field : String) : Prop :=
  field.toList ≠ [] ∧ ∀ c ∈ field.toList, isField letters c = true

/-- A field, a comparison and a text in quotes. A field ends where no character of a field follows, so
a comparison that starts with a letter has a blank before it. -/
inductive Primitive : Grammar Condition where
  | mk {field value : String} (op : Operator) {left right : List Char} (named : Field letters field)
    (before : Blank left) (after : Blank right) (apart : op ≠ .equals → left ≠ [])
    (unquoted : quote ∉ value.toList) :
    Primitive
      (field.toList ++ (left ++ (op.text.toList ++ (right ++ quote :: (value.toList ++ [quote])))))
      (op.condition field value)

inductive Primary (inner : Grammar Condition) : Grammar Condition where
  | primitive {text : List Char} {cond : Condition} (one : Primitive letters text cond) :
    Primary inner text cond
  | paren {left text right : List Char} {cond : Condition} (before : Blank left) (after : Blank right)
    (inside : inner text cond) : Primary inner ('(' :: (left ++ (text ++ (right ++ [')'])))) cond

/-- A list separated by `AND`. -/
def Conjunction (inner : Grammar Condition) : Grammar Condition := fun text cond =>
  ∃ conds, (Grammar.Separated (Primary letters inner) (Word "AND")) text conds ∧
    cond = collapse .And conds

/-- A list separated by `OR`. -/
def Disjunction (inner : Grammar Condition) : Grammar Condition := fun text cond =>
  ∃ conds, (Grammar.Separated (Conjunction letters inner) (Word "OR")) text conds ∧
    cond = collapse .Or conds

def Derives (depth : Nat) : Grammar Condition := Grammar.nest (Disjunction letters) depth

/-- After blanks, some beginning of the text is derived. -/
def Begins (dsl : String) : Prop :=
  ∃ left text right depth cond, dsl.toList = left ++ (text ++ right) ∧ Blank left ∧
    Derives letters depth text cond

/-- The whole text is derived, but for blanks around it. -/
def Grammatical (dsl : String) : Prop :=
  ∃ left text right depth cond, dsl.toList = left ++ (text ++ right) ∧ Blank left ∧ Blank right ∧
    Derives letters depth text cond

end Grammar

/-! ## Blanks and words -/

variable {rest left : List Char} {word : String} {text : List Char}

theorem space0_eq_some_iff {input : List Char} {value : String} :
    space0 input = some (value, rest) ↔
      input = value.toList ++ rest ∧ Blank value.toList ∧ Stops isBlank rest := by
  rw [space0, takeWhile_eq_some_iff]
  simp [Blank]

theorem space0_blank (blank : Blank left) (stops : Stops isBlank rest) :
    space0 (left ++ rest) = some (String.ofList left, rest) := by
  rw [space0_eq_some_iff, String.toList_ofList]
  exact ⟨rfl, blank, stops⟩

theorem keyword_sound (word : String) : Sound (keyword word) fun text _ => Word word text := by
  intro input value rest parsed
  simp only [keyword, bind_apply, Option.bind_eq_some_iff, Prod.exists, pure_apply,
    Option.some.injEq, Prod.mk.injEq, space0_eq_some_iff, literal_eq_some_iff] at parsed
  obtain ⟨left, _, ⟨rfl, before, -⟩, found, _, ⟨rfl, rfl⟩, right, _, ⟨rfl, after, -⟩, rfl, rfl⟩ := parsed
  exact ⟨left.toList ++ (found.toList ++ right.toList), by simp, left.toList, right.toList, rfl, before,
    after⟩

theorem keyword_word (solid : ∀ rest, Stops isBlank (word.toList ++ rest))
    {mark : List Char} (marked : Word word mark) (stops : Stops isBlank rest) :
    keyword word (mark ++ rest) = some (word, rest) := by
  obtain ⟨left, right, rfl, before, after⟩ := marked
  have found : literal word (word.toList ++ (right ++ rest)) = some (word, right ++ rest) :=
    literal_eq_some_iff.mpr ⟨rfl, rfl⟩
  simp only [keyword, List.append_assoc, bind_apply, space0_blank before (solid _), Option.bind_some,
    found, space0_blank after stops, pure_apply]

theorem keyword_none {c : Char} (first : word.toList.head? = some c)
    (blank : Blank left) (stops : Stops isBlank rest)
    (other : rest.head? ≠ some c) : keyword word (left ++ rest) = none := by
  simp only [keyword, bind_apply, space0_blank blank stops, Option.bind_some,
    literal_eq_none first other, Option.bind_none]

/-! ## Primitives -/

section Primitives

variable {letters : Alphanumeric}

theorem parseString_eq_some_iff {input : List Char} {value : String} :
    parseString input = some (value, rest) ↔
      input = quote :: (value.toList ++ quote :: rest) ∧ quote ∉ value.toList := by
  have mark : "\x22".toList = [quote] := rfl
  simp only [parseString, bind_apply, Option.bind_eq_some_iff, Prod.exists, pure_apply,
    Option.some.injEq, Prod.mk.injEq, takeWhile_eq_some_iff, literal_eq_some_iff, mark,
    List.cons_append, List.nil_append]
  constructor
  · rintro ⟨_, _, ⟨rfl, rfl⟩, text, _, ⟨rfl, -, inside, -⟩, _, _, ⟨rfl, rfl⟩, rfl, rfl⟩
    refine ⟨rfl, fun ends => ?_⟩
    simpa using inside quote ends
  · rintro ⟨rfl, unquoted⟩
    refine ⟨_, _, ⟨rfl, rfl⟩, value, _, ⟨rfl, Nat.zero_le _, ?_, ?_⟩, _, _, ⟨rfl, rfl⟩, rfl, rfl⟩
    · intro c inside
      have other : c ≠ quote := fun same => unquoted (same ▸ inside)
      simpa using other
    · simp [Stops]

theorem operator_eq_some_iff {input : List Char} {found : String} :
    (literal "==" <|> literal "contains" <|> literal "not contains" : Parser String) input =
        some (found, rest) ↔ ∃ op : Operator, found = op.text ∧ input = op.text.toList ++ rest := by
  simp only [orElse_apply, Option.or_eq_some_iff, literal_eq_some_iff]
  constructor
  · rintro (⟨rfl, rfl⟩ | ⟨-, ⟨rfl, rfl⟩ | ⟨-, rfl, rfl⟩⟩)
    · exact ⟨.equals, rfl, rfl⟩
    · exact ⟨.contains, rfl, rfl⟩
    · exact ⟨.notContains, rfl, rfl⟩
  · rintro ⟨op, rfl, rfl⟩
    -- the three texts start with different characters
    cases op with
    | equals => exact .inl ⟨rfl, rfl⟩
    | contains =>
      have one : literal "==" (Operator.contains.text.toList ++ rest) = none :=
        literal_eq_none (c := '=') rfl (show some 'c' ≠ some '=' by decide)
      exact .inr ⟨one, .inl ⟨rfl, rfl⟩⟩
    | notContains =>
      have one : literal "==" (Operator.notContains.text.toList ++ rest) = none :=
        literal_eq_none (c := '=') rfl (show some 'n' ≠ some '=' by decide)
      have two : literal "contains" (Operator.notContains.text.toList ++ rest) = none :=
        literal_eq_none (c := 'c') rfl (show some 'n' ≠ some 'c' by decide)
      exact .inr ⟨one, .inr ⟨two, rfl, rfl⟩⟩

theorem isField_ascii {c : Char} (ascii : c.toNat < 128) :
    isField letters c = (c.isAlphanum || c == '.' || c == '_') := by
  rw [isField, letters.ascii c ascii]

theorem isField_of_isBlank {c : Char} (blank : isBlank c = true) : isField letters c = false := by
  simp only [isBlank, Bool.or_eq_true, beq_iff_eq] at blank
  rcases blank with rfl | rfl
  · exact isField_ascii (by decide)
  · exact isField_ascii (by decide)

theorem stops_operator_iff (op : Operator) (rest : List Char) :
    Stops (isField letters) (op.text.toList ++ rest) ↔ op = .equals := by
  cases op with
  | equals =>
    have first : isField letters '=' = false := isField_ascii (by decide)
    simpa [Stops, Operator.text] using first
  | contains =>
    have first : isField letters 'c' = true := isField_ascii (by decide)
    simp [Stops, Operator.text, first]
  | notContains =>
    have first : isField letters 'n' = true := isField_ascii (by decide)
    simp [Stops, Operator.text, first]

theorem comparison_text (op : Operator) (field value : String) (rest : List Char) :
    comparison op.text field value rest = some (op.condition field value, rest) := by
  cases op <;> rfl

theorem parsePrimitive_eq_some_iff {input : List Char} {cond : Condition} :
    parsePrimitive letters input = some (cond, rest) ↔
      ∃ front, input = front ++ rest ∧ Primitive letters front cond := by
  simp only [parsePrimitive, parseField, bind_apply, Option.bind_eq_some_iff, Prod.exists,
    takeWhile_eq_some_iff, space0_eq_some_iff, operator_eq_some_iff, parseString_eq_some_iff]
  constructor
  · rintro ⟨field, _, ⟨rfl, least, named, ends⟩, left, _, ⟨rfl, before, -⟩, _, _, ⟨op, rfl, rfl⟩,
      right, _, ⟨rfl, after, -⟩, value, _, ⟨rfl, unquoted⟩, made⟩
    rw [comparison_text] at made
    cases made
    refine ⟨_, ?_, .mk op ⟨List.length_pos_iff.mp least, named⟩ before after ?_ unquoted⟩
    · simp
    · intro word none
      rw [none, List.nil_append, stops_operator_iff] at ends
      exact word ends
  · rintro ⟨_, rfl, ⟨op, ⟨nonempty, named⟩, before, after, apart, unquoted⟩⟩
    rename_i field value left right
    refine ⟨field, left ++ (op.text.toList ++ (right ++ quote :: (value.toList ++ quote :: rest))),
      ⟨by simp, List.length_pos_iff.mpr nonempty, named, ?_⟩, String.ofList left, _,
      ⟨by rw [String.toList_ofList], by rwa [String.toList_ofList], ?_⟩, op.text, _,
      ⟨op, rfl, rfl⟩, String.ofList right, _,
      ⟨by rw [String.toList_ofList], by rwa [String.toList_ofList], by simp [Stops, isBlank, quote]⟩,
      value, rest, ⟨rfl, unquoted⟩, comparison_text op field value rest⟩
    -- the field ends at a blank, or at an equation
    rotate_left
    · cases op <;> simp [Stops, Operator.text, isBlank]
    cases left with
    | nil => exact (stops_operator_iff op _).mpr (by_contra fun word => apart word rfl)
    | cons c left =>
      intro d first
      cases first
      exact isField_of_isBlank (before c List.mem_cons_self)

end Primitives

/-! ## What is read -/

section Sound

variable {letters : Alphanumeric} {condition : Parser Condition} {inner : Grammar Condition}

theorem primary_sound (nested : Sound condition (inner.after Blank)) :
    Sound (parsePrimitiveOrParen letters condition) (Primary letters inner) := by
  intro input cond rest parsed
  rw [parsePrimitiveOrParen, orElse_apply, Option.or_eq_some_iff] at parsed
  rcases parsed with opened | ⟨-, single⟩
  · have sides : "(".toList = ['('] ∧ ")".toList = [')'] := ⟨rfl, rfl⟩
    simp only [bind_apply, Option.bind_eq_some_iff, Prod.exists, pure_apply, Option.some.injEq,
      Prod.mk.injEq, space0_eq_some_iff, literal_eq_some_iff, sides, List.cons_append,
      List.nil_append] at opened
    obtain ⟨_, _, ⟨rfl, rfl⟩, left, middle, ⟨rfl, before, -⟩, cond, _, inside, right, _,
      ⟨rfl, after, -⟩, _, _, ⟨rfl, rfl⟩, rfl, rfl⟩ := opened
    obtain ⟨_, rfl, blank, text, rfl, more, one⟩ := nested _ _ _ inside
    refine ⟨'(' :: ((left.toList ++ blank) ++ (text ++ (right.toList ++ [')']))), by simp,
      .paren ?_ after one⟩
    exact List.forall_mem_append.mpr ⟨before, more⟩
  · obtain ⟨front, rfl, one⟩ := parsePrimitive_eq_some_iff.mp single
    exact ⟨front, rfl, .primitive one⟩

theorem and_sound (nested : Sound condition (inner.after Blank)) :
    Sound (parseAndCondition letters condition) (Conjunction letters inner) :=
  ((primary_sound nested).separated (keyword_sound "AND")).map (collapse .And)

theorem over_sound (nested : Sound condition (inner.after Blank)) :
    Sound (parseConditionOver letters condition) ((Disjunction letters inner).after Blank) := by
  have conds : Sound (do
      let orConds ← separated (parseAndCondition letters condition) (keyword "OR")
      return collapse .Or orConds) (Disjunction letters inner) :=
    ((and_sound nested).separated (keyword_sound "OR")).map (collapse .Or)
  refine conds.after fun input value rest parsed => ?_
  obtain ⟨rfl, blank, -⟩ := space0_eq_some_iff.mp parsed
  exact ⟨value.toList, rfl, blank⟩

theorem nest_sound (depth : Nat) : Sound (nest (parseConditionOver letters) depth)
    ((Derives letters depth).after Blank) :=
  Sound.nest (fun _ _ nested => over_sound nested) depth

end Sound

/-! ## What is read whole -/

/-- Something comes first that is not blank. -/
def Solid (text : List Char) : Prop := ∃ c tail, text = c :: tail ∧ isBlank c = false

theorem Solid.stops (solid : Solid text) (rest : List Char) :
    Stops isBlank (text ++ rest) := by
  obtain ⟨c, tail, rfl, other⟩ := solid
  simpa [Stops] using other

theorem solid_separated {item : Grammar Condition} {between : List Char → Prop}
    (solid : ∀ text cond, item text cond → Solid text) {conds : List Condition}
    (texts : item.Separated between text conds) : Solid text := by
  cases conds with
  | nil => exact texts.elim
  | cons cond conds =>
    obtain ⟨front, back, rfl, first, -⟩ := texts
    obtain ⟨c, tail, rfl, other⟩ := solid front cond first
    exact ⟨c, tail ++ back, rfl, other⟩

section Complete

variable {letters : Alphanumeric} {condition : Parser Condition} {inner : Grammar Condition}
  {text : List Char} {cond : Condition} {depth : Nat} {word : String}

theorem Primary.solid (primary : Primary letters inner text cond) :
    Solid text := by
  cases primary with
  | primitive one =>
    obtain ⟨op, ⟨nonempty, named⟩, -, -, -, -⟩ := one
    obtain ⟨c, tail, starts⟩ := List.exists_cons_of_ne_nil nonempty
    refine ⟨c, _, by rw [starts]; rfl, ?_⟩
    rw [Bool.eq_false_iff]
    intro blank
    have first := named c (starts ▸ List.mem_cons_self)
    rw [isField_of_isBlank blank] at first
    cases first
  | paren before after inside => exact ⟨'(', _, rfl, by decide⟩

theorem Derives.solid (derived : Derives letters depth text cond) : Solid text := by
  cases depth with
  | zero => exact derived.elim
  | succ depth =>
    obtain ⟨conds, texts, -⟩ := derived
    refine solid_separated (fun text cond => ?_) texts
    rintro ⟨conds, texts, -⟩
    exact solid_separated (fun text cond => Primary.solid) texts

/-- Nothing but blanks comes before the end or a closing parenthesis. -/
def Ends (rest : List Char) : Prop :=
  ∃ left tail, rest = left ++ tail ∧ Blank left ∧ (tail.head? = none ∨ tail.head? = some ')')

theorem stops_ends {tail : List Char} (ends : tail.head? = none ∨ tail.head? = some ')') :
    Stops isBlank tail := by
  intro c first
  rcases ends with none | closed
  · rw [Option.mem_def, none] at first
    cases first
  · rw [Option.mem_def, closed] at first
    cases first
    decide

theorem Ends.keyword_none {rest : List Char} (ends : Ends rest) {c : Char}
    (first : word.toList.head? = some c) (other : c ≠ ')') : keyword word rest = none := by
  obtain ⟨left, tail, rfl, blank, last⟩ := ends
  refine Aiql.keyword_none first blank (stops_ends last) fun same => ?_
  rw [same] at last
  rcases last with none | closed
  · cases none
  · cases closed
    exact other rfl

theorem keyword_marks (starts : Solid word.toList) {grammar : Grammar Condition}
    (solid : ∀ text cond, grammar text cond → Solid text) :
    Marks (keyword word) (Word word) grammar := by
  intro mark front value rest marked one
  exact ⟨word, keyword_word starts.stops marked ((solid _ _ one).stops rest)⟩

theorem word_ne_nil (starts : Solid word.toList) (mark : List Char)
    (marked : Word word mark) : mark ≠ [] := by
  obtain ⟨left, right, rfl, -, -⟩ := marked
  obtain ⟨c, tail, letters, -⟩ := starts
  simp [letters]

variable (nested : Complete condition (inner.after Blank) Ends)
include nested

theorem primary_complete (solid : ∀ text cond, inner text cond → Solid text) :
    Complete (parsePrimitiveOrParen letters condition) (Primary letters inner) fun _ => True := by
  intro text cond rest primary _
  rw [parsePrimitiveOrParen, orElse_apply, Option.or_eq_some_iff]
  have sides : "(".toList = ['('] ∧ ")".toList = [')'] := ⟨rfl, rfl⟩
  cases primary with
  | primitive one =>
    refine .inr ⟨?_, parsePrimitive_eq_some_iff.mpr ⟨text, rfl, one⟩⟩
    -- a field does not start with a parenthesis
    have closed : literal "(" (text ++ rest) = none := by
      refine literal_eq_none (c := '(') rfl ?_
      obtain ⟨op, ⟨nonempty, named⟩, -, -, -, -⟩ := one
      obtain ⟨c, tail, starts⟩ := List.exists_cons_of_ne_nil nonempty
      intro opened
      rw [starts] at opened
      cases opened
      have first := named '(' (starts ▸ List.mem_cons_self)
      rw [isField_ascii (by decide)] at first
      exact absurd first (by decide)
    rw [bind_apply, closed]
    rfl
  | @paren left text right cond before after inside =>
    refine .inl ?_
    have ends : Ends (right ++ ')' :: rest) := ⟨right, ')' :: rest, rfl, after, .inr rfl⟩
    have found : condition (text ++ (right ++ ')' :: rest)) = some (cond, right ++ ')' :: rest) :=
      nested _ _ _ ⟨[], text, rfl, by simp [Blank], inside⟩ ends
    simp only [bind_apply, Option.bind_eq_some_iff, Prod.exists, pure_apply, literal_eq_some_iff,
      sides]
    exact ⟨_, _, ⟨rfl, by simp⟩, _, _, space0_blank before ((solid _ _ inside).stops _), _, _, found, _,
      _, space0_blank after (stops_ends (.inr rfl)), _, _, ⟨rfl, rfl⟩, rfl⟩

theorem and_complete (solid : ∀ text cond, inner text cond → Solid text) :
    Complete (parseAndCondition letters condition) (Conjunction letters inner)
      fun rest => keyword "AND" rest = none := by
  have word : Solid "AND".toList := ⟨'A', ['N', 'D'], rfl, by decide⟩
  have primaries : Complete (parsePrimitiveOrParen letters condition) (Primary letters inner)
      fun _ => True := primary_complete nested solid
  have items := primaries.separated (keyword_marks word fun _ _ => Primary.solid)
    (fun _ _ _ => trivial) (word_ne_nil word)
  refine (items.map (collapse .And)).mono fun rest none => ⟨trivial, ?_⟩
  rw [Parser.after, bind_apply, none]
  rfl

theorem over_complete (solid : ∀ text cond, inner text cond → Solid text) :
    Complete (parseConditionOver letters condition) ((Disjunction letters inner).after Blank) Ends := by
  have word : Solid "OR".toList := ⟨'O', ['R'], rfl, by decide⟩
  have starts : ∀ text cond, Conjunction letters inner text cond → Solid text := by
    rintro text cond ⟨conds, texts, -⟩
    exact solid_separated (fun _ _ => Primary.solid) texts
  have stops : ∀ mark rest, Word "OR" mark → keyword "AND" (mark ++ rest) = none := by
    rintro _ rest ⟨left, right, rfl, before, -⟩
    rw [List.append_assoc]
    refine keyword_none (c := 'A') rfl before ?_ (show some 'O' ≠ some 'A' by decide)
    rw [List.append_assoc]
    exact word.stops _
  have ands : Complete (parseAndCondition letters condition) (Conjunction letters inner)
      fun rest => keyword "AND" rest = none := and_complete nested solid
  have items := ands.separated (keyword_marks word starts) stops (word_ne_nil word)
  have neither : ∀ rest, Ends rest → keyword "AND" rest = none ∧
      Parser.after (keyword "OR") (parseAndCondition letters condition) rest = none := by
    intro rest ends
    refine ⟨ends.keyword_none (c := 'A') rfl (by decide), ?_⟩
    rw [Parser.after, bind_apply, ends.keyword_none (c := 'O') rfl (by decide)]
    rfl
  refine ((items.map (collapse .Or)).mono neither).after fun mark front value rest blank texts => ?_
  obtain ⟨list, texts, -⟩ := texts
  exact ⟨_, space0_blank blank ((solid_separated starts texts).stops rest)⟩

omit nested

theorem nest_complete {level : Nat} (within : depth ≤ level) :
    Complete (nest (parseConditionOver letters) level) ((Derives letters depth).after Blank) Ends := by
  refine @Complete.nest _ _ (fun depth => (Derives letters depth).after Blank) _ ?_ ?_ _ _ within
  · rintro text cond ⟨left, back, -, -, nothing⟩
    exact nothing
  · intro depth inner nested
    exact over_complete nested fun text cond => Derives.solid

end Complete

/-! ## One level for every text -/

section Guarded

variable {letters : Alphanumeric} {condition other : Parser Condition} {inner : Grammar Condition}
  {input : List Char}

theorem primary_congr {bound : Nat}
    (agree : ∀ shorter, shorter.length < bound → condition shorter = other shorter)
    (short : input.length ≤ bound) :
    parsePrimitiveOrParen letters condition input = parsePrimitiveOrParen letters other input := by
  simp only [parsePrimitiveOrParen, orElse_apply, bind_apply]
  cases opened : literal "(" input with
  | none => rfl
  | some found =>
    obtain ⟨-, rfl⟩ := literal_eq_some_iff.mp opened
    cases blanks : space0 found.2 with
    | none => simp only [Option.bind_some, blanks, Option.bind_none]
    | some left =>
      obtain ⟨split, -, -⟩ := space0_eq_some_iff.mp blanks
      have less : left.2.length < bound := by
        have one : "(".toList.length = 1 := rfl
        rw [split] at short
        simp only [List.length_append, one] at short
        omega
      simp only [Option.bind_some, blanks, agree left.2 less]

theorem over_congr (nested : Sound condition (inner.after Blank))
    (agree : ∀ shorter, shorter.length < input.length → condition shorter = other shorter) :
    parseConditionOver letters condition input = parseConditionOver letters other input := by
  have primaries : ∀ text, text.length ≤ input.length →
      parsePrimitiveOrParen letters condition text = parsePrimitiveOrParen letters other text :=
    fun text short => primary_congr agree short
  have ands : ∀ text, text.length ≤ input.length →
      parseAndCondition letters condition text = parseAndCondition letters other text := by
    intro text short
    have list := separated_congr (primary_sound nested).shrinks (keyword_sound "AND").shrinks
      primaries short
    rw [parseAndCondition, parseAndCondition, bind_apply, bind_apply, list]
  rw [parseConditionOver, parseConditionOver, bind_apply, bind_apply]
  cases blanks : space0 input with
  | none => rw [Option.bind_none, Option.bind_none]
  | some left =>
    obtain ⟨split, -, -⟩ := space0_eq_some_iff.mp blanks
    have short : left.2.length ≤ input.length := by
      rw [split]
      simp
    have list := separated_congr (and_sound nested).shrinks (keyword_sound "OR").shrinks ands short
    rw [Option.bind_some, Option.bind_some, bind_apply, bind_apply, list]

theorem nest_eq_parseCondition {level : Nat} (high : input.length < level) :
    nest (parseConditionOver letters) level input = parseCondition letters input :=
  nest_eq_of_length_lt (fun depth _ _ agree => over_congr (nest_sound depth) agree) high
    (Nat.lt_succ_self _)

end Guarded

/-! ## What is accepted -/

section Accepted

variable {letters : Alphanumeric}

theorem parseCondition_of_derives {left right : List Char} {depth : Nat} {cond : Condition}
    (before : Blank left) (derived : Derives letters depth text cond) (ends : Ends right) :
    parseCondition letters (left ++ (text ++ right)) = some (cond, right) := by
  obtain ⟨level, deep, high⟩ : ∃ level, depth ≤ level ∧ (left ++ (text ++ right)).length < level :=
    ⟨max depth ((left ++ (text ++ right)).length + 1), by omega, by omega⟩
  have read := nest_complete deep _ _ _ ⟨left, text, rfl, before, derived⟩ ends
  rw [List.append_assoc] at read
  rw [← nest_eq_parseCondition high]
  exact read

theorem grammatical_iff_blank {dsl : String} {cond : Condition}
    (parsed : parseCondition letters dsl.toList = some (cond, rest)) :
    Grammatical letters dsl ↔ Blank rest := by
  constructor
  · rintro ⟨left, text, right, depth, other, split, before, after, derived⟩
    have ends : Ends right := ⟨right, [], by simp, after, .inl rfl⟩
    rw [split, parseCondition_of_derives before derived ends] at parsed
    cases parsed
    exact after
  · intro blank
    obtain ⟨_, split, left, text, rfl, before, derived⟩ := nest_sound _ _ _ _ parsed
    rw [List.append_assoc] at split
    exact ⟨left, text, rest, _, cond, split, before, blank, derived⟩

theorem parseDsl_ok_iff {dsl : String} {cond : Condition} :
    parseDsl letters dsl = .ok cond ↔ ∃ rest, parseCondition letters dsl.toList = some (cond, rest) := by
  rw [parseDsl]
  cases parseCondition letters dsl.toList with
  | none => simp
  | some parsed => simp [Prod.ext_iff]

/-- What is derived starts with a comparison or a condition in parentheses. -/
theorem Derives.primary {depth : Nat} {cond : Condition}
    (derived : Derives letters (depth + 1) text cond) :
    ∃ front back first, text = front ++ back ∧ Primary letters (Derives letters depth) front first := by
  have first : ∀ {item : Grammar Condition} {between : List Char → Prop} {text : List Char}
      {conds : List Condition}, item.Separated between text conds →
        ∃ front back cond, text = front ++ back ∧ item front cond := by
    intro item between text conds texts
    cases conds with
    | nil => exact texts.elim
    | cons cond conds =>
      obtain ⟨front, back, rfl, one, -⟩ := texts
      exact ⟨front, back, cond, rfl, one⟩
  obtain ⟨conds, texts, -⟩ := derived
  obtain ⟨front, back, cond, rfl, ⟨conds, texts, -⟩⟩ := first texts
  obtain ⟨front, middle, cond, rfl, one⟩ := first texts
  exact ⟨front, middle ++ back, cond, List.append_assoc .., one⟩

/-- A text is accepted exactly if some beginning of it is derived: what is behind is not looked at. -/
theorem parseCondition_isSome_iff {dsl : String} :
    (parseCondition letters dsl.toList).isSome ↔ Begins letters dsl := by
  constructor
  · intro accepted
    obtain ⟨⟨cond, rest⟩, parsed⟩ := Option.isSome_iff_exists.mp accepted
    obtain ⟨_, split, left, text, rfl, before, derived⟩ := nest_sound _ _ _ _ parsed
    rw [List.append_assoc] at split
    exact ⟨left, text, rest, _, cond, split, before, derived⟩
  · rintro ⟨left, text, right, _ | depth, cond, split, before, derived⟩
    · exact derived.elim
    obtain ⟨front, back, first, rfl, primary⟩ := derived.primary
    rw [split, List.append_assoc]
    obtain ⟨level, deep, high⟩ : ∃ level, depth ≤ level ∧
        (left ++ (front ++ (back ++ right))).length < level + 1 :=
      ⟨max depth (left ++ (front ++ (back ++ right))).length, by omega, by omega⟩
    have inner := @nest_sound letters level
    have read : (parsePrimitiveOrParen letters (nest (parseConditionOver letters) level)
        (front ++ (back ++ right))).isSome :=
      Option.isSome_of_eq_some (primary_complete (nest_complete deep) (fun _ _ => Derives.solid) _ _ _
        primary trivial)
    have ands := (primary_sound inner).separated_isSome (keyword_sound "AND")
      (word_ne_nil ⟨'A', ['N', 'D'], rfl, by decide⟩) read
    have and : (parseAndCondition letters (nest (parseConditionOver letters) level)
        (front ++ (back ++ right))).isSome := by
      obtain ⟨conds, parsed⟩ := Option.isSome_iff_exists.mp ands
      rw [parseAndCondition, bind_apply, parsed]
      rfl
    obtain ⟨conds, parsed⟩ := Option.isSome_iff_exists.mp ((and_sound inner).separated_isSome
      (keyword_sound "OR") (word_ne_nil ⟨'O', ['R'], rfl, by decide⟩) and)
    rw [← nest_eq_parseCondition high, nest, parseConditionOver, bind_apply,
      space0_blank before (primary.solid.stops _), Option.bind_some, bind_apply, parsed]
    rfl

/-- A text is accepted exactly if, after blanks, some beginning of it is derived. So it is accepted only
if the grammar derives the whole exactly if the grammar derives the whole or no beginning. -/
theorem parseDsl_grammatical_iff (letters : Alphanumeric) (dsl : String) :
    ((∃ cond, parseDsl letters dsl = .ok cond) ↔ Begins letters dsl) ∧
      (((∃ cond, parseDsl letters dsl = .ok cond) → Grammatical letters dsl) ↔
        Grammatical letters dsl ∨ ¬ Begins letters dsl) := by
  have accepted : (∃ cond, parseDsl letters dsl = .ok cond) ↔ Begins letters dsl := by
    rw [← parseCondition_isSome_iff, Option.isSome_iff_exists, Prod.exists]
    exact exists_congr fun cond => parseDsl_ok_iff
  rw [accepted, imp_iff_or_not]
  exact ⟨Iff.rfl, Iff.rfl⟩

end Accepted

def Alphanumeric.asciiOnly : Alphanumeric := ⟨Char.isAlphanum, fun _ _ => rfl⟩

/-- With one equals sign instead of two, the second half of a condition is lost. -/
theorem mistyped_half_is_dropped :
    let dsl := "namespace == \x22a\x22 AND intent = \x22b\x22"
    parseDsl .asciiOnly dsl = .ok (.Equals "namespace" "a") ∧ ¬ Grammatical .asciiOnly dsl := by
  have parsed : parseCondition .asciiOnly "namespace == \x22a\x22 AND intent = \x22b\x22".toList =
      some (.Equals "namespace" "a", " AND intent = \x22b\x22".toList) := by
    rfl
  refine ⟨parseDsl_ok_iff.mpr ⟨_, parsed⟩, fun derived => ?_⟩
  have blank := (grammatical_iff_blank parsed).mp derived
  exact absurd (blank 'A' (by decide)) (by decide)

/-! ## What is printed -/

def joined (mark : String) : List (List Char) → List Char
  | [] => []
  | text :: texts => text ++ texts.flatMap (mark.toList ++ ·)

def Condition.isNode : Condition → Bool
  | .And _ | .Or _ => true
  | _ => false

mutual

/-- A condition as text, with one space between each two tokens and parentheses around every child
that has children. -/
def Condition.print : Condition → List Char
  | .Equals field value => field.toList ++ (" == ".toList ++ quote :: (value.toList ++ [quote]))
  | .Contains field value => field.toList ++ (" contains ".toList ++ quote :: (value.toList ++ [quote]))
  | .NotContains field value =>
    field.toList ++ (" not contains ".toList ++ quote :: (value.toList ++ [quote]))
  | .And conds => joined " AND " (printChildren conds)
  | .Or conds => joined " OR " (printChildren conds)

def printChildren : List Condition → List (List Char)
  | [] => []
  | cond :: conds =>
    (if cond.isNode then "( ".toList ++ (cond.print ++ " )".toList) else cond.print) ::
      printChildren conds

end

def Condition.printChild (cond : Condition) : List Char :=
  if cond.isNode then "( ".toList ++ (cond.print ++ " )".toList) else cond.print

theorem printChildren_eq (conds : List Condition) :
    printChildren conds = conds.map Condition.printChild := by
  induction conds with
  | nil => rfl
  | cons cond conds ih => rw [printChildren, ih, List.map_cons, Condition.printChild]

/-- The conditions whose text is to be read back: nodes have at least two children, fields are names
and values have no quotes. -/
inductive Printable (letters : Alphanumeric) : Condition → Prop where
  | equals {field value : String} (named : Field letters field) (unquoted : quote ∉ value.toList) :
    Printable letters (.Equals field value)
  | contains {field value : String} (named : Field letters field) (unquoted : quote ∉ value.toList) :
    Printable letters (.Contains field value)
  | notContains {field value : String} (named : Field letters field) (unquoted : quote ∉ value.toList) :
    Printable letters (.NotContains field value)
  | and {conds : List Condition} (several : 2 ≤ conds.length)
    (children : ∀ cond ∈ conds, Printable letters cond) : Printable letters (.And conds)
  | or {conds : List Condition} (several : 2 ≤ conds.length)
    (children : ∀ cond ∈ conds, Printable letters cond) : Printable letters (.Or conds)

section Printed

variable {letters : Alphanumeric} {inner : Grammar Condition} {conds : List Condition}
  {cond : Condition}

theorem collapse_several (node : List Condition → Condition)
    (several : 2 ≤ conds.length) : collapse node conds = node conds := by
  match conds, several with
  | _ :: _ :: _, _ => rfl

theorem blank_space : Blank [' '] := by
  simp [Blank, isBlank]

theorem word_and : Word "AND" " AND ".toList := ⟨[' '], [' '], rfl, blank_space, blank_space⟩

theorem word_or : Word "OR" " OR ".toList := ⟨[' '], [' '], rfl, blank_space, blank_space⟩

theorem primitive_print {field value : String} (op : Operator) (named : Field letters field)
    (unquoted : quote ∉ value.toList) :
    Primitive letters
      (field.toList ++ (' ' :: (op.text.toList ++ (' ' :: quote :: (value.toList ++ [quote])))))
      (op.condition field value) :=
  .mk op named blank_space blank_space (fun _ => by simp) unquoted

theorem conjunction_single
    (primary : Primary letters inner text cond) : Conjunction letters inner text cond :=
  ⟨[cond], ⟨text, [], (List.append_nil text).symm, primary, .nil⟩, rfl⟩

theorem disjunction_single
    (conjunction : Conjunction letters inner text cond) : Disjunction letters inner text cond :=
  ⟨[cond], ⟨text, [], (List.append_nil text).symm, conjunction, .nil⟩, rfl⟩

theorem separated_joined {item : Grammar Condition} {word mark : String} (marked : Word word mark.toList)
    (nonempty : conds ≠ []) (children : ∀ cond ∈ conds, item cond.printChild cond) :
    item.Separated (Word word) (joined mark (printChildren conds)) conds := by
  have more : ∀ conds, (∀ cond ∈ conds, item cond.printChild cond) → (item.after (Word word)).Many
      ((conds.map Condition.printChild).flatMap (mark.toList ++ ·)) conds := by
    intro conds children
    induction conds with
    | nil => exact .nil
    | cons cond conds ih =>
      obtain ⟨first, others⟩ := List.forall_mem_cons.mp children
      rw [List.map_cons, List.flatMap_cons]
      exact .cons ⟨mark.toList, cond.printChild, rfl, marked, first⟩ (ih others)
  rw [printChildren_eq]
  cases conds with
  | nil => exact absurd rfl nonempty
  | cons cond conds =>
    obtain ⟨first, others⟩ := List.forall_mem_cons.mp children
    exact ⟨cond.printChild, _, rfl, first, more conds others⟩

theorem exists_depth_of_forall_mem {holds : Nat → Condition → Prop}
    (each : ∀ cond ∈ conds, ∃ least, ∀ depth, least ≤ depth → holds depth cond) :
    ∃ least, ∀ depth, least ≤ depth → ∀ cond ∈ conds, holds depth cond := by
  induction conds with
  | nil => exact ⟨0, by simp⟩
  | cons cond conds ih =>
    obtain ⟨first, others⟩ := List.forall_mem_cons.mp each
    obtain ⟨one, head⟩ := first
    obtain ⟨two, tail⟩ := ih others
    refine ⟨max one two, fun depth enough => List.forall_mem_cons.mpr ⟨head depth ?_, tail depth ?_⟩⟩
    · omega
    · omega

theorem primary_printChild (printable : Printable letters cond) {depth : Nat}
    (derived : Derives letters depth cond.print cond) :
    Primary letters (Derives letters depth) cond.printChild cond := by
  cases printable with
  | equals named unquoted => exact .primitive (primitive_print .equals named unquoted)
  | contains named unquoted => exact .primitive (primitive_print .contains named unquoted)
  | notContains named unquoted => exact .primitive (primitive_print .notContains named unquoted)
  | and | or => exact .paren blank_space blank_space derived

theorem print_derives (printable : Printable letters cond) :
    ∃ least, ∀ depth, least ≤ depth → Derives letters depth cond.print cond := by
  -- What is derived over a level is derived on the next.
  have raise : ∀ {cond : Condition} {least : Nat},
      (∀ depth, least ≤ depth → Disjunction letters (Derives letters depth) cond.print cond) →
      ∃ least, ∀ depth, least ≤ depth → Derives letters depth cond.print cond := by
    intro cond least derived
    refine ⟨least + 1, fun depth enough => ?_⟩
    obtain ⟨depth, rfl⟩ : ∃ less, depth = less + 1 := ⟨depth - 1, by omega⟩
    exact derived depth (by omega)
  have leaf : ∀ {cond : Condition}, Primitive letters cond.print cond →
      ∃ least, ∀ depth, least ≤ depth → Derives letters depth cond.print cond := fun one =>
    raise fun depth (_ : 0 ≤ depth) => disjunction_single (conjunction_single (.primitive one))
  induction printable with
  | equals named unquoted => exact leaf (primitive_print .equals named unquoted)
  | contains named unquoted => exact leaf (primitive_print .contains named unquoted)
  | notContains named unquoted => exact leaf (primitive_print .notContains named unquoted)
  | @and conds several children ih =>
    obtain ⟨least, derived⟩ := exists_depth_of_forall_mem ih
    refine raise fun depth (enough : least ≤ depth) => ?_
    have list := separated_joined word_and (List.ne_nil_of_length_pos (by omega)) fun cond child =>
      primary_printChild (children cond child) (derived depth enough cond child)
    exact disjunction_single ⟨conds, list, (collapse_several _ several).symm⟩
  | @or conds several children ih =>
    obtain ⟨least, derived⟩ := exists_depth_of_forall_mem ih
    refine raise fun depth (enough : least ≤ depth) => ?_
    have list := separated_joined word_or (List.ne_nil_of_length_pos (by omega)) fun cond child =>
      conjunction_single (primary_printChild (children cond child) (derived depth enough cond child))
    exact ⟨conds, list, (collapse_several _ several).symm⟩

/-- What is printed is read back. -/
theorem parseDsl_print (letters : Alphanumeric) (cond : Condition) (printable : Printable letters cond) :
    parseDsl letters (String.ofList cond.print) = .ok cond := by
  obtain ⟨least, derived⟩ := print_derives printable
  have nothing : Blank [] := by simp [Blank]
  have ends : Ends [] := ⟨[], [], rfl, nothing, .inl rfl⟩
  have parsed := parseCondition_of_derives nothing (derived least le_rfl) ends
  rw [List.nil_append, List.append_nil] at parsed
  exact parseDsl_ok_iff.mpr ⟨[], by rwa [String.toList_ofList]⟩

theorem Field.of_all {field : String}
    (all : field ≠ "" ∧ field.toList.all (isField letters) = true) : Field letters field :=
  ⟨fun nothing => all.1 (String.toList_eq_nil_iff.mp nothing), List.all_eq_true.mp all.2⟩

/-- Fields and values that are spelt like operators do not confuse the parser. -/
theorem operators_read_back :
    let cond := Condition.Or
      [.And [.Contains "not" "AND", .Or [.Equals "OR" "", .NotContains "AND" "==" ]],
      .Contains "contains" ")"]
    parseDsl .asciiOnly (String.ofList cond.print) = .ok cond := by
  have inside : Printable .asciiOnly (.Or [.Equals "OR" "", .NotContains "AND" "=="]) :=
    .or (by decide) (List.forall_mem_cons.mpr ⟨.equals (.of_all (by decide)) (by decide),
      List.forall_mem_singleton.mpr (.notContains (.of_all (by decide)) (by decide))⟩)
  have first : Printable .asciiOnly
      (.And [.Contains "not" "AND", .Or [.Equals "OR" "", .NotContains "AND" "=="]]) :=
    .and (by decide) (List.forall_mem_cons.mpr ⟨.contains (.of_all (by decide)) (by decide),
      List.forall_mem_singleton.mpr inside⟩)
  exact parseDsl_print _ _ (.or (by decide) (List.forall_mem_cons.mpr ⟨first,
    List.forall_mem_singleton.mpr (.contains (.of_all (by decide)) (by decide))⟩))

end Printed

end OpenHttpa.Aiql
