import Mathlib.Data.List.Basic
import Mathlib.Data.List.Infix
import Mathlib.Data.List.TakeWhile

/-!
# Parsers with ordered choice

A parser reads a value off the front of a text and leaves the rest, or fails. A grammar relates
texts and values. A parser is sound for it if what it reads is always a text of the grammar, and
complete for it before some texts if it reads a text of the grammar whole wherever one of them
follows: a parser that reads as much as it can has to be stopped by what comes next. Parsers that
call themselves are the levels of a body over the parser for what is nested. On a text every level
from its length on is the same one, if each nested call reads a shorter text.
-/
namespace OpenHttpa

abbrev Parser (α : Type) := StateT (List Char) Option α

namespace Parser

variable {α β : Type}

/-! ## Combinators -/

@[simp]
theorem bind_apply (parser : Parser α) (next : α → Parser β) (input : List Char) :
    (parser >>= next) input = (parser input).bind fun found => next found.1 found.2 := rfl

@[simp]
theorem pure_apply (value : α) (input : List Char) :
    (pure value : Parser α) input = some (value, input) :=
  rfl

@[simp]
theorem failure_apply (input : List Char) : (failure : Parser α) input = none := rfl

@[simp]
theorem orElse_apply (first second : Parser α) (input : List Char) :
    (first <|> second) input = (first input).or (second input) := by
  show (first input <|> second input) = _
  cases first input <;> rfl

def takeWhile (least : Nat) (test : Char → Bool) : Parser String := fun input =>
  if least ≤ (input.takeWhile test).length then
    some (String.ofList (input.takeWhile test), input.dropWhile test)
  else none

def literal (text : String) : Parser String := fun input =>
  if text.toList <+: input then some (text, input.drop text.toList.length) else none

/-- One parser as often as it succeeds. A round that reads nothing is an error; as the others make the
text shorter, the fuel is never used up. -/
def manyUpTo (parser : Parser α) : Nat → Parser (List α)
  | 0 => failure
  | fuel + 1 => fun input =>
    match parser input with
    | none => some ([], input)
    | some (value, rest) =>
      if rest.length < input.length then
        (manyUpTo parser fuel rest).map fun found => (value :: found.1, found.2)
      else none

theorem manyUpTo_succ (parser : Parser α) (fuel : Nat) (input : List Char) :
    manyUpTo parser (fuel + 1) input =
      match parser input with
      | none => some ([], input)
      | some (value, rest) =>
        if rest.length < input.length then
          (manyUpTo parser fuel rest).map fun found => (value :: found.1, found.2)
        else none := rfl

def many (parser : Parser α) : Parser (List α) := fun input =>
  manyUpTo parser (input.length + 1) input

def after (separator : Parser β) (item : Parser α) : Parser α := do
  let _ ← separator
  item

/-- Items with a separator between each two, at least one. A separator without an item after it is
left. -/
def separated (item : Parser α) (separator : Parser β) : Parser (List α) := do
  let first ← item
  let others ← many (after separator item)
  return first :: others

def nest (body : Parser α → Parser α) : Nat → Parser α
  | 0 => failure
  | depth + 1 => body (nest body depth)

/-! ## Grammars -/

abbrev Grammar (α : Type) := List Char → α → Prop

def Grammar.after (before : List Char → Prop) (grammar : Grammar α) : Grammar α := fun text value =>
  ∃ front back, text = front ++ back ∧ before front ∧ grammar back value

inductive Grammar.Many (grammar : Grammar α) : List Char → List α → Prop where
  | nil : Many grammar [] []
  | cons {front back : List Char} {value : α} {values : List α} (first : grammar front value)
    (others : Many grammar back values) : Many grammar (front ++ back) (value :: values)

def Grammar.Separated (item : Grammar α) (separator : List Char → Prop) : Grammar (List α)
  | _, [] => False
  | text, value :: values => ∃ front back, text = front ++ back ∧ item front value ∧
      (item.after separator).Many back values

def Grammar.nest (body : Grammar α → Grammar α) : Nat → Grammar α
  | 0 => fun _ _ => False
  | depth + 1 => body (Grammar.nest body depth)

def Sound (parser : Parser α) (grammar : Grammar α) : Prop :=
  ∀ input value rest, parser input = some (value, rest) →
    ∃ front, input = front ++ rest ∧ grammar front value

def Shrinks (parser : Parser α) : Prop :=
  ∀ input value rest, parser input = some (value, rest) → rest.length ≤ input.length

/-- A text of the grammar is read whole where such a text follows. -/
def Complete (parser : Parser α) (grammar : Grammar α) (follow : List Char → Prop) : Prop :=
  ∀ front value rest, grammar front value → follow rest →
    parser (front ++ rest) = some (value, rest)

variable {parser : Parser α} {grammar : Grammar α} {input : List Char}

theorem Sound.shrinks (sound : Sound parser grammar) :
    Shrinks parser := by
  intro input value rest parsed
  obtain ⟨front, rfl, -⟩ := sound _ _ _ parsed
  simp

theorem Sound.map (sound : Sound parser grammar)
    (make : α → β) : Sound (do let value ← parser; return make value)
      fun text made => ∃ value, grammar text value ∧ made = make value := by
  intro input made rest parsed
  simp only [bind_apply, Option.bind_eq_some_iff, Prod.exists, pure_apply, Option.some.injEq,
    Prod.mk.injEq] at parsed
  obtain ⟨value, last, found, rfl, rfl⟩ := parsed
  obtain ⟨front, rfl, one⟩ := sound _ _ _ found
  exact ⟨front, rfl, value, one, rfl⟩

theorem Complete.map {follow : List Char → Prop}
    (complete : Complete parser grammar follow) (make : α → β) :
    Complete (do let value ← parser; return make value)
      (fun text made => ∃ value, grammar text value ∧ made = make value) follow := by
  rintro front _ rest ⟨value, one, rfl⟩ follows
  rw [bind_apply, complete _ _ _ one follows]
  rfl

theorem Complete.mono {follow fewer : List Char → Prop}
    (complete : Complete parser grammar follow) (within : ∀ rest, fewer rest → follow rest) :
    Complete parser grammar fewer :=
  fun front value rest one follows => complete front value rest one (within rest follows)

/-! ## Terminals -/

def Stops (test : Char → Bool) (text : List Char) : Prop := ∀ c ∈ text.head?, test c = false

theorem takeWhile_eq_some_iff {least : Nat} {test : Char → Bool} {rest : List Char} {value : String} :
    takeWhile least test input = some (value, rest) ↔ input = value.toList ++ rest ∧
      least ≤ value.toList.length ∧ (∀ c ∈ value.toList, test c = true) ∧ Stops test rest := by
  constructor
  · intro parsed
    rw [takeWhile] at parsed
    split at parsed
    · rename_i enough
      cases parsed
      rw [String.toList_ofList]
      refine ⟨List.takeWhile_append_dropWhile.symm, enough, fun c => List.mem_takeWhile_imp, ?_⟩
      intro c first
      have after := List.head?_dropWhile_not test input
      rw [Option.mem_def.mp first] at after
      exact after
    · cases parsed
  · rintro ⟨rfl, enough, passes, stops⟩
    have front : (value.toList ++ rest).takeWhile test = value.toList := by
      rw [List.takeWhile_append_of_pos passes]
      cases rest with
      | nil => simp
      | cons c rest => simp [stops c rfl]
    have back : (value.toList ++ rest).dropWhile test = rest := by
      rw [List.dropWhile_append_of_pos passes]
      cases rest with
      | nil => simp
      | cons c rest => simp [stops c rfl]
    rw [takeWhile, front, back, if_pos enough, String.ofList_toList]

theorem literal_eq_some_iff {text value : String} {rest : List Char} :
    literal text input = some (value, rest) ↔ value = text ∧ input = text.toList ++ rest := by
  rw [literal]
  constructor
  · intro parsed
    split at parsed
    · rename_i stands
      cases parsed
      obtain ⟨back, rfl⟩ := stands
      simp
    · cases parsed
  · rintro ⟨rfl, rfl⟩
    simp

theorem literal_eq_none {text : String} {c : Char} (first : text.toList.head? = some c)
    (other : input.head? ≠ some c) : literal text input = none := by
  refine if_neg fun stands => other ?_
  obtain ⟨rest, rfl⟩ := stands
  rw [List.head?_append, first]
  rfl

/-! ## Repetition -/

section Many

variable {parser : Parser α} {grammar : Grammar α}

theorem Sound.many (sound : Sound parser grammar) : Sound (many parser) grammar.Many := by
  have upTo : ∀ fuel, Sound (manyUpTo parser fuel) grammar.Many := by
    intro fuel
    induction fuel with
    | zero =>
      intro input values rest parsed
      cases parsed
    | succ fuel ih =>
      intro input values rest parsed
      rw [manyUpTo_succ] at parsed
      split at parsed
      · cases parsed
        exact ⟨[], rfl, .nil⟩
      · rename_i value middle first
        split at parsed
        · simp only [Option.map_eq_some_iff, Prod.mk.injEq, Prod.exists] at parsed
          obtain ⟨others, last, again, rfl, rfl⟩ := parsed
          obtain ⟨front, rfl, one⟩ := sound _ _ _ first
          obtain ⟨back, rfl, more⟩ := ih _ _ _ again
          exact ⟨front ++ back, (List.append_assoc ..).symm, .cons one more⟩
        · cases parsed
  intro input values rest parsed
  exact upTo _ _ _ _ parsed

theorem Complete.many {follow : List Char → Prop} (complete : Complete parser grammar follow)
    (again : ∀ front value, grammar front value → ∀ rest, follow (front ++ rest))
    (progress : ∀ front value, grammar front value → front ≠ []) :
    Complete (many parser) grammar.Many fun rest => follow rest ∧ parser rest = none := by
  intro text values rest texts ends
  obtain ⟨follows, stops⟩ := ends
  have upTo : ∀ fuel, (text ++ rest).length < fuel →
      manyUpTo parser fuel (text ++ rest) = some (values, rest) := by
    induction texts with
    | nil =>
      intro fuel enough
      obtain ⟨fuel, rfl⟩ : ∃ less, fuel = less + 1 := ⟨fuel - 1, by omega⟩
      simp only [List.nil_append, manyUpTo_succ, stops]
    | @cons front back value values first others ih =>
      intro fuel enough
      obtain ⟨fuel, rfl⟩ : ∃ less, fuel = less + 1 := ⟨fuel - 1, by omega⟩
      -- what comes after the first text is another one or the end
      have next : follow (back ++ rest) := by
        cases others with
        | nil => exact follows
        | cons second _ =>
          rw [List.append_assoc]
          exact again _ _ second _
      have shorter : (back ++ rest).length < (front ++ (back ++ rest)).length := by
        have some := List.length_pos_iff.mpr (progress _ _ first)
        simp only [List.length_append]
        omega
      rw [List.append_assoc] at enough ⊢
      simp only [manyUpTo_succ, complete _ _ _ first next, if_pos shorter, ih fuel (by omega),
        Option.map_some]
  exact upTo _ (Nat.lt_succ_self _)

/-- A parser that reads something whenever it succeeds can be repeated everywhere. -/
theorem Sound.many_isSome (sound : Sound parser grammar)
    (progress : ∀ text value, grammar text value → text ≠ []) (input : List Char) :
    (Parser.many parser input).isSome := by
  have upTo : ∀ fuel input, input.length < fuel → (manyUpTo parser fuel input).isSome := by
    intro fuel
    induction fuel with
    | zero =>
      intro input none
      omega
    | succ fuel ih =>
      intro input enough
      rw [manyUpTo_succ]
      cases parsed : parser input with
      | none => rfl
      | some found =>
        obtain ⟨front, split, one⟩ := sound _ _ _ parsed
        have some := List.length_pos_iff.mpr (progress _ _ one)
        have shorter : found.2.length < input.length := by
          rw [split, List.length_append]
          omega
        simp only [if_pos shorter, Option.isSome_map]
        exact ih _ (by omega)
  exact upTo _ _ (Nat.lt_succ_self _)

theorem many_congr {other : Parser α} {bound : Nat} (shrinks : Shrinks parser)
    (agree : ∀ input, input.length ≤ bound → parser input = other input)
    (short : input.length ≤ bound) : many parser input = many other input := by
  have upTo : ∀ fuel input, input.length ≤ bound →
      manyUpTo parser fuel input = manyUpTo other fuel input := by
    intro fuel
    induction fuel with
    | zero => exact fun _ _ => rfl
    | succ fuel ih =>
      intro input short
      rw [manyUpTo_succ, manyUpTo_succ, ← agree input short]
      cases parsed : parser input with
      | none => rfl
      | some found =>
        simp only [ih found.2 (Nat.le_trans (shrinks _ _ _ parsed) short)]
  exact upTo _ input short

end Many

/-! ## Separated items -/

section Separated

variable {item : Parser α} {separator : Parser β} {grammar : Grammar α} {between : List Char → Prop}

theorem Sound.after (items : Sound item grammar)
    (separators : Sound separator fun text _ => between text) :
    Sound (after separator item) (grammar.after between) := by
  intro input value rest parsed
  simp only [Parser.after, bind_apply, Option.bind_eq_some_iff, Prod.exists] at parsed
  obtain ⟨mark, middle, first, second⟩ := parsed
  obtain ⟨front, rfl, one⟩ := separators _ _ _ first
  obtain ⟨back, rfl, two⟩ := items _ _ _ second
  exact ⟨front ++ back, (List.append_assoc ..).symm, front, back, rfl, one, two⟩

theorem Sound.separated (items : Sound item grammar)
    (separators : Sound separator fun text _ => between text) :
    Sound (separated item separator) (grammar.Separated between) := by
  intro input values rest parsed
  simp only [Parser.separated, bind_apply, Option.bind_eq_some_iff, Prod.exists, pure_apply,
    Option.some.injEq, Prod.mk.injEq] at parsed
  obtain ⟨first, middle, one, others, last, more, rfl, rfl⟩ := parsed
  obtain ⟨front, rfl, head⟩ := items _ _ _ one
  obtain ⟨back, rfl, tail⟩ := (items.after separators).many _ _ _ more
  exact ⟨front ++ back, (List.append_assoc ..).symm, front, back, rfl, head, tail⟩

/-- Where an item is read, a list of them is. -/
theorem Sound.separated_isSome (items : Sound item grammar)
    (separators : Sound separator fun text _ => between text)
    (progress : ∀ mark, between mark → mark ≠ []) (found : (item input).isSome) :
    (Parser.separated item separator input).isSome := by
  obtain ⟨first, one⟩ := Option.isSome_iff_exists.mp found
  obtain ⟨others, more⟩ := Option.isSome_iff_exists.mp ((items.after separators).many_isSome (by
    rintro _ value ⟨mark, front, rfl, marked, -⟩
    simp [progress mark marked]) first.2)
  rw [Parser.separated, bind_apply, one, Option.bind_some, bind_apply, more]
  rfl

/-- A separator is read as it stands before an item. -/
def Marks (separator : Parser β) (between : List Char → Prop) (grammar : Grammar α) : Prop :=
  ∀ mark front value rest, between mark → grammar front value →
    ∃ read, separator (mark ++ (front ++ rest)) = some (read, front ++ rest)

theorem Complete.after {follow : List Char → Prop} (items : Complete item grammar follow)
    (marks : Marks separator between grammar) :
    Complete (after separator item) (grammar.after between) follow := by
  intro text value rest texts follows
  obtain ⟨mark, front, rfl, marked, one⟩ := texts
  obtain ⟨read, first⟩ := marks mark front value rest marked one
  rw [List.append_assoc, Parser.after, bind_apply, first]
  exact items _ _ _ one follows

theorem Complete.separated {follow : List Char → Prop} (items : Complete item grammar follow)
    (marks : Marks separator between grammar)
    (stops : ∀ mark rest, between mark → follow (mark ++ rest))
    (progress : ∀ mark, between mark → mark ≠ []) :
    Complete (separated item separator) (grammar.Separated between) fun rest =>
      follow rest ∧ Parser.after separator item rest = none := by
  have again : ∀ text value, grammar.after between text value → ∀ rest, follow (text ++ rest) := by
    rintro _ value ⟨mark, front, rfl, marked, -⟩ rest
    rw [List.append_assoc]
    exact stops mark _ marked
  have more := (items.after marks).many again (by
    rintro _ value ⟨mark, front, rfl, marked, -⟩
    simp [progress mark marked])
  intro text values rest texts ends
  cases values with
  | nil => exact texts.elim
  | cons value values =>
    obtain ⟨front, back, rfl, one, others⟩ := texts
    have next : follow (back ++ rest) := by
      cases others with
      | nil => exact ends.1
      | cons second _ =>
        rw [List.append_assoc]
        exact again _ _ second _
    rw [List.append_assoc, Parser.separated, bind_apply, items _ _ _ one next]
    simp only [Option.bind_some, bind_apply, more _ _ _ others ends, pure_apply]

theorem Shrinks.after (separators : Shrinks separator) (items : Shrinks item) :
    Shrinks (after separator item) := by
  intro input value rest parsed
  simp only [Parser.after, bind_apply, Option.bind_eq_some_iff, Prod.exists] at parsed
  obtain ⟨mark, middle, first, second⟩ := parsed
  exact Nat.le_trans (items _ _ _ second) (separators _ _ _ first)

theorem separated_congr {other : Parser α} {bound : Nat} (items : Shrinks item)
    (separators : Shrinks separator)
    (agree : ∀ input, input.length ≤ bound → item input = other input)
    (short : input.length ≤ bound) :
    separated item separator input = separated other separator input := by
  have chunk : ∀ input, input.length ≤ bound →
      after separator item input = after separator other input := by
    intro input short
    rw [after, after, bind_apply, bind_apply]
    cases parsed : separator input with
    | none => rfl
    | some found => exact agree _ (Nat.le_trans (separators _ _ _ parsed) short)
  rw [separated, separated, bind_apply, bind_apply, ← agree input short]
  cases parsed : item input with
  | none => rfl
  | some found =>
    have less := Nat.le_trans (items _ _ _ parsed) short
    simp only [Option.bind_some, bind_apply, many_congr (separators.after items) chunk less]

end Separated

/-! ## Nesting -/

section Nest

variable {body : Parser α → Parser α} {levels : Nat → Grammar α}

theorem Sound.nest (step : ∀ depth inner, Sound inner (levels depth) →
      Sound (body inner) (levels (depth + 1))) (depth : Nat) :
    Sound (nest body depth) (levels depth) := by
  induction depth with
  | zero =>
    intro input value rest parsed
    cases parsed
  | succ depth ih => exact step depth _ ih

theorem Complete.nest {follow : List Char → Prop} (empty : ∀ text value, ¬ levels 0 text value)
    (step : ∀ depth inner, Complete inner (levels depth) follow →
      Complete (body inner) (levels (depth + 1)) follow)
    {depth level : Nat} (within : depth ≤ level) :
    Complete (nest body level) (levels depth) follow := by
  induction depth generalizing level with
  | zero =>
    intro front value rest inside
    exact absurd inside (empty front value)
  | succ depth ih =>
    obtain ⟨level, rfl⟩ : ∃ less, level = less + 1 := ⟨level - 1, by omega⟩
    exact step depth _ (ih (Nat.le_of_succ_le_succ within))

theorem nest_eq_of_length_lt
    (guarded : ∀ depth level input,
      (∀ shorter, shorter.length < input.length → nest body depth shorter = nest body level shorter) →
        body (nest body depth) input = body (nest body level) input)
    {depth level : Nat} (deep : input.length < depth) (high : input.length < level) :
    nest body depth input = nest body level input := by
  induction depth generalizing level input with
  | zero => omega
  | succ depth ih =>
    obtain ⟨level, rfl⟩ : ∃ less, level = less + 1 := ⟨level - 1, by omega⟩
    refine guarded depth level input fun shorter less => ih ?_ ?_
    · omega
    · omega

end Nest

end Parser

end OpenHttpa
