import Mathlib.Data.List.Basic

/-!
# Policies over documents

A document is a tree of the kind JSON writes down. A policy is a set of rules over documents in the
manner of Rego: a body is a list of expressions that must all hold; an expression compares two
terms, looks for a term among the items of another, or applies a rule to terms; a term that refers
to a member that is not there is undefined, and an expression with such a term does not hold. Rules
never recur, so a list of rules is ordered with each rule before those it applies, and applying one
is recursion on the list.
-/
namespace OpenHttpa.Rego

/-- A document; the members of an object stand in the order of their names. -/
inductive Value where
  | null
  | bool (value : Bool)
  | number (value : Nat)
  | string (text : String)
  | array (items : List Value)
  | object (members : List (String × Value))

namespace Value

def member (name : String) : Value → Option Value
  | object members => members.lookup name
  | _ => none

def items : Value → List Value
  | array items => items
  | object members => members.map Prod.snd
  | _ => []

mutual

def same : Value → Value → Bool
  | null, null => true
  | bool left, bool right => left == right
  | number left, number right => left == right
  | string left, string right => left == right
  | array left, array right => sameItems left right
  | object left, object right => sameMembers left right
  | _, _ => false

def sameItems : List Value → List Value → Bool
  | [], [] => true
  | left :: lefts, right :: rights => same left right && sameItems lefts rights
  | _, _ => false

def sameMembers : List (String × Value) → List (String × Value) → Bool
  | [], [] => true
  | (leftName, left) :: lefts, (rightName, right) :: rights =>
    leftName == rightName && same left right && sameMembers lefts rights
  | _, _ => false

end

mutual

theorem same_iff : ∀ left right : Value, same left right = true ↔ left = right
  | null, right => by cases right <;> simp [same]
  | bool left, right => by cases right <;> simp [same]
  | number left, right => by cases right <;> simp [same]
  | string left, right => by cases right <;> simp [same]
  | array left, right => by cases right <;> simp [same, sameItems_iff left]
  | object left, right => by cases right <;> simp [same, sameMembers_iff left]

theorem sameItems_iff : ∀ left right : List Value, sameItems left right = true ↔ left = right
  | [], right => by cases right <;> simp [sameItems]
  | left :: lefts, right => by
    cases right with
    | nil => simp [sameItems]
    | cons right rights => simp [sameItems, same_iff left right, sameItems_iff lefts rights]

theorem sameMembers_iff :
    ∀ left right : List (String × Value), sameMembers left right = true ↔ left = right
  | [], right => by cases right <;> simp [sameMembers]
  | (leftName, left) :: lefts, right => by
    cases right with
    | nil => simp [sameMembers]
    | cons right rights =>
      simp [sameMembers, same_iff left right.2, sameMembers_iff lefts rights, Prod.ext_iff]

end

instance : DecidableEq Value := fun left right =>
  decidable_of_iff (same left right = true) (same_iff left right)

end Value

abbrev Scope := List (String × Value)

inductive Term where
  | literal (value : Value)
  | ref (name : String) (path : List String)

def Term.eval (scope : Scope) : Term → Option Value
  | literal value => some value
  | ref name path =>
    (scope.lookup name).bind fun value => path.foldlM (fun value name => value.member name) value

@[simp]
theorem Term.eval_name (name : String) (value : Value) (scope : Scope) :
    (Term.ref name []).eval ((name, value) :: scope) = some value := by
  simp [eval]

@[simp]
theorem Term.eval_member (name : String) (value : Value) (scope : Scope) (field : String) :
    (Term.ref name [field]).eval ((name, value) :: scope) = value.member field := by
  simp [eval]

inductive Expr where
  /-- `left == right`. -/
  | eq (left right : Term)
  /-- `collection[_] == item`. -/
  | contains (collection item : Term)
  | apply (rule : String) (arguments : List Term)

variable (rules : String → List Value → Bool) (scope : Scope)

def Expr.holds (scope : Scope) : Expr → Bool
  | eq left right =>
    match left.eval scope, right.eval scope with
    | some left, some right => decide (left = right)
    | _, _ => false
  | contains collection item =>
    match collection.eval scope, item.eval scope with
    | some collection, some item => decide (item ∈ collection.items)
    | _, _ => false
  | apply rule arguments =>
    match arguments.mapM (·.eval scope) with
    | some arguments => rules rule arguments
    | none => false

@[simp]
theorem Expr.holds_eq_literal (term : Term) (value : Value) :
    (Expr.eq term (.literal value)).holds rules scope = true ↔ term.eval scope = some value := by
  have literal : (Term.literal value).eval scope = some value := rfl
  unfold holds
  cases found : term.eval scope with
  | none => simp [found]
  | some other => simp [found, literal]

@[simp]
theorem Expr.holds_apply_one (rule : String) (term : Term) :
    (Expr.apply rule [term]).holds rules scope = true ↔
      ∃ value, term.eval scope = some value ∧ rules rule [value] = true := by
  unfold holds
  cases found : term.eval scope with
  | none | some => simp [found]

structure Rule where
  name : String
  parameters : List String
  body : List Expr

def holds : List Rule → String → List Value → Bool
  | [], _, _ => false
  | rule :: rest, name, arguments =>
    (rule.name = name ∧ rule.parameters.length = arguments.length ∧
      rule.body.all (·.holds (holds rest) (rule.parameters.zip arguments)) = true) ||
    holds rest name arguments

theorem holds_of_absent {rules : List Rule} {name : String} (absent : ∀ rule ∈ rules, rule.name ≠ name)
    (arguments : List Value) : holds rules name arguments = false := by
  induction rules with
  | nil => rfl
  | cons rule rest ih =>
    have first := absent rule List.mem_cons_self
    have later := ih fun other member => absent other (List.mem_cons_of_mem _ member)
    simp [holds, first, later]

theorem holds_append {front : List Rule} {name : String} (absent : ∀ rule ∈ front, rule.name ≠ name)
    (rest : List Rule) (arguments : List Value) :
    holds (front ++ rest) name arguments = holds rest name arguments := by
  induction front with
  | nil => rfl
  | cons rule front ih =>
    have first := absent rule List.mem_cons_self
    have later := ih fun other member => absent other (List.mem_cons_of_mem _ member)
    simp [holds, first, later]

theorem holds_comparison_iff (front rest : List Rule) {name parameter : String} {term : Term}
    {expected value : Value} (before : ∀ rule ∈ front, rule.name ≠ name)
    (after : ∀ rule ∈ rest, rule.name ≠ name) :
    holds (front ++ ⟨name, [parameter], [.eq term (.literal expected)]⟩ :: rest) name [value] = true ↔
      term.eval [(parameter, value)] = some expected := by
  rw [holds_append before]
  simp [holds, holds_of_absent after]

structure Decision where
  default : Option Bool
  bodies : List (List Expr)

def Decision.value (rules : List Rule) (decision : Decision) (input : Value) : Option Bool :=
  if decision.bodies.any fun body => body.all (·.holds (holds rules) [("input", input)]) then some true
  else decision.default

theorem Decision.value_eq_true_iff (rules : List Rule) (body : List Expr) (input : Value) :
    (⟨some false, [body]⟩ : Decision).value rules input = some true ↔
      ∀ expr ∈ body, expr.holds (holds rules) [("input", input)] = true := by
  unfold value
  split
  · rename_i holds
    simpa using holds
  · rename_i fails
    simpa using fails

end OpenHttpa.Rego
