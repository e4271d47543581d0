import LinkTemplate.Text
/-!
# Operators

The operators of `{-name|argument|variables}` form a closed set.  Each has one
written name, and no two share one.
-/

namespace LinkTemplate

/-- An operator that can be applied in an expression. -/
inductive Operator where
  /-- The argument if any variable is present. -/
  | opt
  /-- The argument if no variable is present. -/
  | neg
  /-- The argument followed by the value. -/
  | prepend
  /-- The value followed by the argument. -/
  | append
  /-- Pairs `name=value` with the argument between them. -/
  | join
  /-- The items of a list with the argument between them. -/
  | list
deriving DecidableEq, Repr

namespace Operator

/-- All operators, in the order in which they are listed to the user. -/
def all : List Operator := [.opt, .neg, .prepend, .append, .join, .list]

/-- The name under which an operator is written. -/
def name : Operator → Text
  | opt => ['o', 'p', 't']
  | neg => ['n', 'e', 'g']
  | prepend => ['p', 'r', 'e', 'f', 'i', 'x']
  | append => ['s', 'u', 'f', 'f', 'i', 'x']
  | join => ['j', 'o', 'i', 'n']
  | list => ['l', 'i', 's', 't']

/-- The operator with the given name. -/
def ofName? (t : Text) : Option Operator := all.find? fun op => op.name = t

/-- Some operators apply to exactly one variable. -/
def takesSingle : Operator → Bool
  | prepend | append | list => true
  | opt | neg | join => false

/-- Looking a name up inverts writing it. -/
theorem ofName?_eq_some_iff {t : Text} {op : Operator} : ofName? t = some op ↔ t = op.name := by
  constructor
  · intro h
    simpa [eq_comm] using List.find?_some h
  · rintro rfl
    cases op <;> decide

@[simp] theorem ofName?_name (op : Operator) : ofName? op.name = some op :=
  ofName?_eq_some_iff.2 rfl

end Operator

end LinkTemplate
