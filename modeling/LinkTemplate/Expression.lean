import LinkTemplate.Error
/-!
# Expressions

The part of a template between `{` and `}`: a bare variable, or an operator
applied to an argument and to variables.  An operator that takes one variable
carries one name, so the arity rule is part of the type and evaluation never
meets a missing variable.

`render` writes an expression and `parse` reads a body.  Reading is total on
texts: a body that starts with anything but `-` is a variable name, whatever
characters it holds.
-/

namespace LinkTemplate

/-- An expression of a template. -/
inductive Expression where
  /-- `{name}` -/
  | bare (name : Text)
  /-- `{-opt|arg|names}` -/
  | opt (arg : Text) (names : List Text)
  /-- `{-neg|arg|names}` -/
  | neg (arg : Text) (names : List Text)
  /-- `{-prefix|arg|name}` -/
  | prepend (arg name : Text)
  /-- `{-suffix|arg|name}` -/
  | append (arg name : Text)
  /-- `{-join|arg|names}` -/
  | join (arg : Text) (names : List Text)
  /-- `{-list|arg|name}` -/
  | list (arg name : Text)
deriving DecidableEq, Repr

namespace Expression

/-! ### Parts -/

/-- The names of the variables an expression mentions, in the order in which it mentions them. -/
def names : Expression → List Text
  | bare name => [name]
  | opt _ names | neg _ names | join _ names => names
  | prepend _ name | append _ name | list _ name => [name]

/-- The operator of an expression, none for a bare variable. -/
def operator? : Expression → Option Operator
  | bare _ => none
  | opt .. => some .opt
  | neg .. => some .neg
  | prepend .. => some .prepend
  | append .. => some .append
  | join .. => some .join
  | list .. => some .list

/-- The argument of the operator, none for a bare variable. -/
def argument? : Expression → Option Text
  | bare _ => none
  | opt arg _ | neg arg _ | join arg _ => some arg
  | prepend arg _ | append arg _ | list arg _ => some arg

/-! ### Writing -/

/-- An operator, its argument and its variables as they are written between the braces. -/
def applicationBody (op : Operator) (arg : Text) (names : List Text) : Text :=
  '-' :: op.name ++ '|' :: arg ++ '|' :: Text.joinWith [','] names

/-- An expression as it is written between the braces. -/
def body : Expression → Text
  | bare name => name
  | opt arg names => applicationBody .opt arg names
  | neg arg names => applicationBody .neg arg names
  | prepend arg name => applicationBody .prepend arg [name]
  | append arg name => applicationBody .append arg [name]
  | join arg names => applicationBody .join arg names
  | list arg name => applicationBody .list arg [name]

/-- A body with the braces around it. -/
def braced (body : Text) : Text := '{' :: body ++ ['}']

/-- An expression as it is written in a template. -/
def render (e : Expression) : Text := braced e.body

/-! ### Reading -/

/-- An operator applied to names, if it takes that many. -/
def ofOperator (op : Operator) (arg : Text) (names : List Text) : Except Error Expression :=
  match op, names with
  | .opt, names => .ok (opt arg names)
  | .neg, names => .ok (neg arg names)
  | .join, names => .ok (join arg names)
  | .prepend, [name] => .ok (prepend arg name)
  | .append, [name] => .ok (append arg name)
  | .list, [name] => .ok (list arg name)
  | op, names => .error (.arity op names.length)

/-- The operator with a given name. -/
def lookupOperator (name : Text) : Except Error Operator :=
  match Operator.ofName? name with
  | some op => .ok op
  | none => .error (.unknownOperator name)

/-- Reads what follows the `-`: name, argument and variables between two separators.  The faults are
looked for in this order: separators, operator, empty names, arity. -/
def parseApplication (body rest : Text) : Except Error Expression :=
  match rest.splitOn '|' with
  | [name, arg, operands] =>
    match lookupOperator name with
    | .error e => .error e
    | .ok op =>
      let names := operands.splitOn ','
      if names.contains [] then .error (.malformed body .emptyName)
      else ofOperator op arg names
  | parts => .error (.malformed body (.separators (parts.length - 1)))

/-- The expression with a given body. -/
def parse : Text → Except Error Expression
  | '-' :: rest => parseApplication ('-' :: rest) rest
  | body => .ok (bare body)

end Expression

end LinkTemplate
