import LinkTemplate.Operator
/-!
# Errors

Everything that can go wrong, as causes.  `message` is the one place that words
them and `fix` the one place that says what the user can do about them.

Some errors hand on what another program said: the reader of a document about what it
found wrong, the system about a file.  Such a text is the `detail?` of the error.  The
readers of documents word it in a way of their own, which a `Wording` stands for.  What
a reader found wrong in a JSON text is besides summed up by its kind.
-/

namespace LinkTemplate

/-- What is wrong with the body of an operator expression. -/
inductive Malformation where
  /-- There are not exactly two separators. -/
  | separators (found : Nat)
  /-- A variable name is empty. -/
  | emptyName
deriving DecidableEq, Repr

/-- What an expression expects of the value of a variable. -/
inductive Expectation where
  | single
  | list
deriving DecidableEq, Repr

/-- The kinds of faults in a JSON text. -/
inductive JsonFault where
  /-- The text is not JSON. -/
  | malformed
  /-- The text ends inside a value. -/
  | truncated
  /-- A value has a type that is not wanted here. -/
  | wrongType
deriving DecidableEq, Repr

/-- The causes of failure. -/
inductive Error where
  /-- The body of an expression does not have the required form. -/
  | malformed (body : Text) (cause : Malformation)
  /-- A single-variable operator was given another number of variables. -/
  | arity (operator : Operator) (count : Nat)
  /-- There is no operator of that name. -/
  | unknownOperator (name : Text)
  /-- A variable is bound to a value of the other kind. -/
  | typeMismatch (name : Text) (expected : Expectation)
  /-- A parameter is not written `name=value`. -/
  | assignment (input : Text)
  /-- A JSON document does not describe parameters, as its reader says in detail. -/
  | json (fault : JsonFault) (detail : Text)
  /-- A YAML document does not describe what was wanted, as its reader says in detail. -/
  | yaml (detail : Text)
  /-- The system refused to read a file, for the given reason. -/
  | io (reason : Text)
deriving DecidableEq, Repr

/-- What the readers of documents say in detail about a text that they refuse. -/
structure Wording where
  /-- About parameters as JSON. -/
  json : Text → Text
  /-- About parameters as YAML. -/
  yaml : Text → Text
  /-- About a package. -/
  package : Text → Text

/-- How a malformation is described. -/
def Malformation.message : Malformation → Text
  | separators found => "expected 2 '|' separators, found ".toList ++ Text.ofNat found
  | emptyName => "empty variable name".toList

/-- How an expectation is described. -/
def Expectation.message : Expectation → Text
  | single => "a single value, not a list".toList
  | list => "a list".toList

namespace Error

/-- The message for an error. -/
def message : Error → Text
  | malformed body cause =>
    "URIT-010: Malformed expression '\x7b".toList ++ body ++ "\x7d': ".toList ++ cause.message
  | arity operator count =>
    "URIT-011: Operator '-".toList ++ operator.name ++
      "' takes exactly one variable, given ".toList ++ Text.ofNat count
  | unknownOperator name => "URIT-012: Unknown operator '-".toList ++ name ++ ['\'']
  | typeMismatch name expected =>
    "URIT-013: Variable '".toList ++ name ++ "' must be ".toList ++ expected.message
  | assignment input =>
    "URIT-020: Invalid parameter '".toList ++ input ++ "' (expected name=value)".toList
  | json _ detail => "URIT-021: JSON parse error: ".toList ++ detail
  | yaml detail => "URIT-022: YAML parse error: ".toList ++ detail
  | io reason => "IO error: ".toList ++ reason

/-- What another program said about the cause. -/
def detail? : Error → Option Text
  | json _ detail | yaml detail | io detail => some detail
  | malformed .. | arity .. | unknownOperator _ | typeMismatch .. | assignment _ => none

/-- What the user can do about an error. -/
def fix : Error → Text
  | malformed .. =>
    "Use \x7bname\x7d or \x7b-operator|arg|var1,var2\x7d with exactly two '|' separators".toList
  | arity .. =>
    "-prefix, -suffix and -list accept a single variable; split into several expressions".toList
  | unknownOperator _ => "Supported operators: opt, neg, prefix, suffix, join, list".toList
  | typeMismatch .. =>
    "Pass a list only to -list (and -opt/-neg); use a plain string elsewhere".toList
  | assignment _ => "Write parameters as name=value".toList
  | json .. =>
    ("Params must be a flat JSON object of strings, numbers, booleans " ++
      "or arrays of those").toList
  | yaml _ => "Check YAML syntax: indentation and quoting".toList
  | io _ => "Check file path and permissions".toList

end Error

end LinkTemplate
