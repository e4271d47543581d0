import LinkTemplate.Error
import LinkTemplate.Json.Read
import LinkTemplate.Params
import LinkTemplate.Yaml.Document
import LinkTemplate.Yaml.Meaning
/-!
# Parameters as documents

A mapping of parameters is written as a flat JSON object whose values are strings and
arrays of strings, its members sorted by name.

A JSON document is read more liberally: besides strings, numbers and booleans are
taken as their text.  A value of any other type is a fault at the place where the
value ends, before the rest of the document is looked at.

A YAML document describes parameters if it is a mapping from scalars to scalars and to
sequences of scalars.  A name is the text of its scalar, whatever that would mean
as a value; a value is the text of a boolean, a number or a text.  A document without
content describes no parameters.

In both formats a later entry replaces an earlier one with its name.
-/

namespace LinkTemplate

/-! ### JSON -/

namespace Value

/-- The text of a string, number or boolean. -/
def textOfJson? : Json → Option Text
  | .string s => some s
  | .number n => some n.toText
  | .bool b => some (if b then "true".toList else "false".toList)
  | .null | .array _ | .object _ => none

/-- The value that a JSON value describes. -/
def ofJson? : Json → Option Value
  | .array items => (items.mapM textOfJson?).map list
  | json => (textOfJson? json).map scalar

/-- A value as JSON. -/
def toJson : Value → Json
  | scalar text => .string text
  | list items => .array (items.map .string)

end Value

namespace Params

/-- Reads a value that can be bound to a name. -/
def readJsonValue (t : Text) : Json.Reading Value :=
  match Json.readValue (Json.maxDepth - 1) t with
  | .error fault => .error fault
  | .ok (json, rest) =>
    match Value.ofJson? json with
    | some value => .ok (value, rest)
    | none => .error .wrongType

/-- Reads the members of a document that is an object. -/
def readJson (t : Text) : Except JsonFault (List (Text × Value)) :=
  match Json.skipBlank t with
  | '{' :: rest =>
    match Json.readEnclosed '}' (Json.readMember readJsonValue) rest with
    | .error fault => .error fault
    | .ok (members, rest) => Json.expectEnd members rest
  | '[' :: _ => .error .wrongType
  | t =>
    match Json.readValue 0 t with
    | .error fault => .error fault
    | .ok _ => .error .wrongType

/-- The parameters that a JSON document describes.  `say` words what is wrong with one that
describes none. -/
def ofJsonText (say : Text → Text) (t : Text) : Except Error Params :=
  match readJson t with
  | .error fault => .error (.json fault (say t))
  | .ok members => .ok (TextMap.ofList members)

/-- Parameters as JSON. -/
def toJson (params : Params) : Json :=
  .object (params.entries.map fun (name, value) => (name, value.toJson))

/-- Parameters as a JSON document without blanks. -/
def toJsonText (params : Params) : Text := params.toJson.render

end Params

/-! ### YAML -/

namespace Yaml.Document

/-- The text of a scalar, whatever it means. -/
def scalarText? (document : Document) (node : Node) : Option Text :=
  match document.resolve node with
  | .scalar _ _ text => some text
  | _ => none

/-- The text of a scalar that is a value. -/
def valueText? (document : Document) (node : Node) : Option Text :=
  match document.resolve node with
  | .scalar properties plain text =>
    (Meaning.ofScalar? properties.tag? plain text).bind Meaning.toText?
  | _ => none

/-- The value that a node describes. -/
def value? (document : Document) (node : Node) : Option Value :=
  match document.resolve node with
  | .sequence properties items =>
    if properties.tag?.any fun tag => tag.head? = some '!' then none
    else (items.mapM document.valueText?).map .list
  | node => (document.valueText? node).map .scalar

/-- The entries of a mapping; a plain scalar without text is a mapping without entries. -/
def entries? (document : Document) (node : Node) : Option (List (Node × Node)) :=
  match document.resolve node with
  | .mapping _ entries => some entries
  | .scalar _ true [] => some []
  | _ => none

/-- The items of a sequence; a plain scalar without text is a sequence without items. -/
def items? (document : Document) (node : Node) : Option (List Node) :=
  match document.resolve node with
  | .sequence _ items => some items
  | .scalar _ true [] => some []
  | _ => none

end Yaml.Document

namespace Params

/-- The bindings that a document describes. -/
def yamlBindings? (document : Yaml.Document) : Option (List (Text × Value)) := do
  let entries ← document.entries? (document.root?.getD Yaml.Node.absent)
  entries.mapM fun (key, value) => do
    return (← document.scalarText? key, ← document.value? value)

/-- The parameters that a YAML document describes.  `say` words what is wrong with one that
describes none. -/
def ofYamlText (say : Text → Text) (t : Text) : Except Error Params :=
  match (Yaml.Document.ofText? t).bind yamlBindings? with
  | some bindings => .ok (TextMap.ofList bindings)
  | none => .error (.yaml (say t))

end Params

end LinkTemplate
