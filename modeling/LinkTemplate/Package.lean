import LinkTemplate.Params.Document
import LinkTemplate.Session
/-!
# Search packages

A package is a named set of search resources, each with a template.  Rendering it
for a query expands every template with the query bound to one name, the same
for all resources.  The first template that fails fails the whole query; what was
read before it stays remembered in the session.

A link that is no absolute URL is kept, and marked, and this is logged.  Which texts are
absolute URLs is a question for another library, whose answers are a parameter here.

A package is described in YAML by a mapping with the fields `name`, `description`,
`query_param` and `resources`, a resource by one with `name`, `description` and
`template`.  Fields of other names are passed over, whatever they hold; a field
of these names must not be given twice.  A text field takes the text of any scalar.  A
description that is null, which only a plain scalar can be, is no description.
-/

namespace LinkTemplate

/-- A searchable resource. -/
structure Resource where
  name : Text
  description? : Option Text
  template : Text
deriving DecidableEq, Repr

/-- A set of resources. -/
structure Package where
  name : Text
  description? : Option Text
  /-- The name to which a query is bound. -/
  queryName : Text
  resources : List Resource
deriving DecidableEq, Repr

/-- A resource with its template expanded for a query. -/
structure Link where
  name : Text
  description? : Option Text
  uri : Text
  isAbsolute : Bool
deriving DecidableEq, Repr

/-- What is logged.  Expansions are of interest to those who look for faults only, and are
logged if this is asked for. -/
inductive LogEvent where
  /-- A template is expanded. -/
  | expansion (template : Text)
  /-- A link is no absolute URL. -/
  | relative (link : Link)
deriving DecidableEq, Repr

namespace Package

/-- The name to which a query is bound if the package gives none. -/
def defaultQueryName : Text := "searchTerms".toList

/-- The only binding of a query. -/
def queryParams (package : Package) (query : Text) : Params :=
  TextMap.empty.insert package.queryName (.scalar query)

section Links

variable (isAbsolute : Text → Bool)

/-- The link of a resource. -/
def link (resource : Resource) (uri : Text) : Link :=
  ⟨resource.name, resource.description?, uri, isAbsolute uri⟩

/-- What comes of resources, one after another, up to the first that fails and with it. -/
def attempts (session : Session) (params : Params) :
    List Resource → Session × List (Except Error Link)
  | [] => (session, [])
  | resource :: resources =>
    match session.expand resource.template params .full with
    | (session, .error e) => (session, [.error e])
    | (session, .ok uri) =>
      let (session, found) := attempts session params resources
      (session, .ok (link isAbsolute resource uri) :: found)

/-- The links of resources, unless one of them fails. -/
def linksOf (session : Session) (params : Params) (resources : List Resource) :
    Session × Except Error (List Link) :=
  let (session, found) := attempts isAbsolute session params resources
  (session, found.mapM id)

/-- The links of a package for a query. -/
def links (package : Package) (session : Session) (query : Text) :
    Session × Except Error (List Link) :=
  linksOf isAbsolute session (package.queryParams query) package.resources

/-- What is logged about a resource. -/
def eventsOf (resource : Resource) : Except Error Link → List LogEvent
  | .error _ => [.expansion resource.template]
  | .ok link => .expansion resource.template :: if link.isAbsolute then [] else [.relative link]

/-- What is logged while the links of a package are sought for a query. -/
def events (package : Package) (session : Session) (query : Text) : List LogEvent :=
  let found := (attempts isAbsolute session (package.queryParams query) package.resources).2
  (package.resources.zip found).flatMap fun (resource, result) => eventsOf resource result

end Links

end Package

/-! ### Packages as YAML -/

namespace Yaml.Document

/-- The fields of a record: the text of each key with its value. -/
def fields? (document : Document) (node : Node) : Option (List (Text × Node)) := do
  let entries ← document.entries? node
  entries.mapM fun (key, value) => return (← document.scalarText? key, value)

/-- The value of a field; none within if there is no such field, and a fault if there are
several. -/
def field? (fields : List (Text × Node)) (name : Text) : Option (Option Node) :=
  match fields.filter fun entry => entry.1 = name with
  | [] => some none
  | [(_, value)] => some (some value)
  | _ => none

/-- The text of a field that must be there. -/
def requiredText? (document : Document) (fields : List (Text × Node)) (name : Text) :
    Option Text := do
  document.scalarText? (← (← field? fields name))

/-- The text of a value that may be null. -/
def nullableText? (document : Document) (node : Node) : Option (Option Text) :=
  match document.resolve node with
  | .scalar properties true text =>
    match properties.tag? with
    | none => some (if text.isEmpty || Meaning.isNull text then none else some text)
    | some tag =>
      if tag = Tag.core ++ "null".toList then
        if Meaning.isNull text then some none else none
      else some (some text)
  | node => (document.scalarText? node).map some

/-- The text of a field that may be missing or null. -/
def optionalText? (document : Document) (fields : List (Text × Node)) (name : Text) :
    Option (Option Text) := do
  match ← field? fields name with
  | none => return none
  | some node => document.nullableText? node

end Yaml.Document

namespace Package

open Yaml (Document Node)

/-- The resource that a node describes. -/
def resourceOfYaml? (document : Document) (node : Node) : Option Resource := do
  let fields ← document.fields? node
  return {
    name := ← document.requiredText? fields "name".toList
    description? := ← document.optionalText? fields "description".toList
    template := ← document.requiredText? fields "template".toList }

/-- The package that a document describes. -/
def ofDocument? (document : Document) : Option Package := do
  let fields ← document.fields? (document.root?.getD Node.absent)
  let queryName ←
    match ← Document.field? fields "query_param".toList with
    | none => some defaultQueryName
    | some node => document.scalarText? node
  let resources ←
    match ← Document.field? fields "resources".toList with
    | none => some []
    | some node => (document.items? node).bind (·.mapM (resourceOfYaml? document))
  return {
    name := ← document.requiredText? fields "name".toList
    description? := ← document.optionalText? fields "description".toList
    queryName
    resources }

/-- The package that a YAML text describes.  `say` words what is wrong with one that describes
none. -/
def ofYamlText (say : Text → Text) (t : Text) : Except Error Package :=
  match (Document.ofText? t).bind ofDocument? with
  | some package => .ok package
  | none => .error (.yaml (say t))

end Package

end LinkTemplate
