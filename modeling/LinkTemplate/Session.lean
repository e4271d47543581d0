import LinkTemplate.Template
/-!
# Sessions

A session expands templates with one encoder and remembers every template it has
read, so that a text is read once however often it is expanded.  The templates
it hands out carry a serial number: two results with one number are one shared
template.

Only texts that could be read are remembered.  Forgetting them does not reuse
their numbers.
-/

namespace LinkTemplate

/-- A template that a session has read, with the serial number of that reading. -/
structure Shared where
  serial : Nat
  template : Template
deriving DecidableEq, Repr

/-- An encoder and the templates read so far. -/
structure Session where
  encode : Encoder
  cache : TextMap Shared
  /-- The serial number of the next reading. -/
  next : Nat

namespace Session

/-- A session that has read nothing. -/
def start (encode : Encoder) : Session := ⟨encode, .empty, 0⟩

/-- The number of templates remembered. -/
def cacheSize (session : Session) : Nat := session.cache.size

/-- Forgets all templates. -/
def clear (session : Session) : Session := { session with cache := .empty }

/-- The session after it has read a template anew. -/
def remember (session : Session) (t : Text) (template : Template) : Session where
  encode := session.encode
  cache := session.cache.insert t ⟨session.next, template⟩
  next := session.next + 1

/-- Reads a template, or finds it among those read before. -/
def parse (session : Session) (t : Text) : Session × Except Error Shared :=
  match session.cache.get? t with
  | some shared => (session, .ok shared)
  | none =>
    match Template.parse t with
    | .error e => (session, .error e)
    | .ok template => (session.remember t template, .ok ⟨session.next, template⟩)

/-- Reads a template and expands it.  It is remembered even if the expansion fails. -/
def expand (session : Session) (t : Text) (params : Params) (mode : Mode) :
    Session × Except Error Text :=
  let (session, found) := session.parse t
  (session, found.bind fun shared => shared.template.expand params session.encode mode)

end Session

end LinkTemplate
