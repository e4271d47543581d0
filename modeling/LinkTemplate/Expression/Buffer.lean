import LinkTemplate.Expression.Expand
/-!
# Expanding into a buffer

An expansion is put at the end of a buffer, which already holds what precedes the
expression.  Texts are pushed piece by piece.  An error stops the expansion and does
not take back what was pushed before.

`Emission` describes the same by the text that is appended.
-/

namespace LinkTemplate

/-- A computation on a buffer.  It can be stopped by an error, which leaves the buffer as it is. -/
abbrev BufferM := ExceptT Error (StateM Text)

namespace BufferM

/-- Puts a text at the end of the buffer. -/
def push (t : Text) : BufferM Unit := modify fun buffer => buffer ++ t

/-- The result of a computation and the buffer that it leaves. -/
def runOn {α : Type} (buffer : Text) (x : BufferM α) : Except Error α × Text :=
  (x.run.run buffer).run

end BufferM

namespace Expression

open BufferM (push)

/-- Pushes an unresolved expression if it is to be kept. -/
def pushUnresolved (e : Expression) (mode : Mode) : BufferM Unit :=
  match mode with
  | .full => pure ()
  | .staged => push e.render

/-- Pushes the separator that goes between what was pushed before, if `filled`, and what comes. -/
def pushSeparator (filled : Bool) (separator : Text) : BufferM Unit :=
  if filled then push separator else pure ()

/-- Pushes a name with its encoded value. -/
def pushPair (encode : Encoder) (name value : Text) : BufferM Unit := do
  push name
  push ['=']
  push (encode value)

/-- Pushes items with a separator between them; `filled` says that an item was pushed before. -/
def pushItems (encode : Encoder) (separator : Text) : Bool → List Text → BufferM Unit
  | _, [] => pure ()
  | filled, item :: items => do
    pushSeparator filled separator
    push (encode item)
    pushItems encode separator true items

/-- Pushes the pairs of the bound names; `filled` says that a pair was pushed before. -/
def pushJoinFull (params : Params) (encode : Encoder) (separator : Text) :
    Bool → List Text → BufferM Unit
  | _, [] => pure ()
  | filled, name :: names => do
    match ← params.single name with
    | none => pushJoinFull params encode separator filled names
    | some value =>
      pushSeparator filled separator
      pushPair encode name value
      pushJoinFull params encode separator true names

/-- Pushes what stands for a run of missing variables, if there are any. -/
def pushDeferred (separator : Text) (run : List Text) (filled followed : Bool) : BufferM Unit :=
  if run.isEmpty then pure () else push (deferred separator run filled followed)

/-- Pushes the pairs of the bound names, and what stands for each run of missing ones.  `run` holds
the missing names since the last pair. -/
def pushJoinStaged (params : Params) (encode : Encoder) (separator : Text) :
    Bool → List Text → List Text → BufferM Unit
  | filled, run, [] => pushDeferred separator run filled false
  | filled, run, name :: names => do
    match ← params.single name with
    | none => pushJoinStaged params encode separator filled (run ++ [name]) names
    | some value =>
      pushDeferred separator run filled true
      pushSeparator filled separator
      pushPair encode name value
      pushJoinStaged params encode separator true [] names

/-- Evaluates an expression and puts its text at the end of the buffer. -/
def expandInto (e : Expression) (params : Params) (encode : Encoder) (mode : Mode) :
    BufferM Unit := do
  match e with
  | bare name =>
    match ← params.single name with
    | none => e.pushUnresolved mode
    | some value => push (encode value)
  | opt arg names =>
    if params.anyPresent names then push arg
    else e.pushUnresolved mode
  | neg arg names =>
    if params.anyPresent names then pure ()
    else
      match mode with
      | .full => push arg
      | .staged => push e.render
  | prepend arg name =>
    match ← params.single name with
    | none => e.pushUnresolved mode
    | some value =>
      push arg
      push (encode value)
  | append arg name =>
    match ← params.single name with
    | none => e.pushUnresolved mode
    | some value =>
      push (encode value)
      push arg
  | list arg name =>
    match ← params.items name with
    | none => e.pushUnresolved mode
    | some items => pushItems encode arg false items
  | join separator names =>
    match mode with
    | .full => pushJoinFull params encode separator false names
    | .staged => pushJoinStaged params encode separator false [] names

end Expression

end LinkTemplate
