import LinkTemplate.Encoder
import LinkTemplate.Expression
import LinkTemplate.Params
/-!
# Expanding an expression

Evaluation appends text until it is done or meets a variable of the wrong kind.
An `Emission` is what was appended together with the error that stopped it, if
any; the text that preceded it plays no part.

In a full expansion an expression that cannot be resolved yields nothing.  In a
staged expansion it is written back, narrowed to the variables that are still
missing, so that a later stage can resolve it.
-/

namespace LinkTemplate

/-- Whether unresolved expressions are dropped or written back. -/
inductive Mode where
  | full
  | staged
deriving DecidableEq, Repr

/-- What was written, and the error that stopped the writing. -/
structure Emission where
  written : Text
  error? : Option Error
deriving DecidableEq, Repr

namespace Emission

/-- Writes a text. -/
def write (t : Text) : Emission := ⟨t, none⟩

/-- Stops without writing. -/
def fail (e : Error) : Emission := ⟨[], some e⟩

/-- One emission after another; the second takes place only if the first was not stopped. -/
def andThen (a b : Emission) : Emission :=
  match a.error? with
  | some e => ⟨a.written, some e⟩
  | none => ⟨a.written ++ b.written, b.error?⟩

/-- Emissions one after another. -/
def sequence (emissions : List Emission) : Emission := emissions.foldr andThen (write [])

/-- The emission as it appears after `out`. -/
def onto (out : Text) (a : Emission) : Emission := ⟨out ++ a.written, a.error?⟩

/-- The text of an emission that was not stopped, otherwise the error. -/
def result (a : Emission) : Except Error Text :=
  match a.error? with
  | some e => .error e
  | none => .ok a.written

/-- Writes what a look-up found; `otherwise` is written if it found nothing. -/
def ofLookup {α : Type} (found : Except Error (Option α)) (form : α → Text) (otherwise : Text) :
    Emission :=
  match found with
  | .error e => fail e
  | .ok none => write otherwise
  | .ok (some x) => write (form x)

@[simp] theorem write_andThen (t : Text) (b : Emission) :
    (write t).andThen b = b.onto t := rfl

@[simp] theorem fail_andThen (e : Error) (b : Emission) : (fail e).andThen b = fail e := rfl

@[simp] theorem andThen_write_nil (a : Emission) : a.andThen (write []) = a := by
  obtain ⟨t, _ | e⟩ := a <;> simp [andThen, write]

theorem andThen_assoc (a b c : Emission) : (a.andThen b).andThen c = a.andThen (b.andThen c) := by
  obtain ⟨t, _ | e⟩ := a <;> obtain ⟨u, _ | f⟩ := b <;> simp [andThen]

@[simp] theorem sequence_nil : sequence [] = write [] := rfl

@[simp] theorem sequence_cons (a : Emission) (rest : List Emission) :
    sequence (a :: rest) = a.andThen (sequence rest) := rfl

theorem sequence_append (as bs : List Emission) :
    sequence (as ++ bs) = (sequence as).andThen (sequence bs) := by
  induction as with
  | nil => simp [onto]
  | cons a as ih => simp [ih, andThen_assoc]

end Emission

namespace Params

/-- The text bound to a name, for an expression that wants a single value. -/
def single (params : Params) (name : Text) : Except Error (Option Text) :=
  match params.get? name with
  | none => .ok none
  | some (.scalar text) => .ok (some text)
  | some (.list _) => .error (.typeMismatch name .single)

/-- The items bound to a name, for an expression that wants a list.  An empty list is found, and has
no items. -/
def items (params : Params) (name : Text) : Except Error (Option (List Text)) :=
  match params.get? name with
  | none => .ok none
  | some (.list items) => .ok (some items)
  | some (.scalar _) => .error (.typeMismatch name .list)

/-- Some name of the list is present. -/
def anyPresent (params : Params) (names : List Text) : Bool := names.any params.isPresent

end Params

namespace Expression

/-- What an unresolved expression leaves behind. -/
def unresolved (e : Expression) : Mode → Text
  | .full => []
  | .staged => e.render

/-- A name with its encoded value. -/
def pair (encode : Encoder) (name value : Text) : Text := name ++ '=' :: encode value

/-- The separator that goes in front of a pair when pairs precede it. -/
def separatorIf (filled : Bool) (separator : Text) : Text := if filled then separator else []

/-- The pairs of the bound names; `filled` says that pairs precede them. -/
def joinFull (params : Params) (encode : Encoder) (separator : Text) :
    Bool → List Text → Emission
  | _, [] => .write []
  | filled, name :: names =>
    match params.single name with
    | .error e => .fail e
    | .ok none => joinFull params encode separator filled names
    | .ok (some value) =>
      (Emission.write (separatorIf filled separator ++ pair encode name value)).andThen
        (joinFull params encode separator true names)

/-- The expressions that stand for a run of missing variables.  Whatever of the run turns up later,
they supply the separator towards the pair before it (`filled`) or, failing that, towards the pair
after it (`followed`). -/
def residue (separator : Text) (run : List Text) (filled followed : Bool) : List Expression :=
  match run, filled, followed with
  | [], _, _ => []
  | [only], true, _ => [prepend (separator ++ only ++ ['=']) only]
  | run, true, _ => [opt separator run, join separator run]
  | run, false, true => [join separator run, opt separator run]
  | run, false, false => [join separator run]

/-- The written form of a run of missing variables. -/
def deferred (separator : Text) (run : List Text) (filled followed : Bool) : Text :=
  (residue separator run filled followed).flatMap render

/-- The pairs of the bound names, and what stands for each run of missing ones.  `run` holds the
missing names since the last pair; an error drops them. -/
def joinStaged (params : Params) (encode : Encoder) (separator : Text) :
    Bool → List Text → List Text → Emission
  | filled, run, [] => .write (deferred separator run filled false)
  | filled, run, name :: names =>
    match params.single name with
    | .error e => .fail e
    | .ok none => joinStaged params encode separator filled (run ++ [name]) names
    | .ok (some value) =>
      (Emission.write (deferred separator run filled true ++ separatorIf filled separator ++
          pair encode name value)).andThen
        (joinStaged params encode separator true [] names)

/-- Evaluates an expression. -/
def expand (e : Expression) (params : Params) (encode : Encoder) (mode : Mode) : Emission :=
  match e with
  | bare name => .ofLookup (params.single name) encode (e.unresolved mode)
  | opt arg names => .write (if params.anyPresent names then arg else e.unresolved mode)
  | neg arg names =>
    .write (if params.anyPresent names then []
      else match mode with
        | .full => arg
        | .staged => e.render)
  | prepend arg name =>
    .ofLookup (params.single name) (fun value => arg ++ encode value) (e.unresolved mode)
  | append arg name =>
    .ofLookup (params.single name) (fun value => encode value ++ arg) (e.unresolved mode)
  | list arg name =>
    .ofLookup (params.items name) (fun items => Text.joinWith arg (items.map encode))
      (e.unresolved mode)
  | join separator names =>
    match mode with
    | .full => joinFull params encode separator false names
    | .staged => joinStaged params encode separator false [] names

end Expression

end LinkTemplate
