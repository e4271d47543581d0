import LinkTemplate.TextMap
/-!
# Parameters

A variable is bound to one text or to an ordered list of texts.  `Params` is the
finite map from names to such values that an expansion reads.  An empty list is
bound but not present; an empty text is both.
-/

namespace LinkTemplate

/-- The value bound to a variable. -/
inductive Value where
  | scalar (text : Text)
  | list (items : List Text)
deriving DecidableEq, Repr

namespace Value

/-- A scalar is present, even the empty one; a list is present if it has items. -/
def isPresent : Value → Bool
  | scalar _ => true
  | list items => !items.isEmpty

/-- The text of a scalar. -/
def scalar? : Value → Option Text
  | scalar text => some text
  | list _ => none

/-- The items of a list. -/
def list? : Value → Option (List Text)
  | scalar _ => none
  | list items => some items

/-- The value with every text in it replaced by its image. -/
def map (f : Text → Text) : Value → Value
  | scalar text => scalar (f text)
  | list items => list (items.map f)

end Value

/-- The variables that are bound, each with its value. -/
abbrev Params := TextMap Value

namespace Params

/-- The name is bound to a scalar or to a list with items. -/
def isPresent (params : Params) (name : Text) : Bool := (params.get? name).any Value.isPresent

theorem isPresent_eq_true_iff {params : Params} {name : Text} :
    params.isPresent name = true ↔ ∃ v, params.get? name = some v ∧ v.isPresent = true := by
  simp [isPresent, Option.any_eq_true]

/-- The bindings of the listed names and the bindings of all other names. -/
def split (params : Params) (names : List Text) : Params × Params :=
  (params.restrict fun name => names.contains name,
    params.restrict fun name => !names.contains name)

@[simp] theorem get?_split_fst (params : Params) (names : List Text) (name : Text) :
    (params.split names).1.get? name = if names.contains name then params.get? name else none := by
  simp [split]

@[simp] theorem get?_split_snd (params : Params) (names : List Text) (name : Text) :
    (params.split names).2.get? name = if names.contains name then none else params.get? name := by
  by_cases h : name ∈ names <;> simp [split, h]

end Params

end LinkTemplate
