import LinkTemplate.Template
/-!
# Values are encoded once

Which look-up fails, which finds nothing and which name is present is decided on
the values themselves, and what is found is encoded when it is written.  So it makes
no difference whether values are encoded on the way or were encoded beforehand:
encoding by `inner` and then by `outer` is encoding the parameters by `inner` and
expanding with `outer` (`expandText_comp`).  With an `outer` encoder that changes
nothing, this says that every value is encoded exactly once, and that separators,
arguments and names are not encoded at all.
-/

namespace LinkTemplate

namespace Params

variable (params : Params) (encode : Encoder)

/-- The parameters with every scalar and every item of a list encoded. -/
def encoded : Params := params.mapValues (Value.map encode)

/-- A single value is found encoded, where one was found before. -/
theorem single_encoded (name : Text) :
    (params.encoded encode).single name = (params.single name).map (Option.map encode) := by
  unfold single encoded
  rw [TextMap.get?_mapValues]
  rcases params.get? name with _ | text | items <;> rfl

/-- The items of a list are found encoded, where a list was found before. -/
theorem items_encoded (name : Text) :
    (params.encoded encode).items name =
      (params.items name).map (Option.map (List.map encode)) := by
  unfold items encoded
  rw [TextMap.get?_mapValues]
  rcases params.get? name with _ | text | items <;> rfl

/-- Encoding makes no name present or absent: an empty text is present, whatever it is encoded to,
and a list keeps the number of its items. -/
theorem isPresent_encoded (name : Text) :
    (params.encoded encode).isPresent name = params.isPresent name := by
  unfold isPresent encoded
  rw [TextMap.get?_mapValues]
  rcases params.get? name with _ | text | _ | ⟨item, items⟩ <;> rfl

theorem anyPresent_encoded (names : List Text) :
    (params.encoded encode).anyPresent names = params.anyPresent names := by
  unfold anyPresent
  rw [funext (isPresent_encoded params encode)]

end Params

/-- What was found may be changed before it is written or while it is written. -/
theorem Emission.ofLookup_map {α β : Type} (f : α → β) (found : Except Error (Option α))
    (form : β → Text) (otherwise : Text) :
    ofLookup (found.map (Option.map f)) form otherwise =
      ofLookup found (fun x => form (f x)) otherwise := by
  rcases found with fault | _ | x <;> rfl

namespace Expression

variable (params : Params) (outer inner : Encoder) (separator : Text)

/-- The pairs of a full expansion, encoded on the way or beforehand. -/
theorem joinFull_comp (filled : Bool) (names : List Text) :
    joinFull params (outer ∘ inner) separator filled names =
      joinFull (params.encoded inner) outer separator filled names := by
  induction names generalizing filled with
  | nil => rfl
  | cons name names ih =>
    unfold joinFull
    rw [Params.single_encoded]
    rcases params.single name with fault | _ | value
    · rfl
    · exact ih filled
    · have hrest := ih true
      simp only [hrest]
      rfl

/-- The pairs of a staged expansion and what stands for the missing names, the values encoded on the
way or beforehand. -/
theorem joinStaged_comp (filled : Bool) (run names : List Text) :
    joinStaged params (outer ∘ inner) separator filled run names =
      joinStaged (params.encoded inner) outer separator filled run names := by
  induction names generalizing filled run with
  | nil => rfl
  | cons name names ih =>
    unfold joinStaged
    rw [Params.single_encoded]
    rcases params.single name with fault | _ | value
    · rfl
    · exact ih filled (run ++ [name])
    · have hrest := ih true []
      simp only [hrest]
      rfl

/-- An expression, its values encoded on the way or beforehand. -/
theorem expand_comp (e : Expression) (mode : Mode) :
    e.expand params (outer ∘ inner) mode = e.expand (params.encoded inner) outer mode := by
  cases e with
  | bare name => rw [expand, expand, Params.single_encoded, Emission.ofLookup_map]; rfl
  | prepend arg name => rw [expand, expand, Params.single_encoded, Emission.ofLookup_map]; rfl
  | append arg name => rw [expand, expand, Params.single_encoded, Emission.ofLookup_map]; rfl
  | list arg name =>
    rw [expand, expand, Params.items_encoded, Emission.ofLookup_map]
    simp only [List.map_map]
  | opt arg names => rw [expand, expand, Params.anyPresent_encoded]
  | neg arg names =>
    cases mode with
    | full => rw [expand, expand, Params.anyPresent_encoded]
    | staged => rw [expand, expand, Params.anyPresent_encoded]
  | join separator names =>
    cases mode with
    | full => exact joinFull_comp params outer inner separator false names
    | staged => exact joinStaged_comp params outer inner separator false [] names

end Expression

/-- A text, its values encoded on the way or beforehand. -/
theorem expandText_comp (t : Text) (params : Params) (outer inner : Encoder) (mode : Mode) :
    expandText t params (outer ∘ inner) mode = expandText t (params.encoded inner) outer mode := by
  have hsegment : Segment.expand params (outer ∘ inner) mode =
      Segment.expand (params.encoded inner) outer mode := by
    funext s
    cases s with
    | literal t => rfl
    | expression e => exact Expression.expand_comp params outer inner e mode
  unfold expandText Template.expand
  rw [hsegment]

/-- **Every value is encoded exactly once, and nothing else is encoded.**  Expanding a text with an
encoder gives the same text or the same error as encoding every scalar and every item of the
parameters and substituting them unchanged. -/
theorem expandText_eq_verbatim_encoded (t : Text) (params : Params) (encode : Encoder)
    (mode : Mode) :
    expandText t params encode mode = expandText t (params.encoded encode) .verbatim mode :=
  expandText_comp t params .verbatim encode mode

end LinkTemplate
