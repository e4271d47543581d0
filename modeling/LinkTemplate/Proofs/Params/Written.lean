import LinkTemplate.Proofs.Json.Writing
import LinkTemplate.Proofs.Params.Document
import LinkTemplate.Proofs.Yaml.Flow
/-!
# Parameters survive their written form

Parameters are written as strings and arrays of strings, and read by readers that
take numbers and booleans as well.  A string in quotes is never taken for either of
them, whatever it holds, and brackets without items stay a list.  So what is written is a
text of an object whose members describe the values (`Params.spellsDocument_toJsonText`),
in the order of their names.

The same document is a YAML document, a flow mapping from quoted scalars to quoted scalars and
flow sequences of them.  The reader of YAML documents restores the parameters as well, if
the characters are those that both formats read alike and no name is longer than a key
may be (`Params.ofYamlText_toJsonText`).
-/

namespace LinkTemplate

/-! ### Read as JSON -/

namespace Value

/-- A value is what its JSON form describes. -/
theorem describes_toJson (v : Value) : v.toJson.Describes v := by
  cases v with
  | scalar text => exact .scalar (.string text)
  | list items =>
    refine .list ?_
    rw [List.forall₂_map_left_iff, List.forall₂_same]
    intro item _
    exact .string item

/-- The JSON form of a value holds strings, in at most one pair of brackets. -/
theorem restorable_toJson (v : Value) (depth : Nat) : Json.Restorable (depth + 1) v.toJson := by
  cases v with
  | scalar text => exact .string text
  | list items =>
    refine .array fun j hj => ?_
    obtain ⟨item, -, rfl⟩ := List.mem_map.1 hj
    exact .string item

end Value

namespace Params

/-- What parameters are written as is a text of their JSON form. -/
theorem spellsDocument_toJsonText (params : Params) :
    Json.SpellsDocument Json.Literal.Denotes params.toJson params.toJsonText := by
  have hrestorable : Json.Restorable Json.maxDepth params.toJson := by
    refine .object fun m hm => ?_
    obtain ⟨entry, -, rfl⟩ := List.mem_map.1 hm
    exact entry.2.restorable_toJson 125
  exact ⟨[], params.toJsonText, [], Json.allBlank_nil, Json.spells_render _ hrestorable,
    Json.allBlank_nil, by simp⟩

/-- The members of the document are the entries of the parameters. -/
theorem readJson_toJsonText (params : Params) :
    readJson params.toJsonText = .ok params.entries := by
  rw [readJson_of_spells_object params.spellsDocument_toJsonText, mapM_eq_ok_iff,
    List.forall₂_map_left_iff, List.forall₂_same]
  intro entry _
  exact readingOfMember_eq_ok_iff.2 ⟨rfl, entry.2.describes_toJson⟩

/-- Parameters are read back from the document that they are written as. -/
theorem ofJsonText_toJsonText (say : Text → Text) (params : Params) :
    ofJsonText say params.toJsonText = .ok params := by
  rw [ofJsonText, readJson_toJsonText]
  exact congrArg Except.ok params.ofList_entries

/-- **Parameters survive their JSON form.**  Whatever the names, scalars and items are, the document
that parameters are written as is read as these parameters.  So two parameters are written alike
only if they are equal. -/
theorem json_round_trip :
    (∀ (say : Text → Text) (params : Params), ofJsonText say params.toJsonText = .ok params) ∧
      ∀ params params' : Params, params.toJsonText = params'.toJsonText ↔ params = params' := by
  refine ⟨ofJsonText_toJsonText, fun params params' => ⟨fun h => ?_, fun h => h ▸ rfl⟩⟩
  have hread := ofJsonText_toJsonText id params
  rw [h, ofJsonText_toJsonText] at hread
  exact (Except.ok.inj hread).symm

end Params

/-! ### Read as YAML -/

open Yaml.Lexer (Context Takes)
open Yaml.Parse (Reads)

theorem mapM_map_eq_some {α β : Type} {f : β → Option α} {g : α → β} (h : ∀ x, f (g x) = some x)
    (xs : List α) : (xs.map g).mapM f = some xs := by
  induction xs with
  | nil => rfl
  | cons x xs ih =>
    rw [List.map_cons, List.mapM_cons, h, ih]
    rfl

namespace Value

/-- All texts in the value hold portable characters only. -/
def isPortable : Value → Bool
  | scalar text => text.all Yaml.isPortable
  | list items => items.all fun item => item.all Yaml.isPortable

/-- The tokens of the value's written form. -/
def yamlTokens : Value → List Yaml.Token
  | scalar text => [.scalar false text]
  | list items =>
    [.flowSequenceStart] ++ Yaml.Token.separated (items.map fun item => [.scalar false item]) ++
      [.flowSequenceEnd]

/-- The node of the value's written form. -/
def yamlNode : Value → Yaml.Node
  | scalar text => .quoted text
  | list items => .sequence ⟨none, none⟩ (items.map .quoted)

theorem takes_render_toJson {v : Value} (h : v.isPortable = true) (ctx : Context) :
    Takes ctx v.toJson.render v.yamlTokens ⟨false, ctx.depth⟩ := by
  cases v with
  | scalar text => exact .quote (List.all_eq_true.1 h) ctx
  | list items =>
    rw [toJson, Json.render, Json.renderItems_eq_map, List.map_map]
    refine .brackets ctx fun item hitem => ?_
    exact .quote (List.all_eq_true.1 (List.all_eq_true.1 h item hitem)) _

theorem reads_yamlTokens (v : Value) : Reads v.yamlTokens v.yamlNode := by
  cases v with
  | scalar text => exact .quoted text
  | list items => exact .brackets fun item _ => .quoted item

/-- Quoted scalars mean their texts. -/
theorem value?_yamlNode (v : Value) (document : Yaml.Document) :
    document.value? v.yamlNode = some v := by
  have htext : ∀ t, document.valueText? (.quoted t) = some t := fun _ => rfl
  cases v with
  | scalar text => rfl
  | list items =>
    exact congrArg (Option.map list) (mapM_map_eq_some htext items)

end Value

namespace Params

/-- The names are short enough for keys, and names and values hold portable characters only. -/
def isPortable (params : Params) : Bool :=
  params.entries.all fun (name, value) =>
    name.all Yaml.isPortable && decide ((Json.quote name).length ≤ 1024) && value.isPortable

/-- The tokens of the written form of parameters. -/
def yamlTokens (params : Params) : List Yaml.Token :=
  [.flowMappingStart] ++
    Yaml.Token.separated (params.entries.map fun e => Yaml.Token.entry e.1 e.2.yamlTokens) ++
      [.flowMappingEnd]

/-- The node of the written form of parameters. -/
def yamlNode (params : Params) : Yaml.Node :=
  .mapping ⟨none, none⟩ (params.entries.map fun e => (.quoted e.1, e.2.yamlNode))

theorem takes_toJsonText {params : Params} (h : params.isPortable = true) (ctx : Context) :
    Takes ctx params.toJsonText params.yamlTokens ⟨false, ctx.depth⟩ := by
  rw [toJsonText, toJson, Json.render, Json.renderMembers_eq_map, List.map_map]
  refine .braces ctx fun entry hentry => ?_
  have hportable := List.all_eq_true.1 h entry hentry
  simp only [Bool.and_eq_true, decide_eq_true_eq] at hportable
  obtain ⟨⟨hname, hlength⟩, hvalue⟩ := hportable
  have htakes := (Takes.name (List.all_eq_true.1 hname) hlength ctx.depth).append
    (entry.2.takes_render_toJson hvalue ⟨false, ctx.depth + 1⟩)
  rwa [List.append_assoc] at htakes

theorem reads_yamlTokens (params : Params) : Reads params.yamlTokens params.yamlNode :=
  Reads.braces Prod.fst fun e _ => e.2.reads_yamlTokens

/-- The entries of the document are those of the parameters. -/
theorem yamlBindings?_yamlNode (params : Params) (anchors : List (Nat × Yaml.Node)) :
    yamlBindings? ⟨some params.yamlNode, anchors⟩ = some params.entries := by
  refine mapM_map_eq_some (fun e => ?_) params.entries
  have hvalue := e.2.value?_yamlNode ⟨some params.yamlNode, anchors⟩
  exact congrArg (fun value? => value?.bind fun value => some (e.1, value)) hvalue

/-- **Parameters survive their written form as a YAML document** if they are portable. -/
theorem ofYamlText_toJsonText (say : Text → Text) {params : Params} (h : params.isPortable = true) :
    ofYamlText say params.toJsonText = .ok params := by
  rw [ofYamlText, Yaml.Document.ofText?_of_takes (params.takes_toJsonText h ⟨true, 0⟩)
    params.reads_yamlTokens, Option.bind_some, yamlBindings?_yamlNode]
  exact congrArg Except.ok params.ofList_entries

/-- A character that ends a line in YAML only is not read back. -/
example : ofYamlText id (toJsonText (.ofList [(['a'], .scalar ['\u0085'])])) =
    .ok (.ofList [(['a'], .scalar [' '])]) := by decide +kernel

end Params

end LinkTemplate
