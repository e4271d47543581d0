import LinkTemplate.Proofs.Expression.Residual
/-!
# The runs of a staged join

The names of a `-join` are divided into bound names and maximal runs of missing ones,
which can be done in one way only (`IsDivision.eq_divide`).  A staged expansion writes
one pair for each bound name and one group for each run, in the order of the names.
Which form a group takes depends on whether a pair precedes the run and whether one
follows it, and a separator stands directly in front of every pair but the first
(`JoinPart.pieces`).

The loop that writes this keeps the run it is in and whether a pair was written.  At
the border of two parts the run is empty, and the flag says whether a pair precedes;
so the text is shown part by part (`Expression.joinStaged_of_isDivision`).
-/

namespace LinkTemplate

/-! ### Dividing the names -/

/-- A part of the names of a `-join`: a name with the text it is bound to, or a run of missing
names. -/
inductive JoinPart where
  | bound (name value : Text)
  | missing (run : List Text)
deriving DecidableEq, Repr

namespace JoinPart

/-- The names of a part. -/
def names : JoinPart → List Text
  | bound name _ => [name]
  | missing run => run

/-- The part will be written as a pair. -/
def isBound : JoinPart → Bool
  | bound .. => true
  | missing _ => false

@[simp] theorem isBound_bound (name value : Text) : (bound name value).isBound = true := rfl

@[simp] theorem isBound_missing (run : List Text) : (missing run).isBound = false := rfl

end JoinPart

/-- The names are divided into these parts: a bound name is a part of its own, and missing names are
one part as long as they follow each other. -/
inductive IsDivision (params : Params) : List Text → List JoinPart → Prop
  | nil : IsDivision params [] []
  | bound {name value : Text} {names : List Text} {parts : List JoinPart} :
      params.get? name = some (.scalar value) → IsDivision params names parts →
      IsDivision params (name :: names) (.bound name value :: parts)
  | missing {run names : List Text} {parts : List JoinPart} :
      run ≠ [] → (∀ name ∈ run, params.get? name = none) →
      (∀ part ∈ parts.head?, part.isBound = true) → IsDivision params names parts →
      IsDivision params (run ++ names) (.missing run :: parts)

/-- The parts of names in front of which a missing name is put: it joins the run that they begin
with, or is a run of its own. -/
def JoinPart.addMissing (name : Text) : List JoinPart → List JoinPart
  | missing run :: parts => missing (name :: run) :: parts
  | parts => missing [name] :: parts

/-- Divides names into bound ones and runs of the others. -/
def Params.divide (params : Params) : List Text → List JoinPart
  | [] => []
  | name :: names =>
    match params.get? name with
    | some (.scalar value) => .bound name value :: params.divide names
    | _ => JoinPart.addMissing name (params.divide names)

namespace IsDivision

variable {params : Params} {names run : List Text} {parts : List JoinPart} {name : Text}

/-- A missing name in front of divided names begins a run or joins the run that they begin with. -/
theorem addMissing (hname : params.get? name = none) (h : IsDivision params names parts) :
    IsDivision params (name :: names) (JoinPart.addMissing name parts) := by
  have hsingle : ∀ n ∈ [name], params.get? n = none := List.forall_mem_singleton.2 hname
  cases h with
  | nil => exact .missing (List.cons_ne_nil name []) hsingle (by simp) .nil
  | bound hvalue hrest =>
    exact .missing (List.cons_ne_nil name []) hsingle (by simp) (.bound hvalue hrest)
  | @missing run _ _ _ hrun hnext hrest =>
    have hrun' : ∀ n ∈ name :: run, params.get? n = none := List.forall_mem_cons.2 ⟨hname, hrun⟩
    exact .missing (List.cons_ne_nil name run) hrun' hnext hrest

/-- Names that are bound to no list are divided. -/
theorem divide (h : ∀ name ∈ names, ∀ items, params.get? name ≠ some (.list items)) :
    IsDivision params names (params.divide names) := by
  induction names with
  | nil => exact .nil
  | cons name names ih =>
    obtain ⟨hname, hnames⟩ := List.forall_mem_cons.1 h
    unfold Params.divide
    rcases hvalue : params.get? name with _ | value | items
    · exact (ih hnames).addMissing hvalue
    · exact .bound hvalue (ih hnames)
    · exact absurd hvalue (hname items)

/-- A run of missing names that no other missing name follows is one part. -/
theorem divide_append_of_missing (hne : run ≠ []) (hrun : ∀ name ∈ run, params.get? name = none)
    (hnext : ∀ part ∈ (params.divide names).head?, part.isBound = true) :
    params.divide (run ++ names) = .missing run :: params.divide names := by
  induction run with
  | nil => exact absurd rfl hne
  | cons name run ih =>
    obtain ⟨hname, hrest⟩ := List.forall_mem_cons.1 hrun
    rw [List.cons_append, Params.divide, hname]
    cases run with
    | nil =>
      rw [List.nil_append]
      rcases hparts : params.divide names with _ | ⟨_ | _, parts⟩
      · rfl
      · rfl
      · exact absurd (hnext _ (by rw [hparts]; rfl)) (by simp)
    | cons next run =>
      simp only [ih (List.cons_ne_nil next run) hrest]
      rfl

/-- There is no other way to divide names. -/
theorem eq_divide (h : IsDivision params names parts) : parts = params.divide names := by
  induction h with
  | nil => rfl
  | bound hvalue _ ih => rw [Params.divide, hvalue, ih]
  | missing hne hrun hnext _ ih =>
    rw [ih] at hnext
    rw [divide_append_of_missing hne hrun hnext, ← ih]

/-- The parts hold the names in their order, each once for each time it occurs. -/
theorem flatMap_names (h : IsDivision params names parts) :
    parts.flatMap JoinPart.names = names := by
  induction h with
  | nil => rfl
  | bound _ _ ih =>
    rw [List.flatMap_cons, ih]
    rfl
  | missing _ _ _ _ ih =>
    rw [List.flatMap_cons, ih]
    rfl

end IsDivision

/-! ### What is written for a part -/

/-- A piece of what a staged `-join` writes. -/
inductive JoinPiece where
  | separator
  | pair (name value : Text)
  | group (e : Expression)
deriving DecidableEq, Repr

namespace JoinPiece

/-- The text of a piece. -/
def text (encode : Encoder) (separator : Text) : JoinPiece → Text
  | .separator => separator
  | pair name value => name ++ '=' :: encode value
  | group e => e.render

/-- The names that a reader finds in a piece: that of a pair, those that a `-join` lists, or that of
a `-prefix`.  A guard repeats the names of its group and is passed over. -/
def names : JoinPiece → List Text
  | pair name _ => [name]
  | group (.join _ names) => names
  | group (.prepend _ name) => [name]
  | .separator | group _ => []

end JoinPiece

namespace JoinPart

open Expression (join opt prepend)

/-- What is written for a part, given whether a pair precedes it and whether one follows it.  The
group of a run supplies the separators between its names and, by a guard or a prefix, the one
towards the pair before it or, failing that, towards the pair after it. -/
def pieces (separator : Text) (preceded followed : Bool) : JoinPart → List JoinPiece
  | bound name value => if preceded then [.separator, .pair name value] else [.pair name value]
  | missing run =>
    match preceded, followed, run with
    | false, false, run => [.group (join separator run)]
    | false, true, run => [.group (join separator run), .group (opt separator run)]
    | true, _, [only] => [.group (prepend (separator ++ only ++ ['=']) only)]
    | true, _, run => [.group (opt separator run), .group (join separator run)]

/-- What is written for parts that come after the parts `before`. -/
def piecesAfter (separator : Text) (before : List JoinPart) : List JoinPart → List JoinPiece
  | [] => []
  | part :: after =>
    part.pieces separator (before.any isBound) (after.any isBound) ++
      piecesAfter separator (before ++ [part]) after

variable {separator : Text} {encode : Encoder}

/-- A reader finds the names of a part in what is written for it. -/
theorem flatMap_names_pieces (part : JoinPart) (preceded followed : Bool) :
    (part.pieces separator preceded followed).flatMap JoinPiece.names = part.names := by
  cases part with
  | bound name value => cases preceded <;> rfl
  | missing run =>
    rcases run with _ | ⟨only, _ | ⟨next, run⟩⟩ <;> cases preceded <;> cases followed <;>
      simp [pieces, JoinPiece.names, names]

/-- A reader finds the names of the parts in their order. -/
theorem flatMap_names_piecesAfter (before parts : List JoinPart) :
    (piecesAfter separator before parts).flatMap JoinPiece.names = parts.flatMap names := by
  induction parts generalizing before with
  | nil => rfl
  | cons part after ih =>
    rw [piecesAfter, List.flatMap_append, flatMap_names_pieces, ih, List.flatMap_cons]

/-- The text of a group is that of the expressions that stand for the run. -/
theorem flatMap_text_pieces_missing {run : List Text} (hne : run ≠ []) (preceded followed : Bool) :
    ((missing run).pieces separator preceded followed).flatMap (JoinPiece.text encode separator) =
      Expression.deferred separator run preceded followed := by
  rcases run with _ | ⟨only, _ | ⟨next, run⟩⟩
  · exact absurd rfl hne
  · cases preceded <;> cases followed <;>
      simp [pieces, JoinPiece.text, Expression.deferred, Expression.residue]
  · cases preceded <;> cases followed <;>
      simp [pieces, JoinPiece.text, Expression.deferred, Expression.residue]

/-- The text of a pair has the separator in front of it if a pair precedes. -/
theorem flatMap_text_pieces_bound (name value : Text) (preceded followed : Bool) :
    ((bound name value).pieces separator preceded followed).flatMap
        (JoinPiece.text encode separator) =
      Expression.separatorIf preceded separator ++ Expression.pair encode name value := by
  cases preceded <;> simp [pieces, JoinPiece.text, Expression.separatorIf, Expression.pair]

end JoinPart

/-! ### What the loop writes -/

namespace Expression

variable {params : Params} {encode : Encoder} {separator : Text} {filled : Bool}
  {run missing names : List Text}

/-- Missing names join the run. -/
theorem joinStaged_append_of_missing (h : ∀ name ∈ missing, params.get? name = none) :
    joinStaged params encode separator filled run (missing ++ names) =
      joinStaged params encode separator filled (run ++ missing) names := by
  induction missing generalizing run with
  | nil => rw [List.nil_append, List.append_nil]
  | cons name missing ih =>
    obtain ⟨hname, hmissing⟩ := List.forall_mem_cons.1 h
    rw [List.cons_append, joinStaged, Params.single_eq_ok_none_iff.2 hname]
    rw [ih hmissing, List.append_assoc, List.singleton_append]

/-- A bound name ends the run: what stands for the run is written, and then its pair. -/
theorem joinStaged_cons_of_bound {name value : Text}
    (h : params.get? name = some (.scalar value)) :
    joinStaged params encode separator filled run (name :: names) =
      (Emission.write (deferred separator run filled true ++ separatorIf filled separator ++
          pair encode name value)).andThen
        (joinStaged params encode separator true [] names) := by
  have hsingle : params.single name = .ok (some value) := by
    unfold Params.single
    rw [h]
  rw [joinStaged, hsingle]

/-- In front of a bound name, what stands for the run is written first; the rest is written as if
there had been no run. -/
theorem joinStaged_of_bound_eq_onto {name value : Text}
    (h : params.get? name = some (.scalar value)) :
    joinStaged params encode separator filled run (name :: names) =
      (joinStaged params encode separator filled [] (name :: names)).onto
        (deferred separator run filled true) := by
  have hnil : deferred separator [] filled true = [] := rfl
  rw [joinStaged_cons_of_bound h, joinStaged_cons_of_bound h, hnil]
  simp [Emission.onto]

/-- At the border of two parts, where the flag says whether a pair precedes, the loop goes on to
write what is written for the parts that follow. -/
theorem joinStaged_of_isDivision {parts : List JoinPart} (h : IsDivision params names parts)
    (before : List JoinPart) :
    joinStaged params encode separator (before.any JoinPart.isBound) [] names =
      .write ((JoinPart.piecesAfter separator before parts).flatMap
        (JoinPiece.text encode separator)) := by
  induction h generalizing before with
  | nil => rfl
  | @bound name value names parts hvalue _ ih =>
    have hrest := ih (before ++ [JoinPart.bound name value])
    rw [show (before ++ [JoinPart.bound name value]).any JoinPart.isBound = true by simp] at hrest
    rw [joinStaged_cons_of_bound hvalue, hrest, JoinPart.piecesAfter, List.flatMap_append,
      JoinPart.flatMap_text_pieces_bound]
    rfl
  | @missing run names parts hne hrun hnext hrest ih =>
    have hafter := ih (before ++ [JoinPart.missing run])
    rw [show (before ++ [JoinPart.missing run]).any JoinPart.isBound =
      before.any JoinPart.isBound by simp] at hafter
    rw [joinStaged_append_of_missing hrun, List.nil_append, JoinPart.piecesAfter,
      List.flatMap_append, JoinPart.flatMap_text_pieces_missing hne]
    -- The loop writes the group when it comes to what follows the run, a bound name or the end.
    cases hrest with
    | nil => simp [joinStaged, JoinPart.piecesAfter]
    | bound hvalue _ =>
      rw [joinStaged_of_bound_eq_onto hvalue, hafter]
      rfl
    | missing _ _ _ _ => exact absurd (hnext _ rfl) (by simp)

/-- **The runs of a staged join.**  Let no name of a `-join` be bound to a list.  Then the names are
divided in exactly one way into bound names and maximal runs of missing ones, and a staged expansion
writes the pieces for these parts one after the other: pairs, with the separator in front of all but
the first, and the groups that stand for the runs.  A reader of the pairs and groups finds the names
in their order, none lost and none twice. -/
theorem expand_join_staged_eq_pieces
    (h : ∀ name ∈ names, ∀ items, params.get? name ≠ some (.list items)) (encode : Encoder)
    (separator : Text) :
    IsDivision params names (params.divide names) ∧
      (∀ parts, IsDivision params names parts → parts = params.divide names) ∧
      (join separator names).expand params encode .staged =
        .write ((JoinPart.piecesAfter separator [] (params.divide names)).flatMap
          (JoinPiece.text encode separator)) ∧
      (JoinPart.piecesAfter separator [] (params.divide names)).flatMap JoinPiece.names =
        names := by
  have hdivide : IsDivision params names (params.divide names) := .divide h
  refine ⟨hdivide, fun parts hparts => hparts.eq_divide, joinStaged_of_isDivision hdivide [], ?_⟩
  rw [JoinPart.flatMap_names_piecesAfter, hdivide.flatMap_names]

/-- A `-join` with every form of a group, one of them between the occurrences of a name that is
listed twice. -/
theorem expand_join_staged_eq_pieces_repeated :
    let params : Params := .ofList [(['q'], .scalar ['1']), (['r'], .scalar ['&'])]
    let names : List Text := [['p'], ['q'], ['x'], ['y'], ['r'], ['q'], ['z']]
    let parts : List JoinPart :=
      [.missing [['p']], .bound ['q'] ['1'], .missing [['x'], ['y']], .bound ['r'] ['&'],
        .bound ['q'] ['1'], .missing [['z']]]
    (∀ name ∈ names, ∀ items, params.get? name ≠ some (.list items)) ∧
      IsDivision params names parts ∧
      (join ['&'] names).expand params .percent .staged =
        .write ("\x7b-join|&|p\x7d\x7b-opt|&|p\x7dq=1".toList ++
          "\x7b-opt|&|x,y\x7d\x7b-join|&|x,y\x7d&r=%26".toList ++
          "&q=1\x7b-prefix|&z=|z\x7d".toList) ∧
      (JoinPart.piecesAfter ['&'] [] parts).flatMap JoinPiece.names = names := by
  intro params names parts
  have hnone : ∀ name ∈ names, (params.get? name).bind Value.list? = none := by decide
  have hkind : ∀ name ∈ names, ∀ items, params.get? name ≠ some (.list items) := by
    intro name hname items hitems
    have hbind := hnone name hname
    rw [hitems] at hbind
    cases hbind
  obtain ⟨hparts, -, htext, hnames⟩ := expand_join_staged_eq_pieces hkind .percent ['&']
  exact ⟨hkind, hparts, htext.trans (by decide +kernel), hnames⟩

end Expression

end LinkTemplate
