import LinkTemplate.Proofs.Yaml.Remainder
import Mathlib.Logic.Relation
/-!
# Every token takes up some text

The lexer of a YAML text runs on fuel, one unit for each token and one for the end of
the text.  What makes this safe is that a token is never empty.  The lexer has read a
character before it calls most of the readers, which leave no more than they are given,
and the others take up some text themselves.  So the text gets shorter at each token
(`Lexer.length_rest_takeToken_lt`).

From this the run does not depend on the fuel: two runs of one state agree if both
have more fuel than there is text (`Lexer.run_eq_of_length_lt`), and a run can be followed
round by round without an account of the fuel (`Lexer.run_of_steps`).
-/

namespace LinkTemplate.Yaml

/-! ### Where each part of a step leaves off -/

namespace Lexer

variable {s s' : Lexer}

@[simp] theorem rest_moveTo (s : Lexer) (rest : Text) : (s.moveTo rest).rest = rest := rfl

@[simp] theorem rest_emit (s : Lexer) (t : Token) : (s.emit t).rest = s.rest := rfl

@[simp] theorem rest_emitAt (s : Lexer) (n : Nat) (t : Token) : (s.emitAt n t).rest = s.rest := rfl

@[simp] theorem rest_openBlock (s : Lexer) (column : Int) (n : Nat) (t : Token) :
    (s.openBlock column n t).rest = s.rest := by
  unfold openBlock
  split <;> rfl

theorem rest_closeBlocks_go (column : Int) (outer : List Int) (s : Lexer) :
    (closeBlocks.go column outer s).rest = s.rest := by
  induction outer generalizing s with
  | nil =>
    unfold closeBlocks.go
    split <;> rfl
  | cons indent outer ih =>
    unfold closeBlocks.go
    split
    · rfl
    · exact ih _

@[simp] theorem rest_closeBlocks (s : Lexer) (column : Int) :
    (s.closeBlocks column).rest = s.rest := by
  unfold closeBlocks
  split
  · rfl
  · exact rest_closeBlocks_go column s.outerIndents s

theorem rest_of_dropKey (h : s.dropKey = some s') : s'.rest = s.rest := by
  unfold dropKey at h
  split at h
  · cases h
  · cases h
    rfl

theorem rest_of_saveKey (h : s.saveKey = some s') : s'.rest = s.rest := by
  unfold saveKey at h
  split at h
  · cases h
    rfl
  · simp only [Option.bind_eq_bind, Option.bind_eq_some_iff] at h
    obtain ⟨dropped, hdrop, hpair⟩ := h
    have hrest : dropped.rest = s.rest := rest_of_dropKey hdrop
    cases hpair
    exact hrest

theorem rest_of_endDocument (h : s.endDocument = some s') : s'.rest = s.rest := by
  unfold endDocument at h
  simp only [Option.bind_eq_bind, Option.bind_eq_some_iff] at h
  obtain ⟨dropped, hdrop, hpair⟩ := h
  cases hpair
  exact (rest_of_dropKey hdrop).trans (rest_closeBlocks s _)

theorem rest_of_dropStaleKeys (h : s.dropStaleKeys = some s') : s'.rest = s.rest := by
  unfold dropStaleKeys at h
  simp only [Option.bind_eq_bind, Option.bind_eq_some_iff] at h
  obtain ⟨key?, -, outerKeys, -, hpair⟩ := h
  cases hpair
  rfl

theorem length_skipToToken_le (flow keyAllowed comment : Bool) (t : Text) :
    (skipToToken flow keyAllowed comment t).2.length ≤ t.length := by
  fun_induction skipToToken flow keyAllowed comment t with
  | case1 => exact Nat.le_refl _
  | case2 keyAllowed _ rest ih => simp only [List.length_cons]; omega
  | case3 keyAllowed _ c rest _ _ ih => simp only [List.length_cons]; omega
  | case4 keyAllowed _ c rest _ _ _ ih => simp only [List.length_cons]; omega
  | case5 keyAllowed _ rest _ _ _ ih => simp only [List.length_cons]; omega
  | case6 => exact Nat.le_refl _

theorem length_rest_toToken_le (h : s.toToken = some s') : s'.rest.length ≤ s.rest.length := by
  unfold toToken at h
  simp only [Option.bind_eq_bind, Option.bind_eq_some_iff] at h
  obtain ⟨kept, hkept, hpair⟩ := h
  cases hpair
  have hmark : (if (s.position.index == 0 && s.rest.head? = some byteOrderMark) = true then
      s.moveTo s.rest.tail else s).rest.length ≤ s.rest.length := by
    split
    · simp
    · exact Nat.le_refl _
  rw [rest_closeBlocks, rest_of_dropStaleKeys hkept]
  exact Nat.le_trans (length_skipToToken_le _ _ _ _) hmark

theorem length_readName_le {t name rest : Text} (h : readName t = some (name, rest)) :
    rest.length ≤ t.length := by
  have hword := length_dropWhile_le isWord t
  unfold readName at h
  dsimp only at h
  split at h
  · cases h
  · split at h
    · cases h
      exact hword
    · cases h

theorem rest_of_openFlow {t : Token} {rest : Text} (h : s.openFlow t rest = some s') :
    s'.rest = rest := by
  unfold openFlow at h
  simp only [Option.bind_eq_bind, Option.bind_eq_some_iff] at h
  obtain ⟨saved, -, hpair⟩ := h
  cases hpair
  rfl

theorem rest_of_closeFlow {t : Token} {rest : Text} (h : s.closeFlow t rest = some s') :
    s'.rest = rest := by
  unfold closeFlow at h
  simp only [Option.bind_eq_bind, Option.bind_eq_some_iff] at h
  obtain ⟨dropped, -, h⟩ := h
  split at h
  · cases h
    rfl
  · cases h
    rfl

theorem rest_of_flowEntry {rest : Text} (h : s.flowEntry rest = some s') : s'.rest = rest := by
  unfold flowEntry at h
  simp only [Option.bind_eq_bind, Option.bind_eq_some_iff] at h
  obtain ⟨dropped, -, hpair⟩ := h
  cases hpair
  rfl

theorem rest_of_blockEntry {rest : Text} (h : s.blockEntry rest = some s') : s'.rest = rest := by
  unfold blockEntry at h
  split at h
  · cases h
  · simp only [Option.bind_eq_bind, Option.bind_eq_some_iff] at h
    obtain ⟨dropped, -, hpair⟩ := h
    cases hpair
    rfl

theorem rest_of_explicitKey {rest : Text} (h : s.explicitKey rest = some s') : s'.rest = rest := by
  unfold explicitKey at h
  split at h
  · cases h
  · simp only [Option.bind_eq_bind, Option.bind_eq_some_iff] at h
    obtain ⟨dropped, -, hpair⟩ := h
    cases hpair
    rfl

theorem rest_of_value {rest : Text} (h : s.value rest = some s') : s'.rest = rest := by
  unfold value at h
  split at h
  · cases h
    rfl
  · split at h
    · cases h
    · cases h
      rfl

theorem rest_of_keyToken {t : Token} {rest : Text} (h : s.keyToken t rest = some s') :
    s'.rest = rest := by
  unfold keyToken at h
  simp only [Option.bind_eq_bind, Option.bind_eq_some_iff] at h
  obtain ⟨saved, -, hpair⟩ := h
  cases hpair
  rfl

theorem length_rest_blockScalar_le {literal : Bool} {after : Text}
    (h : s.blockScalar literal after = some s') : s'.rest.length ≤ after.length := by
  unfold blockScalar at h
  simp only [Option.bind_eq_bind, Option.bind_eq_some_iff, Prod.exists] at h
  obtain ⟨dropped, -, text, rest, hread, hpair⟩ := h
  cases hpair
  exact Block.length_read_le hread

theorem length_rest_quotedScalar_le {double : Bool} {after : Text}
    (h : s.quotedScalar double after = some s') : s'.rest.length ≤ after.length := by
  unfold quotedScalar at h
  simp only [Option.bind_eq_bind, Option.bind_eq_some_iff, Prod.exists] at h
  obtain ⟨text, rest, hread, htoken⟩ := h
  rw [rest_of_keyToken htoken]
  exact Quoted.length_readFrom_le hread

theorem length_rest_named_le {token : Text → Token} {after : Text}
    (h : s.named token after = some s') : s'.rest.length ≤ after.length := by
  unfold named at h
  simp only [Option.bind_eq_bind, Option.bind_eq_some_iff, Prod.exists] at h
  obtain ⟨name, rest, hread, htoken⟩ := h
  rw [rest_of_keyToken htoken]
  exact length_readName_le hread

theorem length_rest_tagToken_lt (h : s.tagToken = some s') : s'.rest.length < s.rest.length := by
  unfold tagToken at h
  simp only [Option.bind_eq_bind, Option.bind_eq_some_iff, Prod.exists] at h
  obtain ⟨tag, rest, hread, htoken⟩ := h
  rw [rest_of_keyToken htoken]
  exact Tag.length_read_lt hread

theorem length_rest_directive_le {after : Text} (h : s.directive after = some s') :
    s'.rest.length ≤ after.length := by
  unfold directive at h
  simp only [Option.bind_eq_bind, Option.bind_eq_some_iff, Prod.exists] at h
  obtain ⟨ended, -, token, rest, hread, hpair⟩ := h
  cases hpair
  exact Directive.length_read_le hread

theorem length_rest_marker {t : Token} (h : s.marker t = some s') :
    s'.rest.length = s.rest.length - 3 := by
  unfold marker at h
  simp only [Option.bind_eq_bind, Option.bind_eq_some_iff] at h
  obtain ⟨ended, hended, hpair⟩ := h
  have hrest : ended.rest = s.rest := rest_of_endDocument hended
  cases hpair
  rw [rest_emit, rest_moveTo, hrest, List.length_drop]

theorem length_rest_plainScalar_lt {c : Char} {after : Text} (hrest : s.rest = c :: after)
    (hstarts : startsPlain s.inFlow c after = true) (h : s.plainScalar = some s') :
    s'.rest.length < s.rest.length := by
  unfold plainScalar at h
  simp only [Option.bind_eq_bind, Option.bind_eq_some_iff] at h
  obtain ⟨r, hread, token, htoken, hpair⟩ := h
  have hr : token.rest = r.rest := rest_of_keyToken htoken
  cases hpair
  rw [hrest] at hread ⊢
  exact hr ▸ Plain.length_read_lt hstarts hread

/-- **Every token takes up some text.** -/
theorem length_rest_takeToken_lt (h : s.takeToken = some s') : s'.rest.length < s.rest.length := by
  unfold takeToken at h
  split at h
  · cases h
  · next c after heq =>
    have hafter : after.length < s.rest.length := by simp [heq]
    have hshorter : s'.rest.length ≤ after.length → s'.rest.length < s.rest.length :=
      fun hle => Nat.lt_of_le_of_lt hle hafter
    have hbehind : s'.rest = after → s'.rest.length < s.rest.length :=
      fun hrest => hrest ▸ hafter
    obtain ⟨-, h⟩ | ⟨-, h⟩ := ite_eq_iff.1 h
    · exact hshorter (length_rest_directive_le h)
    obtain ⟨-, h⟩ | ⟨-, h⟩ := ite_eq_iff.1 h
    · rw [length_rest_marker h, heq]
      simp only [List.length_cons]
      omega
    obtain ⟨-, h⟩ | ⟨-, h⟩ := ite_eq_iff.1 h
    · exact hbehind (rest_of_openFlow h)
    obtain ⟨-, h⟩ | ⟨-, h⟩ := ite_eq_iff.1 h
    · exact hbehind (rest_of_openFlow h)
    obtain ⟨-, h⟩ | ⟨-, h⟩ := ite_eq_iff.1 h
    · exact hbehind (rest_of_closeFlow h)
    obtain ⟨-, h⟩ | ⟨-, h⟩ := ite_eq_iff.1 h
    · exact hbehind (rest_of_closeFlow h)
    obtain ⟨-, h⟩ | ⟨-, h⟩ := ite_eq_iff.1 h
    · exact hbehind (rest_of_flowEntry h)
    obtain ⟨-, h⟩ | ⟨-, h⟩ := ite_eq_iff.1 h
    · exact hbehind (rest_of_blockEntry h)
    obtain ⟨-, h⟩ | ⟨-, h⟩ := ite_eq_iff.1 h
    · exact hbehind (rest_of_explicitKey h)
    obtain ⟨-, h⟩ | ⟨-, h⟩ := ite_eq_iff.1 h
    · exact hbehind (rest_of_value h)
    obtain ⟨-, h⟩ | ⟨-, h⟩ := ite_eq_iff.1 h
    · exact hshorter (length_rest_named_le h)
    obtain ⟨-, h⟩ | ⟨-, h⟩ := ite_eq_iff.1 h
    · exact hshorter (length_rest_named_le h)
    obtain ⟨-, h⟩ | ⟨-, h⟩ := ite_eq_iff.1 h
    · exact length_rest_tagToken_lt h
    obtain ⟨-, h⟩ | ⟨-, h⟩ := ite_eq_iff.1 h
    · exact hshorter (length_rest_blockScalar_le h)
    obtain ⟨-, h⟩ | ⟨-, h⟩ := ite_eq_iff.1 h
    · exact hshorter (length_rest_blockScalar_le h)
    obtain ⟨-, h⟩ | ⟨-, h⟩ := ite_eq_iff.1 h
    · exact hshorter (length_rest_quotedScalar_le h)
    obtain ⟨hstarts, h⟩ | ⟨-, h⟩ := ite_eq_iff.1 h
    · exact length_rest_plainScalar_lt heq hstarts h
    · cases h

/-! ### Runs -/

/-- One round of the lexer: it moves on to the next token and takes it. -/
def Step (s s' : Lexer) : Prop :=
  ∃ settled, s.toToken = some settled ∧ settled.rest ≠ [] ∧ settled.takeToken = some s'

/-- A round leaves less text than there was. -/
theorem Step.length_rest_lt (h : Step s s') : s'.rest.length < s.rest.length := by
  obtain ⟨settled, hto, -, htake⟩ := h
  exact Nat.lt_of_lt_of_le (length_rest_takeToken_lt htake) (length_rest_toToken_le hto)

/-- With fuel for one more round, a run goes on after the round. -/
theorem run_of_step (h : Step s s') (fuel : Nat) : run (fuel + 1) s = run fuel s' := by
  obtain ⟨settled, hto, hne, htake⟩ := h
  have hrest : settled.rest.isEmpty = false := List.isEmpty_eq_false_iff.2 hne
  rw [run, hto]
  simp only [Option.bind_eq_bind, Option.bind_some, hrest, htake, Bool.false_eq_true, if_false]

/-- **The fuel does not matter.**  Runs of one state agree if both have more fuel than there is
text. -/
theorem run_eq_of_length_lt {fuel fuel' : Nat} (h : s.rest.length < fuel)
    (h' : s.rest.length < fuel') : run fuel s = run fuel' s := by
  induction fuel generalizing s fuel' with
  | zero => exact absurd h (Nat.not_lt_zero _)
  | succ fuel ih =>
    cases fuel' with
    | zero => exact absurd h' (Nat.not_lt_zero _)
    | succ fuel' =>
      rw [run, run]
      cases hto : s.toToken with
      | none => rfl
      | some settled =>
        simp only [Option.bind_eq_bind, Option.bind_some]
        split
        · rfl
        · cases htake : settled.takeToken with
          | none => rfl
          | some next =>
            have hlt := length_rest_takeToken_lt htake
            have hle := length_rest_toToken_le hto
            exact ih (by omega) (by omega)

/-- A run is followed through any number of rounds; all that is left to know is that there was
enough fuel at its start. -/
theorem run_of_steps {fuel : Nat} (h : Relation.ReflTransGen Step s s')
    (hfuel : s.rest.length < fuel) : run fuel s = run (s'.rest.length + 1) s' := by
  induction h using Relation.ReflTransGen.head_induction_on generalizing fuel with
  | refl => exact run_eq_of_length_lt hfuel (Nat.lt_succ_self _)
  | head hstep _ ih =>
    have hlt := hstep.length_rest_lt
    obtain ⟨fuel, rfl⟩ : ∃ n, fuel = n + 1 := ⟨fuel - 1, by omega⟩
    rw [run_of_step hstep]
    exact ih (by omega)

end Lexer

end LinkTemplate.Yaml
