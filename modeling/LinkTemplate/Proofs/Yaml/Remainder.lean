import LinkTemplate.Yaml.Lexer
import Mathlib.Logic.Basic
/-!
# What the readers leave

No reader of a part of a YAML text leaves more text than it was given.  The readers
of tags leave less, since a tag has its `!`.  A plain scalar may stand where nothing
can be read, but then it does not begin with a character that shows that a scalar is
plain: such a character ends no word, so the first word of the scalar has at least this
one (`Plain.length_read_lt`).
-/

namespace LinkTemplate.Yaml

/-! ### Gaps and line ends -/

theorem length_dropWhile_le (p : Char → Bool) (t : Text) : (t.dropWhile p).length ≤ t.length :=
  (List.dropWhile_sublist p).length_le

theorem length_readBreak?_lt {t rest : Text} {c : Char} (h : readBreak? t = some (c, rest)) :
    rest.length < t.length := by
  unfold readBreak? at h
  split at h
  · cases h
    simp only [List.length_cons]
    omega
  · split at h
    · cases h
      simp
    · cases h
  · cases h

theorem length_skipLine_le (t : Text) : (skipLine t).length ≤ t.length := length_dropWhile_le _ t

theorem length_endLine?_le {t rest : Text} (h : endLine? t = some rest) :
    rest.length ≤ t.length := by
  have hblank := length_dropWhile_le isBlank t
  have hcomment : (if (t.dropWhile isBlank).head? = some '#' then skipLine (t.dropWhile isBlank)
      else t.dropWhile isBlank).length ≤ t.length := by
    split
    · exact Nat.le_trans (length_skipLine_le _) hblank
    · exact hblank
  unfold endLine? at h
  dsimp only at h
  generalize (if (t.dropWhile isBlank).head? = some '#' then skipLine (t.dropWhile isBlank)
    else t.dropWhile isBlank) = u at hcomment h
  split at h
  · next hbreak =>
    cases h
    exact Nat.le_trans (Nat.le_of_lt (length_readBreak?_lt hbreak)) hcomment
  · split at h
    · cases h
      exact hcomment
    · cases h

namespace Gap

theorem length_readLines_le (g : Gap) (t : Text) : (readLines g t).2.length ≤ t.length := by
  fun_induction readLines g t with
  | case1 g rest ih => simp only [List.length_cons]; omega
  | case2 g c rest _ _ ih => simp only [List.length_cons]; omega
  | case3 g rest _ _ ih => simp only [List.length_cons]; omega
  | case4 g rest _ _ _ ih => simp only [List.length_cons]; omega
  | case5 => exact Nat.le_refl _
  | case6 => exact Nat.le_refl _

theorem length_read_le (t : Text) : (read t).2.length ≤ t.length := by
  have hdrop := length_dropWhile_le isBlank t
  unfold read
  dsimp only
  split
  · next c rest heq =>
    split
    · exact Nat.le_trans (length_readLines_le _ _) hdrop
    · exact hdrop
  · exact hdrop

end Gap

/-! ### Scalars -/

namespace Quoted

theorem length_readEscape_lt {t rest : Text} {c : Char} (h : readEscape t = some (c, rest)) :
    rest.length < t.length := by
  unfold readEscape at h
  split at h
  · cases h
  · next c' t =>
    split at h
    · cases h
      simp
    · simp only [Option.bind_eq_bind, Option.bind_eq_some_iff] at h
      obtain ⟨length, -, h⟩ := h
      split at h
      · cases h
      · simp only [Option.bind_eq_some_iff] at h
        obtain ⟨code, -, h⟩ := h
        split at h
        · cases h
          simp only [List.length_cons, List.length_drop]
          omega
        · cases h

theorem length_readFrom_le {double lineStart : Bool} {fuel : Nat} {t text rest : Text}
    (h : readFrom double fuel lineStart t = some (text, rest)) : rest.length ≤ t.length := by
  induction fuel generalizing lineStart t text rest with
  | zero => cases h
  | succ fuel ih =>
    unfold readFrom at h
    split at h
    · cases h
    · dsimp only at h
      split at h
      · cases h
      · next c t _ =>
        have happend : ∀ {s u : Text} {b : Bool}, u.length ≤ (c :: t).length →
            (readFrom double fuel b u).map (fun x => (s ++ x.1, x.2)) = some (text, rest) →
              rest.length ≤ (c :: t).length := by
          intro s u b hle hmap
          obtain ⟨⟨more, rest'⟩, hread, heq⟩ := Option.map_eq_some_iff.1 hmap
          cases heq
          exact Nat.le_trans (ih hread) hle
        have htail : t.length ≤ (c :: t).length := Nat.le_succ _
        split at h
        · exact happend (Gap.length_read_le _) h
        · split at h
          · split at h
            · exact happend (by simp only [List.length_cons]; omega) h
            · cases h
              exact htail
          · split at h
            · cases h
              exact htail
            · split at h
              · split at h
                · next hbreak =>
                  have := length_readBreak?_lt hbreak
                  refine happend (Nat.le_trans (Gap.length_readLines_le _ _) (by omega)) h
                · split at h
                  · next hescape =>
                    have := length_readEscape_lt hescape
                    exact happend (by omega) h
                  · cases h
              · exact happend htail h

end Quoted

namespace Plain

/-- Reading on takes up some text unless the scalar ends right there. -/
theorem length_readFrom {flow : Bool} {indent : Int} {fuel : Nat} {text : Text} {gap : Gap}
    {t : Text} {r : Result} (h : readFrom flow indent fuel text gap t = some r) :
    r.rest.length < t.length ∨ (r.rest = t ∧
      (gap.atLineStart = true ∨ t.head? = some '#' ∨ readWord flow t = some [])) := by
  induction fuel generalizing text gap t with
  | zero => cases h
  | succ fuel ih =>
    unfold readFrom at h
    dsimp only at h
    split at h
    · next hmarker =>
      cases h
      exact .inr ⟨rfl, .inl (Bool.and_eq_true_iff.1 hmarker).1⟩
    · split at h
      · next hcomment =>
        cases h
        exact .inr ⟨rfl, .inr (.inl hcomment)⟩
      · simp only [Option.bind_eq_bind, Option.bind_eq_some_iff] at h
        obtain ⟨word, hword, h⟩ := h
        split at h
        · next hempty =>
          cases h
          rw [List.isEmpty_iff.1 hempty] at hword
          exact .inr ⟨rfl, .inr (.inr hword)⟩
        · next hempty =>
          left
          have hdrop : (t.drop word.length).length < t.length := by
            cases t with
            | nil =>
              cases hword
              exact absurd rfl hempty
            | cons c t =>
              have hpos : word.length ≠ 0 := fun hzero =>
                hempty (List.isEmpty_iff.2 (List.length_eq_zero_iff.1 hzero))
              simp only [List.length_drop, List.length_cons]
              omega
          split at h
          · cases h
            exact hdrop
          · split at h
            · have hgap := Gap.length_read_le (t.drop word.length)
              split at h
              · cases h
              · split at h
                · cases h
                  exact Nat.lt_of_le_of_lt hgap hdrop
                · rcases ih h with hlt | ⟨heq, -⟩
                  · omega
                  · rw [heq]
                    exact Nat.lt_of_le_of_lt hgap hdrop
            · cases h
              exact hdrop

/-- The character that shows that a scalar is plain does not end its first word. -/
theorem of_startsPlain {flow : Bool} {c : Char} {after : Text}
    (h : Lexer.startsPlain flow c after = true) :
    c ≠ '#' ∧ (isBlank c || isBreak c) = false ∧
      ((c = ':' && endsWord after) || (flow && isFlowMark c)) = false := by
  unfold Lexer.startsPlain at h
  simp only [Bool.or_eq_true, Bool.and_eq_true, Bool.not_eq_true', Bool.or_eq_false_iff,
    decide_eq_true_eq] at h
  obtain (⟨⟨hblank, hbreak⟩, hmarks⟩ | ⟨rfl, -⟩) | ⟨⟨hflow, hc⟩, hword⟩ := h
  · have hne : ∀ d ∈ "-?:,[]\x7b\x7d#&*!|>'\"%@`".toList, c ≠ d := by
      rintro d hd rfl
      rw [List.contains_iff_mem.2 hd] at hmarks
      cases hmarks
    have hmark : isFlowMark c = false := by
      simp [isFlowMark, hne ',' (by decide), hne '[' (by decide), hne ']' (by decide),
        hne '\x7b' (by decide), hne '\x7d' (by decide)]
    exact ⟨hne '#' (by decide), by simp [hblank, hbreak], by simp [hne ':' (by decide), hmark]⟩
  · exact ⟨by decide, by decide, by simp [isFlowMark]⟩
  · rcases hc with rfl | rfl
    · exact ⟨by decide, by decide, by simp [hflow]⟩
    · exact ⟨by decide, by decide, by simp [hflow, hword]⟩

/-- A plain scalar has at least the character that shows that it is one. -/
theorem length_read_lt {flow : Bool} {indent : Int} {c : Char} {after : Text} {r : Result}
    (hstarts : Lexer.startsPlain flow c after = true)
    (h : read flow indent (c :: after) = some r) : r.rest.length < (c :: after).length := by
  obtain ⟨hcomment, hblank, hend⟩ := of_startsPlain hstarts
  have hword : ∀ word, readWord flow (c :: after) = some word → word ≠ [] := by
    intro word hread
    unfold readWord at hread
    rw [hblank, hend] at hread
    simp only [Bool.false_eq_true, if_false] at hread
    split at hread
    · cases hread
    · obtain ⟨more, -, rfl⟩ := Option.map_eq_some_iff.1 hread
      exact List.cons_ne_nil c more
  rcases length_readFrom h with hlt | ⟨-, hline | hhead | hread⟩
  · exact hlt
  · cases hline
  · exact absurd (Option.some.inj hhead) hcomment
  · exact absurd rfl (hword [] hread)

end Plain

namespace Block

theorem length_readChomping?_lt {t rest : Text} {chomping : Chomping}
    (h : readChomping? t = some (chomping, rest)) : rest.length < t.length := by
  unfold readChomping? at h
  split at h
  · cases h
    simp
  · cases h
    simp
  · cases h

theorem length_readIncrement_le {t rest : Text} {increment? : Option Nat}
    (h : readIncrement t = some (increment?, rest)) : rest.length ≤ t.length := by
  unfold readIncrement at h
  split at h
  · split at h
    · cases h
    · split at h
      · cases h
        simp
      · cases h
        simp
  · cases h
    simp

theorem length_readIndicators_le {t rest : Text} {header : Header}
    (h : readIndicators t = some (header, rest)) : rest.length ≤ t.length := by
  unfold readIndicators at h
  split at h
  · next chomping u hchomping =>
    simp only [Option.bind_eq_bind, Option.bind_eq_some_iff, Prod.exists] at h
    obtain ⟨increment?, u', hincrement, hpair⟩ := h
    cases hpair
    exact Nat.le_trans (length_readIncrement_le hincrement)
      (Nat.le_of_lt (length_readChomping?_lt hchomping))
  · simp only [Option.bind_eq_bind, Option.bind_eq_some_iff, Prod.exists] at h
    obtain ⟨increment?, u, hincrement, h⟩ := h
    have hle := length_readIncrement_le hincrement
    split at h
    · next hchomping =>
      cases h
      exact Nat.le_trans (Nat.le_of_lt (length_readChomping?_lt hchomping)) hle
    · cases h
      exact hle

theorem length_readHeader_le {t rest : Text} {header : Header}
    (h : readHeader t = some (header, rest)) : rest.length ≤ t.length := by
  unfold readHeader at h
  simp only [Option.bind_eq_bind, Option.bind_eq_some_iff, Prod.exists] at h
  obtain ⟨_, u, hindicators, rest', hline, hpair⟩ := h
  cases hpair
  exact Nat.le_trans (length_endLine?_le hline) (length_readIndicators_le hindicators)

theorem length_readLead_le {limit? : Option Nat} {fuel widest : Nat} {breaks t : Text} {lead : Lead}
    (h : readLead limit? fuel breaks widest t = some lead) : lead.rest.length ≤ t.length := by
  induction fuel generalizing widest breaks t with
  | zero => cases h
  | succ fuel ih =>
    unfold readLead at h
    dsimp only at h
    have hdrop : ∀ n, (t.drop n).length ≤ t.length := fun n => by simp
    split at h
    · cases h
    · split at h
      · next hbreak =>
        have hlt := length_readBreak?_lt hbreak
        have hle := ih h
        have := hdrop (limit?.elim (t.takeWhile (· = ' ')).length
          (min (t.takeWhile (· = ' ')).length))
        omega
      · cases h
        exact hdrop _

theorem length_readLines_le {literal startsBlank : Bool} {indent fuel column : Nat}
    {lines lines' : Lines}
    (h : readLines literal indent fuel startsBlank lines column = some lines') :
    lines'.rest.length ≤ lines.rest.length := by
  induction fuel generalizing startsBlank lines column with
  | zero => cases h
  | succ fuel ih =>
    unfold readLines at h
    split at h
    · cases h
      exact Nat.le_refl _
    · split at h
      · cases h
        exact Nat.le_refl _
      · simp only [Option.bind_eq_bind, Option.bind_eq_some_iff] at h
        obtain ⟨lead, hlead, h⟩ := h
        have hle := ih h
        have hlead := length_readLead_le hlead
        have hskip := length_skipLine_le lines.rest
        refine Nat.le_trans hle (Nat.le_trans hlead ?_)
        split
        · next hbreak =>
          have := length_readBreak?_lt hbreak
          dsimp only
          omega
        · exact hskip

theorem length_read_le {literal : Bool} {outer : Int} {t text rest : Text}
    (h : read literal outer t = some (text, rest)) : rest.length ≤ t.length := by
  unfold read at h
  simp only [Option.bind_eq_bind, Option.bind_eq_some_iff, Prod.exists] at h
  obtain ⟨header, rest₁, hheader, lead, hlead, lines, hlines, hpair⟩ := h
  cases hpair
  exact Nat.le_trans (length_readLines_le hlines)
    (Nat.le_trans (length_readLead_le hlead) (length_readHeader_le hheader))

end Block

/-! ### Tags and directives -/

namespace Tag

theorem length_readEscaped_le {t text rest : Text} (h : readEscaped t = some (text, rest)) :
    rest.length ≤ t.length := by
  unfold readEscaped at h
  simp only [Option.bind_eq_bind, Option.bind_eq_some_iff] at h
  obtain ⟨_, -, _, -, _, -, bytes, -, h⟩ := h
  split at h
  · cases h
    simp
  · cases h

theorem length_readSuffixChar_le {c : Char} {t text rest : Text}
    (h : readSuffixChar c t = some (text, rest)) : rest.length ≤ (c :: t).length := by
  unfold readSuffixChar at h
  split at h
  · exact length_readEscaped_le h
  · cases h
    exact Nat.le_succ _

theorem length_readSuffixChars_le {verbatim : Bool} {fuel : Nat} {t text rest : Text}
    (h : readSuffixChars verbatim fuel t = some (text, rest)) : rest.length ≤ t.length := by
  induction fuel generalizing t text rest with
  | zero => cases h
  | succ fuel ih =>
    cases t with
    | nil =>
      cases h
      exact Nat.le_refl _
    | cons c t =>
      unfold readSuffixChars at h
      split at h
      · cases h
        exact Nat.le_refl _
      · simp only [Option.bind_eq_bind, Option.bind_eq_some_iff, Prod.exists] at h
        obtain ⟨s, u, hchar, more, rest', hmore, hpair⟩ := h
        cases hpair
        exact Nat.le_trans (ih hmore) (length_readSuffixChar_le hchar)

theorem length_readSuffix_le {verbatim : Bool} {head t text rest : Text}
    (h : readSuffix verbatim head t = some (text, rest)) : rest.length ≤ t.length := by
  unfold readSuffix at h
  simp only [Option.bind_eq_bind, Option.bind_eq_some_iff, Prod.exists] at h
  obtain ⟨more, rest', hmore, h⟩ := h
  split at h
  · cases h
  · cases h
    exact length_readSuffixChars_le hmore

theorem length_readHandle_lt {t handle rest : Text} (h : readHandle t = some (handle, rest)) :
    rest.length < t.length := by
  unfold readHandle at h
  split at h
  · next u =>
    have hword := length_dropWhile_le isWord u
    split at h
    · next heq =>
      cases h
      rw [heq] at hword
      simp only [List.length_cons] at hword ⊢
      omega
    · cases h
      exact Nat.lt_succ_of_le hword
  · cases h

theorem length_readAny_lt {t rest : Text} {tag : Tag} (h : readAny t = some (tag, rest)) :
    rest.length < t.length := by
  unfold readAny at h
  split at h
  · unfold readVerbatim at h
    simp only [Option.bind_eq_bind, Option.bind_eq_some_iff, Prod.exists] at h
    obtain ⟨suffix, u, hsuffix, h⟩ := h
    have hle := length_readSuffix_le hsuffix
    split at h
    · cases h
      simp only [List.length_cons] at hle ⊢
      omega
    · cases h
  · unfold readShorthand at h
    simp only [Option.bind_eq_bind, Option.bind_eq_some_iff, Prod.exists] at h
    obtain ⟨handle, u, hhandle, h⟩ := h
    have hlt := length_readHandle_lt hhandle
    split at h
    · simp only [Option.bind_eq_some_iff, Prod.exists] at h
      obtain ⟨suffix, u', hsuffix, hpair⟩ := h
      cases hpair
      exact Nat.lt_of_le_of_lt (length_readSuffix_le hsuffix) hlt
    · simp only [Option.bind_eq_some_iff, Prod.exists] at h
      obtain ⟨suffix, u', hsuffix, hpair⟩ := h
      cases hpair
      exact Nat.lt_of_le_of_lt (length_readSuffix_le hsuffix) hlt

theorem length_read_lt {flow : Bool} {t rest : Text} {tag : Tag}
    (h : read flow t = some (tag, rest)) : rest.length < t.length := by
  unfold read at h
  simp only [Option.bind_eq_bind, Option.bind_eq_some_iff, Prod.exists] at h
  obtain ⟨tag', u, hany, h⟩ := h
  split at h
  · cases h
    exact length_readAny_lt hany
  · cases h

end Tag

namespace Directive

theorem length_readVersionNumber_le {t rest : Text} {n : Nat}
    (h : readVersionNumber t = some (n, rest)) : rest.length ≤ t.length := by
  unfold readVersionNumber at h
  dsimp only at h
  split at h
  · cases h
  · simp only [Option.bind_eq_bind, Option.bind_eq_some_iff] at h
    obtain ⟨n', -, hpair⟩ := h
    cases hpair
    simp

theorem length_readValue_le {name t rest : Text} {token : Token}
    (h : readValue name t = some (token, rest)) : rest.length ≤ t.length := by
  have hblank := length_dropWhile_le isBlank t
  unfold readValue at h
  split at h
  · unfold readVersion at h
    simp only [Option.bind_eq_bind, Option.bind_eq_some_iff, Prod.exists] at h
    obtain ⟨major, u, hmajor, h⟩ := h
    have hle := length_readVersionNumber_le hmajor
    split at h
    · simp only [Option.bind_eq_some_iff, Prod.exists] at h
      obtain ⟨minor, u', hminor, hpair⟩ := h
      cases hpair
      have hle' := length_readVersionNumber_le hminor
      simp only [List.length_cons] at hle
      omega
    · cases h
  · split at h
    · unfold readTagDeclaration at h
      simp only [Option.bind_eq_bind, Option.bind_eq_some_iff, Prod.exists] at h
      obtain ⟨handle, u, hhandle, h⟩ := h
      have hlt := Tag.length_readHandle_lt hhandle
      have hblank' := length_dropWhile_le isBlank u
      split at h
      · cases h
      · split at h
        · cases h
        · simp only [Option.bind_eq_some_iff, Prod.exists] at h
          obtain ⟨expansion, u', hsuffix, h⟩ := h
          have hle := Tag.length_readSuffix_le hsuffix
          split at h
          · cases h
            omega
          · cases h
    · cases h

theorem length_read_le {t rest : Text} {token : Token} (h : read t = some (token, rest)) :
    rest.length ≤ t.length := by
  unfold read at h
  dsimp only at h
  split at h
  · cases h
  · simp only [Option.bind_eq_bind, Option.bind_eq_some_iff, Prod.exists] at h
    obtain ⟨token', u, hvalue, rest', hline, hpair⟩ := h
    cases hpair
    have hword := length_dropWhile_le isWord t
    have hle := length_readValue_le hvalue
    exact Nat.le_trans (length_endLine?_le hline) (Nat.le_trans hle hword)

end Directive

end LinkTemplate.Yaml
