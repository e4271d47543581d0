import LinkTemplate.Json
import LinkTemplate.Proofs.Yaml.Lexer
import LinkTemplate.Proofs.Yaml.Nodes
import Mathlib.Tactic.SplitIfs
/-!
# Flow collections without blanks

The compact JSON text of strings, arrays and objects is read as YAML.  A string is a
scalar in double quotes: each escape of JSON stands for the same character in YAML
(`Quoted.readFrom_escapeChar`), and between two of them a run of blanks is a gap that
stays as it is.  Characters that are not allowed in a YAML text, or that end a line
there, have to be left out (`isPortable`), and a name must not be longer than a key may
be.

`Lexer.Takes` says that in some context the lexer takes a text as tokens, whatever comes
before and after.  Texts that are taken can be put one after the other
(`Lexer.Takes.append`), so only single characters, strings and names are followed through
the lexer.  A key is the case with an argument: the lexer notes the place of a string,
finds the colon while the place is not stale, and puts the key token there
(`Lexer.At.exists_value`).  The other places that the lexer has noted may become stale at
any token, but no key is ever required outside of block collections.
-/

namespace LinkTemplate.Yaml

/-! ### Characters -/

/-- Characters that a YAML text may hold within a line. -/
def isInline (c : Char) : Bool := isAllowed c && !isBreak c

/-- Characters that the JSON form of a string carries through a YAML text: the control characters,
which it escapes, and the characters that may stand within a line. -/
def isPortable (c : Char) : Bool := c < ' ' || isInline c

/-- What a portable character is written as stands within a line. -/
theorem all_isInline_escapeChar {c : Char} (hc : isPortable c = true) :
    (Json.escapeChar c).all isInline = true := by
  have hhex : ∀ n < 32, ['\\', 'u', '0', '0', Json.hexDigit (n / 16), Json.hexDigit (n % 16)].all
      isInline = true := by decide
  unfold Json.escapeChar
  split_ifs with _ _ _ _ _ _ _ hcontrol
  iterate 7 rfl
  · exact hhex c.toNat hcontrol
  · simpa [isPortable, hcontrol] using hc

theorem isInline_of_mem_quote {t : Text} (ht : ∀ c ∈ t, isPortable c = true) {c : Char}
    (hc : c ∈ Json.quote t) : isInline c = true := by
  simp only [Json.quote, List.mem_append, List.mem_cons, List.mem_flatMap, List.not_mem_nil,
    or_false] at hc
  obtain (rfl | ⟨d, hd, hmem⟩) | rfl := hc
  · rfl
  · exact List.all_eq_true.1 (all_isInline_escapeChar (ht d hd)) c hmem
  · rfl

theorem isAllowed_of_isInline {c : Char} (h : isInline c = true) : isAllowed c = true :=
  (Bool.and_eq_true_iff.1 h).1

theorem isBreak_of_isInline {c : Char} (h : isInline c = true) : isBreak c = false := by
  simpa using (Bool.and_eq_true_iff.1 h).2

/-! ### Quoted scalars -/

namespace Quoted

theorem readEscape_control {n : Nat} (hn : n < 32) (t : Text) :
    readEscape ('u' :: '0' :: '0' :: Json.hexDigit (n / 16) :: Json.hexDigit (n % 16) :: t) =
      some (Char.ofNat n, t) := by
  have hdigits : ∀ n < 32, Text.natOfDigits? 16
      ['0', '0', Json.hexDigit (n / 16), Json.hexDigit (n % 16)] = some n := by decide
  have hvalid : n.isValidChar := .inl (by omega)
  simp [readEscape, simpleEscape?, escapeLength?, hdigits n hn, hvalid]

/-- A character that is no blank is read back from what it is written as. -/
theorem readFrom_escapeChar {c : Char} (hc : isPortable c = true) (hblank : c ≠ ' ') (fuel : Nat)
    (t : Text) : readFrom true (fuel + 1) false (Json.escapeChar c ++ t) =
      (readFrom true fuel false t).map fun r => (c :: r.1, r.2) := by
  unfold Json.escapeChar
  split_ifs with hquote hslash hb hf hn hr ht hcontrol
  · rw [hquote]; rfl
  · rw [hslash]; rfl
  · rw [hb]; rfl
  · rw [hf]; rfl
  · rw [hn]; rfl
  · rw [hr]; rfl
  · rw [ht]; rfl
  · have hread := readEscape_control (n := c.toNat) hcontrol t
    rw [Char.ofNat_toNat] at hread
    simp [readFrom, isBlank, isBreak, readBreak?, hread]
  · have hbreak := isBreak_of_isInline (c := c) (by simpa [isPortable, hcontrol] using hc)
    simp [readFrom, isBlank, hbreak, hblank, hquote, hslash, ht]

/-- What a portable character is written as begins with no line end, and with a blank only if it is
a blank itself. -/
theorem exists_escapeChar_eq_cons {c : Char} (hc : isPortable c = true) :
    ∃ d t, Json.escapeChar c = d :: t ∧ isBreak d = false ∧ isBlank d = decide (c = ' ') := by
  unfold Json.escapeChar
  split_ifs with hquote hslash hb hf hn hr ht hcontrol
  · exact ⟨_, _, rfl, by decide, by rw [hquote]; decide⟩
  · exact ⟨_, _, rfl, by decide, by rw [hslash]; decide⟩
  · exact ⟨_, _, rfl, by decide, by rw [hb]; decide⟩
  · exact ⟨_, _, rfl, by decide, by rw [hf]; decide⟩
  · exact ⟨_, _, rfl, by decide, by rw [hn]; decide⟩
  · exact ⟨_, _, rfl, by decide, by rw [hr]; decide⟩
  · exact ⟨_, _, rfl, by decide, by rw [ht]; decide⟩
  · have hne : c ≠ ' ' := by
      rintro rfl
      exact absurd hcontrol (by decide)
    exact ⟨_, _, rfl, by decide, by rw [decide_eq_false hne]; decide⟩
  · have hbreak := isBreak_of_isInline (c := c) (by simpa [isPortable, hcontrol] using hc)
    exact ⟨_, _, rfl, hbreak, by simp [isBlank, ht]⟩

/-- The blanks in front of what is left of a quoted text are those in front of the text. -/
theorem blanks_quoted {s : Text} (hs : ∀ c ∈ s, isPortable c = true) (t : Text) :
    (s.flatMap Json.escapeChar ++ '"' :: t).takeWhile isBlank = s.takeWhile (· = ' ') ∧
      (s.flatMap Json.escapeChar ++ '"' :: t).dropWhile isBlank =
        (s.dropWhile (· = ' ')).flatMap Json.escapeChar ++ '"' :: t := by
  induction s with
  | nil => exact ⟨rfl, rfl⟩
  | cons c s ih =>
    obtain ⟨hc, htail⟩ := List.forall_mem_cons.1 hs
    by_cases hblank : c = ' '
    · subst hblank
      exact ⟨congrArg (' ' :: ·) (ih htail).1, (ih htail).2⟩
    · obtain ⟨d, u, heq, -, hd⟩ := exists_escapeChar_eq_cons hc
      rw [decide_eq_false hblank] at hd
      simp [heq, hd, hblank]

/-- What is left of a quoted text does not begin with a line end. -/
theorem exists_quoted_eq_cons {s : Text} (hs : ∀ c ∈ s, isPortable c = true) (t : Text) :
    ∃ d u, s.flatMap Json.escapeChar ++ '"' :: t = d :: u ∧ isBreak d = false := by
  cases s with
  | nil => exact ⟨'"', t, rfl, by decide⟩
  | cons c s =>
    obtain ⟨d, u, heq, hbreak, -⟩ := exists_escapeChar_eq_cons (List.forall_mem_cons.1 hs).1
    exact ⟨d, u ++ (s.flatMap Json.escapeChar ++ '"' :: t), by simp [heq], hbreak⟩

/-- A gap in a quoted text is a run of blanks within the line. -/
theorem gapRead_quoted {s : Text} (hs : ∀ c ∈ s, isPortable c = true) (t : Text) :
    Gap.read (s.flatMap Json.escapeChar ++ '"' :: t) =
      ({ Gap.none with blanks := s.takeWhile (· = ' ') },
        (s.dropWhile (· = ' ')).flatMap Json.escapeChar ++ '"' :: t) := by
  have hrest : ∀ c ∈ s.dropWhile (· = ' '), isPortable c = true :=
    fun c hc => hs c ((List.dropWhile_sublist _).subset hc)
  obtain ⟨d, u, heq, hbreak⟩ := exists_quoted_eq_cons hrest t
  rw [Gap.read, (blanks_quoted hs t).1, (blanks_quoted hs t).2, heq]
  simp only [hbreak, Bool.false_eq_true, if_false]

/-- A blank is read together with the gap that it begins. -/
theorem readFrom_blank (fuel : Nat) (t : Text) : readFrom true (fuel + 1) false (' ' :: t) =
    (readFrom true fuel (Gap.read (' ' :: t)).1.atLineStart (Gap.read (' ' :: t)).2).map
      fun r => ((Gap.read (' ' :: t)).1.text ++ r.1, r.2) := rfl

/-- A text of portable characters is read back from its JSON form. -/
theorem readFrom_quoted {s : Text} (hs : ∀ c ∈ s, isPortable c = true) (t : Text) {fuel : Nat}
    (hfuel : s.length < fuel) :
    readFrom true fuel false (s.flatMap Json.escapeChar ++ '"' :: t) = some (s, t) := by
  induction fuel generalizing s with
  | zero => exact absurd hfuel (Nat.not_lt_zero _)
  | succ fuel ih =>
    cases s with
    | nil => rfl
    | cons c s =>
      have htail := (List.forall_mem_cons.1 hs).2
      rw [List.length_cons] at hfuel
      by_cases hblank : c = ' '
      · -- a run of blanks is one gap, and what follows is shorter
        subst hblank
        have hdrop : ((' ' :: s).dropWhile (· = ' ')).length < fuel := by
          have := (List.dropWhile_sublist (p := (· = ' ')) (l := s)).length_le
          simp only [List.dropWhile_cons, decide_true, if_true]
          omega
        have hih := ih (fun d hd => hs d ((List.dropWhile_sublist _).subset hd)) hdrop
        have hhead : (' ' :: s).flatMap Json.escapeChar ++ '"' :: t =
            ' ' :: (s.flatMap Json.escapeChar ++ '"' :: t) := rfl
        have hgap := gapRead_quoted hs t
        rw [hhead] at hgap ⊢
        rw [readFrom_blank, hgap]
        exact (congrArg _ hih).trans
          (congrArg (fun u => some (u, t)) List.takeWhile_append_dropWhile)
      · rw [List.flatMap_cons, List.append_assoc,
          readFrom_escapeChar (List.forall_mem_cons.1 hs).1 hblank, ih htail (by omega)]
        rfl

end Quoted

/-- Within a line, a position moves on by the length of the text. -/
theorem Position.after_eq {t : Text} (h : ∀ c ∈ t, isBreak c = false) (p : Position) :
    p.after t = ⟨p.index + t.length, p.line, p.column + t.length⟩ := by
  induction t generalizing p with
  | nil => rfl
  | cons c t ih =>
    obtain ⟨hc, ht⟩ := List.forall_mem_cons.1 h
    rw [Position.after]
    · rw [hc, if_neg Bool.false_ne_true, ih ht, List.length_cons]
      simp only [Nat.add_assoc, Nat.add_comm 1]
    · rintro rest rfl
      cases hc

/-! ### The lexer between two tokens -/

namespace Lexer

/-- A possible key may turn out not to be one. -/
def IsOptional (key? : Option PossibleKey) : Prop := ∀ key ∈ key?, key.required = false

theorem IsOptional.any_eq_false {key? : Option PossibleKey} (h : IsOptional key?) :
    key?.any (·.required) = false := by
  cases key? with
  | none => rfl
  | some key => exact h key rfl

/-- What the text in front of the lexer is read by: whether a key is allowed, and the number of open
flow collections. -/
structure Context where
  keyAllowed : Bool
  depth : Nat

/-- The lexer stands in front of `rest`, with `tokens` behind it, inside of flow collections only.
No key is required. -/
structure At (s : Lexer) (ctx : Context) (tokens : List Token) (rest : Text) : Prop where
  rest_eq : s.rest = rest
  tokens_eq : s.tokens.toList = tokens
  depth_eq : s.outerKeys.length = ctx.depth
  indent_eq : s.indent = -1
  keyAllowed_eq : s.keyAllowed = ctx.keyAllowed
  key : IsOptional s.key?
  outerKeys : ∀ key? ∈ s.outerKeys, IsOptional key?

/-- At the start of a text nothing is behind the lexer, and a key is allowed. -/
theorem at_start (t : Text) : (start t).At ⟨true, 0⟩ [] t where
  rest_eq := rfl
  tokens_eq := rfl
  depth_eq := rfl
  indent_eq := rfl
  keyAllowed_eq := rfl
  key := fun _ h => nomatch h
  outerKeys := fun _ h => nomatch h

/-- Characters that are no blanks, end no line and start no comment, nor are the byte order mark. -/
def IsSolid (c : Char) : Prop :=
  isBlank c = false ∧ isBreak c = false ∧ c ≠ '#' ∧ c ≠ byteOrderMark

instance (c : Char) : Decidable (IsSolid c) := inferInstanceAs (Decidable (_ ∧ _))

variable {s : Lexer} {ctx : Context} {tokens : List Token} {rest : Text}

/-- The text is at its end or begins with a solid character. -/
def StartsSolid (t : Text) : Prop := ∀ c ∈ t.head?, IsSolid c

/-- In front of a solid character, or at the end of the text, there is nothing to skip. -/
theorem skipToToken_of_startsSolid (flow keyAllowed : Bool) {t : Text} (h : StartsSolid t) :
    skipToToken flow keyAllowed false t = (keyAllowed, t) := by
  cases t with
  | nil => rfl
  | cons c t =>
    obtain ⟨hblank, hbreak, hcomment, -⟩ := h c rfl
    simp only [isBlank, Bool.or_eq_false_iff, decide_eq_false_iff_not] at hblank
    rw [skipToToken]
    · simp [hbreak, hblank, hcomment]
    · rintro rest rfl
      cases hbreak

theorem moveTo_self (s : Lexer) : s.moveTo s.rest = s := by
  simp [moveTo, Position.after]

/-- A key that is not required is kept or dropped as the lexer moves on. -/
theorem exists_refresh {key? : Option PossibleKey} (h : IsOptional key?) :
    ∃ kept?, s.refresh key? = some kept? ∧ IsOptional kept? := by
  cases key? with
  | none => exact ⟨none, rfl, h⟩
  | some key =>
    by_cases hstale : s.isStale key = true
    · exact ⟨none, by simp [refresh, hstale, h key rfl], fun _ h => nomatch h⟩
    · exact ⟨some key, by simp [refresh, hstale], h⟩

theorem exists_mapM_refresh {keys : List (Option PossibleKey)}
    (h : ∀ key? ∈ keys, IsOptional key?) :
    ∃ kept, keys.mapM s.refresh = some kept ∧ kept.length = keys.length ∧
      ∀ key? ∈ kept, IsOptional key? := by
  induction keys with
  | nil => exact ⟨[], rfl, rfl, h⟩
  | cons key? keys ih =>
    obtain ⟨hkey, hkeys⟩ := List.forall_mem_cons.1 h
    obtain ⟨kept?, hkept?, hoptional⟩ := exists_refresh (s := s) hkey
    obtain ⟨kept, hkept, hlength, hall⟩ := ih hkeys
    exact ⟨kept? :: kept, by simp [hkept?, hkept], by simp [hlength],
      List.forall_mem_cons.2 ⟨hoptional, hall⟩⟩

/-- Outside of all block collections there is none to be closed. -/
theorem closeBlocks_eq_self (h : s.indent = -1) {column : Int} (hcolumn : -1 ≤ column) :
    s.closeBlocks column = s := by
  unfold closeBlocks
  split
  · rfl
  · unfold closeBlocks.go
    rw [h, if_pos hcolumn]

theorem At.exists_dropStaleKeys (h : s.At ctx tokens rest) :
    ∃ kept, s.dropStaleKeys = some kept ∧ kept.At ctx tokens rest ∧
      kept.position = s.position ∧ s.refresh s.key? = some kept.key? := by
  obtain ⟨key?, hkey?, hoptional⟩ := exists_refresh (s := s) h.key
  obtain ⟨outerKeys, hkeys, hlength, hall⟩ := exists_mapM_refresh (s := s) h.outerKeys
  exact ⟨{ s with key?, outerKeys }, by simp [dropStaleKeys, hkey?, hkeys],
    { h with depth_eq := hlength.trans h.depth_eq, key := hoptional, outerKeys := hall }, rfl,
    hkey?⟩

/-- In front of a token, moving on to the next one changes nothing but the possible keys. -/
theorem At.exists_toToken (h : s.At ctx tokens rest) (hrest : StartsSolid rest) :
    ∃ settled, s.toToken = some settled ∧ settled.At ctx tokens rest ∧
      settled.position = s.position ∧ s.refresh s.key? = some settled.key? := by
  obtain ⟨kept, hkept, hat, hposition, hrefresh⟩ := h.exists_dropStaleKeys
  have hmark : s.rest.head? ≠ some byteOrderMark := by
    rw [h.rest_eq]
    exact fun hhead => (hrest _ hhead).2.2.2 rfl
  have hskip := skipToToken_of_startsSolid s.inFlow s.keyAllowed hrest
  rw [← h.rest_eq] at hskip
  have hclose : kept.closeBlocks kept.column = kept :=
    closeBlocks_eq_self hat.indent_eq (by unfold column; omega)
  refine ⟨kept, ?_, hat, hposition, hrefresh⟩
  rw [toToken, decide_eq_false hmark, Bool.and_false, if_neg Bool.false_ne_true]
  dsimp only
  rw [hskip]
  dsimp only
  rw [moveTo_self, hkept]
  exact congrArg some hclose

/-- Noting that a token might be a key: the key is not required, and it is noted if one is
allowed. -/
theorem At.exists_saveKey (h : s.At ctx tokens rest) :
    ∃ saved, s.saveKey = some saved ∧ saved.At ctx tokens rest ∧
      saved.position = s.position ∧
        (ctx.keyAllowed = true → saved.key? = some ⟨s.position, tokens.length, false⟩) := by
  have hcolumn : (s.indent == s.column) = false := by
    rw [h.indent_eq, beq_eq_false_iff_ne, column]
    omega
  have hsize : s.tokens.size = tokens.length := by
    rw [← h.tokens_eq, Array.length_toList]
  cases hallowed : s.keyAllowed with
  | false =>
    refine ⟨s, by simp [saveKey, hallowed], h, rfl, fun htrue => ?_⟩
    rw [← h.keyAllowed_eq, hallowed] at htrue
    cases htrue
  | true =>
    refine ⟨{ s with key? := some ⟨s.position, tokens.length, false⟩ }, ?_,
      { h with key := fun key hk => ?_ }, rfl, fun _ => rfl⟩
    · simp [saveKey, hallowed, dropKey, h.key.any_eq_false, hcolumn, hsize]
    · cases hk
      rfl

theorem At.moveTo (h : s.At ctx tokens rest) (after : Text) :
    (s.moveTo after).At ctx tokens after :=
  { h with rest_eq := rfl }

theorem At.emit (h : s.At ctx tokens rest) (t : Token) : (s.emit t).At ctx (tokens ++ [t]) rest :=
  { h with tokens_eq := by simp [Lexer.emit, h.tokens_eq] }

theorem At.dropKey (h : s.At ctx tokens rest) :
    s.dropKey = some { s with key? := none } ∧ At { s with key? := none } ctx tokens rest :=
  ⟨by simp [Lexer.dropKey, h.key.any_eq_false], { h with key := fun _ hk => nomatch hk }⟩

/-- An opening bracket leads one level down. -/
theorem At.exists_openFlow (h : s.At ctx tokens rest) (t : Token) (after : Text) :
    ∃ s', s.openFlow t after = some s' ∧
      s'.At ⟨true, ctx.depth + 1⟩ (tokens ++ [t]) after := by
  obtain ⟨saved, hsaved, hat, -, -⟩ := h.exists_saveKey
  have hnext := (hat.moveTo after).emit t
  rw [openFlow, hsaved]
  exact ⟨_, rfl,
    { hnext with
      depth_eq := congrArg (· + 1) hat.depth_eq
      keyAllowed_eq := rfl
      key := fun _ hk => nomatch hk
      outerKeys := List.forall_mem_cons.2 ⟨hat.key, hat.outerKeys⟩ }⟩

/-- A closing bracket leads one level up. -/
theorem At.exists_closeFlow {keyAllowed : Bool} {depth : Nat}
    (h : s.At ⟨keyAllowed, depth + 1⟩ tokens rest) (t : Token) (after : Text) :
    ∃ s', s.closeFlow t after = some s' ∧ s'.At ⟨false, depth⟩ (tokens ++ [t]) after := by
  obtain ⟨hdrop, hat⟩ := h.dropKey
  have hnext := (hat.moveTo after).emit t
  have hlength : s.outerKeys.length = depth + 1 := h.depth_eq
  obtain ⟨key?, outerKeys, hkeys⟩ := List.exists_cons_of_length_eq_add_one hlength
  have hall := h.outerKeys
  rw [hkeys, List.length_cons] at hlength
  rw [hkeys, List.forall_mem_cons] at hall
  refine ⟨{ (({ s with key? := none }.moveTo after).emit t) with
    keyAllowed := false, key?, outerKeys }, ?_,
    { hnext with
      depth_eq := Nat.succ.inj hlength
      keyAllowed_eq := rfl
      key := hall.1
      outerKeys := hall.2 }⟩
  simp [closeFlow, hdrop, Lexer.moveTo, Lexer.emit, hkeys]

/-- After a comma a key is allowed. -/
theorem At.exists_flowEntry (h : s.At ctx tokens rest) (after : Text) :
    ∃ s', s.flowEntry after = some s' ∧
      s'.At ⟨true, ctx.depth⟩ (tokens ++ [.flowEntry]) after := by
  obtain ⟨hdrop, hat⟩ := h.dropKey
  have hnext := (hat.moveTo after).emit .flowEntry
  rw [flowEntry, hdrop]
  exact ⟨_, rfl, { hnext with keyAllowed_eq := rfl }⟩

/-- A token that might be a key is noted where a key is allowed. -/
theorem At.exists_keyToken (h : s.At ctx tokens rest) (t : Token) (after : Text) :
    ∃ s', s.keyToken t after = some s' ∧ s'.At ⟨false, ctx.depth⟩ (tokens ++ [t]) after ∧
      s'.position = (s.moveTo after).position ∧
        (ctx.keyAllowed = true → s'.key? = some ⟨s.position, tokens.length, false⟩) := by
  obtain ⟨saved, hsaved, hat, hposition, hkey⟩ := h.exists_saveKey
  have hnext := (hat.moveTo after).emit t
  rw [keyToken, hsaved]
  refine ⟨_, rfl, { hnext with keyAllowed_eq := rfl }, ?_, hkey⟩
  simp only [Lexer.emit, Lexer.moveTo, hposition, hat.rest_eq, h.rest_eq]

theorem At.inFlow {b : Bool} {depth : Nat} (h : s.At ⟨b, depth + 1⟩ tokens rest) :
    s.inFlow = true := by
  obtain ⟨_, _, hkeys⟩ := List.exists_cons_of_length_eq_add_one h.depth_eq
  rw [Lexer.inFlow, hkeys]
  rfl

/-- A colon makes the token noted last a key. -/
theorem At.exists_value {position : Position} {before : List Token} {depth : Nat}
    {name : Token} {b : Bool} (h : s.At ⟨b, depth + 1⟩ (before ++ [name]) rest)
    (hkey : s.key? = some ⟨position, before.length, false⟩) (after : Text) :
    ∃ s', s.value after = some s' ∧
      s'.At ⟨false, depth + 1⟩ (before ++ [.key, name, .value]) after := by
  have hput : (s.emitAt before.length .key).At ⟨b, depth + 1⟩ (before ++ [.key, name]) rest := by
    refine { h with tokens_eq := ?_ }
    have hsize : s.tokens.size = before.length + 1 := by
      rw [← Array.length_toList, h.tokens_eq, List.length_append, List.length_singleton]
    simp [emitAt, hsize, h.tokens_eq]
  have hopen : (s.emitAt before.length .key).openBlock position.column before.length
      .blockMappingStart = s.emitAt before.length .key := by
    rw [openBlock, show (s.emitAt before.length .key).inFlow = true from h.inFlow]
    rfl
  have hnext := (hput.moveTo after).emit .value
  rw [List.append_assoc] at hnext
  rw [Lexer.value, hkey]
  dsimp only
  rw [hopen]
  exact ⟨_, rfl, { hnext with keyAllowed_eq := rfl, key := fun _ hk => nomatch hk }⟩

/-! ### Taking a text -/

/-- In the context `ctx` the lexer takes `text` as `tokens`, which leads to the context `ctx'`,
whatever comes before and after.  All characters of the text are allowed. -/
structure Takes (ctx : Context) (text : Text) (tokens : List Token) (ctx' : Context) : Prop where
  allowed : ∀ c ∈ text, isAllowed c = true
  steps : ∀ {s : Lexer} {before : List Token} {after : Text}, s.At ctx before (text ++ after) →
    ∃ s', Relation.ReflTransGen Step s s' ∧ s'.At ctx' (before ++ tokens) after

namespace Takes

variable {ctx₁ ctx₂ ctx₃ : Context} {text text' : Text} {tokens tokens' : List Token}

theorem nil (ctx : Context) : Takes ctx [] [] ctx where
  allowed _ hc := nomatch hc
  steps hat := ⟨_, .refl, by rwa [List.append_nil]⟩

/-- Two texts are taken one after the other. -/
theorem append (h : Takes ctx₁ text tokens ctx₂) (h' : Takes ctx₂ text' tokens' ctx₃) :
    Takes ctx₁ (text ++ text') (tokens ++ tokens') ctx₃ where
  allowed c hc := (List.mem_append.1 hc).elim (h.allowed c) (h'.allowed c)
  steps hat := by
    rw [List.append_assoc] at hat
    obtain ⟨s₁, hsteps, hat⟩ := h.steps hat
    obtain ⟨s₂, hsteps', hat⟩ := h'.steps hat
    exact ⟨s₂, hsteps.trans hsteps', by rwa [List.append_assoc] at hat⟩

/-- A character that is a token of its own. -/
theorem of_char {c : Char} {t : Token} (hallowed : isAllowed c = true) (hc : IsSolid c)
    (htake : ∀ {s : Lexer} {before : List Token} {after : Text}, s.At ctx₁ before (c :: after) →
      ∃ s', s.takeToken = some s' ∧ s'.At ctx₂ (before ++ [t]) after) :
    Takes ctx₁ [c] [t] ctx₂ where
  allowed _ hd := List.mem_singleton.1 hd ▸ hallowed
  steps hat := by
    have hsolid : ∀ after, StartsSolid (c :: after) := fun _ _ hd => Option.some.inj hd ▸ hc
    obtain ⟨settled, hto, hsettled, -, -⟩ := hat.exists_toToken (hsolid _)
    obtain ⟨s', htaken, hat'⟩ := htake hsettled
    have hne : settled.rest ≠ [] := hsettled.rest_eq ▸ List.cons_ne_nil _ _
    exact ⟨s', .single ⟨settled, hto, hne, htaken⟩, hat'⟩

theorem openingBracket (ctx : Context) :
    Takes ctx ['['] [.flowSequenceStart] ⟨true, ctx.depth + 1⟩ := by
  refine of_char (by decide) (by decide) fun {s before after} hat => ?_
  have htake : s.takeToken = s.openFlow .flowSequenceStart after := by
    simp [takeToken, hat.rest_eq, isMarker]
  exact htake ▸ hat.exists_openFlow _ after

theorem openingBrace (ctx : Context) :
    Takes ctx ['{'] [.flowMappingStart] ⟨true, ctx.depth + 1⟩ := by
  refine of_char (by decide) (by decide) fun {s before after} hat => ?_
  have htake : s.takeToken = s.openFlow .flowMappingStart after := by
    simp [takeToken, hat.rest_eq, isMarker]
  exact htake ▸ hat.exists_openFlow _ after

theorem closingBracket (keyAllowed : Bool) (depth : Nat) :
    Takes ⟨keyAllowed, depth + 1⟩ [']'] [.flowSequenceEnd] ⟨false, depth⟩ := by
  refine of_char (by decide) (by decide) fun {s before after} hat => ?_
  have htake : s.takeToken = s.closeFlow .flowSequenceEnd after := by
    simp [takeToken, hat.rest_eq, isMarker]
  exact htake ▸ hat.exists_closeFlow _ after

theorem closingBrace (keyAllowed : Bool) (depth : Nat) :
    Takes ⟨keyAllowed, depth + 1⟩ ['}'] [.flowMappingEnd] ⟨false, depth⟩ := by
  refine of_char (by decide) (by decide) fun {s before after} hat => ?_
  have htake : s.takeToken = s.closeFlow .flowMappingEnd after := by
    simp [takeToken, hat.rest_eq, isMarker]
  exact htake ▸ hat.exists_closeFlow _ after

theorem comma (ctx : Context) : Takes ctx [','] [.flowEntry] ⟨true, ctx.depth⟩ := by
  refine of_char (by decide) (by decide) fun {s before after} hat => ?_
  have htake : s.takeToken = s.flowEntry after := by simp [takeToken, hat.rest_eq, isMarker]
  exact htake ▸ hat.exists_flowEntry after

end Takes

/-! ### Strings -/

theorem quote_append (t after : Text) :
    Json.quote t ++ after = '"' :: (t.flatMap Json.escapeChar ++ '"' :: after) := by
  simp [Json.quote]

theorem length_le_length_flatMap_escapeChar {t : Text} (ht : ∀ c ∈ t, isPortable c = true) :
    t.length ≤ (t.flatMap Json.escapeChar).length := by
  induction t with
  | nil => exact Nat.le_refl _
  | cons c t ih =>
    obtain ⟨hc, ht⟩ := List.forall_mem_cons.1 ht
    obtain ⟨d, u, heq, -, -⟩ := Quoted.exists_escapeChar_eq_cons hc
    have := ih ht
    simp only [List.flatMap_cons, heq, List.length_append, List.length_cons]
    omega

/-- A quoted text is a round of its own.  Where a key is allowed, its place is noted. -/
theorem At.exists_step_quote {t after : Text} (ht : ∀ c ∈ t, isPortable c = true)
    (hat : s.At ctx tokens (Json.quote t ++ after)) :
    ∃ s', Step s s' ∧ s'.At ⟨false, ctx.depth⟩ (tokens ++ [.scalar false t]) after ∧
      s'.position = s.position.after (Json.quote t) ∧
        (ctx.keyAllowed = true → s'.key? = some ⟨s.position, tokens.length, false⟩) := by
  rw [quote_append] at hat
  have hsolid : StartsSolid ('"' :: (t.flatMap Json.escapeChar ++ '"' :: after)) :=
    fun _ hd => Option.some.inj hd ▸ (by decide)
  obtain ⟨settled, hto, hsettled, hposition, -⟩ := hat.exists_toToken hsolid
  obtain ⟨s', htaken, hat', hmoved, hkey⟩ := hsettled.exists_keyToken (.scalar false t) after
  have hread : Quoted.read true (t.flatMap Json.escapeChar ++ '"' :: after) = some (t, after) := by
    have := length_le_length_flatMap_escapeChar ht
    refine Quoted.readFrom_quoted ht after ?_
    rw [List.length_append]
    omega
  have htake : settled.takeToken = settled.keyToken (.scalar false t) after := by
    simp [takeToken, hsettled.rest_eq, isMarker, quotedScalar, hread]
  have hne : settled.rest ≠ [] := hsettled.rest_eq ▸ List.cons_ne_nil _ _
  refine ⟨s', ⟨settled, hto, hne, htake.trans htaken⟩, hat', ?_, fun h => hposition ▸ hkey h⟩
  rw [hmoved, Lexer.moveTo, hsettled.rest_eq, ← quote_append, hposition]
  simp

namespace Takes

theorem quote {t : Text} (ht : ∀ c ∈ t, isPortable c = true) (ctx : Context) :
    Takes ctx (Json.quote t) [.scalar false t] ⟨false, ctx.depth⟩ where
  allowed _ hc := isAllowed_of_isInline (isInline_of_mem_quote ht hc)
  steps hat := by
    obtain ⟨s', hstep, hat', -, -⟩ := hat.exists_step_quote ht
    exact ⟨s', .single hstep, hat'⟩

/-- A name is a key if it is not too long. -/
theorem name {t : Text} (ht : ∀ c ∈ t, isPortable c = true) (hlength : (Json.quote t).length ≤ 1024)
    (depth : Nat) : Takes ⟨true, depth + 1⟩ (Json.quote t ++ [':'])
      [.key, .scalar false t, .value] ⟨false, depth + 1⟩ where
  allowed c hc := by
    rcases List.mem_append.1 hc with hc | hc
    · exact isAllowed_of_isInline (isInline_of_mem_quote ht hc)
    · rw [List.mem_singleton.1 hc]
      decide
  steps {s before after} hat := by
    rw [List.append_assoc] at hat
    obtain ⟨named, hstep, hnamed, hposition, hkey⟩ := hat.exists_step_quote ht
    have hsolid : StartsSolid (':' :: after) := fun _ hd => Option.some.inj hd ▸ (by decide)
    obtain ⟨settled, hto, hsettled, -, hrefresh⟩ := hnamed.exists_toToken hsolid
    have hfresh : named.isStale ⟨s.position, before.length, false⟩ = false := by
      rw [isStale, hposition, Position.after_eq fun c hc =>
        isBreak_of_isInline (isInline_of_mem_quote ht hc)]
      simp
      omega
    rw [hkey rfl, refresh, hfresh] at hrefresh
    obtain ⟨s', hvalue, hat'⟩ := hsettled.exists_value (Option.some.inj hrefresh).symm after
    have hflow := hsettled.inFlow
    have htake : settled.takeToken = settled.value after := by
      simp [takeToken, hsettled.rest_eq, isMarker, hflow]
    have hne : settled.rest ≠ [] := hsettled.rest_eq ▸ List.cons_ne_nil _ _
    exact ⟨s', .head hstep (.single ⟨settled, hto, hne, htake.trans hvalue⟩), hat'⟩

end Takes

/-! ### Brackets -/

namespace Takes

section

variable {α : Type} {write : α → Text} {read : α → List Token} {xs : List α} {depth : Nat}

theorem moreParts (h : ∀ x ∈ xs, Takes ⟨true, depth⟩ (write x) (read x) ⟨false, depth⟩) :
    Takes ⟨false, depth⟩ ((xs.map write).flatMap ([','] ++ ·))
      ((xs.map read).flatMap (Token.flowEntry :: ·)) ⟨false, depth⟩ := by
  induction xs with
  | nil => exact nil _
  | cons x xs ih =>
    obtain ⟨hx, hxs⟩ := List.forall_mem_cons.1 h
    exact ((comma ⟨false, depth⟩).append hx).append (ih hxs)

/-- Parts with commas between them.  After the last of them no key is allowed. -/
theorem parts (h : ∀ x ∈ xs, Takes ⟨true, depth⟩ (write x) (read x) ⟨false, depth⟩) :
    Takes ⟨true, depth⟩ (Text.joinWith [','] (xs.map write)) (Token.separated (xs.map read))
      ⟨xs.isEmpty, depth⟩ := by
  cases xs with
  | nil => exact nil _
  | cons x xs =>
    obtain ⟨hx, hxs⟩ := List.forall_mem_cons.1 h
    rw [List.map_cons, List.map_cons, Text.joinWith_cons]
    exact hx.append (moreParts hxs)

/-- A sequence in brackets. -/
theorem brackets (ctx : Context)
    (h : ∀ x ∈ xs, Takes ⟨true, ctx.depth + 1⟩ (write x) (read x) ⟨false, ctx.depth + 1⟩) :
    Takes ctx (Json.enclose '[' ']' (xs.map write))
      ([.flowSequenceStart] ++ Token.separated (xs.map read) ++ [.flowSequenceEnd])
      ⟨false, ctx.depth⟩ :=
  ((openingBracket ctx).append (parts h)).append (closingBracket _ _)

/-- A mapping in braces. -/
theorem braces (ctx : Context)
    (h : ∀ x ∈ xs, Takes ⟨true, ctx.depth + 1⟩ (write x) (read x) ⟨false, ctx.depth + 1⟩) :
    Takes ctx (Json.enclose '{' '}' (xs.map write))
      ([.flowMappingStart] ++ Token.separated (xs.map read) ++ [.flowMappingEnd])
      ⟨false, ctx.depth⟩ :=
  ((openingBrace ctx).append (parts h)).append (closingBrace _ _)

end

end Takes

end Lexer

/-- At the end of a text the lexer is done. -/
theorem Lexer.At.run_eq {s : Lexer} {ctx : Context} {tokens : List Token} (h : s.At ctx tokens [])
    (fuel : Nat) : (run (fuel + 1) s).map Array.toList = some tokens := by
  obtain ⟨settled, hto, hsettled, -, -⟩ := h.exists_toToken fun _ hc => nomatch hc
  have hend : settled.endDocument = some { settled with key? := none, keyAllowed := false } := by
    rw [endDocument, closeBlocks_eq_self hsettled.indent_eq (Int.le_refl _), hsettled.dropKey.1]
    rfl
  rw [run, hto, Option.bind_eq_bind, Option.bind_some, hsettled.rest_eq, hend]
  exact congrArg some hsettled.tokens_eq

/-- **A text has the tokens as which it is taken.** -/
theorem Token.ofText?_of_takes {t : Text} {tokens : List Token} {ctx : Lexer.Context}
    (h : Lexer.Takes ⟨true, 0⟩ t tokens ctx) : Token.ofText? t = some tokens := by
  have hstart : (Lexer.start t).At ⟨true, 0⟩ [] (t ++ []) := by
    rw [List.append_nil]
    exact Lexer.at_start t
  obtain ⟨s, hsteps, hat⟩ := h.steps hstart
  have hrun : Lexer.run (t.length + 1) (.start t) = Lexer.run (s.rest.length + 1) s :=
    Lexer.run_of_steps hsteps (Nat.lt_succ_self _)
  rw [ofText?, if_pos (List.all_eq_true.2 h.allowed), hrun]
  exact hat.run_eq _

/-- **A text whose tokens are those of a node is the document of this node.** -/
theorem Document.ofText?_of_takes {t : Text} {tokens : List Token} {n : Node} {ctx : Lexer.Context}
    (ht : Lexer.Takes ⟨true, 0⟩ t tokens ctx) (hn : Parse.Reads tokens n) :
    Document.ofText? t = some ⟨some n, n.anchored.reverse⟩ := by
  have hparse : Parse.document (4 * tokens.length + 4) ⟨tokens, []⟩ =
      some (some n, ⟨[], []⟩) := Parse.document_eq hn (by omega)
  rw [ofText?, Token.ofText?_of_takes ht, Option.bind_eq_bind, Option.bind_some, StateT.run, hparse]
  rfl

end LinkTemplate.Yaml
