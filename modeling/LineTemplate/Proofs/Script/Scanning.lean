import LineTemplate.Proofs.Script.Escapes
import LineTemplate.Text.Quoted

/-!
Scanning what generated code is made of. A quoted text is read back as the text that was quoted, whatever
its units are; a name is read as one word up to the first unit that no name holds; each mark is read alone.
-/

set_option autoImplicit false

namespace LineTemplate.Script

theorem digitValue?_hexDigit (d : Nat) (h : d < 16) : (CodeUnit.hexDigit d).digitValue? = some d := by
  revert d
  decide

theorem takeHex?_numericEscape (c : CodeUnit) (rest : Text) :
    takeHex? 4 0 ([CodeUnit.hexDigit (c.toNat / 0x1000), CodeUnit.hexDigit (c.toNat / 0x100 % 0x10),
      CodeUnit.hexDigit (c.toNat / 0x10 % 0x10), CodeUnit.hexDigit (c.toNat % 0x10)] ++ rest) =
      some (c.toNat, rest) := by
  have bound : c.toNat < 65536 := c.toNat_lt
  simp only [List.cons_append, List.nil_append, takeHex?]
  rw [digitValue?_hexDigit _ (by omega), digitValue?_hexDigit _ (by omega),
    digitValue?_hexDigit _ (by omega), digitValue?_hexDigit _ (by omega)]
  simp only [Option.bind_eq_bind, Option.bind_some, Option.some.injEq, Prod.mk.injEq, and_true]
  omega

/-- What is read with a unit in front of it, which is written as this piece of code. -/
def withUnit (c : CodeUnit) (piece : Text) : Text × Nat × Text → Text × Nat × Text
  | (value, lines, rest) => (c :: value, piece.countP CodeUnit.isLineEnd + lines, rest)

theorem takeQuoted?_escape (fuel : Nat) (c : CodeUnit) (escape rest : Text)
    (h : takeEscape? true (escape ++ rest) = some ([c], 0, rest))
    (unbroken : escape.countP CodeUnit.isLineEnd = 0) :
    takeQuoted? '"' (fuel + 1) (CodeUnit.ofChar '\\' :: (escape ++ rest)) =
      (takeQuoted? '"' fuel rest).map (withUnit c (CodeUnit.ofChar '\\' :: escape)) := by
  have none_ended : List.countP CodeUnit.isLineEnd (CodeUnit.ofChar '\\' :: escape) = 0 := by
    rw [List.countP_cons_of_neg (by decide), unbroken]
  rw [takeQuoted?, if_neg (by decide), if_neg (by decide), if_pos rfl, h]
  simp only [Option.bind_eq_bind, Option.bind_some]
  cases takeQuoted? '"' fuel rest with
  | none => rfl
  | some read => simp [withUnit, none_ended]

theorem isLineEnd_hexDigit (d : Nat) (h : d < 16) : (CodeUnit.hexDigit d).isLineEnd = false := by
  revert d
  decide

theorem takeQuoted?_numericEscape (fuel : Nat) (c : CodeUnit) (rest : Text) :
    takeQuoted? '"' (fuel + 1) (Text.numericEscape c ++ rest) =
      (takeQuoted? '"' fuel rest).map (withUnit c (Text.numericEscape c)) := by
  have bound : c.toNat < 65536 := c.toNat_lt
  refine takeQuoted?_escape fuel c (CodeUnit.ofChar 'u' ::
    [CodeUnit.hexDigit (c.toNat / 0x1000), CodeUnit.hexDigit (c.toNat / 0x100 % 0x10),
      CodeUnit.hexDigit (c.toNat / 0x10 % 0x10), CodeUnit.hexDigit (c.toNat % 0x10)]) rest ?_ ?_
  · have brace (d : Nat) (h : d < 16) : CodeUnit.hexDigit d ≠ CodeUnit.ofChar '\x7b' := by
      revert d
      decide
    rw [List.cons_append, takeEscape?_unit, takeHex?_numericEscape]
    · simp
    · exact fun same => brace _ (by omega) (Option.some.inj same)
  · refine List.countP_eq_zero.2 fun d inside => ?_
    simp only [List.mem_cons, List.not_mem_nil, or_false] at inside
    rcases inside with rfl | rfl | rfl | rfl | rfl
    · decide
    all_goals rw [isLineEnd_hexDigit _ (by omega)]; decide

theorem lineEndsAt_of_ne {c : CodeUnit} (rest : Text) (h : c ≠ 0x0D) :
    lineEndsAt c rest = [c].countP CodeUnit.isLineEnd := by
  rw [lineEndsAt, if_neg (by simp [h]), List.countP_singleton]

theorem takeQuoted?_quotedUnit (fuel : Nat) (c : CodeUnit) (rest : Text) :
    takeQuoted? '"' (fuel + 1) (Text.quotedUnit c ++ rest) =
      (takeQuoted? '"' fuel rest).map (withUnit c (Text.quotedUnit c)) := by
  unfold Text.quotedUnit
  split
  · rename_i same
    exact takeQuoted?_escape fuel c [0x22] rest (by rw [same]; rfl) (by decide)
  split
  · rename_i same
    exact takeQuoted?_escape fuel c [0x5C] rest (by rw [same]; rfl) (by decide)
  split
  · rename_i same
    exact takeQuoted?_escape fuel c [0x62] rest (by rw [same]; rfl) (by decide)
  split
  · rename_i same
    exact takeQuoted?_escape fuel c [0x74] rest (by rw [same]; rfl) (by decide)
  split
  · rename_i same
    exact takeQuoted?_escape fuel c [0x6E] rest (by rw [same]; rfl) (by decide)
  split
  · rename_i same
    exact takeQuoted?_escape fuel c [0x66] rest (by rw [same]; rfl) (by decide)
  split
  · rename_i same
    exact takeQuoted?_escape fuel c [0x72] rest (by rw [same]; rfl) (by decide)
  split
  · exact takeQuoted?_numericEscape fuel c rest
  -- A unit that is copied ends a line if it is a separator.
  · rename_i quote backslash _ _ line _ carriage visible
    rw [List.singleton_append, takeQuoted?, if_neg quote, if_neg (by simp [line, carriage]),
      if_neg backslash, lineEndsAt_of_ne rest carriage]
    cases takeQuoted? '"' fuel rest <;> rfl

theorem takeQuoted?_surrogate (fuel : Nat) (c : CodeUnit) (rest : Text)
    (h : c.isHighSurrogate = true ∨ c.isLowSurrogate = true) :
    takeQuoted? '"' (fuel + 1) (c :: rest) = (takeQuoted? '"' fuel rest).map (withUnit c [c]) := by
  have ne (d : CodeUnit) (high : d.isHighSurrogate = false) (low : d.isLowSurrogate = false) :
      c ≠ d := by
    rintro rfl
    simp [high, low] at h
  have carriage : c ≠ 0x0D := ne _ (by decide) (by decide)
  have line : ¬(c = 0x0A ∨ c = 0x0D) := by
    rintro (same | same)
    · exact ne _ (by decide) (by decide) same
    · exact carriage same
  rw [takeQuoted?, if_neg (ne _ (by decide) (by decide)), if_neg line,
    if_neg (ne _ (by decide) (by decide)), lineEndsAt_of_ne rest carriage]
  cases takeQuoted? '"' fuel rest <;> rfl

theorem quotedUnit_ne_nil (c : CodeUnit) : 0 < (Text.quotedUnit c).length := by
  unfold Text.quotedUnit
  repeat' split
  all_goals first | decide | simp [Text.numericEscape]

theorem takeQuoted?_quotedBody (t rest : Text) (fuel : Nat) (h : (Text.quotedBody t).length < fuel) :
    takeQuoted? '"' fuel (Text.quotedBody t ++ CodeUnit.ofChar '"' :: rest) =
      some (t, (Text.quotedBody t).countP CodeUnit.isLineEnd, rest) := by
  have escape_length (c : CodeUnit) : 0 < (Text.numericEscape c).length := by
    simp [Text.numericEscape]
  obtain ⟨fuel, rfl⟩ : ∃ f, fuel = f + 1 := ⟨fuel - 1, by omega⟩
  -- Each step reads as much as quoting has written for a unit, or for a pair of surrogates.
  fun_induction Text.quotedBody t generalizing fuel with
  | case1 => simp [takeQuoted?]
  | case2 c surrogate =>
    have := escape_length c
    obtain ⟨fuel, rfl⟩ : ∃ f, fuel = f + 1 := ⟨fuel - 1, by omega⟩
    rw [takeQuoted?_numericEscape, takeQuoted?, if_pos rfl]
    rfl
  | case3 c plain =>
    have := quotedUnit_ne_nil c
    obtain ⟨fuel, rfl⟩ : ∃ f, fuel = f + 1 := ⟨fuel - 1, by omega⟩
    rw [takeQuoted?_quotedUnit, takeQuoted?, if_pos rfl]
    rfl
  | case4 c e others high low ih =>
    simp only [List.length_cons] at h
    obtain ⟨fuel, rfl⟩ : ∃ f, fuel = f + 2 := ⟨fuel - 2, by omega⟩
    have count : List.countP CodeUnit.isLineEnd (c :: e :: Text.quotedBody others) =
        [c].countP CodeUnit.isLineEnd + ([e].countP CodeUnit.isLineEnd +
          (Text.quotedBody others).countP CodeUnit.isLineEnd) := by
      rw [← List.countP_append, ← List.countP_append]
      rfl
    rw [List.cons_append, List.cons_append, takeQuoted?_surrogate _ _ _ (.inl high),
      takeQuoted?_surrogate _ _ _ (.inr low), ih fuel (by omega), count]
    rfl
  | case5 c e others high low ih =>
    have := escape_length c
    simp only [List.length_append] at h
    obtain ⟨fuel, rfl⟩ : ∃ f, fuel = f + 1 := ⟨fuel - 1, by omega⟩
    rw [List.append_assoc, takeQuoted?_numericEscape, ih fuel (by omega), List.countP_append]
    rfl
  | case6 c e others high low ih =>
    have := escape_length c
    simp only [List.length_append] at h
    obtain ⟨fuel, rfl⟩ : ∃ f, fuel = f + 1 := ⟨fuel - 1, by omega⟩
    rw [List.append_assoc, takeQuoted?_numericEscape, ih fuel (by omega), List.countP_append]
    rfl
  | case7 c e others high low ih =>
    have := quotedUnit_ne_nil c
    simp only [List.length_append] at h
    obtain ⟨fuel, rfl⟩ : ∃ f, fuel = f + 1 := ⟨fuel - 1, by omega⟩
    rw [List.append_assoc, takeQuoted?_quotedUnit, ih fuel (by omega), List.countP_append]
    rfl

theorem scanToken_quoted (t rest : Text) :
    scanToken (t.quoted ++ rest) = ⟨.text t, t.quoted.countP CodeUnit.isLineEnd, rest⟩ := by
  have mark : ("\"" : Text) = [CodeUnit.ofChar '"'] := rfl
  have whole : t.quoted ++ rest =
      CodeUnit.ofChar '"' :: (Text.quotedBody t ++ CodeUnit.ofChar '"' :: rest) := by
    simp [Text.quoted, mark]
  have count : t.quoted.countP CodeUnit.isLineEnd = (Text.quotedBody t).countP CodeUnit.isLineEnd := by
    have none_ended : [CodeUnit.ofChar '"'].countP CodeUnit.isLineEnd = 0 := by decide
    rw [Text.quoted, mark, List.countP_append, List.countP_append, none_ended, Nat.zero_add, Nat.add_zero]
  have enough : (Text.quotedBody t).length <
      (Text.quotedBody t ++ CodeUnit.ofChar '"' :: rest).length + 1 := by
    rw [List.length_append]
    omega
  rw [whole, scanToken, if_pos (.inl rfl), takeQuoted?_quotedBody t rest _ enough, count]

/-- A text that is one word, reserved or not. -/
structure Word (t : Text) : Prop where
  starts : startsName (pointOf (takePoint t).1) = true
  whole : takeName t = (t, [])

instance (t : Text) : Decidable (Word t) :=
  decidable_of_iff (startsName (pointOf (takePoint t).1) = true ∧ takeName t = (t, []))
    ⟨fun h => ⟨h.1, h.2⟩, fun h => ⟨h.1, h.2⟩⟩

/-- A text that starts with a unit which no word holds. -/
def EndsWord (t : Text) : Prop := ∃ c rest, t = c :: rest ∧ c.toNat < 0x80 ∧ continuesName c.toNat = false

theorem not_isHighSurrogate {c : CodeUnit} (h : c.toNat < 0x80) : c.isHighSurrogate = false := by
  have low : ¬(0xD800 : CodeUnit) ≤ c := by
    rw [UInt16.le_iff_toNat_le]
    change ¬0xD800 ≤ c.toNat
    omega
  simp [CodeUnit.isHighSurrogate, low]

theorem not_isLowSurrogate {c : CodeUnit} (h : c.toNat < 0x80) : c.isLowSurrogate = false := by
  have low : ¬(0xDC00 : CodeUnit) ≤ c := by
    rw [UInt16.le_iff_toNat_le]
    change ¬0xDC00 ≤ c.toNat
    omega
  simp [CodeUnit.isLowSurrogate, low]

theorem takeName_of_endsWord {t : Text} (h : EndsWord t) : takeName t = ([], t) := by
  obtain ⟨c, rest, rfl, ascii, ends⟩ := h
  cases rest with
  | nil => simp [takeName, ends]
  | cons d rest => simp [takeName, not_isHighSurrogate ascii, ends]

theorem takeName_append (t rest : Text) (whole : takeName t = (t, [])) (h : EndsWord rest) :
    takeName (t ++ rest) = (t, rest) := by
  fun_induction takeName t with
  | case1 => exact takeName_of_endsWord h
  | case2 c continues =>
    have next := takeName_of_endsWord h
    obtain ⟨d, rest, rfl, ascii, -⟩ := h
    simp [takeName, not_isLowSurrogate ascii, continues, next]
  | case3 c stops => simp at whole
  | case4 c d others pair continues name after taken ih =>
    obtain ⟨rfl, rfl⟩ : name = others ∧ after = [] := by simpa using whole
    simp [takeName, pair, continues, ih taken]
  | case5 c d others pair stops => simp at whole
  | case6 c d others single continues name after taken ih =>
    obtain ⟨rfl, rfl⟩ : name = d :: others ∧ after = [] := by simpa using whole
    have rest_taken := ih taken
    rw [List.cons_append] at rest_taken
    simp [takeName, single, continues, rest_taken]
  | case7 c d others single stops => simp at whole

theorem takePoint_append (c : CodeUnit) (others rest : Text) (h : EndsWord rest) :
    (takePoint (c :: others ++ rest)).1 = (takePoint (c :: others)).1 := by
  cases others with
  | nil =>
    obtain ⟨d, rest, rfl, ascii, -⟩ := h
    simp [takePoint, not_isLowSurrogate ascii]
  | cons d others =>
    simp only [List.cons_append, takePoint]
    split <;> rfl

theorem not_startsName_of_isBlank (c : CodeUnit) (h : c.isBlank = true) :
    startsName c.toNat = false := by
  have low (n : Nat) (h : n < 0x21) : startsName n = false := by
    revert n
    decide
  have wide (n : Nat) (h : n < 11) : startsName (0x2000 + n) = false := by
    revert n
    decide +kernel
  simp only [CodeUnit.isBlank, Bool.or_eq_true, Bool.and_eq_true, decide_eq_true_eq, beq_iff_eq,
    UInt16.le_iff_toNat_le] at h
  rcases h with (((((((((h | h) | h) | h) | h) | h) | h) | h) | h) | h) | h
  · refine low _ ?_
    have : c.toNat ≤ 0x0D := h.2
    omega
  · exact h ▸ by decide
  · exact h ▸ by decide +kernel
  · exact h ▸ by decide +kernel
  · have least : 0x2000 ≤ c.toNat := h.1
    have most : c.toNat ≤ 0x200A := h.2
    have found := wide (c.toNat - 0x2000) (by omega)
    rwa [Nat.add_sub_cancel' least] at found
  all_goals exact h ▸ by decide +kernel

theorem Word.first {c : CodeUnit} {others : Text} (h : Word (c :: others)) :
    c.isBlank = false ∧ ∀ n < 0x80, startsName n = false → c.toNat ≠ n := by
  by_cases pair : c.isHighSurrogate = true
  · have high : 0xD800 ≤ c.toNat := by
      simp only [CodeUnit.isHighSurrogate, Bool.and_eq_true, decide_eq_true_eq,
        UInt16.le_iff_toNat_le] at pair
      exact pair.1
    have below : c.toNat < 0xDC00 := by
      simp only [CodeUnit.isHighSurrogate, Bool.and_eq_true, decide_eq_true_eq,
        UInt16.lt_iff_toNat_lt] at pair
      exact pair.2
    refine ⟨?_, fun n small _ => by omega⟩
    refine Bool.eq_false_iff.2 fun blank => ?_
    simp only [CodeUnit.isBlank, Bool.or_eq_true, Bool.and_eq_true, decide_eq_true_eq, beq_iff_eq,
      UInt16.le_iff_toNat_le, ← UInt16.toNat_inj] at blank
    simp at blank
    omega
  · have point : pointOf (takePoint (c :: others)).1 = c.toNat := by
      cases others with
      | nil => rfl
      | cons d others => simp [takePoint, pair, pointOf, Text.codePoints]
    have starts := h.starts
    rw [point] at starts
    refine ⟨?_, fun n _ no same => ?_⟩
    · refine Bool.eq_false_iff.2 fun blank => ?_
      simp [not_startsName_of_isBlank c blank] at starts
    · rw [same, no] at starts
      exact Bool.false_ne_true starts

theorem Word.first_ne {c d : CodeUnit} {others : Text} (h : Word (c :: others))
    (small : d.toNat < 0x80) (no : startsName d.toNat = false) : c ≠ d := by
  rintro rfl
  exact h.first.2 _ small no rfl

theorem noLineFeed_of_takeName {t : Text} (whole : takeName t = (t, [])) : 0x0A ∉ t := by
  fun_induction takeName t with
  | case1 => exact List.not_mem_nil
  | case2 c continues =>
    intro inside
    rw [← List.mem_singleton.1 inside] at continues
    exact absurd continues (by decide)
  | case3 c stops => simp at whole
  | case4 c d others pair continues name after taken ih =>
    obtain ⟨rfl, rfl⟩ : name = others ∧ after = [] := by simpa using whole
    rw [Bool.and_eq_true] at pair
    rintro (_ | ⟨_, _ | ⟨_, inside⟩⟩)
    · exact absurd pair.1 (by decide)
    · exact absurd pair.2 (by decide)
    · exact ih taken inside
  | case5 c d others pair stops => simp at whole
  | case6 c d others single continues name after taken ih =>
    obtain ⟨rfl, rfl⟩ : name = d :: others ∧ after = [] := by simpa using whole
    rintro (_ | ⟨_, inside⟩)
    · exact absurd continues (by decide)
    · exact ih taken inside
  | case7 c d others single stops => simp at whole

theorem Word.noLineFeed {t : Text} (word : Word t) : 0x0A ∉ t := noLineFeed_of_takeName word.whole

theorem scanToken_word (t rest : Text) (word : Word t) (h : EndsWord rest) :
    scanToken (t ++ rest) = ⟨.word t, 0, rest⟩ := by
  cases t with
  | nil => exact absurd word.starts (by decide)
  | cons c others =>
    have digit : c.isDigit = false := by
      refine Bool.eq_false_iff.2 fun digit => ?_
      obtain ⟨least, most⟩ := c.isDigit_iff.1 digit
      have no (n : Nat) (h : n < 0x3A) (h' : 0x30 ≤ n) : startsName n = false := by
        revert n
        decide
      exact word.first.2 c.toNat (by omega) (no _ (by omega) least) rfl
    have quotes : ¬(c = '"' ∨ c = '\'') := by
      rintro (same | same)
      · exact word.first_ne (by decide) (by decide) same
      · exact word.first_ne (by decide) (by decide) same
    have dot : c ≠ '.' := word.first_ne (by decide) (by decide)
    rw [List.cons_append, scanToken, if_neg quotes,
      if_neg (word.first_ne (d := '\x60') (by decide) (by decide)),
      if_neg (by simp [digit, dot]), ← List.cons_append, takePoint_append c others rest h,
      if_pos word.starts, takeName_append _ _ word.whole h]

def loneMarks : List CodeUnit := List.map CodeUnit.ofChar ['(', ')', '[', ']', '\x7b', '\x7d', ';', ',']

theorem scanToken_loneMark (c : CodeUnit) (rest : Text) (h : c ∈ loneMarks) :
    scanToken (c :: rest) = ⟨.mark [c], 0, rest⟩ := by
  simp only [loneMarks, List.map_cons, List.map_nil, List.mem_cons, List.not_mem_nil, or_false] at h
  rcases h with rfl | rfl | rfl | rfl | rfl | rfl | rfl | rfl
  all_goals cases rest <;> rfl

theorem scanToken_arrow (rest : Text) :
    scanToken (CodeUnit.ofChar '=' :: CodeUnit.ofChar '>' :: rest) = ⟨.mark "=>", 0, rest⟩ := rfl

theorem scanToken_spacedMark (c : CodeUnit) (rest : Text) (h : c = '=' ∨ c = '+') :
    scanToken (c :: CodeUnit.ofChar ' ' :: rest) = ⟨.mark [c], 0, CodeUnit.ofChar ' ' :: rest⟩ := by
  rcases h with rfl | rfl <;> rfl

theorem scanToken_dot (c : CodeUnit) (rest : Text) (h : c = 'p') :
    scanToken (CodeUnit.ofChar '.' :: c :: rest) = ⟨.mark ".", 0, c :: rest⟩ := by
  rw [h]
  rfl

/-- A unit at which no blank and no comment starts. -/
def Solid (c : CodeUnit) : Prop := c.isBlank = false ∧ c ≠ '/' ∧ c ≠ '<' ∧ c ≠ '-'

instance (c : CodeUnit) : Decidable (Solid c) := inferInstanceAs (Decidable (_ ∧ _))

theorem Word.solid {c : CodeUnit} {others : Text} (h : Word (c :: others)) : Solid c :=
  ⟨h.first.1, h.first_ne (by decide) (by decide), h.first_ne (by decide) (by decide),
    h.first_ne (by decide) (by decide)⟩

theorem skip_between_cons (line : Nat) (broke : Bool) (c : CodeUnit) (rest : Text) :
    skip .between line broke (c :: rest) =
      if c.isLineEnd then skip .between (line + lineEndsAt c rest) true rest
      else if c.isBlank then skip .between line broke rest
      else if startsLineComment broke (c :: rest) then skip .lineComment line broke rest
      else
        match rest with
        | [] => ⟨c :: rest, line, broke, none⟩
        | d :: after =>
          if c = '/' && d = '*' then skip (.blockComment line) line broke after
          else ⟨c :: d :: after, line, broke, none⟩ := by
  cases rest <;> rfl

theorem skip_lineComment_cons (line : Nat) (broke : Bool) (c : CodeUnit) (rest : Text) :
    skip .lineComment line broke (c :: rest) =
      if c.isLineEnd then skip .between (line + lineEndsAt c rest) true rest
      else skip .lineComment line broke rest := by
  cases rest <;> rfl

theorem skip_solid (line : Nat) (broke : Bool) (c : CodeUnit) (rest : Text) (h : Solid c) :
    skip .between line broke (c :: rest) = ⟨c :: rest, line, broke, none⟩ := by
  obtain ⟨blank, slash, less, minus⟩ := h
  have lineEnd : c.isLineEnd = false :=
    Bool.eq_false_iff.2 fun ends => by simp [CodeUnit.isBlank_of_isLineEnd c ends] at blank
  have comment : startsLineComment broke (c :: rest) = false := by
    have slashes : ("//" : Text) = [CodeUnit.ofChar '/', CodeUnit.ofChar '/'] := rfl
    have opening : ("<!--" : Text) = [CodeUnit.ofChar '<', CodeUnit.ofChar '!', CodeUnit.ofChar '-',
      CodeUnit.ofChar '-'] := rfl
    have closing : ("-->" : Text) = [CodeUnit.ofChar '-', CodeUnit.ofChar '-', CodeUnit.ofChar '>'] :=
      rfl
    rw [startsLineComment, slashes, opening, closing]
    simp [List.isPrefixOf, slash.symm, less.symm, minus.symm]
  rw [skip_between_cons, if_neg (by simp [lineEnd]), if_neg (by simp [blank]),
    if_neg (by simp [comment])]
  cases rest with
  | nil => rfl
  | cons d rest => simp [slash]

theorem skip_space (line : Nat) (broke : Bool) (rest : Text) :
    skip .between line broke (CodeUnit.ofChar ' ' :: rest) = skip .between line broke rest := by
  rw [skip_between_cons, if_neg (by decide), if_pos (by decide)]

theorem skip_newline (line : Nat) (broke : Bool) (rest : Text) :
    skip .between line broke (0x0A :: rest) = skip .between (line + 1) true rest := by
  rw [skip_between_cons, if_pos (by decide)]
  rfl

theorem skip_lineComment (line : Nat) (broke : Bool) (t rest : Text)
    (h : ∀ c ∈ t, c.isLineEnd = false) :
    skip .lineComment line broke (t ++ 0x0A :: rest) = skip .between (line + 1) true rest := by
  induction t with
  | nil =>
    rw [List.nil_append, skip_lineComment_cons, if_pos (by decide)]
    rfl
  | cons c t ih =>
    rw [List.cons_append, skip_lineComment_cons, if_neg (by simp [h c List.mem_cons_self]),
      ih fun d inside => h d (List.mem_cons_of_mem c inside)]

theorem skip_comment (line : Nat) (broke : Bool) (t rest : Text)
    (h : ∀ c ∈ t, c.isLineEnd = false) :
    skip .between line broke (CodeUnit.ofChar '/' :: CodeUnit.ofChar '/' :: (t ++ 0x0A :: rest)) =
      skip .between (line + 1) true rest := by
  have comment (t : Text) : startsLineComment broke
      (CodeUnit.ofChar '/' :: CodeUnit.ofChar '/' :: t) = true := rfl
  rw [skip_between_cons, if_neg (by decide), if_neg (by decide), if_pos (comment _)]
  have lines := skip_lineComment line broke (CodeUnit.ofChar '/' :: t) rest fun c inside => by
    rcases List.mem_cons.1 inside with rfl | inside
    · decide
    · exact h c inside
  exact lines

end LineTemplate.Script
