import LineTemplate.Proofs.Script.Escapes

/-!
Text literals. A grammar says which texts start with a literal in quotes, what its value is and where it ends;
the tokens that are texts are exactly these literals.
-/

set_option autoImplicit false

namespace LineTemplate.Script

open Number (isDigitIn valueFrom)

/-- What a text after a backslash starts with: what this stands for, and what follows it. -/
inductive Escape : Text → Text → Text → Prop
  | control {c v : CodeUnit} (rest : Text) (listed : (c, v) ∈ controlLetters) :
      Escape (c :: rest) [v] rest
  /-- Octal digits are taken as long as there are some and there is room. -/
  | octal {first : CodeUnit} {others rest : Text} (digit : isDigitIn 8 first = true)
      (digits : ∀ c ∈ others, isDigitIn 8 c = true) (few : others.length ≤ octalRoom first)
      (all : others.length < octalRoom first → ∀ c ∈ rest.head?, isDigitIn 8 c = false) :
      Escape (first :: (others ++ rest)) [(valueFrom 8 0 (first :: others)).toUInt16] rest
  | byte {digits : Text} (rest : Text) (two : digits.length = 2)
      (hex : ∀ c ∈ digits, isDigitIn 16 c = true) :
      Escape (CodeUnit.ofChar 'x' :: (digits ++ rest)) [(valueFrom 16 0 digits).toUInt16] rest
  | unit {digits : Text} (rest : Text) (four : digits.length = 4)
      (hex : ∀ c ∈ digits, isDigitIn 16 c = true) :
      Escape (CodeUnit.ofChar 'u' :: (digits ++ rest)) [(valueFrom 16 0 digits).toUInt16] rest
  | point {digits : Text} (rest : Text) (some : digits ≠ [])
      (hex : ∀ c ∈ digits, isDigitIn 16 c = true) (small : valueFrom 16 0 digits ≤ 0x10FFFF) :
      Escape (CodeUnit.ofChar 'u' :: CodeUnit.ofChar '\x7b' :: (digits ++ CodeUnit.ofChar '\x7d' :: rest))
        (Text.ofCodePoint (valueFrom 16 0 digits)) rest
  | continued {c : CodeUnit} (rest : Text) (ends : c.isLineEnd = true)
      (alone : ¬(c = 0x0D ∧ rest.head? = some 0x0A)) : Escape (c :: rest) [] rest
  | continuedPair (rest : Text) : Escape (0x0D :: 0x0A :: rest) [] rest
  | itself {c : CodeUnit} (rest : Text) (plain : Unescaped c) : Escape (c :: rest) [c] rest

/-- What stands after an opening quote: the value up to the closing quote, and what follows that. -/
inductive LiteralBody (quote : CodeUnit) : Text → Text → Text → Prop
  | closed (rest : Text) : LiteralBody quote (quote :: rest) [] rest
  | unit {c : CodeUnit} {source value rest : Text} (inside : c ≠ quote) (whole : c ≠ '\\')
      (within : ¬(c = 0x0A ∨ c = 0x0D)) (others : LiteralBody quote source value rest) :
      LiteralBody quote (c :: source) (c :: value) rest
  | escape {source first between value rest : Text} (escaped : Escape source first between)
      (others : LiteralBody quote between value rest) :
      LiteralBody quote (CodeUnit.ofChar '\\' :: source) (first ++ value) rest

/-- A text that starts with a literal: its value, and what follows it. -/
inductive TextLiteral : Text → Text → Text → Prop
  | double {source value rest : Text} (body : LiteralBody '"' source value rest) :
      TextLiteral (CodeUnit.ofChar '"' :: source) value rest
  | single {source value rest : Text} (body : LiteralBody '\'' source value rest) :
      TextLiteral (CodeUnit.ofChar '\'' :: source) value rest

theorem Escape.length_lt {source value rest : Text} (h : Escape source value rest) :
    rest.length < source.length := by
  cases h <;> simp only [List.length_cons, List.length_append] <;> omega

theorem Escape.taken {source value rest : Text} (h : Escape source value rest) :
    ∃ lines, takeEscape? true source = some (value, lines, rest) := by
  cases h with
  | control _ listed => exact ⟨0, takeEscape?_control rest listed⟩
  | @octal first others _ digit digits few all =>
    have taken : takeOctal (octalRoom first) (valueFrom 8 0 [first]) (others ++ rest) = _ :=
      takeOctal_eq_iff.2 ⟨others, rfl, digits, few, all, rfl⟩
    refine ⟨0, ?_⟩
    rw [takeEscape?_octal _ digit, taken]
    rfl
  | @byte digits _ two hex =>
    have taken : takeHex? 2 0 (digits ++ rest) = _ :=
      takeHex?_eq_some_iff.2 ⟨digits, rfl, two, hex, rfl⟩
    refine ⟨0, ?_⟩
    rw [takeEscape?_byte, taken]
    rfl
  | @unit digits _ four hex =>
    have taken : takeHex? 4 0 (digits ++ rest) = _ :=
      takeHex?_eq_some_iff.2 ⟨digits, rfl, four, hex, rfl⟩
    refine ⟨0, ?_⟩
    rw [takeEscape?_unit, taken]
    · rfl
    · intro brace
      obtain ⟨c, digits, rfl⟩ := List.exists_cons_of_length_eq_add_one four
      cases Option.some.inj brace
      exact absurd (hex _ List.mem_cons_self) (by decide)
  | @point digits _ some hex small =>
    exact ⟨0, takeEscape?_point_eq_some_iff.2 ⟨digits, rfl, some, hex, small, rfl, rfl⟩⟩
  | continued _ ends alone =>
    refine ⟨1, ?_⟩
    rw [takeEscape?_lineEnd _ ends, if_neg alone]
  | continuedPair => exact ⟨1, rfl⟩
  | itself _ plain => exact ⟨0, takeEscape?_itself rest plain⟩

theorem Escape.of_taken {source value rest : Text} {lines : ℕ}
    (taken : takeEscape? true source = some (value, lines, rest)) : Escape source value rest := by
  cases source with
  | nil => cases taken
  | cons c after =>
    by_cases letter : ∃ v, (c, v) ∈ controlLetters
    · obtain ⟨v, listed⟩ := letter
      rw [takeEscape?_control after listed] at taken
      cases taken
      exact .control _ listed
    by_cases octal : isDigitIn 8 c = true
    · rw [takeEscape?_octal after octal] at taken
      cases taken
      obtain ⟨digits, spelled, digit, few, all, value⟩ := takeOctal_eq_iff.1
        (rfl : takeOctal (octalRoom c) (valueFrom 8 0 [c]) after = (_, _))
      rw [value]
      generalize (takeOctal (octalRoom c) (valueFrom 8 0 [c]) after).2 = rest at spelled all
      rw [spelled]
      exact .octal octal digit few all
    by_cases x : c = 'x'
    · rw [x, takeEscape?_byte] at taken
      obtain ⟨⟨n, left⟩, hex, found⟩ := Option.map_eq_some_iff.1 taken
      cases found
      obtain ⟨digits, rfl, two, all, rfl⟩ := takeHex?_eq_some_iff.1 hex
      rw [x]
      exact .byte _ two all
    by_cases u : c = 'u'
    · rw [u] at taken ⊢
      by_cases brace : after.head? = some (CodeUnit.ofChar '\x7b')
      · obtain ⟨source, rfl⟩ := List.head?_eq_some_iff.1 brace
        obtain ⟨digits, rfl, some, hex, small, rfl, -⟩ := takeEscape?_point_eq_some_iff.1 taken
        exact .point _ some hex small
      · rw [takeEscape?_unit after brace] at taken
        obtain ⟨⟨n, left⟩, hex, found⟩ := Option.map_eq_some_iff.1 taken
        cases found
        obtain ⟨digits, rfl, four, all, rfl⟩ := takeHex?_eq_some_iff.1 hex
        exact .unit _ four all
    by_cases ends : c.isLineEnd = true
    · rw [takeEscape?_lineEnd after ends] at taken
      by_cases pair : c = 0x0D ∧ after.head? = some 0x0A
      · rw [if_pos pair] at taken
        cases taken
        obtain ⟨rfl, next⟩ := pair
        obtain ⟨rest, rfl⟩ := List.head?_eq_some_iff.1 next
        exact .continuedPair rest
      · rw [if_neg pair] at taken
        cases taken
        exact .continued _ ends pair
    have plain : Unescaped c := ⟨fun v listed => letter ⟨v, listed⟩, Bool.eq_false_iff.2 octal, ⟨x, u⟩,
      Bool.eq_false_iff.2 ends⟩
    rw [takeEscape?_itself after plain] at taken
    cases taken
    exact .itself _ plain

theorem LiteralBody.taken {quote : CodeUnit} {source value rest : Text} (other : quote ≠ '\\')
    (h : LiteralBody quote source value rest) (fuel : ℕ) (enough : source.length < fuel) :
    ∃ lines, takeQuoted? quote fuel source = some (value, lines, rest) := by
  obtain ⟨fuel, rfl⟩ : ∃ f, fuel = f + 1 := ⟨fuel - 1, by omega⟩
  induction h generalizing fuel with
  | closed rest => exact ⟨0, by rw [takeQuoted?, if_pos rfl]⟩
  | @unit c source value rest inside whole within _ ih =>
    rw [List.length_cons] at enough
    obtain ⟨fuel, rfl⟩ : ∃ f, fuel = f + 1 := ⟨fuel - 1, by omega⟩
    obtain ⟨lines, taken⟩ := ih fuel (by omega)
    refine ⟨lineEndsAt c source + lines, ?_⟩
    rw [takeQuoted?, if_neg inside, if_neg within, if_neg whole, taken]
    rfl
  | @escape source first between value rest escaped _ ih =>
    have shorter := escaped.length_lt
    rw [List.length_cons] at enough
    obtain ⟨fuel, rfl⟩ : ∃ f, fuel = f + 1 := ⟨fuel - 1, by omega⟩
    obtain ⟨lines, taken⟩ := ih fuel (by omega)
    obtain ⟨ended, escape⟩ := escaped.taken
    refine ⟨ended + lines, ?_⟩
    rw [takeQuoted?, if_neg other.symm, if_neg (by decide), if_pos rfl, escape]
    simp only [Option.bind_eq_bind, Option.bind_some, taken]

theorem LiteralBody.of_taken {quote : CodeUnit} {source value rest : Text} {fuel lines : ℕ}
    (taken : takeQuoted? quote fuel source = some (value, lines, rest)) :
    LiteralBody quote source value rest := by
  induction fuel generalizing source value lines with
  | zero => cases taken
  | succ fuel ih =>
    cases source with
    | nil => cases taken
    | cons c source =>
      rw [takeQuoted?] at taken
      split_ifs at taken with closing ends backslash
      · cases taken
        rw [closing]
        exact .closed _
      · obtain ⟨⟨first, ended, between⟩, escape, taken⟩ := Option.bind_eq_some_iff.1 taken
        obtain ⟨⟨others, more, left⟩, body, found⟩ := Option.bind_eq_some_iff.1 taken
        cases found
        rw [backslash]
        exact .escape (.of_taken escape) (ih body)
      · obtain ⟨⟨others, more, left⟩, body, found⟩ := Option.bind_eq_some_iff.1 taken
        cases found
        exact .unit closing backslash ends (ih body)

theorem exists_takeQuoted?_iff {quote : CodeUnit} (other : quote ≠ '\\') (source value rest : Text) :
    (∃ lines, takeQuoted? quote (source.length + 1) source = some (value, lines, rest)) ↔
      LiteralBody quote source value rest :=
  ⟨fun ⟨_, taken⟩ => .of_taken taken, fun body => body.taken other _ (Nat.lt_succ_self _)⟩

theorem scanNumber_kind_ne (t value : Text) : (scanNumber t).kind ≠ .text value := by
  unfold scanNumber
  dsimp only
  split
  · split_ifs <;> nofun
  · split_ifs <;> nofun
  · split
    · split_ifs <;> nofun
    · nofun

theorem scanMark_kind_ne (t value : Text) : (scanMark t).kind ≠ .text value := by
  unfold scanMark
  split <;> nofun

theorem scanStretch_kind_ne (first : Bool) (t value : Text) : (scanStretch first t).kind ≠ .text value := by
  unfold scanStretch
  split
  · cases first <;> nofun
  · nofun

theorem scanToken_kind_ne {c : CodeUnit} (rest value : Text) (other : ¬(c = '"' ∨ c = '\'')) :
    (scanToken (c :: rest)).kind ≠ .text value := by
  rw [scanToken, if_neg other]
  split_ifs
  · exact scanStretch_kind_ne true rest value
  · exact scanNumber_kind_ne _ value
  · nofun
  · exact scanMark_kind_ne _ value

theorem scanToken_quote {quote : CodeUnit} (mark : quote = '"' ∨ quote = '\'') (source value rest : Text) :
    (∃ lines, scanToken (quote :: source) = ⟨.text value, lines, rest⟩) ↔
      LiteralBody quote source value rest := by
  have other : quote ≠ '\\' := by
    rcases mark with rfl | rfl
    · decide
    · decide
  rw [← exists_takeQuoted?_iff other, scanToken, if_pos mark]
  refine exists_congr fun lines => ?_
  cases takeQuoted? quote (source.length + 1) source with
  | none => exact iff_of_false nofun nofun
  | some read => simp [Prod.ext_iff]

theorem scanToken_text_iff (source value rest : Text) :
    (∃ lines, scanToken source = ⟨.text value, lines, rest⟩) ↔ TextLiteral source value rest := by
  constructor
  · rintro ⟨lines, scanned⟩
    cases source with
    | nil => cases scanned
    | cons c source =>
      by_cases mark : c = '"' ∨ c = '\''
      · have body := (scanToken_quote mark source value rest).1 ⟨lines, scanned⟩
        rcases mark with rfl | rfl
        · exact .double body
        · exact .single body
      · exact absurd (congrArg Scanned.kind scanned) (scanToken_kind_ne source value mark)
  · rintro (body | body)
    · exact (scanToken_quote (.inl rfl) _ value rest).2 body
    · exact (scanToken_quote (.inr rfl) _ value rest).2 body

end LineTemplate.Script
