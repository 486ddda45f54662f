/- # LiveScope.Proofs.Palette.Spelling — the grammar of colours

A text spells a colour if, blanks aside, it is written in one of four forms
(`Color.Written`): a short or a long row of hexadecimal digits, or three channels in
brackets, with or without an alpha. What digits and numerals stand for is read off their
tables and not from the reader; an alpha counts by the number nearest to it.

The reader accepts the spellings and nothing else, and finds the colour that is spelled
(`Color.parse_eq_some`); so the text colour depends on nothing else. Trimming undoes the
padding of a form, which has no blank at either end, and splitting undoes the joining of
parts, which have no comma: channels and alphas are written with the characters of
numbers only (`Alpha.mem_marks`).
-/
import LiveScope.Palette.Contrast
import LiveScope.Proofs.Palette.Range

namespace LiveScope

set_option autoImplicit false

namespace Palette

open Text

/-! ### Alphas -/

namespace Alpha

theorem mem_takeFraction {c : Char} {text : List Char} (found : c ∈ text) :
    c ∈ marks ∨ c ∈ (takeFraction text).2 := by
  fun_cases takeFraction text
  · rcases List.mem_cons.1 found with rfl | found
    · exact .inl (by decide)
    · exact mem_takeDigits found
  · exact .inr found

theorem mem_marks_of_readExponent {c : Char} {text : List Char} {power : Int}
    (read : readExponent text = some power) (found : c ∈ text) : c ∈ marks := by
  cases text with
  | nil => cases found
  | cons first rest =>
      simp only [readExponent, Option.ite_none_right_eq_some] at read
      obtain ⟨named, read⟩ := read
      rcases List.mem_cons.1 found with rfl | found
      · rcases named with rfl | rfl <;> decide
      rcases mem_takeSign found with mark | found
      · exact mark
      rcases mem_takeDigits found with mark | found
      · exact mark
      · split at read
        · cases read
        · next ended => cases ended ▸ found
        · cases read

/-- An alpha is written with the characters of numbers only. -/
theorem mem_marks {text : List Char} {alpha : Alpha} (read : parse text = some alpha) :
    ∀ c ∈ text, c ∈ marks := by
  intro c found
  simp only [parse, Option.ite_none_left_eq_some, Option.map_eq_some_iff] at read
  obtain ⟨-, power, exponent, -⟩ := read
  rcases mem_takeSign found with mark | found
  · exact mark
  rcases mem_takeDigits found with mark | found
  · exact mark
  rcases mem_takeFraction found with mark | found
  · exact mark
  · exact mem_marks_of_readExponent exponent found

end Alpha

/-! ### Spellings -/

/-- Between two commas stands a channel: blanks aside, a numeral of at most 255. -/
def IsChannel (part : List Char) (value : Nat) : Prop :=
  (∃ core, Pads core part ∧ IsNumeral core value) ∧ value ≤ 255

/-- Between two commas stands an alpha: blanks aside, a number that is nearest to one
between zero and one. -/
def IsAlpha (part : List Char) : Prop :=
  ∃ core alpha number, Pads core part ∧ Alpha.parse core = some alpha ∧
    alpha.nearest? = some number ∧ 0 ≤ number ∧ number ≤ 1

/-- The parts with commas between them and the bracket that closes them. -/
def listed (parts : List (List Char)) : List Char := [','].intercalate parts ++ [')']

namespace Color

/-- The text, with no blanks around it, is written as one of the forms of a colour. -/
inductive Written : List Char → Color → Prop where
  | short {digits : List Char} {r g b : Nat} (alpha : List Nat) (atMostOne : alpha.length ≤ 1)
      (row : List.Forall₂ IsHexDigit digits ([r, g, b] ++ alpha)) :
      Written ('#' :: digits) ⟨r * 16 + r, g * 16 + g, b * 16 + b⟩
  | long {digits : List Char} {r r' g g' b b' : Nat} (alpha : List Nat)
      (noneOrTwo : alpha.length = 0 ∨ alpha.length = 2)
      (row : List.Forall₂ IsHexDigit digits ([r, r', g, g', b, b'] ++ alpha)) :
      Written ('#' :: digits) ⟨r * 16 + r', g * 16 + g', b * 16 + b'⟩
  | rgb {r g b : List Char} {color : Color} (red : IsChannel r color.red)
      (green : IsChannel g color.green) (blue : IsChannel b color.blue) :
      Written ('r' :: 'g' :: 'b' :: '(' :: listed [r, g, b]) color
  | rgba {r g b a : List Char} {color : Color} (red : IsChannel r color.red)
      (green : IsChannel g color.green) (blue : IsChannel b color.blue) (alpha : IsAlpha a) :
      Written ('r' :: 'g' :: 'b' :: 'a' :: '(' :: listed [r, g, b, a]) color

/-- The text spells the colour: blanks aside, it is written as one. -/
def Spelled (text : List Char) (color : Color) : Prop :=
  ∃ core, Pads core text ∧ Written core color

end Color

/-! ### Parts between commas -/

theorem channel?_eq_some {text : List Char} {value : Nat} :
    Color.channel? text = some value ↔ IsNumeral text value ∧ value ≤ 255 := by
  simp only [Color.channel?, List.isEmpty_iff, Option.ite_none_left_eq_some,
    Option.bind_eq_some_iff, Option.ite_none_right_eq_some, Option.some.injEq, mapM_eq_some,
    digit?_eq_some, ofDigits_eq]
  constructor
  · rintro ⟨filled, digits, row, small, rfl⟩
    exact ⟨⟨filled, digits, row, rfl⟩, small⟩
  · rintro ⟨⟨filled, digits, row, rfl⟩, small⟩
    exact ⟨filled, digits, row, small, rfl⟩

/-- A text of marks has nothing to trim and nothing to split. -/
theorem trim_of_marks {text : List Char} (marked : ∀ c ∈ text, c ∈ marks) :
    trim text = text :=
  trim_of_solid fun c found => (mark_solid (marked c found)).1

theorem no_comma_of_pads {core part : List Char} (pads : Pads core part)
    (marked : ∀ c ∈ core, c ∈ marks) : ',' ∉ part := by
  intro found
  rcases pads.mem found with blank | inside
  · exact absurd blank (by decide)
  · exact (mark_solid (marked _ inside)).2 rfl

theorem channel?_trim {part : List Char} {value : Nat} :
    Color.channel? (trim part) = some value ↔ IsChannel part value := by
  rw [channel?_eq_some]
  refine and_congr_left fun _ => ⟨fun numeral => ⟨trim part, pads_trim part, numeral⟩, ?_⟩
  rintro ⟨core, pads, numeral⟩
  rwa [pads.trim_eq, trim_of_marks numeral.mem_marks]

theorem alphaInRange_trim {part : List Char} :
    Color.alphaInRange (trim part) = true ↔ IsAlpha part := by
  constructor
  · intro accepted
    rw [Color.alphaInRange] at accepted
    split at accepted
    · next alpha read =>
        obtain ⟨number, within⟩ := (Alpha.inRange_iff (Alpha.small_of_parse read)).1 accepted
        exact ⟨trim part, alpha, number, pads_trim part, read, within⟩
    · cases accepted
  · rintro ⟨core, alpha, number, pads, read, within⟩
    rw [Color.alphaInRange, pads.trim_eq, trim_of_marks (Alpha.mem_marks read), read]
    exact (Alpha.inRange_iff (Alpha.small_of_parse read)).2 ⟨number, within⟩

theorem IsChannel.no_comma {part : List Char} {value : Nat} (channel : IsChannel part value) :
    ',' ∉ part := by
  obtain ⟨⟨core, pads, numeral⟩, -⟩ := channel
  exact no_comma_of_pads pads numeral.mem_marks

theorem IsAlpha.no_comma {part : List Char} (alpha : IsAlpha part) : ',' ∉ part := by
  obtain ⟨core, alpha, number, pads, read, -⟩ := alpha
  exact no_comma_of_pads pads (Alpha.mem_marks read)

namespace Color

theorem splitCommas_eq (text : List Char) : splitCommas text = text.splitOn ',' := by
  induction text with
  | nil => rfl
  | cons c rest ih =>
      rw [splitCommas, ih, List.splitOn_cons_eq_if_modifyHead]
      cases split : rest.splitOn ',' with
      | nil => exact absurd split (List.splitOn_ne_nil ',' rest)
      | cons part parts =>
          simp only [beq_iff_eq]
          rfl

theorem bracketed?_listed {parts : List (List Char)} (filled : parts ≠ [])
    (apart : ∀ part ∈ parts, ',' ∉ part) :
    bracketed? (listed parts) = some (parts.map trim) := by
  rw [bracketed?, listed, List.getLast?_concat, if_pos rfl, List.dropLast_concat, splitCommas_eq,
    List.splitOn_intercalate ',' apart filled]

theorem exists_of_bracketed? {text : List Char} {found : List (List Char)}
    (read : bracketed? text = some found) :
    ∃ parts, text = listed parts ∧ parts.map trim = found := by
  rw [bracketed?, Option.ite_none_right_eq_some, Option.some.injEq, splitCommas_eq] at read
  obtain ⟨closed, rfl⟩ := read
  refine ⟨text.dropLast.splitOn ',', ?_, rfl⟩
  rw [listed, List.intercalate_splitOn]
  exact (List.dropLast_append_getLast? ')' closed).symm

theorem ofChannels_trim {r g b : List Char} {color : Color} :
    ofChannels (trim r) (trim g) (trim b) = some color ↔
      IsChannel r color.red ∧ IsChannel g color.green ∧ IsChannel b color.blue := by
  simp only [← channel?_trim, ofChannels]
  constructor
  · intro read
    split at read
    · next red green blue =>
        cases read
        exact ⟨red, green, blue⟩
    · cases read
  · rintro ⟨red, green, blue⟩
    rw [red, green, blue]

/-! ### Reading -/

theorem written_of_row {digits : List Char} {values : List Nat} {color : Color}
    (row : List.Forall₂ IsHexDigit digits values) (read : ofHexDigits values = some color) :
    Written ('#' :: digits) color := by
  rw [ofHexDigits.eq_def] at read
  split at read <;> cases read
  · exact .short [] (by decide) row
  · exact .short [_] (by simp) row
  · exact .long [] (.inl rfl) row
  · exact .long [_, _] (.inr rfl) row

theorem written_of_ofTrimmed {text : List Char} {color : Color}
    (read : ofTrimmed text = some color) : Written text color := by
  rw [ofTrimmed.eq_def] at read
  split at read
  · next digits =>
      rw [Option.bind_eq_some_iff] at read
      obtain ⟨values, row, read⟩ := read
      simp only [mapM_eq_some, hexDigit?_eq_some] at row
      exact written_of_row row read
  · next rest =>
      split at read
      · next found =>
          obtain ⟨parts, rfl, trimmed⟩ := exists_of_bracketed? found
          simp only [List.map_eq_cons_iff, List.map_eq_nil_iff] at trimmed
          obtain ⟨r, _, rfl, rfl, g, _, rfl, rfl, b, _, rfl, rfl, a, _, rfl, rfl, rfl⟩ :=
            trimmed
          rw [Option.ite_none_right_eq_some, alphaInRange_trim, ofChannels_trim] at read
          obtain ⟨alpha, red, green, blue⟩ := read
          exact .rgba red green blue alpha
      · cases read
  · next rest =>
      split at read
      · next found =>
          obtain ⟨parts, rfl, trimmed⟩ := exists_of_bracketed? found
          simp only [List.map_eq_cons_iff, List.map_eq_nil_iff] at trimmed
          obtain ⟨r, _, rfl, rfl, g, _, rfl, rfl, b, _, rfl, rfl, rfl⟩ := trimmed
          rw [ofChannels_trim] at read
          obtain ⟨red, green, blue⟩ := read
          exact .rgb red green blue
      · cases read
  · cases read

theorem ofTrimmed_of_row {digits : List Char} {values : List Nat}
    (row : List.Forall₂ IsHexDigit digits values) :
    ofTrimmed ('#' :: digits) = ofHexDigits values := by
  have read : digits.mapM hexDigit? = some values := by
    simpa only [mapM_eq_some, hexDigit?_eq_some] using row
  rw [ofTrimmed, read, Option.bind_some]

theorem Written.ofTrimmed_eq {text : List Char} {color : Color} (written : Written text color) :
    ofTrimmed text = some color := by
  cases written with
  | short alpha atMostOne row =>
      rw [ofTrimmed_of_row row]
      match alpha, atMostOne with
      | [], _ => rfl
      | [_], _ => rfl
  | long alpha noneOrTwo row =>
      rw [ofTrimmed_of_row row]
      match alpha, noneOrTwo with
      | [], _ => rfl
      | [_, _], _ => rfl
  | @rgb r g b color red green blue =>
      have apart : ∀ part ∈ [r, g, b], ',' ∉ part := by
        simpa using ⟨red.no_comma, green.no_comma, blue.no_comma⟩
      rw [ofTrimmed, bracketed?_listed (by simp) apart]
      exact ofChannels_trim.2 ⟨red, green, blue⟩
  | @rgba r g b a color red green blue alpha =>
      have apart : ∀ part ∈ [r, g, b, a], ',' ∉ part := by
        simpa using ⟨red.no_comma, green.no_comma, blue.no_comma, alpha.no_comma⟩
      rw [ofTrimmed, bracketed?_listed (by simp) apart]
      simp only [List.map_cons, List.map_nil, alphaInRange_trim.2 alpha, if_true]
      exact ofChannels_trim.2 ⟨red, green, blue⟩

theorem Written.trim_eq {text : List Char} {color : Color} (written : Written text color) :
    trim text = text := by
  have ofRow : ∀ {digits : List Char} {values : List Nat},
      List.Forall₂ IsHexDigit digits values → trim ('#' :: digits) = '#' :: digits := by
    intro digits values row
    refine trim_of_solid (List.forall_mem_cons.2 ⟨by decide, fun c found => ?_⟩)
    exact (mark_solid (mem_marks_of_forall₂ IsHexDigit.mark row c found)).1
  -- inside the brackets blanks may stand, so only the ends are looked at
  have ofBracket : ∀ (opened : List Char) (parts : List (List Char)),
      trim ('r' :: opened ++ listed parts) = 'r' :: opened ++ listed parts := by
    intro opened parts
    refine trim_of_ends (fun c first => ?_) fun c last => ?_
    · cases first
      decide
    · rw [listed, ← List.append_assoc, List.getLast?_concat] at last
      cases last
      decide
  cases written with
  | short _ _ row => exact ofRow row
  | long _ _ row => exact ofRow row
  | rgb _ _ _ => exact ofBracket ['g', 'b', '('] _
  | rgba _ _ _ _ => exact ofBracket ['g', 'b', 'a', '('] _

/-- What is read is what is spelled, and everything that is spelled is read. -/
theorem parse_eq_some {text : String} {color : Color} :
    parse text = some color ↔ Spelled text.toList color := by
  constructor
  · intro read
    exact ⟨trim text.toList, pads_trim text.toList, written_of_ofTrimmed read⟩
  · rintro ⟨core, pads, written⟩
    rw [parse, pads.trim_eq, written.trim_eq, written.ofTrimmed_eq]

end Color

/-- A text colour is given for the spellings of colours, each by the colour it spells and
by nothing else about it; any other text is an error that carries that text. -/
theorem contrastText_spelled (text : String) :
    (∀ color, Color.parse text = some color ↔ Color.Spelled text.toList color) ∧
    (∀ answer, contrastText text = .ok answer ↔ ∃ color, Color.Spelled text.toList color ∧
      answer = if color.isDark then lightText else darkText) ∧
    (∀ error, contrastText text = .error error ↔
      (∀ color, ¬Color.Spelled text.toList color) ∧ error = ⟨text⟩) ∧
    ∀ other color, Color.Spelled text.toList color → Color.Spelled other.toList color →
      contrastText other = contrastText text := by
  simp only [← Color.parse_eq_some]
  refine ⟨fun color => trivial, fun answer => ?_, fun error => ?_,
    fun other color first second => ?_⟩
  · rw [contrastText]
    constructor
    · intro answered
      split at answered
      · next color read => exact ⟨color, read, (Except.ok.inj answered).symm⟩
      · cases answered
    · rintro ⟨color, read, rfl⟩
      rw [read]
  · rw [contrastText]
    constructor
    · intro failed
      split at failed
      · cases failed
      · next unread =>
          refine ⟨fun color read => ?_, (Except.error.inj failed).symm⟩
          rw [unread] at read
          cases read
    · rintro ⟨unspelled, rfl⟩
      rw [Option.eq_none_iff_forall_ne_some.2 unspelled]
  · rw [contrastText, contrastText, first, second]

/-- One colour in two spellings. -/
theorem contrastText_spelled_twice :
    contrastText "rgba( 0170,187\t,204 ,5e-1)" = contrastText " #AbCf\n" ∧
      contrastText " #AbCf\n" = .ok darkText ∧
      contrastText "#+1+1+1" = .error ⟨"#+1+1+1"⟩ := by
  have short := ((contrastText_spelled " #AbCf\n").1 ⟨170, 187, 204⟩).1 (by decide)
  have bracketed := ((contrastText_spelled "rgba( 0170,187\t,204 ,5e-1)").1 ⟨170, 187, 204⟩).1
    (by decide)
  refine ⟨(contrastText_spelled _).2.2.2 _ _ short bracketed,
    ((contrastText_spelled _).2.1 _).2 ⟨_, short, by decide +kernel⟩,
    ((contrastText_spelled _).2.2.1 _).2 ⟨fun color spelled => ?_, rfl⟩⟩
  have unread : Color.parse "#+1+1+1" = none := by decide
  exact absurd (((contrastText_spelled _).1 color).2 spelled) (by rw [unread]; simp)

end Palette

end LiveScope
