/- # LiveScope.Proofs.Quoted — quoted strings are read back

A quoted string has no character below `0x20`, so it never leaves its line
(`printable_quote`), and reading it gives the string that was quoted together
with the text after the closing quote (`string_quote`). Both go character by
character, by the three ways a character is written (`escaped_cases`);
`stringFrom_escaped` says what one escape means to the reader.
-/
import LiveScope.Json.Quoted
import LiveScope.Json.Reader

namespace LiveScope.Json

set_option autoImplicit false

open Text (hexDigit?)
open Reader (shortEscape?)

/-! ### Hexadecimal digits -/

theorem hexDigit?_hexChar (n : Nat) (below : n < 16) : hexDigit? (hexChar n) = some n := by
  have all : ∀ n < 16, hexDigit? (hexChar n) = some n := by decide
  exact all n below

theorem utf8Size_hexChar (n : Nat) (below : n < 16) : (hexChar n).utf8Size = 1 := by
  have all : ∀ n < 16, (hexChar n).utf8Size = 1 := by decide
  exact all n below

theorem printable_hexChar (n : Nat) (below : n < 16) : 0x20 ≤ (hexChar n).toNat := by
  have all : ∀ n < 16, 0x20 ≤ (hexChar n).toNat := by decide
  exact all n below

/-! ### Escapes -/

/-- A character is written as a short escape, by its code, or as it is. -/
theorem escaped_cases (c : Char) :
    (∃ short, escaped c = ['\\', short] ∧ shortEscape? short = some c ∧ short ≠ 'u' ∧
      0x20 ≤ short.toNat) ∨
    (c.toNat < 0x20 ∧
      escaped c = ['\\', 'u', '0', '0', hexChar (c.toNat / 16), hexChar (c.toNat % 16)]) ∨
    (c ≠ '"' ∧ c ≠ '\\' ∧ 0x20 ≤ c.toNat ∧ escaped c = [c]) := by
  by_cases special : c ∈ ['"', '\\', '\x08', '\x0C', '\n', '\r', '\t']
  · left
    simp only [List.mem_cons, List.not_mem_nil, or_false] at special
    rcases special with rfl | rfl | rfl | rfl | rfl | rfl | rfl
    all_goals exact ⟨_, rfl, rfl, by decide, by decide⟩
  · right
    simp only [List.mem_cons, List.not_mem_nil, or_false, not_or] at special
    obtain ⟨notQuote, notBackslash, notB, notF, notN, notR, notT⟩ := special
    simp only [escaped, notQuote, notBackslash, notB, notF, notN, notR, notT, if_false]
    by_cases control : c.toNat < 0x20
    · exact .inl ⟨control, by rw [if_pos control]⟩
    · exact .inr ⟨notQuote, notBackslash, by omega, by rw [if_neg control]⟩

/-- An escape has no control character. -/
theorem printable_escaped (c : Char) : ∀ d ∈ escaped c, 0x20 ≤ d.toNat := by
  intro d member
  rcases escaped_cases c with ⟨short, written, -, -, printable⟩ | ⟨control, written⟩ |
    ⟨-, -, printable, written⟩
  · simp only [written, List.mem_cons, List.not_mem_nil, or_false] at member
    rcases member with rfl | rfl
    · decide
    · exact printable
  · simp only [written, List.mem_cons, List.not_mem_nil, or_false] at member
    rcases member with rfl | rfl | rfl | rfl | rfl | rfl
    · decide
    · decide
    · decide
    · decide
    · exact printable_hexChar _ (by omega)
    · exact printable_hexChar _ (by omega)
  · rw [written, List.mem_singleton] at member
    exact member ▸ printable

theorem printable_quote (text : String) : ∀ d ∈ (quote text).toList, 0x20 ≤ d.toNat := by
  intro d member
  simp only [quote, quoteChars, String.toList_ofList, List.cons_append, List.mem_cons,
    List.mem_append, List.mem_flatMap, List.not_mem_nil, or_false] at member
  rcases member with rfl | ⟨c, -, inEscape⟩ | rfl
  · decide
  · exact printable_escaped c d inEscape
  · decide

/-! ### Reading back -/

namespace Reader

/-- The four digits of a code below `0x20`. -/
theorem hexUnit_control (n : Nat) (below : n < 0x20) (rest : List Char) :
    hexUnit ('0' :: '0' :: hexChar (n / 16) :: hexChar (n % 16) :: rest) = .ok n := by
  have high := hexDigit?_hexChar (n / 16) (by omega)
  have low := hexDigit?_hexChar (n % 16) (by omega)
  have zero : hexDigit? '0' = some 0 := by decide
  have bytes : byteCount ['0', '0', hexChar (n / 16), hexChar (n % 16)] = 4 := by
    simp only [byteCount, List.foldl_cons, List.foldl_nil, utf8Size_hexChar (n / 16) (by omega),
      utf8Size_hexChar (n % 16) (by omega)]
    decide
  have whole : ((0 * 16 + 0) * 16 + n / 16) * 16 + n % 16 = n := by omega
  simp only [hexUnit, List.take_succ_cons, List.take_zero, bytes, Nat.lt_irrefl, if_false, hexQuad?,
    zero, high, low, whole]

/-- An escape is read as the character it stands for. -/
theorem stringFrom_escaped (c : Char) (rest : List Char) :
    stringFrom .kept 0 (escaped c ++ rest) =
      (stringFrom .kept 0 rest).map fun (more, left) => (c :: more, left) := by
  rcases escaped_cases c with ⟨short, written, means, notU, -⟩ | ⟨control, written⟩ |
    ⟨notQuote, notBackslash, printable, written⟩
  · have meant : escape .kept (short :: rest) = .ok (c, 1) := by
      simp only [escape, means]
    simp only [written, List.cons_append, List.nil_append, stringFrom, Char.reduceEq, if_true,
      if_false, meant, Except.bind]
  · have notLow : isLowSurrogate c.toNat = false := by simp [isLowSurrogate]; omega
    have notHigh : isHighSurrogate c.toNat = false := by simp [isHighSurrogate]; omega
    have meant : escape .kept ('u' :: '0' :: '0' :: hexChar (c.toNat / 16) ::
        hexChar (c.toNat % 16) :: rest) = .ok (c, 5) := by
      simp only [escape, hexUnit_control c.toNat control, Except.bind, reduceCtorEq, if_false,
        notLow, notHigh, Bool.false_eq_true, Char.ofNat_toNat]
    simp only [written, List.cons_append, List.nil_append, stringFrom, Char.reduceEq, if_true,
      if_false, meant, Except.bind]
  · have plain : ¬c.toNat < 0x20 := by omega
    simp only [written, List.cons_append, List.nil_append, stringFrom, notQuote, notBackslash,
      plain, if_false]

theorem stringFrom_quoted (text rest : List Char) :
    stringFrom .kept 0 (text.flatMap escaped ++ '"' :: rest) = .ok (text, rest) := by
  induction text with
  | nil => rfl
  | cons c text ih =>
      rw [List.flatMap_cons, List.append_assoc, stringFrom_escaped, ih]
      rfl

/-- After its opening quote a quoted string is read to its closing one. -/
theorem string_quote (text : String) (rest : List Char) :
    ∃ quoted, (quote text).toList ++ rest = '"' :: quoted ∧
      string .kept quoted = .ok (text, rest) := by
  refine ⟨text.toList.flatMap escaped ++ '"' :: rest, ?_, ?_⟩
  · simp only [quote, quoteChars, String.toList_ofList, List.cons_append, List.append_assoc,
      List.nil_append]
  · simp only [string, stringFrom_quoted, Except.map, String.ofList_toList]

end Reader

end LiveScope.Json
