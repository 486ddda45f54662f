/- # LiveScope.Proofs.Declaration.KeyText — keys as they are written

A quoted key has no byte below `0x20`: its characters are printable
(`Json.printable_quote`), and the bytes of a character are no smaller than a space
unless the character is (`utf8EncodeChar_ge`). It is the key that stands in the
compact text of an object, so the reader of scopes gives it back, whatever it was
(`Scope.parse_quote`); and a key written bare or quoted is read back up to the
character behind it (`Reading.key?_keyText`). Two keys are therefore never written
alike.
-/
import LiveScope.Proofs.Declaration.Reading
import LiveScope.Proofs.RoundTrip

namespace LiveScope

set_option autoImplicit false

namespace Json

/-! ### Bytes -/

/-- All bytes of a character above a limit within ASCII are above it too: those that
stand for other characters have their highest bit set. -/
theorem utf8EncodeChar_ge {limit : Nat} (ascii : limit ≤ 0x80) {c : Char} (above : limit ≤ c.toNat) :
    ∀ byte ∈ String.utf8EncodeChar c, limit ≤ byte.toNat := by
  have value : c.val.toNat = c.toNat := rfl
  intro byte member
  unfold String.utf8EncodeChar at member
  simp only [value] at member
  split at member
  · rw [List.mem_singleton.1 member, UInt8.toNat_ofNat']
    omega
  · -- every byte is a remainder below the bits that mark it, and these bits
    split at member
    · simp only [List.mem_cons, List.not_mem_nil, or_false] at member
      rcases member with rfl | rfl <;> rw [UInt8.toNat_ofNat'] <;> omega
    · split at member
      · simp only [List.mem_cons, List.not_mem_nil, or_false] at member
        rcases member with rfl | rfl | rfl <;> rw [UInt8.toNat_ofNat'] <;> omega
      · simp only [List.mem_cons, List.not_mem_nil, or_false] at member
        rcases member with rfl | rfl | rfl | rfl <;> rw [UInt8.toNat_ofNat'] <;> omega

theorem mem_toUTF8_iff {text : String} {byte : UInt8} :
    byte ∈ text.toUTF8.data ↔ ∃ c ∈ text.toList, byte ∈ String.utf8EncodeChar c := by
  rw [String.toUTF8, ← String.utf8Encode_toList, List.utf8Encode]
  simp

/-- Quoted, a text has no control byte. -/
theorem printable_bytes_quote (text : String) :
    ∀ byte ∈ (quote text).toUTF8.data, 0x20 ≤ byte.toNat := by
  intro byte member
  obtain ⟨c, inText, inCode⟩ := mem_toUTF8_iff.1 member
  exact utf8EncodeChar_ge (by decide) (printable_quote text c inText) byte inCode

theorem length_quote (text : String) : text.length + 2 ≤ (quote text).length := by
  have written : ∀ chars : List Char, chars.length ≤ (chars.flatMap escaped).length := by
    intro chars
    induction chars with
    | nil => exact Nat.le_refl 0
    | cons c rest ih =>
        have some : 1 ≤ (escaped c).length := by
          rcases escaped_cases c with ⟨_, same, -⟩ | ⟨-, same⟩ | ⟨-, -, -, same⟩ <;> simp [same]
        rw [List.flatMap_cons, List.length_append, List.length_cons]
        omega
  have bound := written text.toList
  rw [String.length_toList] at bound
  simp only [quote, quoteChars, String.length_ofList, List.length_append, List.length_cons,
    List.length_nil]
  omega

end Json

/-! ### Reading back -/

/-- An object text with one quoted key is a scope with that key. -/
theorem Scope.parse_quote (key : String) :
    Scope.parse ("\x7b" ++ Json.quote key ++ ":null\x7d") = .ok ⟨[(key, .null)]⟩ := by
  have text : "\x7b" ++ Json.quote key ++ ":null\x7d" = (Json.object [(key, .null)]).compact := by
    simp only [Json.compact, Json.compactEntries, String.intercalate_singleton,
      String.append_assoc]
    rfl
  have fits : Json.Fits Json.Reader.depthLimit (.object [(key, .null)]) :=
    Json.Fits.single key .null
  simp only [Scope.parse, text, fits.parse_compact, Scope.ofJson]

theorem Json.quote_injective : Function.Injective Json.quote := by
  intro key other same
  have scopes := Scope.parse_quote key
  rw [same, Scope.parse_quote other] at scopes
  cases scopes
  rfl

namespace Declaration

theorem keyText_injective : Function.Injective keyText := by
  intro key other same
  have read := Reading.key?_keyText key ':' (by decide) []
  rw [same, Reading.key?_keyText other ':' (by decide) []] at read
  cases read
  rfl

/-- A quoted key never leaves its line, has no control byte and is read back, alone in a
scope. A key is written bare exactly if it is an identifier, else quoted; and neither the
quoted nor the written form is ever that of another key. -/
theorem written_keys :
    (∀ key : String,
      (∀ byte ∈ (Json.quote key).toUTF8.data, 0x20 ≤ byte.toNat) ∧ IsLine (Json.quote key) ∧
      Scope.parse ("\x7b" ++ Json.quote key ++ ":null\x7d") = .ok ⟨[(key, .null)]⟩ ∧
      ((isIdentifier key = true ∧ keyText key = key) ∨
        (isIdentifier key = false ∧ keyText key = Json.quote key ∧ keyText key ≠ key))) ∧
    Function.Injective Json.quote ∧ Function.Injective keyText := by
  refine ⟨fun key => ⟨Json.printable_bytes_quote key, isLine_quote key,
    Scope.parse_quote key, ?_⟩, Json.quote_injective, keyText_injective⟩
  by_cases identifier : isIdentifier key = true
  · exact .inl ⟨identifier, keyText_of_isIdentifier identifier⟩
  · have quoted : keyText key = Json.quote key := by rw [keyText, if_neg identifier]
    refine .inr ⟨Bool.eq_false_iff.2 identifier, quoted, fun same => ?_⟩
    have longer := Json.length_quote key
    rw [← quoted, same] at longer
    omega

/-- A line break is escaped, and a character of four bytes stands as it is. -/
theorem written_keys_twoLines :
    0xF0 ∈ (Json.quote "\n😀").toUTF8.data ∧ 0x20 ≤ (0xF0 : UInt8).toNat ∧
      Json.quote "\n😀" = "\"\\n😀\"" ∧
      Scope.parse ("\x7b" ++ Json.quote "\n😀" ++ ":null\x7d") = .ok ⟨[("\n😀", .null)]⟩ := by
  have member : 0xF0 ∈ (Json.quote "\n😀").toUTF8.data := by decide +kernel
  obtain ⟨printable, -, read, -⟩ := written_keys.1 "\n😀"
  exact ⟨member, printable 0xF0 member, by decide +kernel, read⟩

end Declaration

end LiveScope
