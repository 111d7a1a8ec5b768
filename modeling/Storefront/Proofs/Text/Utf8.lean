import Mathlib.Data.List.Basic
import Storefront.Text.Utf8

/-!
UTF-8 read back. The first byte of a character announces how many follow and which second ones are
possible; those limits leave out what has a shorter encoding and what is no character, so they never
stand in the way of a character that was encoded.
-/
namespace Storefront.Text

theorem utf8Bytes_append (cs more : List Char) :
    utf8Bytes (cs ++ more) = utf8Bytes cs ++ utf8Bytes more :=
  List.flatMap_append

theorem lt_of_mem_utf8Bytes {cs : List Char} {byte : Nat} (among : byte ∈ utf8Bytes cs) :
    byte < 256 := by
  obtain ⟨c, -, inside⟩ := List.mem_flatMap.mp among
  obtain ⟨unit, -, rfl⟩ := List.mem_map.mp inside
  exact unit.toNat_lt

/-! ### First bytes -/

theorem leadByte?_one {byte : Nat} (high : byte < 0x80) :
    leadByte? byte = some ⟨0, byte, 0x80, 0xbf⟩ := by
  rw [leadByte?, if_pos high]

theorem leadByte?_two {byte : Nat} (low : 0xc2 ≤ byte) (high : byte < 0xe0) :
    leadByte? byte = some ⟨1, byte - 0xc0, 0x80, 0xbf⟩ := by
  rw [leadByte?, if_neg (by omega), if_neg (by omega), if_pos high]

theorem leadByte?_three {byte : Nat} (low : 0xe0 ≤ byte) (high : byte < 0xf0) :
    leadByte? byte = some ⟨2, byte - 0xe0, if byte = 0xe0 then 0xa0 else 0x80,
      if byte = 0xed then 0x9f else 0xbf⟩ := by
  rw [leadByte?, if_neg (by omega), if_neg (by omega), if_neg (by omega)]
  by_cases first : byte = 0xe0
  · subst first
    rfl
  · by_cases surrogate : byte = 0xed
    · subst surrogate
      rfl
    · simp only [first, surrogate, high, if_true, if_false]

theorem leadByte?_four {byte : Nat} (low : 0xf0 ≤ byte) (high : byte ≤ 0xf4) :
    leadByte? byte = some ⟨3, byte - 0xf0, if byte = 0xf0 then 0x90 else 0x80,
      if byte = 0xf4 then 0x8f else 0xbf⟩ := by
  rw [leadByte?, if_neg (by omega), if_neg (by omega), if_neg (by omega), if_neg (by omega),
    if_neg (by omega), if_neg (by omega)]
  by_cases first : byte = 0xf0
  · subst first
    rfl
  · by_cases last : byte = 0xf4
    · subst last
      rfl
    · have between : byte < 0xf4 := by omega
      simp only [first, last, between, if_true, if_false]

/-! ### Characters -/

theorem decodeUtf8_cons {byte following bits low high : Nat}
    (announced : leadByte? byte = some ⟨following, bits, low, high⟩) (rest : List Nat) :
    decodeUtf8 (byte :: rest) =
      (continued bits low high following rest).1 ::
        decodeUtf8 (continued bits low high following rest).2 := by
  rw [decodeUtf8, announced]

theorem continued_cons {code low high byte : Nat} (within : low ≤ byte ∧ byte ≤ high)
    (following : Nat) (bytes : List Nat) :
    continued code low high (following + 1) (byte :: bytes) =
      continued (code * 64 + (byte - 0x80)) 0x80 0xbf following bytes := by
  rw [continued, if_pos within]

/-- The bytes of a character: its code point in groups of six bits, the first of them marked with how
many there are. -/
theorem utf8Bytes_singleton (c : Char) :
    utf8Bytes [c] =
      if c.toNat ≤ 0x7f then [c.toNat]
      else if c.toNat ≤ 0x7ff then [c.toNat / 64 + 0xc0, c.toNat % 64 + 0x80]
      else if c.toNat ≤ 0xffff then
        [c.toNat / 4096 + 0xe0, c.toNat / 64 % 64 + 0x80, c.toNat % 64 + 0x80]
      else
        [c.toNat / 262144 + 0xf0, c.toNat / 4096 % 64 + 0x80, c.toNat / 64 % 64 + 0x80,
          c.toNat % 64 + 0x80] := by
  have scalar : c.toNat < 0xd800 ∨ 0xdfff < c.toNat ∧ c.toNat < 0x110000 := c.valid
  have code : c.val.toNat = c.toNat := rfl
  simp only [utf8Bytes, List.flatMap_singleton, String.utf8EncodeChar, code]
  repeat' split
  all_goals
    simp only [List.map_cons, List.map_nil, UInt8.toNat_ofNat', List.cons.injEq, and_true]
    omega

theorem decodeUtf8_encodeChar (c : Char) (rest : List Nat) :
    decodeUtf8 (utf8Bytes [c] ++ rest) = some c :: decodeUtf8 rest := by
  have scalar : c.toNat < 0xd800 ∨ 0xdfff < c.toNat ∧ c.toNat < 0x110000 := c.valid
  have whole {code : Nat} (same : code = c.toNat) : some (Char.ofNat code) = some c := by
    rw [same, Char.ofNat_toNat]
  rw [utf8Bytes_singleton]
  split
  · rw [List.singleton_append, decodeUtf8_cons (leadByte?_one (by omega)), continued, whole rfl]
  · split
    · rw [List.cons_append, decodeUtf8_cons (leadByte?_two (by omega) (by omega)), List.singleton_append,
        continued_cons (by omega), continued, whole (by omega)]
    · split
      · rw [List.cons_append, decodeUtf8_cons (leadByte?_three (by omega) (by omega)), List.cons_append,
          continued_cons (by split <;> split <;> omega), List.singleton_append,
          continued_cons (by omega), continued, whole (by omega)]
      · rw [List.cons_append, decodeUtf8_cons (leadByte?_four (by omega) (by omega)), List.cons_append,
          continued_cons (by split <;> split <;> omega), List.cons_append, continued_cons (by omega),
          List.singleton_append, continued_cons (by omega), continued, whole (by omega)]

theorem decodeUtf8_utf8Bytes (cs : List Char) : decodeUtf8 (utf8Bytes cs) = cs.map some := by
  induction cs with
  | nil => rw [utf8Bytes, List.flatMap_nil, decodeUtf8, List.map_nil]
  | cons c cs ih =>
    have step : utf8Bytes (c :: cs) = utf8Bytes [c] ++ utf8Bytes cs := utf8Bytes_append [c] cs
    rw [step, decodeUtf8_encodeChar, ih, List.map_cons]

/-- A text is what its bytes are read as. -/
theorem ofUtf8?_utf8Bytes (cs : List Char) : ofUtf8? (utf8Bytes cs) = some (String.ofList cs) := by
  have faultless : (cs.map some).mapM id = some cs := by
    induction cs with
    | nil => rfl
    | cons c cs ih => simp [ih]
  rw [ofUtf8?, decodeUtf8_utf8Bytes, faultless, Option.map_some]

end Storefront.Text
