/-!
Decoding UTF-8. Where bytes are no characters, the longest beginning of a character is passed over
as one fault.
-/
namespace Storefront.Text

def utf8Bytes (cs : List Char) : List Nat :=
  cs.flatMap fun c => (String.utf8EncodeChar c).map (·.toNat)

/-- A kind of characters by their first byte: the number of further bytes, the bits of the first
byte that count, and the bounds of the second byte. -/
structure LeadByte where
  following : Nat
  bits : Nat
  low : Nat := 0x80
  high : Nat := 0xbf

/-- What a first byte announces, if it can be one. -/
def leadByte? (byte : Nat) : Option LeadByte :=
  if byte < 0x80 then some ⟨0, byte, 0x80, 0xbf⟩
  else if byte < 0xc2 then none
  else if byte < 0xe0 then some ⟨1, byte - 0xc0, 0x80, 0xbf⟩
  else if byte = 0xe0 then some ⟨2, 0, 0xa0, 0xbf⟩
  else if byte = 0xed then some ⟨2, 0xd, 0x80, 0x9f⟩
  else if byte < 0xf0 then some ⟨2, byte - 0xe0, 0x80, 0xbf⟩
  else if byte = 0xf0 then some ⟨3, 0, 0x90, 0xbf⟩
  else if byte < 0xf4 then some ⟨3, byte - 0xf0, 0x80, 0xbf⟩
  else if byte = 0xf4 then some ⟨3, 4, 0x80, 0x8f⟩
  else none

/-- Takes the bytes that continue a character, each six bits of its code point; bounds hold for the
first of them. The result is none if one is missing. -/
def continued (code low high : Nat) : Nat → List Nat → Option Char × List Nat
  | 0, bytes => (some (Char.ofNat code), bytes)
  | _ + 1, [] => (none, [])
  | following + 1, byte :: bytes =>
    if low ≤ byte ∧ byte ≤ high then
      continued (code * 64 + (byte - 0x80)) 0x80 0xbf following bytes
    else (none, byte :: bytes)

theorem continued_length (code low high following : Nat) (bytes : List Nat) :
    (continued code low high following bytes).2.length ≤ bytes.length := by
  induction following generalizing code low high bytes with
  | zero => simp [continued]
  | succ following ih =>
    cases bytes with
    | nil => simp [continued]
    | cons byte bytes =>
      simp only [continued]
      split
      · have := ih (code * 64 + (byte - 0x80)) 0x80 0xbf bytes
        simp only [List.length_cons]
        omega
      · simp

/-- The characters of a text, with none for each fault. -/
def decodeUtf8 (bytes : List Nat) : List (Option Char) :=
  match bytes with
  | [] => []
  | byte :: rest =>
    match leadByte? byte with
    | none => none :: decodeUtf8 rest
    | some lead =>
      (continued lead.bits lead.low lead.high lead.following rest).1 ::
        decodeUtf8 (continued lead.bits lead.low lead.high lead.following rest).2
termination_by bytes.length
decreasing_by
  · simp
  · have := continued_length lead.bits lead.low lead.high lead.following rest
    simp only [List.length_cons]
    omega

/-- The text of some bytes, if they are UTF-8 throughout. -/
def ofUtf8? (bytes : List Nat) : Option String :=
  ((decodeUtf8 bytes).mapM id).map String.ofList

/-- The text of some bytes with a replacement character for each fault. -/
def ofUtf8Lossy (bytes : List Nat) : String :=
  String.ofList ((decodeUtf8 bytes).map (·.getD (Char.ofNat 0xfffd)))

end Storefront.Text
