import Mathlib.Data.List.TakeWhile
import Storefront.Proofs.Expansion.Syntax
import Storefront.Proofs.Text.Utf8
import Storefront.Service.Uri

/-!
Addresses put together from segments. A segment spells a text if it holds nothing that ends a segment and
is decoded to the text; every text has such a segment, in which all but a few characters are written byte
by byte. A path is taken apart into the segments that it was put together from.
-/
namespace Storefront.Uri

variable {segment : List Char} {text : String}

/-- No character of it ends a segment of a path. -/
def IsSegment (segment : List Char) : Prop :=
  ∀ c ∈ segment, c ≠ '/' ∧ c ≠ '?' ∧ c ≠ '#'

/-- A segment stands for a text. -/
structure Spells (segment : List Char) (text : String) : Prop where
  whole : IsSegment segment
  decodes : decodeSegment? segment = some text

theorem Spells.ne_nil (spells : Spells segment text) (nonempty : text ≠ "") : segment ≠ [] := by
  rintro rfl
  have blank : decodeSegment? [] = some "" := Text.ofUtf8?_utf8Bytes []
  exact nonempty (Option.some.inj (spells.decodes.symm.trans blank))

theorem isSegment_of_spells {parts : List (List Char)} {values : List String}
    (spelt : List.Forall₂ Spells parts values) : ∀ segment ∈ parts, IsSegment segment := by
  induction spelt with
  | nil => exact List.forall_mem_nil _
  | cons here _ ih => exact List.forall_mem_cons.mpr ⟨here.whole, ih⟩

/-! ### Encoding -/

/-- The characters that stand for themselves wherever they are. -/
def isUnreserved (c : Char) : Bool :=
  ('a' ≤ c && c ≤ 'z') || ('A' ≤ c && c ≤ 'Z') || ('0' ≤ c && c ≤ '9') || "-._~".toList.contains c

def hexDigit (n : Nat) : Char :=
  n.digitChar.toUpper

def encodeByte (byte : Nat) : List Char :=
  ['%', hexDigit (byte / 16), hexDigit (byte % 16)]

def encodeChar (c : Char) : List Char :=
  if isUnreserved c then [c] else (Text.utf8Bytes [c]).flatMap encodeByte

/-- A text as a segment. -/
def encodeSegment (text : String) : List Char :=
  text.toList.flatMap encodeChar

theorem hexValue?_hexDigit {n : Nat} (digit : n < 16) : Reading.hexValue? (hexDigit n) = some n := by
  decide +revert

theorem isUnreserved_hexDigit {n : Nat} (digit : n < 16) : isUnreserved (hexDigit n) = true := by
  decide +revert

theorem percentDecode_cons {c : Char} (other : c ≠ '%') (rest : List Char) :
    percentDecode (c :: rest) = Text.utf8Bytes [c] ++ percentDecode rest := by
  rw [percentDecode]
  exact fun _ _ _ sign _ => other sign

theorem percentDecode_encodeByte {byte : Nat} (range : byte < 256) (rest : List Char) :
    percentDecode (encodeByte byte ++ rest) = byte :: percentDecode rest := by
  have high : Reading.hexValue? (hexDigit (byte / 16)) = some (byte / 16) :=
    hexValue?_hexDigit (by omega)
  have low : Reading.hexValue? (hexDigit (byte % 16)) = some (byte % 16) :=
    hexValue?_hexDigit (by omega)
  have whole : byte / 16 * 16 + byte % 16 = byte := Nat.div_add_mod' byte 16
  simp only [encodeByte, List.cons_append, List.nil_append, percentDecode, high, low, whole]

theorem percentDecode_encodeBytes {bytes : List Nat} (range : ∀ byte ∈ bytes, byte < 256)
    (rest : List Char) :
    percentDecode (bytes.flatMap encodeByte ++ rest) = bytes ++ percentDecode rest := by
  induction bytes with
  | nil => rfl
  | cons byte bytes ih =>
    obtain ⟨here, behind⟩ := List.forall_mem_cons.mp range
    rw [List.flatMap_cons, List.append_assoc, percentDecode_encodeByte here, ih behind,
      List.cons_append]

theorem percentDecode_encodeChar (c : Char) (rest : List Char) :
    percentDecode (encodeChar c ++ rest) = Text.utf8Bytes [c] ++ percentDecode rest := by
  unfold encodeChar
  split
  · rename_i kept
    refine percentDecode_cons ?_ rest
    rintro rfl
    contradiction
  · exact percentDecode_encodeBytes (fun _ => Text.lt_of_mem_utf8Bytes) rest

theorem percentDecode_encodeSegment (text : String) :
    percentDecode (encodeSegment text) = Text.utf8Bytes text.toList := by
  unfold encodeSegment
  induction text.toList with
  | nil => rfl
  | cons c cs ih =>
    rw [List.flatMap_cons, percentDecode_encodeChar, ih, ← Text.utf8Bytes_append,
      List.singleton_append]

theorem isSegment_encodeSegment (text : String) : IsSegment (encodeSegment text) := by
  intro c among
  have ordinary : isUnreserved c = true ∨ c = '%' := by
    obtain ⟨source, -, inside⟩ := List.mem_flatMap.mp among
    unfold encodeChar at inside
    split at inside
    · rename_i kept
      rw [List.mem_singleton.mp inside]
      exact .inl kept
    · obtain ⟨byte, unit, digit⟩ := List.mem_flatMap.mp inside
      have range := Text.lt_of_mem_utf8Bytes unit
      simp only [encodeByte, List.mem_cons, List.not_mem_nil, or_false] at digit
      rcases digit with rfl | rfl | rfl
      · exact .inr rfl
      · exact .inl (isUnreserved_hexDigit (by omega))
      · exact .inl (isUnreserved_hexDigit (by omega))
  refine ⟨?_, ?_, ?_⟩ <;> rintro rfl <;> revert ordinary <;> decide

/-- Every text is spelled by a segment. -/
theorem spells_encodeSegment (text : String) : Spells (encodeSegment text) text := by
  refine ⟨isSegment_encodeSegment text, ?_⟩
  rw [decodeSegment?, percentDecode_encodeSegment, Text.ofUtf8?_utf8Bytes, String.ofList_toList]

/-! ### Paths -/

/-- The path with some segments. -/
def path (segments : List (List Char)) : List Char :=
  segments.flatMap ('/' :: ·)

variable {parts : List (List Char)}

theorem path_cons (segment : List Char) (parts : List (List Char)) :
    path (segment :: parts) = '/' :: segment ++ path parts :=
  List.flatMap_cons

theorem intercalate_eq_append_path (first : List Char) (parts : List (List Char)) :
    List.intercalate ['/'] (first :: parts) = first ++ path parts := by
  induction parts generalizing first with
  | nil => rw [List.intercalate_singleton, path, List.flatMap_nil, List.append_nil]
  | cons segment parts ih =>
    rw [List.intercalate_cons_cons, ih, path_cons, List.append_assoc, List.singleton_append,
      List.cons_append]

theorem segments_path (separate : ∀ segment ∈ parts, IsSegment segment) :
    segments (path parts) = parts := by
  have clear : ∀ segment ∈ [] :: parts, '/' ∉ segment := by
    intro segment among
    rcases List.mem_cons.mp among with rfl | among
    · exact List.not_mem_nil
    · exact fun inside => (separate segment among _ inside).1 rfl
  have joined : path parts = List.intercalate ['/'] ([] :: parts) :=
    (intercalate_eq_append_path [] parts).symm
  rw [segments, Json.split_eq_splitOn, joined,
    List.splitOn_intercalate '/' clear (List.cons_ne_nil _ _), List.drop_one, List.tail_cons]

/-- A path alone is all that its address asks for. -/
theorem parts_path (nonempty : parts ≠ []) (separate : ∀ segment ∈ parts, IsSegment segment) :
    Uri.parts (path parts) = (path parts, []) := by
  have clear : ∀ c ∈ path parts, c ≠ '?' ∧ c ≠ '#' := by
    intro c among
    obtain ⟨segment, listed, inside⟩ := List.mem_flatMap.mp among
    rcases List.mem_cons.mp inside with rfl | inside
    · decide
    · exact (separate segment listed c inside).2
  have rooted : target (path parts) = path parts := by
    cases parts with
    | nil => contradiction
    | cons segment parts => rfl
  have fragmentless : (path parts).takeWhile (· ≠ '#') = path parts :=
    List.takeWhile_eq_self_iff.2 fun c among => decide_eq_true (clear c among).2
  have queryless : Text.splitOnce? '?' (path parts) = none :=
    Text.splitOnce?_eq_none_iff.mpr fun among => (clear '?' among).1 rfl
  simp only [Uri.parts, rooted, fragmentless, queryless]

end Storefront.Uri
