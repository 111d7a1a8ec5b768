import Mathlib.Data.String.Basic
import Storefront.Proofs.Token.Lexing
import Storefront.Token.Literal
import Storefront.Token.Pattern

/-!
Quotation of strings. Between quotes, a backslash stands before every backslash and before every
quote of the kind around it. What is read back from a quotation is the string, and the pattern for
quotations ends at the closing quote, whatever the string holds and whatever follows.
-/
namespace Storefront

/-- The quotes that a string may stand between. -/
inductive Quote where
  | single
  | double
deriving DecidableEq, Repr

namespace Quote

def char : Quote → Char
  | single => '\''
  | double => '"'

/-- Characters with a backslash before every backslash and every quote of this kind. -/
def escape (quote : Quote) : List Char → List Char
  | [] => []
  | c :: cs =>
    if c = quote.char ∨ c = '\\' then '\\' :: c :: quote.escape cs else c :: quote.escape cs

/-- A string between quotes of this kind. -/
def around (quote : Quote) (text : String) : String :=
  String.ofList (quote.char :: (quote.escape text.toList ++ [quote.char]))

variable (quote : Quote)

theorem char_ne_backslash : quote.char ≠ '\\' := by
  cases quote <;> decide

theorem toList_around (text : String) :
    (quote.around text).toList = quote.char :: (quote.escape text.toList ++ [quote.char]) :=
  String.toList_ofList

/-- What has to be escaped is no letter and no line feed, which a backslash would change. -/
theorem ne_of_special {c : Char} (special : c = quote.char ∨ c = '\\') :
    c ≠ 'n' ∧ c ≠ 't' ∧ c ≠ '\n' := by
  rcases special with rfl | rfl
  · cases quote <;> decide
  · decide

theorem unescape_escape (cs : List Char) : Literal.unescape (quote.escape cs) = cs := by
  induction cs with
  | nil => rfl
  | cons c cs ih =>
    rw [escape]
    split
    · next special =>
      obtain ⟨notN, notT, -⟩ := quote.ne_of_special special
      rw [Literal.unescape.eq_4 c _ notN notT, ih]
    · next plain =>
      have other : c ≠ '\\' := fun same => plain (.inr same)
      rw [Literal.unescape.eq_5 c _ (fun _ same => absurd same other)
        (fun _ same => absurd same other) (fun _ _ same => absurd same other), ih]

theorem unquote_around (text : String) : Literal.unquote (quote.around text) = text := by
  have inner : quote.escape text.toList ++ [quote.char] ≠ [] := by simp
  rw [Literal.unquote, toList_around]
  cases split : quote.escape text.toList ++ [quote.char] with
  | nil => exact absurd split inner
  | cons c cs =>
    change String.ofList (Literal.unescape (c :: cs).dropLast) = text
    rw [← split, List.dropLast_concat, unescape_escape, String.ofList_toList]

/-- The pattern for quotations takes the escaped characters and the closing quote, no more. -/
theorem quotedFrom_escape (length : Nat) (cs rest : List Char) :
    Pattern.quotedFrom quote.char length (quote.escape cs ++ quote.char :: rest) =
      some (length + (quote.escape cs).length + 1) := by
  induction cs generalizing length with
  | nil =>
    rw [escape, List.nil_append, Pattern.quotedFrom.eq_def]
    exact if_pos rfl
  | cons c cs ih =>
    rw [escape]
    split
    · next special =>
      obtain ⟨-, -, notLineFeed⟩ := quote.ne_of_special special
      rw [List.cons_append, List.cons_append, Pattern.quotedFrom.eq_3,
        if_neg quote.char_ne_backslash.symm, if_pos rfl, if_neg notLineFeed, ih]
      simp only [List.length_cons, Option.some.injEq]
      omega
    · next plain =>
      have other : c ≠ quote.char := fun same => plain (.inl same)
      have other' : c ≠ '\\' := fun same => plain (.inr same)
      rw [List.cons_append, Pattern.quotedFrom.eq_def]
      simp only [other, other', if_false, ih, List.length_cons, Option.some.injEq]
      omega

/-- The pattern for quotations takes a quotation whole, whatever follows it. -/
theorem quoted_around (text : String) (rest : List Char) :
    Pattern.quoted quote.char ((quote.around text).toList ++ rest) =
      some (quote.around text).toList.length := by
  rw [toList_around, List.cons_append, List.append_assoc, Pattern.quoted, if_pos rfl,
    List.singleton_append, quotedFrom_escape]
  simp only [List.length_cons, List.length_append, List.length_nil, Option.some.injEq]
  omega

/-- Quotes of the other kind do not begin a quotation. -/
theorem quoted_other {quote other : Quote} (ne : quote ≠ other) (text : String)
    (rest : List Char) :
    Pattern.quoted other.char ((quote.around text).toList ++ rest) = none := by
  have different : quote.char ≠ other.char := by
    revert ne
    cases quote <;> cases other <;> decide
  rw [toList_around, List.cons_append, Pattern.quoted, if_neg different]

/-- Where white space and both kinds of quotations come first, a quotation is taken whole. -/
theorem firstMatch?_around {κ : Type} {blank str : κ} {rules : Lexicon κ} (text : String)
    (rest : List Char) :
    Lexicon.firstMatch? (⟨blank, Pattern.blanks, true⟩ :: ⟨str, Pattern.quoted '"', false⟩ ::
        ⟨str, Pattern.quoted '\'', false⟩ :: rules) ((quote.around text).toList ++ rest) =
      some (⟨str, Pattern.quoted quote.char, false⟩, (quote.around text).toList.length) := by
  have notBlank : Pattern.blanks ((quote.around text).toList ++ rest) = some 0 := by
    rw [toList_around]
    cases quote <;> rfl
  have length : (quote.around text).toList.length = (quote.escape text.toList).length + 1 + 1 := by
    simp [toList_around]
  have whole := quote.quoted_around text rest
  rw [Lexicon.firstMatch?_zero notBlank]
  rw [length] at whole ⊢
  cases quote with
  | double => exact Lexicon.firstMatch?_some whole
  | single =>
    have other := @quoted_other .single .double (by decide) text rest
    exact (Lexicon.firstMatch?_none other).trans (Lexicon.firstMatch?_some whole)

theorem around_eq_append (text : String) :
    quote.around text =
      String.ofList [quote.char] ++ String.ofList (quote.escape text.toList) ++
        String.ofList [quote.char] := by
  rw [← String.ofList_append, ← String.ofList_append]
  rfl

theorem utf8ByteSize_char : (String.ofList [quote.char]).utf8ByteSize = 1 := by
  cases quote <;> rfl

theorem utf8ByteSize_around (text : String) :
    (quote.around text).utf8ByteSize =
      1 + (String.ofList (quote.escape text.toList)).utf8ByteSize + 1 := by
  rw [around_eq_append, String.utf8ByteSize_append, String.utf8ByteSize_append, utf8ByteSize_char]

/-- Behind its first byte and before its last one a quotation can be cut. -/
theorem isValid_inside (text : String) :
    String.Pos.Raw.IsValid (quote.around text) ⟨1⟩ ∧
      String.Pos.Raw.IsValid (quote.around text) ⟨(quote.around text).utf8ByteSize - 1⟩ := by
  constructor
  · refine String.Pos.Raw.isValid_iff_exists_append.2
      ⟨_, _, (quote.around_eq_append text).trans String.append_assoc, ?_⟩
    exact congrArg String.Pos.Raw.mk quote.utf8ByteSize_char.symm
  · refine String.Pos.Raw.isValid_iff_exists_append.2 ⟨_, _, quote.around_eq_append text, ?_⟩
    refine congrArg String.Pos.Raw.mk ?_
    rw [utf8ByteSize_around, String.utf8ByteSize_append, utf8ByteSize_char]
    omega

/-- What is between the first and the last byte of a quotation is the escaped string. -/
theorem extract_around (text : String) :
    String.Pos.Raw.extract (quote.around text) ⟨1⟩ ⟨(quote.around text).utf8ByteSize - 1⟩ =
      String.ofList (quote.escape text.toList) := by
  have first : String.utf8Len [quote.char] = 1 := by
    rw [← String.utf8ByteSize_ofList, utf8ByteSize_char]
  have last : String.utf8Len [quote.char] + String.utf8Len (quote.escape text.toList) =
      (quote.around text).utf8ByteSize - 1 := by
    rw [first, ← String.utf8ByteSize_ofList, utf8ByteSize_around]
    omega
  have slice := String.extract_of_valid [quote.char] (quote.escape text.toList) [quote.char]
  rw [first] at slice
  rw [← last, first]
  exact slice

end Quote
end Storefront
