import Mathlib.Data.String.Basic
import Storefront.Proofs.Grammar.Reading

/-!
Cutting a text into tokens, one piece at a time: what the first rule that matches takes becomes a
token of its kind, and the rest is cut by itself.
-/
namespace Storefront.Lexicon
variable {κ : Type} {lexicon : Lexicon κ}

section FirstMatch
variable {kind : κ} {pattern : Pattern} {skipped : Bool} {rules : Lexicon κ} {cs : List Char}

theorem firstMatch?_none (fails : pattern cs = none) :
    firstMatch? (⟨kind, pattern, skipped⟩ :: rules) cs = firstMatch? rules cs := by
  simp only [firstMatch?, fails]

theorem firstMatch?_zero (empty : pattern cs = some 0) :
    firstMatch? (⟨kind, pattern, skipped⟩ :: rules) cs = firstMatch? rules cs := by
  simp only [firstMatch?, empty]

theorem firstMatch?_some {n : Nat} (found : pattern cs = some (n + 1)) :
    firstMatch? (⟨kind, pattern, skipped⟩ :: rules) cs =
      some (⟨kind, pattern, skipped⟩, n + 1) := by
  simp only [firstMatch?, found]

/-- What matches first is a rule of the table, which takes what it says. -/
theorem mem_of_firstMatch? {rule : TokenRule κ} {n : Nat}
    (found : firstMatch? rules cs = some (rule, n)) : rule ∈ rules ∧ rule.pattern cs = some n := by
  induction rules with
  | nil => contradiction
  | cons first rules ih =>
    rw [firstMatch?] at found
    split at found
    · rename_i m taken
      cases found
      exact ⟨List.mem_cons_self, taken⟩
    · exact (ih found).imp_left (List.mem_cons_of_mem first)

end FirstMatch

theorem byteLength_toList (text : String) : byteLength text.toList = text.utf8ByteSize := by
  have counted : ∀ cs, byteLength cs = String.utf8Len cs := by
    intro cs
    induction cs with
    | nil => rfl
    | cons c cs ih => rw [byteLength, String.utf8Len_cons, ih, Nat.add_comm]
  rw [counted, ← String.utf8ByteSize_ofList, String.ofList_toList]

theorem tokensFrom_nil (lexicon : Lexicon κ) (offset : Nat) :
    lexicon.tokensFrom offset [] = .ok [] := by
  rw [tokensFrom]
  rfl

theorem tokensFrom_append {piece rest : List Char} {rule : TokenRule κ}
    (found : lexicon.firstMatch? (piece ++ rest) = some (rule, piece.length)) (offset : Nat) :
    lexicon.tokensFrom offset (piece ++ rest) =
      (lexicon.tokensFrom (offset + byteLength piece) rest).map fun tokens =>
        if rule.skipped then tokens else ⟨rule.kind, String.ofList piece, offset⟩ :: tokens := by
  have nonempty : piece ++ rest ≠ [] := by
    have := firstMatch?_pos found
    intro empty
    simp_all
  rw [tokensFrom, dif_neg nonempty]
  split
  · next none => simp [none] at found
  · next rule' n some =>
    obtain ⟨rfl, rfl⟩ : rule' = rule ∧ n = piece.length := by simpa [some] using found
    simp only [List.take_left, List.drop_left]
    cases lexicon.tokensFrom (offset + byteLength piece) rest <;> rfl

/-- A token is what a rule of its kind took somewhere in the text. -/
theorem exists_rule_of_mem_tokensFrom {offset : Nat} {cs : List Char} {tokens : List (Token κ)}
    {token : Token κ} (cut : lexicon.tokensFrom offset cs = .ok tokens) (member : token ∈ tokens) :
    ∃ rule ∈ lexicon, rule.kind = token.kind ∧
      ∃ rest n, rule.pattern rest = some n ∧ token.text = String.ofList (rest.take n) := by
  fun_induction lexicon.tokensFrom offset cs generalizing tokens with
  | case1 =>
    cases cut
    contradiction
  | case2 => contradiction
  | case3 => contradiction
  | case4 offset cs nonempty rule n found piece later cutLater =>
    rename_i ih
    cases cut
    obtain ⟨among, taken⟩ := mem_of_firstMatch? found
    by_cases skipped : rule.skipped = true
    · rw [if_pos skipped] at member
      exact ih cutLater member
    · rw [if_neg skipped] at member
      rcases List.mem_cons.mp member with rfl | later
      · exact ⟨rule, among, rfl, cs, n, taken, rfl⟩
      · exact ih cutLater later

/-- A text that cannot be cut is at fault. -/
theorem ensures_tokensFrom (lexicon : Lexicon κ) (offset : Nat) (cs : List Char) :
    Ensures (fun _ => True) (lexicon.tokensFrom offset cs) := by
  fun_induction lexicon.tokensFrom offset cs with
  | case1 => trivial
  | case2 => exact ensures_badText
  | case3 offset cs nonempty rule n found piece e failed ih =>
    rw [failed] at ih
    exact ih
  | case4 => trivial

end Storefront.Lexicon
