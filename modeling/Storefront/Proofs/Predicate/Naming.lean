import Storefront.Predicate.Lexicon
import Storefront.Proofs.Token.Lexing
import Storefront.Proofs.Token.Words

/-!
Names of fields in predicates: a name that is not a keyword is read as one token, as far as it goes.
-/
namespace Storefront.Predicate

/-- The words that stand for something of their own in any case, `true` and `false` apart. -/
def keywords : List String :=
  ["and", "or", "not", "in", "is", "defined", "empty", "contains", "any", "all"]

/-- A name of letters, digits and underscores, without a digit in front, that is not a keyword. -/
structure IsFieldName (name : String) : Prop where
  parts : ∃ first more, name.toList = first :: more ∧ Pattern.isNameStart first = true ∧
    more.all Pattern.isNameRest = true
  notKeyword : ∀ word ∈ keywords, name.toList.map Char.toLower ≠ word.toList
  notTruth : name ≠ "true" ∧ name ≠ "false"

example : IsFieldName "order_2" :=
  ⟨⟨'o', "rder_2".toList, rfl, by decide, by decide⟩, by decide, by decide⟩

theorem IsFieldName.isWord {name : String} (named : IsFieldName name) :
    ∀ c ∈ name.toList, Text.isWord c = true := by
  obtain ⟨first, more, spelt, starts, continues⟩ := named.parts
  rw [spelt, List.forall_mem_cons]
  constructor
  · exact Pattern.isWord_of_isNameRest (by simp [Pattern.isNameRest, starts])
  · intro c mem
    exact Pattern.isWord_of_isNameRest (List.all_eq_true.mp continues c mem)

/-- A field name in front of something else is read as a name, and in full. -/
theorem IsFieldName.firstMatch? {name : String} (named : IsFieldName name) {rest : List Char}
    (ends : Pattern.atWordEnd rest = true) :
    lexicon.firstMatch? (name.toList ++ rest) =
      some (⟨.identifier, Pattern.name, false⟩, name.toList.length) := by
  obtain ⟨first, more, spelt, starts, continues⟩ := named.parts
  have inside : (first :: more).all Pattern.isNameRest = true := by
    simp [Pattern.isNameRest, starts, continues]
  have word (word : String) (mem : word ∈ keywords) :
      Pattern.anyCaseKeyword word (first :: (more ++ rest)) = none := by
    have lower : ∀ word ∈ keywords, word.toList.all Pattern.isLowerLetter = true := by decide
    exact Pattern.anyCaseKeyword_name inside ends (lower word mem)
      (spelt ▸ named.notKeyword word mem)
  have truth (word : String) (mem : word ∈ ["true", "false"]) (ne : name ≠ word) :
      Pattern.keyword word (first :: (more ++ rest)) = none := by
    have isWord : ∀ word ∈ ["true", "false"], word.toList.all Text.isWord = true := by decide
    exact Pattern.keyword_name inside ends (isWord word mem)
      fun same => ne (String.toList_injective (spelt.trans same))
  have whole : Pattern.name (first :: (more ++ rest)) = some (more.length + 1) :=
    Pattern.name_append continues ends starts
  rw [spelt, List.cons_append, lexicon, Lexicon.firstMatch?_zero (Pattern.blanks_name starts _),
    Lexicon.firstMatch?_none (Pattern.quoted_name starts _ (by decide)),
    Lexicon.firstMatch?_none (Pattern.quoted_name starts _ (by decide)),
    Lexicon.firstMatch?_none (Pattern.floatingPoint_name starts _),
    Lexicon.firstMatch?_none (Pattern.parameter_name starts _),
    Lexicon.firstMatch?_none (word "and" (by decide)),
    Lexicon.firstMatch?_none (word "or" (by decide)),
    Lexicon.firstMatch?_none (word "not" (by decide)),
    Lexicon.firstMatch?_none (word "in" (by decide)),
    Lexicon.firstMatch?_none (word "is" (by decide)),
    Lexicon.firstMatch?_none (word "defined" (by decide)),
    Lexicon.firstMatch?_none (word "empty" (by decide)),
    Lexicon.firstMatch?_none (word "contains" (by decide)),
    Lexicon.firstMatch?_none (word "any" (by decide)),
    Lexicon.firstMatch?_none (word "all" (by decide)),
    Lexicon.firstMatch?_none (truth "true" (by decide) named.notTruth.1),
    Lexicon.firstMatch?_none (truth "false" (by decide) named.notTruth.2),
    Lexicon.firstMatch?_some whole]
  rfl

end Storefront.Predicate
