import Storefront.Proofs.Grammar.Reading
import Storefront.Proofs.Predicate.Derivation

/-!
The grammar of predicates is unambiguous. Tokens that begin with a derivation begin with no other
one, as long as what is behind it cannot go on with it.
-/
namespace Storefront.Predicate

/-- The threshold at which a phrase stands alone: no operator up to it belongs to the phrase. -/
def Phrase.threshold : Phrase → Nat
  | test => orPower - 1
  | conjunction => andPower - 1
  | unary => notPower
  | primary => notPower

/-- These tokens do not go on with a phrase in front of them. -/
abbrev Follows (phrase : Phrase) (rest : List (Token Kind)) : Prop :=
  grammar.Stops phrase.threshold rest

/-- Words of different kinds are different tokens. -/
theorem Word.val_ne {kind kind' : Kind} (word : Word kind) (word' : Word kind')
    (ne : kind ≠ kind') : word.val ≠ word'.val := by
  intro same
  exact ne (word.property.symm.trans (same ▸ word'.property))

theorem follows_cons {phrase : Phrase} {kind : Kind} (word : Word kind) (rest : List (Token Kind)) :
    Follows phrase (word.val :: rest) ↔ grammar.power kind ≤ phrase.threshold := by
  rw [Follows, Grammar.stops_cons, word.property]

def Term.kind : Term → Kind
  | text _ => .str
  | number _ _ _ => .number
  | yes _ => .yes
  | no _ => .no
  | parameter _ => .parameter

theorem Term.kind_token (term : Term) : term.token.kind = term.kind := by
  cases term with
  | text word => exact word.property
  | number word value converts => exact word.property
  | yes word => exact word.property
  | no word => exact word.property
  | parameter word => exact word.property

theorem Term.token_injective {first second : Term} (same : first.token = second.token) :
    first = second := by
  have kinds : first.kind = second.kind := by
    rw [← first.kind_token, ← second.kind_token, same]
  cases first with
  | text word =>
    cases second with
    | text word' => exact congrArg Term.text (Subtype.ext same)
    | _ => exact nomatch kinds
  | number word value converts =>
    cases second with
    | number word' value' converts' =>
      obtain rfl : word = word' := Subtype.ext same
      obtain rfl : value = value' := Except.ok.inj (converts.symm.trans converts')
      rfl
    | _ => exact nomatch kinds
  | yes word =>
    cases second with
    | yes word' => exact congrArg Term.yes (Subtype.ext same)
    | _ => exact nomatch kinds
  | no word =>
    cases second with
    | no word' => exact congrArg Term.no (Subtype.ext same)
    | _ => exact nomatch kinds
  | parameter word =>
    cases second with
    | parameter word' => exact congrArg Term.parameter (Subtype.ext same)
    | _ => exact nomatch kinds

variable {rest rest' : List (Token Kind)}

theorem furtherTokens_inj {first second : List (Word .comma × Term)}
    {closing closing' : Word .rParen}
    (same : furtherTokens first ++ closing.val :: rest =
      furtherTokens second ++ closing'.val :: rest') :
    first = second ∧ closing = closing' ∧ rest = rest' := by
  induction first generalizing second with
  | nil =>
    cases second with
    | nil =>
      obtain ⟨head, tail⟩ := List.cons.inj same
      exact ⟨rfl, Subtype.ext head, tail⟩
    | cons item second =>
      exact absurd (List.cons.inj same).1 (closing.val_ne item.1 (by decide))
  | cons item first ih =>
    cases second with
    | nil => exact absurd (List.cons.inj same).1 (item.1.val_ne closing' (by decide))
    | cons item' second =>
      obtain ⟨comma, same⟩ := List.cons.inj same
      obtain ⟨term, same⟩ := List.cons.inj same
      obtain ⟨rfl, rfl, rfl⟩ := ih same
      have sameItem : item = item' := Prod.ext (Subtype.ext comma) (Term.token_injective term)
      exact ⟨sameItem ▸ rfl, rfl, rfl⟩

theorem TermList.tokens_inj {first second : TermList}
    (same : first.tokens ++ rest = second.tokens ++ rest') : first = second ∧ rest = rest' := by
  cases first with
  | parameter word =>
    cases second with
    | parameter word' =>
      obtain ⟨head, tail⟩ := List.cons.inj same
      exact ⟨congrArg _ (Subtype.ext head), tail⟩
    | listed opening first more closing =>
      exact absurd (List.cons.inj same).1 (word.val_ne opening (by decide))
  | listed opening first more closing =>
    cases second with
    | parameter word => exact absurd (List.cons.inj same).1 (opening.val_ne word (by decide))
    | listed opening' first' more' closing' =>
      obtain ⟨head, same⟩ := List.cons.inj same
      obtain ⟨term, same⟩ := List.cons.inj same
      obtain ⟨rfl, rfl, rfl⟩ := furtherTokens_inj (by simpa using same)
      obtain rfl : opening = opening' := Subtype.ext head
      obtain rfl : first = first' := Term.token_injective term
      exact ⟨rfl, rfl⟩

theorem Kind.ofRelation_injective {first second : Relation}
    (same : Kind.ofRelation first = Kind.ofRelation second) : first = second := by
  cases first <;> cases second <;> first | rfl | contradiction

theorem Kind.ofCheck_injective {first second : Check}
    (same : Kind.ofCheck first = Kind.ofCheck second) : first = second := by
  cases first <;> cases second <;> first | rfl | contradiction

theorem Kind.ofQuantifier_injective {first second : Quantifier}
    (same : Kind.ofQuantifier first = Kind.ofQuantifier second) : first = second := by
  cases first <;> cases second <;> first | rfl | contradiction

theorem negationTokens_inj {kind kind' : Kind} (notNot : kind ≠ .not) (notNot' : kind' ≠ .not)
    {first second : Option (Word .not)} (word : Word kind) (word' : Word kind')
    (same : negationTokens first ++ word.val :: rest = negationTokens second ++ word'.val :: rest') :
    first = second ∧ word.val = word'.val ∧ rest = rest' := by
  cases first with
  | none =>
    cases second with
    | none => exact ⟨rfl, List.cons.inj same⟩
    | some negation => exact absurd (List.cons.inj same).1 (word.val_ne negation notNot)
  | some negation =>
    cases second with
    | none => exact absurd (List.cons.inj same).1 (negation.val_ne word' notNot'.symm)
    | some negation' =>
      obtain ⟨head, behind⟩ := List.cons.inj same
      exact ⟨congrArg some (Subtype.ext head), List.cons.inj behind⟩

/-- The forms that a condition may have. -/
inductive Form where
  | comparison
  | membership
  | examination
  | containment

def Condition.form : Condition → Form
  | comparison _ _ _ => .comparison
  | membership _ _ _ => .membership
  | examination _ _ _ _ => .examination
  | containment _ _ _ _ => .containment

/-- The form of the conditions that begin with a token of a kind. -/
def Kind.form? : Kind → Option Form
  | eq | notEq | gt | lt | gte | lte => some .comparison
  | isIn | not => some .membership
  | is => some .examination
  | contains => some .containment
  | _ => none

theorem Kind.form?_ofRelation (relation : Relation) :
    (Kind.ofRelation relation).form? = some .comparison := by
  cases relation <;> rfl

/-- The first token of a condition tells its form. -/
theorem Condition.tokens_eq_cons (condition : Condition) :
    ∃ token more, condition.tokens = token :: more ∧ token.kind.form? = some condition.form := by
  cases condition with
  | comparison relation sign term =>
    exact ⟨sign.val, _, rfl, sign.property.symm ▸ Kind.form?_ofRelation relation⟩
  | membership negation word terms =>
    cases negation with
    | none => exact ⟨word.val, _, rfl, congrArg Kind.form? word.property⟩
    | some negation => exact ⟨negation.val, _, rfl, congrArg Kind.form? negation.property⟩
  | examination word negation check checked =>
    exact ⟨word.val, _, rfl, congrArg Kind.form? word.property⟩
  | containment word quantifier quantified terms =>
    exact ⟨word.val, _, rfl, congrArg Kind.form? word.property⟩

theorem Condition.tokens_ne_opening (condition : Condition) (opening : Word .lParen)
    {more : List (Token Kind)} : condition.tokens ++ rest ≠ opening.val :: more := by
  obtain ⟨token, behind, eq, form⟩ := condition.tokens_eq_cons
  intro same
  rw [eq] at same
  have head : token = opening.val := (List.cons.inj same).1
  rw [head, opening.property] at form
  exact nomatch form

theorem Condition.form_eq {first second : Condition}
    (same : first.tokens ++ rest = second.tokens ++ rest') : first.form = second.form := by
  obtain ⟨token, more, eq, form⟩ := first.tokens_eq_cons
  obtain ⟨token', more', eq', form'⟩ := second.tokens_eq_cons
  rw [eq, eq'] at same
  have head : token = token' := (List.cons.inj same).1
  exact Option.some.inj (form.symm.trans (head ▸ form'))

theorem Condition.tokens_inj {first second : Condition}
    (same : first.tokens ++ rest = second.tokens ++ rest') : first = second ∧ rest = rest' := by
  -- Conditions of different forms differ in the kind of their first token.
  have forms : first.form = second.form := Condition.form_eq same
  cases first with
  | comparison relation sign term =>
    cases second with
    | comparison relation' sign' term' =>
      obtain ⟨head, behind⟩ := List.cons.inj same
      obtain rfl : relation = relation' := Kind.ofRelation_injective
        (sign.property.symm.trans (head ▸ sign'.property))
      obtain ⟨operand, tail⟩ := List.cons.inj behind
      obtain rfl : sign = sign' := Subtype.ext head
      obtain rfl : term = term' := Term.token_injective operand
      exact ⟨rfl, tail⟩
    | _ => exact nomatch forms
  | membership negation word terms =>
    cases second with
    | membership negation' word' terms' =>
      simp only [Condition.tokens, List.append_assoc, List.cons_append] at same
      obtain ⟨rfl, head, behind⟩ := negationTokens_inj (by decide) (by decide) word word' same
      obtain rfl : word = word' := Subtype.ext head
      obtain ⟨rfl, tail⟩ := TermList.tokens_inj behind
      exact ⟨rfl, tail⟩
    | _ => exact nomatch forms
  | examination word negation check checked =>
    cases second with
    | examination word' negation' check' checked' =>
      obtain ⟨head, behind⟩ := List.cons.inj same
      obtain rfl : word = word' := Subtype.ext head
      obtain ⟨rfl, head', tail⟩ := negationTokens_inj (by cases check <;> decide)
        (by cases check' <;> decide) checked checked' (by simpa using behind)
      obtain rfl : check = check' := Kind.ofCheck_injective
        (checked.property.symm.trans (head' ▸ checked'.property))
      obtain rfl : checked = checked' := Subtype.ext head'
      exact ⟨rfl, tail⟩
    | _ => exact nomatch forms
  | containment word quantifier quantified terms =>
    cases second with
    | containment word' quantifier' quantified' terms' =>
      obtain ⟨head, behind⟩ := List.cons.inj same
      obtain ⟨head', behind'⟩ := List.cons.inj behind
      obtain rfl : word = word' := Subtype.ext head
      obtain rfl : quantifier = quantifier' := Kind.ofQuantifier_injective
        (quantified.property.symm.trans (head' ▸ quantified'.property))
      obtain rfl : quantified = quantified' := Subtype.ext head'
      obtain ⟨rfl, tail⟩ := TermList.tokens_inj behind'
      exact ⟨rfl, tail⟩
    | _ => exact nomatch forms

/-- A primary begins with a parenthesis or a name. -/
theorem Derivation.primary_head (derivation : Derivation .primary) :
    ∃ token more, derivation.tokens = token :: more ∧
      (token.kind = .lParen ∨ token.kind = .identifier) := by
  cases derivation with
  | group opening inner closing => exact ⟨_, _, rfl, .inl opening.property⟩
  | condition field behind => exact ⟨_, _, rfl, .inr field.property⟩
  | descent field opening inner closing => exact ⟨_, _, rfl, .inr field.property⟩

/-- No two derivations of a phrase begin the same tokens. -/
theorem Derivation.tokens_inj {phrase : Phrase} {first second : Derivation phrase}
    (ends : Follows phrase rest) (ends' : Follows phrase rest')
    (same : first.tokens ++ rest = second.tokens ++ rest') : first = second ∧ rest = rest' := by
  induction first generalizing rest rest' with
  | ofConjunction inner ih =>
    have inside : Follows .conjunction rest := ends.mono (by decide)
    cases second with
    | ofConjunction inner' =>
      obtain ⟨rfl, tail⟩ := ih inside (ends'.mono (by decide)) same
      exact ⟨rfl, tail⟩
    | disjunction left word right =>
      simp only [Derivation.tokens, List.append_assoc, List.cons_append] at same
      obtain ⟨-, rfl⟩ := ih inside ((follows_cons word _).2 (by decide)) same
      exact absurd ((follows_cons word _).1 ends) (by decide)
  | disjunction left word right ihLeft ihRight =>
    simp only [Derivation.tokens, List.append_assoc, List.cons_append] at same
    have inside : Follows .conjunction (word.val :: (right.tokens ++ rest)) :=
      (follows_cons word _).2 (by decide)
    cases second with
    | ofConjunction inner =>
      obtain ⟨-, rfl⟩ := ihLeft inside (ends'.mono (by decide)) same
      exact absurd ((follows_cons word _).1 ends') (by decide)
    | disjunction left' word' right' =>
      simp only [Derivation.tokens, List.append_assoc, List.cons_append] at same
      obtain ⟨rfl, behind⟩ := ihLeft inside ((follows_cons word' _).2 (by decide)) same
      obtain ⟨head, further⟩ := List.cons.inj behind
      obtain rfl : word = word' := Subtype.ext head
      obtain ⟨rfl, tail⟩ := ihRight ends ends' further
      exact ⟨rfl, tail⟩
  | ofUnary inner ih =>
    have inside : Follows .unary rest := ends.mono (by decide)
    cases second with
    | ofUnary inner' =>
      obtain ⟨rfl, tail⟩ := ih inside (ends'.mono (by decide)) same
      exact ⟨rfl, tail⟩
    | conjunction left word right =>
      simp only [Derivation.tokens, List.append_assoc, List.cons_append] at same
      obtain ⟨-, rfl⟩ := ih inside ((follows_cons word _).2 (by decide)) same
      exact absurd ((follows_cons word _).1 ends) (by decide)
  | conjunction left word right ihLeft ihRight =>
    simp only [Derivation.tokens, List.append_assoc, List.cons_append] at same
    have inside : Follows .unary (word.val :: (right.tokens ++ rest)) :=
      (follows_cons word _).2 (by decide)
    cases second with
    | ofUnary inner =>
      obtain ⟨-, rfl⟩ := ihLeft inside (ends'.mono (by decide)) same
      exact absurd ((follows_cons word _).1 ends') (by decide)
    | conjunction left' word' right' =>
      simp only [Derivation.tokens, List.append_assoc, List.cons_append] at same
      obtain ⟨rfl, behind⟩ := ihLeft inside ((follows_cons word' _).2 (by decide)) same
      obtain ⟨head, further⟩ := List.cons.inj behind
      obtain rfl : word = word' := Subtype.ext head
      obtain ⟨rfl, tail⟩ := ihRight ends ends' further
      exact ⟨rfl, tail⟩
  | ofPrimary inner ih =>
    cases second with
    | ofPrimary inner' =>
      obtain ⟨rfl, tail⟩ := ih ends ends' same
      exact ⟨rfl, tail⟩
    | negation word inner' =>
      obtain ⟨token, more, eq, kind⟩ := inner.primary_head
      simp only [Derivation.tokens, eq] at same
      have head : token = word.val := (List.cons.inj same).1
      simp [head, word.property] at kind
  | negation word inner ih =>
    cases second with
    | ofPrimary inner' =>
      obtain ⟨token, more, eq, kind⟩ := inner'.primary_head
      simp only [Derivation.tokens, eq] at same
      have head : word.val = token := (List.cons.inj same).1
      simp [← head, word.property] at kind
    | negation word' inner' =>
      obtain ⟨head, behind⟩ := List.cons.inj same
      obtain rfl : word = word' := Subtype.ext head
      obtain ⟨rfl, tail⟩ := ih ends ends' behind
      exact ⟨rfl, tail⟩
  | group opening inner closing ih =>
    cases second with
    | group opening' inner' closing' =>
      obtain ⟨head, behind⟩ := List.cons.inj same
      obtain rfl : opening = opening' := Subtype.ext head
      obtain ⟨rfl, closed⟩ := ih ((follows_cons closing rest).2 (by decide))
        ((follows_cons closing' rest').2 (by decide)) (by simpa using behind)
      obtain ⟨last, tail⟩ := List.cons.inj closed
      obtain rfl : closing = closing' := Subtype.ext last
      exact ⟨rfl, tail⟩
    | condition field behind =>
      exact absurd (List.cons.inj same).1 (opening.val_ne field (by decide))
    | descent field opening' inner' closing' =>
      exact absurd (List.cons.inj same).1 (opening.val_ne field (by decide))
  | condition field behind =>
    cases second with
    | group opening inner closing =>
      exact absurd (List.cons.inj same).1 (field.val_ne opening (by decide))
    | condition field' behind' =>
      obtain ⟨head, further⟩ := List.cons.inj same
      obtain rfl : field = field' := Subtype.ext head
      obtain ⟨rfl, tail⟩ := Condition.tokens_inj further
      exact ⟨rfl, tail⟩
    | descent field' opening inner closing =>
      obtain ⟨-, further⟩ := List.cons.inj same
      exact absurd further (behind.tokens_ne_opening opening)
  | descent field opening inner closing ih =>
    cases second with
    | group opening' inner' closing' =>
      exact absurd (List.cons.inj same).1 (field.val_ne opening' (by decide))
    | condition field' behind =>
      obtain ⟨-, further⟩ := List.cons.inj same
      exact absurd further.symm (behind.tokens_ne_opening opening)
    | descent field' opening' inner' closing' =>
      obtain ⟨head, behind⟩ := List.cons.inj same
      obtain ⟨head', further⟩ := List.cons.inj behind
      obtain rfl : field = field' := Subtype.ext head
      obtain rfl : opening = opening' := Subtype.ext head'
      obtain ⟨rfl, closed⟩ := ih ((follows_cons closing rest).2 (by decide))
        ((follows_cons closing' rest').2 (by decide)) (by simpa using further)
      obtain ⟨last, tail⟩ := List.cons.inj closed
      obtain rfl : closing = closing' := Subtype.ext last
      exact ⟨rfl, tail⟩

/-- A list of tokens is derived as a test in one way at most. -/
theorem Derivation.tokens_injective {first second : Derivation .test}
    (same : first.tokens = second.tokens) : first = second := by
  have same' : first.tokens ++ [] = second.tokens ++ [] := by rw [same]
  exact (Derivation.tokens_inj Grammar.stops_nil Grammar.stops_nil same').1

end Storefront.Predicate
