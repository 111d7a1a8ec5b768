import Storefront.Predicate.Grammar

/-!
The grammar of predicates as its rules, and what a derivation by them means.

    Test    ::= And ['or' Test]
    And     ::= Unary ['and' And]
    Unary   ::= 'not' Unary | Primary
    Primary ::= '(' Test ')' | Ident Condition | Ident '(' Test ')'

A derivation keeps the tokens it was built from, so its tokens can be read off it, and it is
evaluated by itself, without the parser and without the tests the parser makes. What a condition
means is written out here too; of the evaluation of tests it shares only how two single values
compare, and what is truthy.
-/
namespace Storefront.Predicate

/-- A token of a kind. -/
abbrev Word (kind : Kind) := { token : Token Kind // token.kind = kind }

/-- A literal or a parameter. The text of a number has to be that of a finite one. -/
inductive Term where
  | text (word : Word .str)
  | number (word : Word .number) (value : Json)
      (converts : Literal.number word.val.text = .ok value)
  | yes (word : Word .yes)
  | no (word : Word .no)
  | parameter (word : Word .parameter)

/-- A single parameter, or terms in parentheses, one or more, between commas. -/
inductive TermList where
  | parameter (word : Word .parameter)
  | listed (opening : Word .lParen) (first : Term) (more : List (Word .comma × Term))
      (closing : Word .rParen)

/-- The sign of a relation. -/
def Kind.ofRelation : Relation → Kind
  | .equal => .eq
  | .notEqual => .notEq
  | .greater => .gt
  | .less => .lt
  | .atLeast => .gte
  | .atMost => .lte

def Kind.ofCheck : Check → Kind
  | .defined => .defined
  | .empty => .empty

def Kind.ofQuantifier : Quantifier → Kind
  | .any => .any
  | .all => .all

/-- What stands behind the name of a field that is compared, not descended into. -/
inductive Condition where
  | comparison (relation : Relation) (sign : Word (.ofRelation relation)) (term : Term)
  | membership (negation : Option (Word .not)) (word : Word .isIn) (terms : TermList)
  | examination (word : Word .is) (negation : Option (Word .not)) (check : Check)
      (checked : Word (.ofCheck check))
  | containment (word : Word .contains) (quantifier : Quantifier)
      (quantified : Word (.ofQuantifier quantifier)) (terms : TermList)

/-- What the rules of the grammar derive. -/
inductive Phrase where
  | test
  | conjunction
  | unary
  | primary
deriving DecidableEq, Repr

inductive Derivation : Phrase → Type where
  | ofConjunction (inner : Derivation .conjunction) : Derivation .test
  | disjunction (left : Derivation .conjunction) (word : Word .or) (right : Derivation .test) :
      Derivation .test
  | ofUnary (inner : Derivation .unary) : Derivation .conjunction
  | conjunction (left : Derivation .unary) (word : Word .and) (right : Derivation .conjunction) :
      Derivation .conjunction
  | ofPrimary (inner : Derivation .primary) : Derivation .unary
  | negation (word : Word .not) (inner : Derivation .unary) : Derivation .unary
  | group (opening : Word .lParen) (inner : Derivation .test) (closing : Word .rParen) :
      Derivation .primary
  | condition (field : Word .identifier) (behind : Condition) : Derivation .primary
  | descent (field : Word .identifier) (opening : Word .lParen) (inner : Derivation .test)
      (closing : Word .rParen) : Derivation .primary

/-! ### The tokens of a derivation -/

def Term.token : Term → Token Kind
  | text word => word.val
  | number word _ _ => word.val
  | yes word => word.val
  | no word => word.val
  | parameter word => word.val

/-- The tokens of further terms, each behind its comma. -/
def furtherTokens (more : List (Word .comma × Term)) : List (Token Kind) :=
  more.flatMap fun (comma, term) => [comma.val, term.token]

def TermList.tokens : TermList → List (Token Kind)
  | parameter word => [word.val]
  | listed opening first more closing =>
    opening.val :: first.token :: (furtherTokens more ++ [closing.val])

def negationTokens (negation : Option (Word .not)) : List (Token Kind) :=
  negation.toList.map (·.val)

def Condition.tokens : Condition → List (Token Kind)
  | comparison _ sign term => [sign.val, term.token]
  | membership negation word terms => negationTokens negation ++ word.val :: terms.tokens
  | examination word negation _ checked => word.val :: (negationTokens negation ++ [checked.val])
  | containment word _ quantified terms => word.val :: quantified.val :: terms.tokens

def Derivation.tokens {phrase : Phrase} : Derivation phrase → List (Token Kind)
  | ofConjunction inner => inner.tokens
  | disjunction left word right => left.tokens ++ word.val :: right.tokens
  | ofUnary inner => inner.tokens
  | conjunction left word right => left.tokens ++ word.val :: right.tokens
  | ofPrimary inner => inner.tokens
  | negation word inner => word.val :: inner.tokens
  | group opening inner closing => opening.val :: (inner.tokens ++ [closing.val])
  | condition field behind => field.val :: behind.tokens
  | descent field opening inner closing =>
    field.val :: opening.val :: (inner.tokens ++ [closing.val])

/-! ### The meaning of a derivation -/

/-- The value of a term; a parameter has to be bound. -/
def Term.value (vars : Variables) : Term → Except Error Json
  | text word => .ok (.string (Literal.unquote word.val.text))
  | number _ value _ => .ok value
  | yes _ => .ok (.bool true)
  | no _ => .ok (.bool false)
  | parameter word =>
    match Dictionary.get? vars (parameterName word.val) with
    | some value => .ok value
    | none => .error (.badInput (.unbound (parameterName word.val)))

/-- What a term adds to a list: the elements of the array that a parameter is bound to. -/
def Term.values (vars : Variables) (term : Term) : Except Error (List Json) := do
  match term, ← term.value vars with
  | parameter _, .array items => .ok items
  | _, value => .ok [value]

def TermList.terms : TermList → List Term
  | parameter word => [.parameter word]
  | listed _ first more _ => first :: more.map (·.2)

def TermList.values (vars : Variables) (terms : TermList) : Except Error (List Json) := do
  let lists ← terms.terms.mapM (·.values vars)
  .ok lists.flatten

/-- What a condition is tried on: each element of an array, else the member, be it there or not. -/
def elements : Option Json → List (Option Json)
  | some (.array items) => items.map some
  | member => [member]

/-- The orders that the elements of a member have to a value, where they have one. -/
def orders (member : Option Json) (expected : Json) : List Ordering :=
  (elements member).filterMap fun found => found.bind (·.compareLoose expected)

/-- The meaning of the signs. A member is unequal to a value if none of its elements equals it; the
other relations ask for one element. -/
def isRelated (member : Option Json) (expected : Json) : Relation → Bool
  | .equal => decide (∃ found ∈ elements member, Json.looseEq found expected)
  | .notEqual => decide (∀ found ∈ elements member, ¬ Json.looseEq found expected)
  | .greater => decide (.gt ∈ orders member expected)
  | .less => decide (.lt ∈ orders member expected)
  | .atLeast => decide (.eq ∈ orders member expected ∨ .gt ∈ orders member expected)
  | .atMost => decide (.lt ∈ orders member expected ∨ .eq ∈ orders member expected)

/-- An element of the member is equal to one of the values. -/
def isAmong (member : Option Json) (values : List Json) : Bool :=
  decide (∃ found ∈ elements member, ∃ value ∈ values, Json.looseEq found value)

/-- A member that is null counts as not defined. -/
def isGiven : Option Json → Bool
  | none => false
  | some .null => false
  | some _ => true

/-- The member is an array, a text or an object with nothing in it. -/
def isHollow : Option Json → Bool
  | some (.array []) => true
  | some (.string "") => true
  | some (.object []) => true
  | _ => false

/-- The meaning of the checks and their negations. What is not given passes neither check for
emptiness. -/
def passes (member : Option Json) : Check → (negated : Bool) → Bool
  | .defined, false => isGiven member
  | .defined, true => !isGiven member
  | .empty, false => isHollow member
  | .empty, true => isGiven member && !isHollow member

/-- An array contains a value if one of its elements is equal to it; nothing else contains any. -/
def hasValues (member : Option Json) (values : List Json) (quantifier : Quantifier) : Bool :=
  match quantifier, member with
  | .any, some (.array items) =>
    decide (∃ value ∈ values, ∃ item ∈ items, Json.looseEq (some item) value)
  | .all, some (.array items) =>
    decide (∀ value ∈ values, ∃ item ∈ items, Json.looseEq (some item) value)
  | _, _ => false

/-- The truth of a condition on the member that the field names. -/
def Condition.evaluate (vars : Variables) (member : Option Json) : Condition → Except Error Bool
  | comparison relation _ term => do
    let expected ← term.value vars
    .ok (isRelated member expected relation)
  | membership none _ terms => do
    let values ← terms.values vars
    .ok (isAmong member values)
  | membership (some _) _ terms => do
    let values ← terms.values vars
    .ok (!isAmong member values)
  | examination _ negation check _ => .ok (passes member check negation.isSome)
  | containment _ quantifier _ terms => do
    let values ← terms.values vars
    .ok (hasValues member values quantifier)

/-- The truth of a derivation, from left to right and no further than needed. A descent asks for any
element of an array, and holds of no value that is not truthy. -/
def Derivation.evaluate (vars : Variables) {phrase : Phrase} :
    Derivation phrase → Json → Except Error Bool
  | ofConjunction inner, doc => inner.evaluate vars doc
  | disjunction left _ right, doc => do
    if ← left.evaluate vars doc then .ok true else right.evaluate vars doc
  | ofUnary inner, doc => inner.evaluate vars doc
  | conjunction left _ right, doc => do
    if ← left.evaluate vars doc then right.evaluate vars doc else .ok false
  | ofPrimary inner, doc => inner.evaluate vars doc
  | negation _ inner, doc => do
    let holds ← inner.evaluate vars doc
    .ok (!holds)
  | group _ inner _, doc => inner.evaluate vars doc
  | condition field behind, doc => behind.evaluate vars (doc.field? field.val.text)
  | descent field _ inner _, doc =>
    match doc.field? field.val.text with
    | none => .ok false
    | some (.array items) => items.anyM fun item => inner.evaluate vars item
    | some child => if Json.isTruthy (some child) then inner.evaluate vars child else .ok false

/-! ### The test that a derivation is read as -/

def Term.operand : Term → Operand
  | text word => .value (.string (Literal.unquote word.val.text))
  | number _ value _ => .value value
  | yes _ => .value (.bool true)
  | no _ => .value (.bool false)
  | parameter word => .parameter (parameterName word.val)

def TermList.operands (terms : TermList) : List Operand :=
  terms.terms.map Term.operand

def Condition.test (field : String) : Condition → Test
  | comparison relation _ term => .comparison field relation term.operand
  | membership negation _ terms => .membership field negation.isSome terms.operands
  | examination _ negation check _ => .examination field negation.isSome check
  | containment _ quantifier _ terms => .containment field quantifier terms.operands

def Derivation.test {phrase : Phrase} : Derivation phrase → Test
  | ofConjunction inner => inner.test
  | disjunction left _ right => .disjunction left.test right.test
  | ofUnary inner => inner.test
  | conjunction left _ right => .conjunction left.test right.test
  | ofPrimary inner => inner.test
  | negation _ inner => .negation inner.test
  | group _ inner _ => inner.test
  | condition field behind => behind.test field.val.text
  | descent field _ inner _ => .descent field.val.text inner.test

theorem Term.resolve_operand (vars : Variables) (term : Term) :
    term.operand.resolve vars = term.value vars := by
  cases term <;> rfl

theorem Term.splice_operand (vars : Variables) (term : Term) :
    term.operand.splice vars = term.values vars := by
  cases term with
  | parameter word =>
    simp only [Operand.splice, Term.values, Term.value, Term.operand, Operand.resolve]
    cases Dictionary.get? vars (parameterName word.val) with
    | none => rfl
    | some value => cases value <;> rfl
  | number word value converts => cases value <;> rfl
  | _ => rfl

theorem Term.resolveAll_operands (vars : Variables) (terms : List Term) :
    Operand.resolveAll vars (terms.map Term.operand) =
      (do let lists ← terms.mapM (·.values vars); .ok lists.flatten) := by
  induction terms with
  | nil => rfl
  | cons term terms ih =>
    simp only [List.map_cons, Operand.resolveAll, Term.splice_operand, ih, List.mapM_cons]
    cases term.values vars with
    | error e => rfl
    | ok found => cases terms.mapM (·.values vars) <;> rfl

/-! ### Conditions and their tests -/

section Leaves
variable {member : Option Json}

theorem anyElement_eq_any_elements (condition : Option Json → Bool) :
    anyElement member condition = (elements member).any condition := by
  have alone (found : Option Json) : [found].any condition = condition found := Bool.or_false _
  cases member with
  | none => exact (alone none).symm
  | some value =>
    cases value with
    | array items => exact List.any_map.symm
    | _ => exact (alone _).symm

theorem anyElement_ordered (accept : Ordering → Bool) (expected : Json) :
    anyElement member (ordered accept expected) = (orders member expected).any accept := by
  rw [anyElement_eq_any_elements, orders, List.any_filterMap]
  refine congrArg (elements member).any (funext fun found => ?_)
  cases found with
  | none => rfl
  | some value =>
    rw [ordered, Option.bind_some]
    cases value.compareLoose expected <;> rfl

theorem anyElement_looseEq (expected : Json) :
    anyElement member (Json.looseEq · expected) =
      decide (∃ found ∈ elements member, Json.looseEq found expected) := by
  rw [anyElement_eq_any_elements, Bool.eq_iff_iff, List.any_eq_true, decide_eq_true_iff]

/-- Whether one of some orders is accepted, told by the three orders there are. -/
theorem any_accept_iff {found : List Ordering} (accept : Ordering → Bool) :
    found.any accept = true ↔ .lt ∈ found ∧ accept .lt = true ∨ .eq ∈ found ∧ accept .eq = true ∨
      .gt ∈ found ∧ accept .gt = true := by
  rw [List.any_eq_true]
  constructor
  · rintro ⟨order, isFound, accepted⟩
    cases order with
    | lt => exact .inl ⟨isFound, accepted⟩
    | eq => exact .inr (.inl ⟨isFound, accepted⟩)
    | gt => exact .inr (.inr ⟨isFound, accepted⟩)
  · rintro (accepted | accepted | accepted)
    all_goals exact ⟨_, accepted⟩

/-- A sign means what the relation holds of that a test compares with. -/
theorem isRelated_eq_holds (expected : Json) (relation : Relation) :
    isRelated member expected relation = relation.holds member expected := by
  cases relation with
  | equal => rw [isRelated, Relation.holds, anyElement_looseEq]
  | notEqual =>
    rw [isRelated, Relation.holds, anyElement_looseEq, ← decide_not]
    simp only [not_exists, not_and]
  | greater | less | atLeast | atMost =>
    rw [isRelated, Relation.holds, anyElement_ordered, Bool.eq_iff_iff, decide_eq_true_iff,
      any_accept_iff]
    simp

theorem isAmong_eq_anyElement (values : List Json) :
    isAmong member values = anyElement member fun found => values.any (Json.looseEq found) := by
  rw [anyElement_eq_any_elements, Bool.eq_iff_iff, isAmong, decide_eq_true_iff, List.any_eq_true]
  simp only [List.any_eq_true]

theorem isHollow_some (value : Json) : isHollow (some value) = value.isEmpty := by
  cases value with
  | array items => cases items <;> rfl
  | object members => cases members <;> rfl
  | string text =>
    by_cases blank : text = ""
    · subst blank
      rfl
    · simp [isHollow, Json.isEmpty, blank]
  | _ => rfl

theorem passes_eq_holds (check : Check) (negated : Bool) :
    passes member check negated = check.holds negated member := by
  cases member with
  | none => cases check <;> cases negated <;> rfl
  | some value =>
    have hollow := isHollow_some value
    cases value with
    | null => cases check <;> cases negated <;> rfl
    | _ =>
      cases check with
      | defined => cases negated <;> rfl
      | empty =>
        cases negated with
        | false => exact hollow.trans (Bool.bne_false _).symm
        | true => exact (congrArg (!·) hollow).trans (Bool.bne_true _).symm

theorem hasValues_eq_holds (values : List Json) (quantifier : Quantifier) :
    hasValues member values quantifier = quantifier.holds member values := by
  cases member with
  | none => cases quantifier <;> rfl
  | some value =>
    cases value with
    | array items =>
      cases quantifier with
      | any =>
        rw [hasValues, Quantifier.holds, Bool.eq_iff_iff, decide_eq_true_iff]
        simp only [List.any_eq_true]
      | all =>
        rw [hasValues, Quantifier.holds, Bool.eq_iff_iff, decide_eq_true_iff]
        simp only [List.any_eq_true, List.all_eq_true]
    | _ => cases quantifier <;> rfl

end Leaves

theorem Condition.evaluate_test (vars : Variables) (field : String) (doc : Json)
    (condition : Condition) :
    (condition.test field).evaluate vars doc = condition.evaluate vars (doc.field? field) := by
  cases condition with
  | comparison relation sign term =>
    simp only [Condition.test, Test.evaluate, Condition.evaluate, Term.resolve_operand,
      isRelated_eq_holds]
    cases term.value vars <;> rfl
  | membership negation word terms =>
    simp only [Condition.test, Test.evaluate, TermList.operands, Term.resolveAll_operands]
    cases negation with
    | none =>
      simp only [Condition.evaluate, TermList.values, isAmong_eq_anyElement]
      cases terms.terms.mapM (·.values vars) with
      | error error => rfl
      | ok lists => exact congrArg Except.ok (Bool.bne_false _)
    | some negating =>
      simp only [Condition.evaluate, TermList.values, isAmong_eq_anyElement]
      cases terms.terms.mapM (·.values vars) with
      | error error => rfl
      | ok lists => exact congrArg Except.ok (Bool.bne_true _)
  | examination word negation check checked =>
    exact congrArg Except.ok (passes_eq_holds check negation.isSome).symm
  | containment word quantifier quantified terms =>
    simp only [Condition.test, Test.evaluate, Condition.evaluate, TermList.values,
      TermList.operands, Term.resolveAll_operands, hasValues_eq_holds]
    cases terms.terms.mapM (·.values vars) <;> rfl

/-- The test that a derivation is read as has the meaning of the derivation. -/
theorem Derivation.evaluate_test (vars : Variables) {phrase : Phrase}
    (derivation : Derivation phrase) (doc : Json) :
    derivation.test.evaluate vars doc = derivation.evaluate vars doc := by
  induction derivation generalizing doc with
  | ofConjunction inner ih => exact ih doc
  | ofUnary inner ih => exact ih doc
  | ofPrimary inner ih => exact ih doc
  | group opening inner closing ih => exact ih doc
  | disjunction left word right ihLeft ihRight =>
    simp only [Derivation.test, Test.evaluate, Derivation.evaluate, ihLeft, ihRight]
    cases left.evaluate vars doc with
    | error e => rfl
    | ok holds => cases holds <;> rfl
  | conjunction left word right ihLeft ihRight =>
    simp only [Derivation.test, Test.evaluate, Derivation.evaluate, ihLeft, ihRight]
    cases left.evaluate vars doc with
    | error e => rfl
    | ok holds => cases holds <;> rfl
  | negation word inner ih =>
    simp only [Derivation.test, Test.evaluate, Derivation.evaluate, ih]
    cases inner.evaluate vars doc <;> rfl
  | condition field behind => exact behind.evaluate_test vars field.val.text doc
  | descent field opening inner closing ih =>
    simp only [Derivation.test, Test.evaluate, Derivation.evaluate, ih]
    cases doc.field? field.val.text with
    | none => rfl
    | some child => cases child <;> rfl

end Storefront.Predicate
