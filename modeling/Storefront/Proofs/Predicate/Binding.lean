import Storefront.Proofs.Predicate.Parameters
import Storefront.Proofs.Predicate.Parsing

/-!
What a predicate takes from the values given to parameters. A test asks for the values of its own
parameters and of no others, and these are the names that its text writes behind a colon. Evaluation
fails at such a name without a value, and at nothing else.
-/
namespace Storefront

/-- Two bindings give the same value to each of some names, or none. -/
def AgreeOn (among : String → Prop) (left right : Variables) : Prop :=
  ∀ name, among name → Dictionary.get? left name = Dictionary.get? right name

variable {left right : Variables}

theorem AgreeOn.mono {among fewer : String → Prop} (agree : AgreeOn among left right)
    (within : ∀ name, fewer name → among name) : AgreeOn fewer left right :=
  fun name belongs => agree name (within name belongs)

/-! ### Evaluation under bindings that agree -/

namespace Operand

theorem resolve_congr {operand : Operand}
    (agree : AgreeOn (operand.parameter? = some ·) left right) :
    operand.resolve left = operand.resolve right := by
  cases operand with
  | value literal => rfl
  | parameter name => simp only [resolve, agree name rfl]

theorem splice_congr {operand : Operand}
    (agree : AgreeOn (operand.parameter? = some ·) left right) :
    operand.splice left = operand.splice right := by
  simp only [splice, resolve_congr agree]

theorem resolveAll_congr {operands : List Operand}
    (agree : AgreeOn (· ∈ operands.filterMap parameter?) left right) :
    resolveAll left operands = resolveAll right operands := by
  induction operands with
  | nil => rfl
  | cons operand operands ih =>
    have here : operand.splice left = operand.splice right := by
      apply splice_congr
      apply agree.mono
      intro name named
      exact List.mem_filterMap.mpr ⟨operand, List.mem_cons_self, named⟩
    have later : resolveAll left operands = resolveAll right operands := by
      apply ih
      apply agree.mono
      intro name named
      obtain ⟨other, among, isNamed⟩ := List.mem_filterMap.mp named
      exact List.mem_filterMap.mpr ⟨other, List.mem_cons_of_mem operand among, isNamed⟩
    simp only [resolveAll, here, later]

theorem filterMap_parameter?_cons (operand : Operand) (operands : List Operand) :
    (operand :: operands).filterMap parameter? =
      operand.parameter?.toList ++ operands.filterMap parameter? := by
  cases operand <;> rfl

end Operand

/-- A test asks for the values of its parameters and of no others. -/
theorem Test.evaluate_congr {test : Test} (agree : AgreeOn (· ∈ test.parameters) left right) :
    test.evaluate left = test.evaluate right := by
  induction test with
  | negation inner ih =>
    funext doc
    simp only [evaluate, ih agree]
  | conjunction first second ihFirst ihSecond =>
    funext doc
    have before := ihFirst (agree.mono fun name => List.mem_append_left second.parameters)
    have behind := ihSecond (agree.mono fun name => List.mem_append_right first.parameters)
    simp only [evaluate, before, behind]
  | disjunction first second ihFirst ihSecond =>
    funext doc
    have before := ihFirst (agree.mono fun name => List.mem_append_left second.parameters)
    have behind := ihSecond (agree.mono fun name => List.mem_append_right first.parameters)
    simp only [evaluate, before, behind]
  | comparison field relation operand =>
    funext doc
    have same := Operand.resolve_congr (agree.mono fun name => Option.mem_toList.mpr)
    simp only [evaluate, same]
  | membership field negated operands =>
    funext doc
    simp only [evaluate, Operand.resolveAll_congr agree]
  | examination field negated check => rfl
  | containment field quantifier operands =>
    funext doc
    simp only [evaluate, Operand.resolveAll_congr agree]
  | descent field inner ih =>
    funext doc
    simp only [evaluate, ih agree]

namespace Predicate

/-! ### Parameters as they are written -/

/-- The names of the parameters among some tokens. -/
def parameterNames (tokens : List (Token Kind)) : List String :=
  (tokens.filter (·.kind = .parameter)).map parameterName

@[simp] theorem parameterNames_append (front back : List (Token Kind)) :
    parameterNames (front ++ back) = parameterNames front ++ parameterNames back := by
  simp only [parameterNames, List.filter_append, List.map_append]

/-- A word of another kind names no parameter. -/
theorem parameterNames_word {kind : Kind} (word : Word kind) (other : kind ≠ .parameter)
    (behind : List (Token Kind)) : parameterNames (word.val :: behind) = parameterNames behind := by
  have passed : ¬ word.val.kind = .parameter := fun same => other (word.property.symm.trans same)
  simp only [parameterNames, List.filter_cons, passed, decide_false, if_false, Bool.false_eq_true]

theorem parameterNames_parameter (word : Word .parameter) (behind : List (Token Kind)) :
    parameterNames (word.val :: behind) = parameterName word.val :: parameterNames behind := by
  simp only [parameterNames, List.filter_cons, word.property, decide_true, if_true, List.map_cons]

theorem parameterNames_term (term : Term) (behind : List (Token Kind)) :
    parameterNames (term.token :: behind) =
      term.operand.parameter?.toList ++ parameterNames behind := by
  cases term with
  | text word => exact parameterNames_word word (by decide) behind
  | number word value converts => exact parameterNames_word word (by decide) behind
  | yes word => exact parameterNames_word word (by decide) behind
  | no word => exact parameterNames_word word (by decide) behind
  | parameter word => exact parameterNames_parameter word behind

theorem parameterNames_furtherTokens (more : List (Word .comma × Term)) :
    parameterNames (furtherTokens more) =
      (more.map (·.2.operand)).filterMap Operand.parameter? := by
  induction more with
  | nil => rfl
  | cons item more ih =>
    obtain ⟨comma, term⟩ := item
    change parameterNames (comma.val :: term.token :: furtherTokens more) = _
    rw [parameterNames_word comma (by decide), parameterNames_term, ih, List.map_cons,
      Operand.filterMap_parameter?_cons]

theorem TermList.parameterNames_tokens (terms : TermList) :
    parameterNames terms.tokens = terms.operands.filterMap Operand.parameter? := by
  cases terms with
  | parameter word => exact parameterNames_parameter word []
  | listed opening first more closing =>
    have operands : (TermList.listed opening first more closing).operands =
        first.operand :: more.map (·.2.operand) := by
      simp only [TermList.operands, TermList.terms, List.map_cons, List.map_map, Function.comp_def]
    rw [operands, Operand.filterMap_parameter?_cons, TermList.tokens,
      parameterNames_word opening (by decide), parameterNames_term, parameterNames_append,
      parameterNames_furtherTokens, parameterNames_word closing (by decide)]
    exact congrArg _ (List.append_nil _)

theorem parameterNames_negationTokens (negation : Option (Word .not)) :
    parameterNames (negationTokens negation) = [] := by
  cases negation with
  | none => rfl
  | some word => exact parameterNames_word word (by decide) []

/-- A condition has the parameters that its tokens name. -/
theorem Condition.parameters_test (field : String) (condition : Condition) :
    (condition.test field).parameters = parameterNames condition.tokens := by
  cases condition with
  | comparison relation sign term =>
    have isSign : Kind.ofRelation relation ≠ .parameter := by cases relation <;> decide
    rw [Condition.tokens, parameterNames_word sign isSign, parameterNames_term]
    exact (List.append_nil _).symm
  | membership negation word terms =>
    rw [Condition.tokens, parameterNames_append, parameterNames_negationTokens,
      parameterNames_word word (by decide), terms.parameterNames_tokens]
    rfl
  | examination word negation check checked =>
    have isCheck : Kind.ofCheck check ≠ .parameter := by cases check <;> decide
    rw [Condition.tokens, parameterNames_word word (by decide), parameterNames_append,
      parameterNames_negationTokens, parameterNames_word checked isCheck]
    rfl
  | containment word quantifier quantified terms =>
    have isQuantifier : Kind.ofQuantifier quantifier ≠ .parameter := by cases quantifier <;> decide
    rw [Condition.tokens, parameterNames_word word (by decide),
      parameterNames_word quantified isQuantifier, terms.parameterNames_tokens]
    rfl

/-- The parameters of a test are those that the tokens it was read from name. -/
theorem Derivation.parameters_test {phrase : Phrase} (derivation : Derivation phrase) :
    derivation.test.parameters = parameterNames derivation.tokens := by
  induction derivation with
  | ofConjunction inner ih => exact ih
  | ofUnary inner ih => exact ih
  | ofPrimary inner ih => exact ih
  | disjunction first word second ihFirst ihSecond =>
    rw [Derivation.tokens, parameterNames_append, parameterNames_word word (by decide), ← ihFirst,
      ← ihSecond]
    rfl
  | conjunction first word second ihFirst ihSecond =>
    rw [Derivation.tokens, parameterNames_append, parameterNames_word word (by decide), ← ihFirst,
      ← ihSecond]
    rfl
  | negation word inner ih =>
    rw [Derivation.tokens, parameterNames_word word (by decide), ← ih]
    rfl
  | group opening inner closing ih =>
    rw [Derivation.tokens, parameterNames_word opening (by decide), parameterNames_append, ← ih,
      parameterNames_word closing (by decide)]
    exact (List.append_nil _).symm
  | condition field behind =>
    rw [Derivation.tokens, parameterNames_word field (by decide), ← behind.parameters_test field.val.text]
    rfl
  | descent field opening inner closing ih =>
    rw [Derivation.tokens, parameterNames_word field (by decide), parameterNames_word opening (by decide),
      parameterNames_append, ← ih, parameterNames_word closing (by decide)]
    exact (List.append_nil _).symm

/-! ### Parameters of a text -/

/-- A text has a parameter of this name among its tokens, written behind a colon. -/
def Mentions (source name : String) : Prop :=
  ∃ tokens, lexicon.tokenize source = .ok tokens ∧
    ∃ token ∈ tokens, token.kind = .parameter ∧ token.text = ":" ++ name

theorem pattern_of_parameter {rule : TokenRule Kind} (member : rule ∈ lexicon)
    (kind : rule.kind = .parameter) : rule.pattern = Pattern.parameter := by
  have only : lexicon.filter (fun rule => rule.kind = .parameter) =
      [⟨.parameter, Pattern.parameter, false⟩] := rfl
  have found : rule ∈ lexicon.filter fun rule => rule.kind = .parameter :=
    List.mem_filter.mpr ⟨member, decide_eq_true kind⟩
  rw [only] at found
  exact congrArg TokenRule.pattern (List.mem_singleton.mp found)

theorem parameterName_of_text {token : Token Kind} {name : String}
    (text : token.text = ":" ++ name) : parameterName token = name := by
  rw [parameterName, text, String.toList_append]
  exact String.ofList_toList

/-- The text of a parameter is its name behind a colon. -/
theorem text_of_parameter {source : String} {tokens : List (Token Kind)} {token : Token Kind}
    (cut : lexicon.tokenize source = .ok tokens) (member : token ∈ tokens)
    (kind : token.kind = .parameter) : token.text = ":" ++ parameterName token := by
  obtain ⟨rule, among, same, rest, n, taken, text⟩ :=
    Lexicon.exists_rule_of_mem_tokensFrom cut member
  rw [pattern_of_parameter among (same.trans kind)] at taken
  unfold Pattern.parameter at taken
  split at taken
  · rename_i behind
    obtain ⟨m, -, rfl⟩ := Option.map_eq_some_iff.mp taken
    have split : token.text = ":" ++ String.ofList (behind.take m) := by
      rw [text, Nat.add_comm, List.take_succ_cons]
      exact String.ofList_cons
    rw [parameterName_of_text split, split]
  · contradiction

/-- The parameters of a compiled test are those that its text mentions. -/
theorem mem_parameters_iff_mentions {source name : String} {derivation : Derivation .test}
    (cut : lexicon.tokenize source = .ok derivation.tokens) :
    name ∈ derivation.test.parameters ↔ Mentions source name := by
  rw [derivation.parameters_test, parameterNames, List.mem_map]
  constructor
  · rintro ⟨token, among, rfl⟩
    obtain ⟨member, kind⟩ := List.mem_filter.mp among
    have isParameter := of_decide_eq_true kind
    exact ⟨_, cut, token, member, isParameter, text_of_parameter cut member isParameter⟩
  · rintro ⟨tokens, cut', token, member, kind, text⟩
    cases cut.symm.trans cut'
    exact ⟨token, List.mem_filter.mpr ⟨member, decide_eq_true kind⟩, parameterName_of_text text⟩

/-- What a text compiles to fails at a parameter that it mentions and that is given no value, or not at
all. It does not fail where all that it mentions have values, and what else is given a value does not
matter. -/
theorem evaluation_fails_only_unbound {source : String} {predicate : Predicate}
    (compiled : compile source = .ok predicate) :
    (∀ vars doc,
      (∃ truth, predicate.matchesWith vars doc = .ok truth) ∨
        ∃ name, Mentions source name ∧ Unbound vars name ∧
          predicate.matchesWith vars doc = .error (.badInput (.unbound name))) ∧
    (∀ vars, (∀ name, Mentions source name → ¬ Unbound vars name) →
      ∀ doc, ∃ truth, predicate.matchesWith vars doc = .ok truth) ∧
    ∀ left right, AgreeOn (Mentions source) left right →
      ∀ doc, predicate.matchesWith left doc = predicate.matchesWith right doc := by
  obtain ⟨derivation, cut, rfl⟩ := compile_eq_ok_iff.mp compiled
  have mentioned (name : String) : name ∈ derivation.test.parameters ↔ Mentions source name :=
    mem_parameters_iff_mentions cut
  simp only [matchesWith_single]
  refine ⟨?_, ?_, ?_⟩
  · intro vars doc
    cases evaluated : derivation.test.evaluate vars doc with
    | ok truth => exact .inl ⟨truth, rfl⟩
    | error error =>
      obtain ⟨name, rfl, met⟩ := Test.evaluate_error_iff.mp evaluated
      obtain ⟨among, unbound⟩ := met.parameter
      exact .inr ⟨name, (mentioned name).mp among, unbound, rfl⟩
  · intro vars bound doc
    apply Test.exists_evaluate
    intro name among
    exact bound name ((mentioned name).mp among)
  · intro left right agree doc
    have same := agree.mono fun name => (mentioned name).mp
    rw [Test.evaluate_congr same]

/-- A disjunction comes to its second parameter only where the first side is false. With values for
both it does not fail, whatever else has a value. -/
theorem evaluation_fails_only_unbound_in_alternative :
    let source := "a = :x or b in (1, :y)"
    let one : Variables := [("x", .ofNat 1)]
    let both : Variables := [("x", .ofNat 1), ("y", .string "k")]
    let more : Variables := ("z", .null) :: both
    (∃ predicate, compile source = .ok predicate) ∧
    ∀ predicate, compile source = .ok predicate →
      (∃ truth, predicate.matchesWith one (.object [("a", .ofNat 1)]) = .ok truth) ∧
      (∃ name, Mentions source name ∧ Unbound one name ∧
        predicate.matchesWith one (.object []) = .error (.badInput (.unbound name))) ∧
      (∀ doc, ∃ truth, predicate.matchesWith both doc = .ok truth) ∧
      ∀ doc, predicate.matchesWith both doc = predicate.matchesWith more doc := by
  intro source one both more
  have compiles : ∃ predicate, compile source = .ok predicate := by
    have succeeds : (compile source).isOk = true := by decide +kernel
    cases compiled : compile source with
    | ok predicate => exact ⟨predicate, rfl⟩
    | error error =>
      rw [compiled] at succeeds
      contradiction
  refine ⟨compiles, ?_⟩
  intro predicate compiled
  have mentions (name : String) (mentioned : Mentions source name) : name = "x" ∨ name = "y" := by
    have names : (compile source).toOption.map (·.tests.flatMap Test.parameters) =
        some ["x", "y"] := by decide +kernel
    obtain ⟨derivation, cut, rfl⟩ := compile_eq_ok_iff.mp compiled
    rw [compiled] at names
    have all : derivation.test.parameters ++ [] = ["x", "y"] := Option.some.inj names
    have among : name ∈ derivation.test.parameters ++ [] :=
      List.mem_append_left [] ((mem_parameters_iff_mentions cut).mpr mentioned)
    rw [all] at among
    simpa only [List.mem_cons, List.not_mem_nil, or_false] using among
  have accepts : (compile source).toOption.map
      (fun predicate => (predicate.matchesWith one (.object [("a", .ofNat 1)])).isOk) =
        some true := by decide +kernel
  have fails : (compile source).toOption.map
      (fun predicate => (predicate.matchesWith one (.object [])).isOk) = some false := by
    decide +kernel
  rw [compiled] at accepts fails
  have ⟨outcome, bound, agreement⟩ := evaluation_fails_only_unbound compiled
  refine ⟨?_, ?_, ?_, ?_⟩
  · rcases outcome one (.object [("a", .ofNat 1)]) with matched | ⟨name, -, -, failed⟩
    · exact matched
    · have matched : (predicate.matchesWith one (.object [("a", .ofNat 1)])).isOk = true :=
        Option.some.inj accepts
      rw [failed] at matched
      contradiction
  · rcases outcome one (.object []) with ⟨truth, matched⟩ | unbound
    · have failed : (predicate.matchesWith one (.object [])).isOk = false :=
        Option.some.inj fails
      rw [matched] at failed
      contradiction
    · exact unbound
  · apply bound
    intro name mentioned
    rcases mentions name mentioned with rfl | rfl <;> exact nofun
  · apply agreement
    intro name mentioned
    rcases mentions name mentioned with rfl | rfl <;> rfl

end Predicate
end Storefront
