import Storefront.Proofs.Token.Lexing
import Storefront.Token.Pattern

/-!
Laying out tokens as a text. White space of any length may stand between two tokens and at both
ends, and has to stand where a word would otherwise run on into the next one. A layout is cut into
the tokens that were laid out, if each of them is what the first rule takes in front of the rest.
-/
namespace Storefront

/-- A token as it is written, without its place. -/
structure Lexeme (κ : Type) where
  kind : κ
  text : String

def Token.lexeme {κ : Type} (token : Token κ) : Lexeme κ :=
  ⟨token.kind, token.text⟩

/-- Whether the last character is one of a word. -/
def endsInWord (cs : List Char) : Bool :=
  cs.getLast?.any Text.isWord

section Layouts
variable {κ : Type}

/-- The texts that lexemes can be laid out as. -/
inductive LaidOut : List (Lexeme κ) → List Char → Prop
  | nil {gap : List Char} (blank : gap.all Text.isBlank = true) : LaidOut [] gap
  | cons {gap rest : List Char} {lexeme : Lexeme κ} {more : List (Lexeme κ)}
      (blank : gap.all Text.isBlank = true)
      (apart : endsInWord lexeme.text.toList = true → Pattern.atWordEnd rest = true)
      (further : LaidOut more rest) :
      LaidOut (lexeme :: more) (gap ++ (lexeme.text.toList ++ rest))

/-- Pieces with a separator between two of them: the first one, and the others behind theirs. -/
theorem intercalate_cons {α : Type} (separator : α) (first : List α) (more : List (List α)) :
    [separator].intercalate (first :: more) = first ++ more.flatMap (separator :: ·) := by
  induction more generalizing first with
  | nil => simp
  | cons next more ih =>
    rw [List.intercalate_cons_cons, ih next, List.flatMap_cons, List.append_assoc]
    rfl

/-- Lexemes with a blank in front of each. -/
def spaced (lexemes : List (Lexeme κ)) : List Char :=
  lexemes.flatMap fun lexeme => ' ' :: lexeme.text.toList

/-- Whatever the lexemes are, they can be laid out. -/
theorem laidOut_spaced (lexemes : List (Lexeme κ)) : LaidOut lexemes (spaced lexemes) := by
  induction lexemes with
  | nil => exact .nil rfl
  | cons lexeme more ih =>
    have ends : Pattern.atWordEnd (spaced more) = true := by
      cases more with
      | nil => rfl
      | cons next more => rfl
    have blank : [' '].all Text.isBlank = true := rfl
    exact .cons blank (fun _ => ends) ih

/-- A layout begins with white space or as its first lexeme does. -/
theorem LaidOut.starts {P : Char → Prop} (blank : ∀ c, Text.isBlank c = true → P c)
    {lexemes : List (Lexeme κ)}
    (starts : ∀ lexeme ∈ lexemes.head?, ∃ c cs, lexeme.text.toList = c :: cs ∧ P c)
    {cs : List Char} (laid : LaidOut lexemes cs) : ∀ c ∈ cs.head?, P c := by
  have ofGap : ∀ {gap rest : List Char}, gap.all Text.isBlank = true →
      (∀ c ∈ rest.head?, P c) → ∀ c ∈ (gap ++ rest).head?, P c := by
    intro gap rest blanks behind c head
    cases gap with
    | nil => exact behind c head
    | cons d gap =>
      cases head
      exact blank c (List.all_eq_true.1 blanks c (by simp))
  cases laid with
  | nil blanks =>
    rw [← List.append_nil cs]
    exact ofGap blanks (by simp)
  | cons blanks apart further =>
    refine ofGap blanks fun c head => ?_
    obtain ⟨d, ds, split, holds⟩ := starts _ rfl
    rw [split] at head
    cases head
    exact holds

/-- The first character is no white space, and there is one. -/
def StartsSolid (cs : List Char) : Prop :=
  ∃ c rest, cs = c :: rest ∧ Text.isBlank c = false

/-- What the first rule that matches takes in front of a text is the lexeme. -/
def Takes (lexicon : Lexicon κ) (lexeme : Lexeme κ) (rest : List Char) : Prop :=
  ∃ rule, lexicon.firstMatch? (lexeme.text.toList ++ rest) =
      some (rule, lexeme.text.toList.length) ∧
    rule.kind = lexeme.kind ∧ rule.skipped = false

/-- What a rule takes that stands behind others is taken, if those match nothing there. -/
theorem takes_of_drop {lexicon : Lexicon κ} {lexeme : Lexeme κ} {rest : List Char} {pattern : Pattern}
    (before : Nat)
    (skips : lexicon.firstMatch? (lexeme.text.toList ++ rest) =
      Lexicon.firstMatch? (lexicon.drop before) (lexeme.text.toList ++ rest))
    (next : (lexicon.drop before).head? = some ⟨lexeme.kind, pattern, false⟩)
    (taken : pattern (lexeme.text.toList ++ rest) = some lexeme.text.toList.length)
    (nonempty : 0 < lexeme.text.toList.length) : Takes lexicon lexeme rest := by
  obtain ⟨rules, split⟩ := List.head?_eq_some_iff.1 next
  obtain ⟨n, length⟩ := Nat.exists_eq_succ_of_ne_zero (Nat.ne_of_gt nonempty)
  rw [length] at taken
  refine ⟨⟨lexeme.kind, pattern, false⟩, ?_, rfl, rfl⟩
  rw [skips, split, Lexicon.firstMatch?_some taken, length]

/-- A layout in which each lexeme is taken. -/
inductive Cut (lexicon : Lexicon κ) : List (Lexeme κ) → List Char → Prop
  | nil {gap : List Char} (blank : gap.all Text.isBlank = true) : Cut lexicon [] gap
  | cons {gap rest : List Char} {lexeme : Lexeme κ} {more : List (Lexeme κ)}
      (blank : gap.all Text.isBlank = true) (solid : StartsSolid lexeme.text.toList)
      (takes : Takes lexicon lexeme rest) (further : Cut lexicon more rest) :
      Cut lexicon (lexeme :: more) (gap ++ (lexeme.text.toList ++ rest))

/-- A layout is cut into its lexemes, if each of them is taken wherever it stands apart from the next
one and no point follows, and none of them begins with a blank or a point. -/
theorem cut_of_laidOut {lexicon : Lexicon κ} {regular : Lexeme κ → Prop}
    (starts : ∀ {lexeme}, regular lexeme →
      ∃ c cs, lexeme.text.toList = c :: cs ∧ Text.isBlank c = false ∧ c ≠ '.')
    (taken : ∀ {lexeme rest}, regular lexeme →
      (endsInWord lexeme.text.toList = true → Pattern.atWordEnd rest = true) →
      rest.head? ≠ some '.' → Takes lexicon lexeme rest)
    {lexemes : List (Lexeme κ)} {cs : List Char} (laid : LaidOut lexemes cs)
    (all : ∀ lexeme ∈ lexemes, regular lexeme) : Cut lexicon lexemes cs := by
  induction laid with
  | nil blank => exact .nil blank
  | @cons gap rest lexeme more blank apart further ih =>
    obtain ⟨isRegular, others⟩ := List.forall_mem_cons.mp all
    have noPoint : ∀ c ∈ rest.head?, c ≠ '.' := by
      refine further.starts ?_ fun next mem => ?_
      · rintro c blank rfl
        exact absurd blank (by decide)
      · obtain ⟨c, cs, split, -, noPoint⟩ := starts (others next (List.mem_of_mem_head? mem))
        exact ⟨c, cs, split, noPoint⟩
    obtain ⟨c, cs, split, notBlank, -⟩ := starts isRegular
    refine .cons blank ⟨c, cs, split, notBlank⟩ ?_ (ih others)
    exact taken isRegular apart fun head => noPoint '.' head rfl

variable {kind : κ} {rules : Lexicon κ}

/-- White space in front of tokens only moves them. -/
theorem tokensFrom_gap {gap rest : List Char} (blank : gap.all Text.isBlank = true)
    (solid : rest = [] ∨ StartsSolid rest) (offset : Nat) :
    ∃ offset', Lexicon.tokensFrom (⟨kind, Pattern.blanks, true⟩ :: rules) offset (gap ++ rest) =
      Lexicon.tokensFrom (⟨kind, Pattern.blanks, true⟩ :: rules) offset' rest := by
  cases gap with
  | nil => exact ⟨offset, rfl⟩
  | cons c gap =>
    have stops : rest.takeWhile Text.isBlank = [] := by
      rcases solid with rfl | ⟨d, rest, rfl, notBlank⟩
      · rfl
      · simp [notBlank]
    have taken : Pattern.blanks ((c :: gap) ++ rest) = some (gap.length + 1) := by
      rw [Pattern.blanks, Pattern.many1,
        List.takeWhile_append_of_pos (List.all_eq_true.1 blank), stops, List.append_nil,
        List.length_cons]
    refine ⟨offset + byteLength (c :: gap), ?_⟩
    rw [Lexicon.tokensFrom_append (Lexicon.firstMatch?_some taken)]
    cases Lexicon.tokensFrom (⟨kind, Pattern.blanks, true⟩ :: rules)
      (offset + byteLength (c :: gap)) rest <;> rfl

/-- A text is cut into the lexemes that are taken from it, one after another. -/
theorem Cut.tokensFrom {lexemes : List (Lexeme κ)} {cs : List Char}
    (cut : Cut (⟨kind, Pattern.blanks, true⟩ :: rules) lexemes cs) (offset : Nat) :
    ∃ tokens, Lexicon.tokensFrom (⟨kind, Pattern.blanks, true⟩ :: rules) offset cs = .ok tokens ∧
      tokens.map Token.lexeme = lexemes := by
  induction cut generalizing offset with
  | @nil gap blank =>
    obtain ⟨offset', moved⟩ := tokensFrom_gap blank (.inl rfl) offset
    rw [List.append_nil] at moved
    exact ⟨[], moved.trans (Lexicon.tokensFrom_nil _ _), rfl⟩
  | @cons gap rest lexeme more blank solid takes further ih =>
    obtain ⟨c, cs, start, notBlank⟩ := solid
    have solid' : StartsSolid (lexeme.text.toList ++ rest) :=
      ⟨c, cs ++ rest, by rw [start, List.cons_append], notBlank⟩
    obtain ⟨offset', moved⟩ := tokensFrom_gap blank (.inr solid') offset
    obtain ⟨rule, found, sameKind, kept⟩ := takes
    obtain ⟨tokens, behind, same⟩ := ih (offset' + byteLength lexeme.text.toList)
    refine ⟨⟨rule.kind, String.ofList lexeme.text.toList, offset'⟩ :: tokens, ?_, ?_⟩
    · rw [moved, Lexicon.tokensFrom_append found, behind]
      simp [Except.map, kept]
    · rw [List.map_cons, same]
      simp [Token.lexeme, sameKind]

end Layouts
end Storefront
