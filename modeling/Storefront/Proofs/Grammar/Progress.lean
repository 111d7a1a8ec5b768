import Storefront.Proofs.Filter.Programs
import Storefront.Proofs.Filter.Soundness
import Storefront.Proofs.Predicate.Programs
import Storefront.Proofs.Predicate.Soundness

/-!
Progress of parsing. The rules for predicates and those for filters, as programs that may call each other
and repeat as they like, come to an end on every list of tokens and with every threshold: each call and
each repetition finds fewer tokens than the one before it. An expression that is read has taken tokens
from the front, and a text is accepted only if its expression takes them all.
-/
namespace Storefront
namespace Grammar
variable {κ α : Type} {grammar : Grammar κ α} {programs : Programs κ α}

theorem Inductive.exists_consumed {invariant : Nat → α → List (Token κ) → List (Token κ) → Prop}
    (kept : grammar.Inductive invariant) {threshold : Nat} {tokens : List (Token κ)}
    {parsed : Parsed κ α tokens.length} (read : grammar.parse threshold tokens = .ok parsed) :
    ∃ consumed, consumed ≠ [] ∧ tokens = consumed ++ parsed.rest := by
  have splits := kept.ensures_parse threshold tokens
  rw [read] at splits
  obtain ⟨consumed, split, -⟩ := splits
  refine ⟨consumed, fun none => ?_, split⟩
  have shorter := parsed.shorter
  rw [none, List.nil_append] at split
  exact absurd (congrArg List.length split) (Nat.ne_of_gt shorter)

theorem parseAll_eq_ok_iff {tokens : List (Token κ)} {value : α} :
    grammar.parseAll tokens = .ok value ↔
      ∃ shorter, grammar.parse 0 tokens = .ok ⟨value, [], shorter⟩ := by
  rw [parseAll]
  cases grammar.parse 0 tokens with
  | error e => simp
  | ok parsed =>
    obtain ⟨read, rest, shorter⟩ := parsed
    cases rest with
    | nil =>
      constructor
      · intro same
        cases same
        exact ⟨shorter, rfl⟩
      · rintro ⟨_, same⟩
        cases same
        rfl
    | cons token rest => simp

/-- What parsing by a grammar does at most, told on programs that do the same. -/
structure MakesProgress (grammar : Grammar κ α) (programs : Programs κ α) : Prop where
  /-- Fuel for one call more than there are tokens is enough, also for what is refused. -/
  ends : ∀ fuel threshold tokens, tokens.length < fuel →
    (programs.parse fuel threshold).Runs tokens (grammar.parse threshold tokens)
  /-- The tokens left are a proper suffix. -/
  consumes : ∀ threshold tokens parsed, grammar.parse threshold tokens = .ok parsed →
    ∃ consumed, consumed ≠ [] ∧ tokens = consumed ++ parsed.rest
  /-- Fuel for one call more than there are characters is enough for a text. -/
  finishes : ∀ fuel source, source.length < fuel →
    programs.parseSource grammar.lexicon fuel source = some (grammar.parseSource source)
  /-- A text is accepted if and only if no token is left over. -/
  exhausts : ∀ source value, grammar.parseSource source = .ok value ↔
    ∃ tokens, grammar.lexicon.tokenize source = .ok tokens ∧
      ∃ shorter, grammar.parse 0 tokens = .ok ⟨value, [], shorter⟩

theorem makesProgress {invariant : Nat → α → List (Token κ) → List (Token κ) → Prop}
    (kept : grammar.Inductive invariant) (agree : programs.Agree grammar) :
    grammar.MakesProgress programs where
  ends := agree.runs_parse
  consumes _ _ _ := kept.exists_consumed
  finishes _ _ := agree.parseSource_eq
  exhausts _ _ := by simp only [parseSource_eq_ok_iff, parseAll_eq_ok_iff]

end Grammar

/-- Parsing predicates and parsing filters come to an end on all tokens, take at least one of them with
each expression and accept a text only as a whole; so compiling comes to an end on every text. -/
theorem parsing_makes_progress :
    Predicate.grammar.MakesProgress Predicate.programs ∧
    Filter.grammar.MakesProgress Filter.programs ∧
    ∀ (source : String) (more : Nat),
      Predicate.compileWithin (source.length + 1 + more) source = some (Predicate.compile source) ∧
      Filter.compileWithin (source.length + 1 + more) source = some (Filter.compile source) := by
  refine ⟨Grammar.makesProgress Predicate.stands_inductive Predicate.programs_agree,
    Grammar.makesProgress Filter.stands_inductive Filter.programs_agree, fun source more => ?_⟩
  have enough : source.length < source.length + 1 + more := by omega
  exact ⟨Predicate.compileWithin_eq enough, Filter.compileWithin_eq enough⟩

end Storefront
