import Storefront.Proofs.Token.Layout
import Storefront.Proofs.Token.Words

/-!
Texts that go on. A pattern takes no more than there is, and it takes the same from a text that goes on
with a character which is part of nothing it looks for. Where this is so of all rules of a table, a text
is cut into the same tokens whatever stands behind such a character.
-/
namespace Storefront

namespace Pattern

/-! ### Digits with a sign -/

def signLength (cs : List Char) : Nat :=
  if cs.head? = some '-' then 1 else 0

/-- Digits behind a sign of some length, and a fraction or none. -/
def digitsFrom (sign : Nat) : Pattern := fun cs =>
  match ((cs.drop sign).takeWhile Text.isDigit).length with
  | 0 => none
  | n => some (sign + n + optional fraction (cs.drop (sign + n)))

theorem signLength_le (cs : List Char) : signLength cs ≤ cs.length := by
  cases cs with
  | nil => exact Nat.le_refl 0
  | cons c cs =>
    rw [signLength, List.length_cons]
    split <;> omega

theorem fixedPoint_eq (cs : List Char) : fixedPoint cs = digitsFrom (signLength cs) cs := by
  unfold fixedPoint signLength
  split
  · rfl
  · rename_i unsigned
    have other : cs.head? ≠ some '-' := by
      intro minus
      obtain ⟨rest, split⟩ := List.head?_eq_some_iff.mp minus
      exact unsigned rest split
    rw [if_neg other]
    rfl

/-! ### What patterns take is there -/

/-- A pattern takes no more than there is. -/
def Bounded (pattern : Pattern) : Prop :=
  ∀ cs n, pattern cs = some n → n ≤ cs.length

theorem length_takeWhile_le (p : Char → Bool) (cs : List Char) :
    (cs.takeWhile p).length ≤ cs.length :=
  (List.takeWhile_prefix p).length_le

theorem bounded_many1 (p : Char → Bool) : Bounded (many1 p) := by
  intro cs n taken
  cases taken
  exact length_takeWhile_le p cs

theorem bounded_exact (text : String) : Bounded (exact text) := by
  intro cs n taken
  rw [exact] at taken
  split at taken
  · rename_i isPrefix
    cases taken
    rw [← String.length_toList]
    exact (List.isPrefixOf_iff_prefix.mp isPrefix).length_le
  · contradiction

theorem wordBy_le {same : Char → Char → Bool} {letters : List Char} {length n : Nat} {cs : List Char}
    (taken : wordBy same letters length cs = some n) : n ≤ length + cs.length := by
  induction letters generalizing length cs with
  | nil =>
    rw [wordBy] at taken
    split at taken
    · cases taken
      exact Nat.le_add_right _ _
    · contradiction
  | cons letter letters ih =>
    cases cs with
    | nil => contradiction
    | cons c cs =>
      rw [wordBy] at taken
      split at taken
      · have within := ih taken
        rw [List.length_cons]
        omega
      · contradiction

theorem bounded_keyword (word : String) : Bounded (keyword word) := by
  intro cs n taken
  have within := wordBy_le taken
  omega

theorem bounded_anyCaseKeyword (word : String) : Bounded (anyCaseKeyword word) := by
  intro cs n taken
  have within := wordBy_le taken
  omega

theorem quotedFrom_le {quote : Char} {length n : Nat} {cs : List Char}
    (taken : quotedFrom quote length cs = some n) : n ≤ length + cs.length := by
  fun_induction quotedFrom quote length cs with
  | case1 => contradiction
  | case2 =>
    cases taken
    rw [List.length_cons]
    omega
  | case3 => contradiction
  | case4 => contradiction
  | case5 _ _ _ _ _ ih =>
    have within := ih taken
    simp only [List.length_cons]
    omega
  | case6 _ _ _ _ _ ih =>
    have within := ih taken
    rw [List.length_cons]
    omega

theorem bounded_quoted (quote : Char) : Bounded (quoted quote) := by
  intro cs n taken
  cases cs with
  | nil => contradiction
  | cons c cs =>
    rw [quoted] at taken
    split at taken
    · have within := quotedFrom_le taken
      rw [List.length_cons]
      omega
    · contradiction

theorem bounded_fraction : Bounded fraction := by
  intro cs n taken
  unfold fraction at taken
  split at taken
  · rename_i cs
    have within := length_takeWhile_le Text.isDigit cs
    split at taken
    · contradiction
    · cases taken
      rw [List.length_cons]
      omega
  · contradiction

theorem optional_le {pattern : Pattern} (bounded : Bounded pattern) (cs : List Char) :
    optional pattern cs ≤ cs.length := by
  rw [optional]
  cases taken : pattern cs with
  | none => exact Nat.zero_le _
  | some n => exact bounded cs n taken

theorem bounded_digitsFrom (sign : Nat) : Bounded (digitsFrom sign) := by
  intro cs n taken
  have counted := length_takeWhile_le Text.isDigit (cs.drop sign)
  rw [List.length_drop] at counted
  rw [digitsFrom] at taken
  split at taken
  · contradiction
  · rename_i nonempty
    have some : ((cs.drop sign).takeWhile Text.isDigit).length ≠ 0 := fun none => nonempty none
    cases taken
    have behind := optional_le bounded_fraction
      (cs.drop (sign + ((cs.drop sign).takeWhile Text.isDigit).length))
    rw [List.length_drop] at behind
    omega

theorem bounded_fixedPoint : Bounded fixedPoint := by
  intro cs n taken
  rw [fixedPoint_eq] at taken
  exact bounded_digitsFrom (signLength cs) cs n taken

/-- The digits of an exponent are there, so its sign is. -/
theorem bounded_exponent : Bounded exponent := by
  intro cs n taken
  have counted (sign : Nat) := length_takeWhile_le Text.isDigit (cs.tail.drop sign)
  have shape : ∃ sign, ((cs.tail.drop sign).takeWhile Text.isDigit).length ≠ 0 ∧
      n = 1 + sign + ((cs.tail.drop sign).takeWhile Text.isDigit).length := by
    unfold exponent at taken
    split at taken
    · split at taken
      · dsimp only at taken
        split at taken
        · contradiction
        · rename_i nonempty
          cases taken
          exact ⟨_, nonempty, rfl⟩
      · contradiction
    · contradiction
  obtain ⟨sign, some, rfl⟩ := shape
  have within := counted sign
  rw [List.length_drop, List.length_tail] at within
  omega

theorem bounded_floatingPoint : Bounded floatingPoint := by
  intro cs n taken
  rw [floatingPoint] at taken
  obtain ⟨front, found, rfl⟩ := Option.map_eq_some_iff.mp taken
  have within := bounded_fixedPoint cs front found
  have behind := optional_le bounded_exponent (cs.drop front)
  rw [List.length_drop] at behind
  omega

theorem bounded_name : Bounded name := by
  intro cs n taken
  cases cs with
  | nil => contradiction
  | cons c cs =>
    have within := length_takeWhile_le isNameRest cs
    rw [name] at taken
    split at taken
    · cases taken
      rw [List.length_cons]
      omega
    · contradiction

theorem bounded_parameter : Bounded parameter := by
  intro cs n taken
  unfold parameter at taken
  split at taken
  · obtain ⟨length, named, rfl⟩ := Option.map_eq_some_iff.mp taken
    have within := bounded_name _ length named
    rw [List.length_cons]
    omega
  · contradiction

/-! ### Characters that nothing goes on with -/

/-- A character that is no white space and no part of a word, a numeral or a parameter. -/
structure IsStop (stop : Char) : Prop where
  blank : Text.isBlank stop = false
  word : Text.isWord stop = false
  digit : Text.isDigit stop = false
  nameRest : isNameRest stop = false
  mark : stop ≠ '.' ∧ stop ≠ '-' ∧ stop ≠ '+' ∧ stop ≠ ':'

theorem isStop_closing : IsStop ')' :=
  ⟨by decide, by decide, by decide, by decide, by decide⟩

/-- A pattern takes the same from a text that is not empty and from the text in front of `stop`. -/
def SettledBy (stop : Char) (pattern : Pattern) : Prop :=
  ∀ c cs rest, pattern (c :: (cs ++ stop :: rest)) = pattern (c :: cs)

variable {stop : Char}

theorem takeWhile_append_stop {p : Char → Bool} (stops : p stop = false) (cs rest : List Char) :
    (cs ++ stop :: rest).takeWhile p = cs.takeWhile p := by
  induction cs with
  | nil => simp [stops]
  | cons c cs ih => simp only [List.cons_append, List.takeWhile_cons, ih]

theorem takeWhile_drop_append_stop {p : Char → Bool} (stops : p stop = false) {n : Nat}
    {cs : List Char} (within : n ≤ cs.length) (rest : List Char) :
    ((cs ++ stop :: rest).drop n).takeWhile p = (cs.drop n).takeWhile p := by
  rw [List.drop_append_of_le_length within, takeWhile_append_stop stops]

theorem settledBy_many1 {p : Char → Bool} (stops : p stop = false) : SettledBy stop (many1 p) := by
  intro c cs rest
  rw [many1, many1, ← List.cons_append, takeWhile_append_stop stops]

theorem isPrefixOf_append_stop {letters : List Char} (absent : stop ∉ letters) (cs rest : List Char) :
    letters.isPrefixOf (cs ++ stop :: rest) = letters.isPrefixOf cs := by
  induction letters generalizing cs with
  | nil => rw [List.isPrefixOf_nil_left, List.isPrefixOf_nil_left]
  | cons letter letters ih =>
    rw [List.mem_cons, not_or] at absent
    cases cs with
    | nil =>
      have other : (letter == stop) = false := beq_eq_false_iff_ne.mpr (Ne.symm absent.1)
      simp only [List.nil_append, List.isPrefixOf, other, Bool.false_and]
    | cons c cs => simp only [List.cons_append, List.isPrefixOf, ih absent.2]

/-- The first character of a mark may be the stop, since the text does not begin with it. -/
theorem settledBy_exact {text : String} (absent : stop ∉ text.toList.drop 1) :
    SettledBy stop (exact text) := by
  intro c cs rest
  rw [exact, exact]
  cases split : text.toList with
  | nil => simp
  | cons letter letters =>
    rw [split, List.drop_succ_cons, List.drop_zero] at absent
    simp only [List.isPrefixOf, isPrefixOf_append_stop absent]
    rfl

theorem wordBy_append_stop (stops : IsStop stop) {same : Char → Char → Bool} {letters : List Char}
    (absent : letters.all (fun letter => !same letter stop) = true) (length : Nat)
    (cs rest : List Char) :
    wordBy same letters length (cs ++ stop :: rest) = wordBy same letters length cs := by
  induction letters generalizing length cs with
  | nil => cases cs <;> simp [wordBy, atWordEnd, stops.word]
  | cons letter letters ih =>
    rw [List.all_cons, Bool.and_eq_true, Bool.not_eq_true'] at absent
    cases cs with
    | nil => simp [wordBy, absent.1]
    | cons c cs => simp only [List.cons_append, wordBy, ih absent.2]

theorem settledBy_keyword (stops : IsStop stop) {word : String}
    (absent : word.toList.all (fun letter => !decide (letter = stop)) = true) :
    SettledBy stop (keyword word) := by
  intro c cs rest
  exact wordBy_append_stop stops absent 0 (c :: cs) rest

theorem settledBy_anyCaseKeyword (stops : IsStop stop) {word : String}
    (absent : word.toList.all (fun letter => !sameLetter letter stop) = true) :
    SettledBy stop (anyCaseKeyword word) := by
  intro c cs rest
  exact wordBy_append_stop stops absent 0 (c :: cs) rest

section Stops
variable (stops : IsStop stop)
include stops

theorem fraction_append_stop (cs rest : List Char) : fraction (cs ++ stop :: rest) = fraction cs := by
  have counted (cs : List Char) := takeWhile_append_stop stops.digit cs rest
  cases cs with
  | nil =>
    rw [List.nil_append, fraction]
    · rfl
    · intro tail same
      exact stops.mark.1 (List.cons.inj same).1
  | cons c cs =>
    rw [List.cons_append]
    by_cases point : c = '.'
    · subst point
      simp only [fraction, counted]
    · have none (cs : List Char) : fraction (c :: cs) = none := by
        rw [fraction]
        intro tail same
        exact point (List.cons.inj same).1
      rw [none, none]

theorem digitsFrom_append_stop {sign : Nat} {cs : List Char} (within : sign ≤ cs.length)
    (rest : List Char) : digitsFrom sign (cs ++ stop :: rest) = digitsFrom sign cs := by
  have counted := length_takeWhile_le Text.isDigit (cs.drop sign)
  rw [List.length_drop] at counted
  unfold digitsFrom
  rw [takeWhile_drop_append_stop stops.digit within]
  split
  · rfl
  · have inside : sign + ((cs.drop sign).takeWhile Text.isDigit).length ≤ cs.length := by omega
    rw [List.drop_append_of_le_length inside, optional, optional, fraction_append_stop stops]

theorem settledBy_fixedPoint : SettledBy stop fixedPoint := by
  intro c cs rest
  have signed : signLength (c :: (cs ++ stop :: rest)) = signLength (c :: cs) := rfl
  rw [fixedPoint_eq, fixedPoint_eq, signed]
  exact digitsFrom_append_stop stops (signLength_le (c :: cs)) rest

theorem exponent_append_stop (cs rest : List Char) : exponent (cs ++ stop :: rest) = exponent cs := by
  have unmarked : ¬ (decide (stop = 'e') || decide (stop = 'E')) = true := by
    intro marked
    simp only [Bool.or_eq_true, decide_eq_true_eq] at marked
    rcases marked with rfl | rfl <;> exact absurd stops.nameRest (by decide)
  cases cs with
  | nil =>
    unfold exponent
    exact if_neg unmarked
  | cons mark cs =>
    unfold exponent
    dsimp only [List.cons_append]
    cases cs with
    | nil => simp [stops.mark, stops.digit]
    | cons c cs =>
      have dropped : ∀ sign ≤ 1, ((c :: (cs ++ stop :: rest)).drop sign).takeWhile Text.isDigit =
          ((c :: cs).drop sign).takeWhile Text.isDigit := by
        intro sign small
        have within : sign ≤ (c :: cs).length := by
          rw [List.length_cons]
          omega
        exact takeWhile_drop_append_stop stops.digit within rest
      have small : (if (decide (c = '+') || decide (c = '-')) = true then 1 else 0) ≤ 1 := by
        split <;> omega
      dsimp only [List.cons_append]
      rw [dropped _ small]

theorem settledBy_floatingPoint : SettledBy stop floatingPoint := by
  intro c cs rest
  rw [floatingPoint, floatingPoint, settledBy_fixedPoint stops]
  cases taken : fixedPoint (c :: cs) with
  | none => rfl
  | some n =>
    have within := bounded_fixedPoint _ n taken
    rw [Option.map_some, Option.map_some, ← List.cons_append, List.drop_append_of_le_length within,
      optional, optional, exponent_append_stop stops]

theorem name_append_stop (cs rest : List Char) : name (cs ++ stop :: rest) = name cs := by
  cases cs with
  | nil =>
    have notStart : ¬ isNameStart stop = true := by
      intro starts
      have inside : isNameRest stop = true := by simp [isNameRest, starts]
      exact absurd inside (by simp [stops.nameRest])
    exact if_neg notStart
  | cons c cs => simp only [List.cons_append, name, takeWhile_append_stop stops.nameRest]

theorem settledBy_name : SettledBy stop name := by
  intro c cs rest
  exact name_append_stop stops (c :: cs) rest

theorem settledBy_parameter : SettledBy stop parameter := by
  intro c cs rest
  by_cases colon : c = ':'
  · subst colon
    simp only [parameter, name_append_stop stops]
  · have none (cs : List Char) : parameter (c :: cs) = none := by
      rw [parameter]
      intro tail same
      exact colon (List.cons.inj same).1
    rw [none, none]

end Stops

/-! ### Quotations -/

/-- A quotation that is closed is taken whatever stands behind it. -/
theorem quotedFrom_append {quote : Char} {length n : Nat} {cs : List Char}
    (taken : quotedFrom quote length cs = some n) (rest : List Char) :
    quotedFrom quote length (cs ++ rest) = some n := by
  fun_induction quotedFrom quote length cs with
  | case1 => contradiction
  | case2 length cs =>
    rw [List.cons_append, quotedFrom.eq_def]
    exact (if_pos rfl).trans taken
  | case3 => contradiction
  | case4 => contradiction
  | case5 length e cs other plain ih =>
    rw [List.cons_append, List.cons_append, quotedFrom.eq_3, if_neg other, if_pos rfl, if_neg plain]
    exact ih taken
  | case6 length c cs other plain ih =>
    rw [List.cons_append, quotedFrom.eq_def]
    simp only [other, plain, if_false]
    exact ih taken

theorem quoted_append {quote : Char} {n : Nat} {cs : List Char} (taken : quoted quote cs = some n)
    (rest : List Char) : quoted quote (cs ++ rest) = some n := by
  cases cs with
  | nil => contradiction
  | cons c cs =>
    rw [quoted] at taken
    split at taken
    · rename_i opens
      rw [List.cons_append, quoted, if_pos opens]
      exact quotedFrom_append taken rest
    · contradiction

/-- What does not begin with a quote is no quotation. -/
theorem quoted_of_ne {quote c : Char} (other : c ≠ quote) (cs : List Char) :
    quoted quote (c :: cs) = none :=
  if_neg other

end Pattern

/-! ### Texts cut into tokens -/

/-- A text is cut into tokens of these kinds and texts, wherever it begins. -/
def Lexes {κ : Type} (lexicon : Lexicon κ) (cs : List Char) (lexemes : List (Lexeme κ)) : Prop :=
  ∀ offset, ∃ tokens, lexicon.tokensFrom offset cs = .ok tokens ∧
    tokens.map Token.lexeme = lexemes

section Texts
variable {κ : Type} {lexicon : Lexicon κ}

theorem lexes_nil (lexicon : Lexicon κ) : Lexes lexicon [] [] := by
  intro offset
  exact ⟨[], lexicon.tokensFrom_nil offset, rfl⟩

/-- What the first rule takes becomes a token, and the rest is cut by itself. -/
theorem lexes_append {piece rest : List Char} {rule : TokenRule κ} {behind : List (Lexeme κ)}
    (found : lexicon.firstMatch? (piece ++ rest) = some (rule, piece.length))
    (cut : Lexes lexicon rest behind) :
    Lexes lexicon (piece ++ rest)
      (if rule.skipped then behind else ⟨rule.kind, String.ofList piece⟩ :: behind) := by
  intro offset
  obtain ⟨tokens, further, same⟩ := cut (offset + byteLength piece)
  have step := Lexicon.tokensFrom_append found offset
  rw [further] at step
  refine ⟨_, step, ?_⟩
  cases rule.skipped with
  | true => exact same
  | false => exact congrArg (_ :: ·) same

section Rules
variable {piece rest : List Char} {kind : κ} {pattern : Pattern} {behind : List (Lexeme κ)}
  (cut : Lexes lexicon rest behind)
include cut

theorem lexes_token
    (found : lexicon.firstMatch? (piece ++ rest) = some (⟨kind, pattern, false⟩, piece.length)) :
    Lexes lexicon (piece ++ rest) (⟨kind, String.ofList piece⟩ :: behind) :=
  lexes_append found cut

theorem lexes_skipped
    (found : lexicon.firstMatch? (piece ++ rest) = some (⟨kind, pattern, true⟩, piece.length)) :
    Lexes lexicon (piece ++ rest) behind :=
  lexes_append found cut

end Rules

/-! ### Tables of rules -/

namespace Lexicon

theorem firstMatch?_le (bounded : ∀ rule ∈ lexicon, Pattern.Bounded rule.pattern) {cs : List Char}
    {rule : TokenRule κ} {n : Nat} (found : lexicon.firstMatch? cs = some (rule, n)) :
    n ≤ cs.length := by
  induction lexicon with
  | nil => contradiction
  | cons first rules ih =>
    rw [List.forall_mem_cons] at bounded
    rw [firstMatch?] at found
    split at found
    · rename_i taken
      cases found
      exact bounded.1 cs _ taken
    · exact ih bounded.2 found

/-- Where all rules take the same from two texts, so does the first one that matches. -/
theorem firstMatch?_congr {cs cs' : List Char}
    (same : ∀ rule ∈ lexicon, rule.pattern cs = rule.pattern cs') :
    lexicon.firstMatch? cs = lexicon.firstMatch? cs' := by
  induction lexicon with
  | nil => rfl
  | cons first rules ih =>
    rw [List.forall_mem_cons] at same
    rw [firstMatch?, firstMatch?, same.1, ih same.2]

/-- Whatever the first rule takes from a text, it takes from the text in front of `stop`. -/
def SettledBy (stop : Char) (lexicon : Lexicon κ) : Prop :=
  ∀ cs rest rule n, cs ≠ [] → lexicon.firstMatch? cs = some (rule, n) →
    n ≤ cs.length ∧ lexicon.firstMatch? (cs ++ stop :: rest) = some (rule, n)

end Lexicon

/-- A text in front of `stop` is cut as it is by itself, and what begins with `stop` behind it. -/
theorem lexes_append_stop {stop : Char} (settled : lexicon.SettledBy stop) {offset : Nat}
    {cs rest : List Char} {tokens : List (Token κ)} {behind : List (Lexeme κ)}
    (cut : lexicon.tokensFrom offset cs = .ok tokens) (further : Lexes lexicon (stop :: rest) behind) :
    Lexes lexicon (cs ++ stop :: rest) (tokens.map Token.lexeme ++ behind) := by
  fun_induction lexicon.tokensFrom offset cs generalizing tokens with
  | case1 =>
    cases cut
    exact further
  | case2 => contradiction
  | case3 => contradiction
  | case4 offset cs nonempty rule n found piece tokens taken =>
    rename_i ih
    cases cut
    obtain ⟨within, found'⟩ := settled cs rest rule n nonempty found
    have split : cs ++ stop :: rest = cs.take n ++ (cs.drop n ++ stop :: rest) := by
      rw [← List.append_assoc, List.take_append_drop]
    rw [split] at found' ⊢
    have length : (cs.take n).length = n := List.length_take_of_le within
    have step := lexes_append (found'.trans (by rw [length])) (ih taken)
    cases skipped : rule.skipped <;> simpa [skipped, Token.lexeme] using step

end Texts
end Storefront
