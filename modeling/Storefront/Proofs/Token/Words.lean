import Mathlib.Data.String.Basic
import Storefront.Token.Pattern

/-!
Words and names at the front of a text. A word of a table of tokens matches a name only if the name
spells it in full, and the pattern for names takes a name as far as it goes.
-/
namespace Storefront

namespace Pattern

theorem le_iff_toNat {c d : Char} : c ≤ d ↔ c.toNat ≤ d.toNat :=
  UInt32.le_iff_toNat_le

theorem toNat_of_isNameStart {c : Char} (starts : isNameStart c = true) :
    65 ≤ c.toNat ∧ c.toNat ≤ 122 := by
  simp only [isNameStart, isLetter, Bool.or_eq_true, Bool.and_eq_true, decide_eq_true_eq,
    le_iff_toNat] at starts
  rcases starts with (⟨low, high⟩ | ⟨low, high⟩) | rfl
  · exact ⟨Nat.le_trans (by decide) low, high⟩
  · exact ⟨low, Nat.le_trans high (by decide)⟩
  · decide

theorem ne_of_isNameStart {c d : Char} (starts : isNameStart c = true) (small : d.toNat < 65) :
    c ≠ d := by
  rintro rfl
  have := toNat_of_isNameStart starts
  omega

theorem toNat_le_of_isNameRest {c : Char} (inside : isNameRest c = true) : c.toNat ≤ 122 := by
  simp only [isNameRest, Bool.or_eq_true, Bool.and_eq_true, decide_eq_true_eq, le_iff_toNat]
    at inside
  rcases inside with starts | ⟨-, digit⟩
  · exact (toNat_of_isNameStart starts).2
  · exact Nat.le_trans digit (by decide)

theorem isWord_of_isNameRest {c : Char} (inside : isNameRest c = true) : Text.isWord c = true := by
  have small : c.toNat < 128 := Nat.lt_of_le_of_lt (toNat_le_of_isNameRest inside) (by decide)
  rw [Text.isWord, if_pos small]
  simp only [isNameRest, isNameStart, isLetter, Bool.or_eq_true] at inside ⊢
  exact or_right_comm.1 inside

/-- The characters that count as a lower-case letter when case is ignored. -/
theorem sameLetter_cases {letter c : Char} (same : sameLetter letter c = true) :
    c = letter ∨ (c.toNat + 32 = letter.toNat ∧ 65 ≤ c.toNat ∧ c.toNat ≤ 90) ∨ c.toNat = 0x17f := by
  simp only [sameLetter, Bool.or_eq_true, Bool.and_eq_true, decide_eq_true_eq, le_iff_toNat] at same
  rcases same with (same | ⟨⟨sum, low⟩, high⟩) | ⟨-, long⟩
  · exact .inl same
  · exact .inr (.inl ⟨sum, low, high⟩)
  · exact .inr (.inr long)

def isLowerLetter (c : Char) : Bool :=
  'a' ≤ c && c ≤ 'z'

theorem toNat_of_isLowerLetter {c : Char} (lower : isLowerLetter c = true) :
    97 ≤ c.toNat ∧ c.toNat ≤ 122 := by
  simp only [isLowerLetter, Bool.and_eq_true, decide_eq_true_eq, le_iff_toNat] at lower
  exact lower

theorem toLower_of_sameLetter {letter c : Char} (lower : isLowerLetter letter = true)
    (inside : isNameRest c = true) (same : sameLetter letter c = true) : c.toLower = letter := by
  obtain ⟨atLeast, atMost⟩ := toNat_of_isLowerLetter lower
  rcases sameLetter_cases same with rfl | ⟨sum, low, high⟩ | long
  · have notUpper : ¬ (c.val ≥ 'A'.val ∧ c.val ≤ 'Z'.val) := by
      rintro ⟨-, upper⟩
      have upper : c.toNat ≤ 90 := UInt32.le_iff_toNat_le.1 upper
      omega
    exact dif_neg notUpper
  · have upper : c.val ≥ 'A'.val ∧ c.val ≤ 'Z'.val :=
      ⟨UInt32.le_iff_toNat_le.2 low, UInt32.le_iff_toNat_le.2 high⟩
    refine Eq.trans (dif_pos upper) (Char.ext (UInt32.toNat_inj.1 ?_))
    have step : ('a'.val - 'A'.val).toNat = 32 := rfl
    have sum : c.val.toNat + 32 = letter.val.toNat := sum
    have small : c.val.toNat ≤ 90 := high
    rw [UInt32.toNat_add, step]
    omega
  · have := toNat_le_of_isNameRest inside
    omega

theorem isWord_of_sameLetter {letter c : Char} (lower : isLowerLetter letter = true)
    (same : sameLetter letter c = true) : Text.isWord c = true := by
  rcases sameLetter_cases same with rfl | ⟨sum, low, high⟩ | long
  · refine isWord_of_isNameRest ?_
    simp [isNameRest, isNameStart, isLetter, le_iff_toNat, toNat_of_isLowerLetter lower]
  · refine isWord_of_isNameRest ?_
    simp [isNameRest, isNameStart, isLetter, le_iff_toNat, low, high]
  · rw [Text.isWord, if_neg (by omega), long]
    decide

/-- A word matches a name in front of something else only if the name is the word. -/
theorem wordBy_name {same : Char → Char → Bool} {normal : Char → Char} {letters : List Char}
    (agrees : ∀ letter ∈ letters, ∀ c, isNameRest c = true → same letter c = true →
      normal c = letter)
    (isWord : ∀ letter ∈ letters, ∀ c, same letter c = true → Text.isWord c = true)
    {name rest : List Char} (inside : name.all isNameRest = true)
    (ends : atWordEnd rest = true) {length n : Nat}
    (found : wordBy same letters length (name ++ rest) = some n) : name.map normal = letters := by
  induction letters generalizing name length with
  | nil =>
    cases name with
    | nil => rfl
    | cons c name =>
      rw [List.all_cons, Bool.and_eq_true] at inside
      have word : Text.isWord c = true := isWord_of_isNameRest inside.1
      simp [wordBy, atWordEnd, word] at found
  | cons letter letters ih =>
    cases name with
    | nil =>
      cases rest with
      | nil => simp [wordBy] at found
      | cons c rest =>
        simp only [List.nil_append, wordBy] at found
        split at found
        · next sameLetter =>
          have word : Text.isWord c = true := isWord letter (by simp) c sameLetter
          simp [atWordEnd, word] at ends
        · exact nomatch found
    | cons c name =>
      rw [List.all_cons, Bool.and_eq_true] at inside
      simp only [List.cons_append, wordBy] at found
      split at found
      · next sameLetter =>
        have head : normal c = letter := agrees letter (by simp) c inside.1 sameLetter
        have tail : name.map normal = letters :=
          ih (fun l mem => agrees l (by simp [mem])) (fun l mem => isWord l (by simp [mem]))
            inside.2 found
        rw [List.map_cons, head, tail]
      · exact nomatch found

section Names
variable {name rest : List Char} (inside : name.all isNameRest = true)
  (ends : atWordEnd rest = true)

include inside ends

theorem anyCaseKeyword_name {word : String} (lower : word.toList.all isLowerLetter = true)
    (ne : name.map Char.toLower ≠ word.toList) : anyCaseKeyword word (name ++ rest) = none := by
  rw [List.all_eq_true] at lower
  cases found : anyCaseKeyword word (name ++ rest) with
  | none => rfl
  | some n =>
    have same : name.map Char.toLower = word.toList :=
      wordBy_name (fun letter mem _ => toLower_of_sameLetter (lower letter mem))
        (fun letter mem _ => isWord_of_sameLetter (lower letter mem)) inside ends found
    exact absurd same ne

theorem keyword_name {word : String} (isWord : word.toList.all Text.isWord = true)
    (ne : name ≠ word.toList) : keyword word (name ++ rest) = none := by
  rw [List.all_eq_true] at isWord
  cases found : keyword word (name ++ rest) with
  | none => rfl
  | some n =>
    have agrees : ∀ letter c : Char, decide (letter = c) = true → c = letter :=
      fun letter c same => (of_decide_eq_true same).symm
    have same : name.map id = word.toList :=
      wordBy_name (fun letter _ c _ => agrees letter c)
        (fun letter mem c same => agrees letter c same ▸ isWord letter mem) inside ends found
    exact absurd (name.map_id ▸ same) ne

/-- A name is taken as far as it goes. -/
theorem name_append {c : Char} (starts : isNameStart c = true) :
    Pattern.name (c :: (name ++ rest)) = some (name.length + 1) := by
  have stops : rest.takeWhile isNameRest = [] := by
    cases rest with
    | nil => rfl
    | cons d rest =>
      have other : isNameRest d = false := by
        cases isRest : isNameRest d with
        | false => rfl
        | true => simp [atWordEnd, isWord_of_isNameRest isRest] at ends
      simp [other]
  rw [Pattern.name, if_pos starts, List.takeWhile_append_of_pos (List.all_eq_true.1 inside), stops,
    List.append_nil, Nat.add_comm]

end Names

section Starts
variable {c : Char} (starts : isNameStart c = true) (cs : List Char)

include starts

omit cs in
theorem isBlank_name : Text.isBlank c = false := by
  have := toNat_of_isNameStart starts
  simp only [Text.isBlank, Bool.or_eq_false_iff, Bool.and_eq_false_iff, decide_eq_false_iff_not]
  omega

theorem blanks_name : blanks (c :: cs) = some 0 := by
  simp [blanks, many1, isBlank_name starts]

theorem quoted_name {quote : Char} (small : quote.toNat < 65) : quoted quote (c :: cs) = none := by
  rw [quoted, if_neg (ne_of_isNameStart starts small)]

theorem fixedPoint_name : fixedPoint (c :: cs) = none := by
  have notDigit : Text.isDigit c = false := by
    obtain ⟨low, high⟩ := toNat_of_isNameStart starts
    have notNine : ¬ c ≤ '9' := by
      rw [le_iff_toNat]
      exact Nat.not_le.2 (Nat.lt_of_lt_of_le (by decide) low)
    rw [Text.isDigit, if_pos (by omega), decide_eq_false notNine, Bool.and_false]
  rw [fixedPoint]
  · simp [notDigit]
  · exact fun tail same => ne_of_isNameStart starts (by decide) (List.cons.inj same).1

theorem floatingPoint_name : floatingPoint (c :: cs) = none := by
  rw [floatingPoint, fixedPoint_name starts, Option.map_none]

theorem parameter_name : parameter (c :: cs) = none := by
  rw [parameter]
  exact fun tail same => ne_of_isNameStart starts (by decide) (List.cons.inj same).1

end Starts

section Keywords
variable {rest : List Char} (ends : atWordEnd rest = true)

include ends

theorem takeWhile_isWord_of_atWordEnd : rest.takeWhile Text.isWord = [] := by
  cases rest with
  | nil => rfl
  | cons c rest =>
    have other : Text.isWord c = false := by simpa [atWordEnd] using ends
    simp [other]

/-- A word is taken where it ends. -/
theorem keyword_append (word : String) :
    keyword word (word.toList ++ rest) = some word.toList.length := by
  have taken : ∀ letters length, wordBy (fun a b => a = b) letters length (letters ++ rest) =
      some (length + letters.length) := by
    intro letters
    induction letters with
    | nil => simp [wordBy, ends]
    | cons letter letters ih =>
      intro length
      simp only [List.cons_append, wordBy, decide_true, if_true, ih, List.length_cons,
        Option.some.injEq]
      omega
  simp [keyword, taken]

end Keywords

/-- Where a word is taken, the longest run of word characters is that word. -/
theorem takeWhile_of_keyword {word : String} (isWord : word.toList.all Text.isWord = true)
    {cs : List Char} {n : Nat} (found : keyword word cs = some n) :
    cs.takeWhile Text.isWord = word.toList := by
  have run : ∀ letters cs length, letters.all Text.isWord = true →
      wordBy (fun a b => a = b) letters length cs = some n → cs.takeWhile Text.isWord = letters := by
    intro letters
    induction letters with
    | nil =>
      intro cs length _ found
      rw [wordBy] at found
      split at found
      · next ends => exact takeWhile_isWord_of_atWordEnd ends
      · exact nomatch found
    | cons letter letters ih =>
      intro cs length isWord found
      rw [List.all_cons, Bool.and_eq_true] at isWord
      cases cs with
      | nil => exact nomatch found
      | cons c cs =>
        simp only [wordBy, decide_eq_true_eq] at found
        split at found
        · next same =>
          rw [← same, List.takeWhile_cons_of_pos isWord.1, ih cs _ isWord.2 found]
        · exact nomatch found
  exact run word.toList cs 0 isWord found

/-- The characters that cannot go on with a path. -/
def atPathEnd : List Char → Bool
  | [] => true
  | c :: _ => !isSegmentRest c && c != '.'

section Paths
variable {rest : List Char} (ends : atPathEnd rest = true)

include ends

theorem takeWhile_segment (cs : List Char) :
    (cs ++ rest).takeWhile isSegmentRest = cs.takeWhile isSegmentRest := by
  have stops : rest.takeWhile isSegmentRest = [] := by
    cases rest with
    | nil => rfl
    | cons c rest =>
      have other : isSegmentRest c = false := by
        simp only [atPathEnd, Bool.and_eq_true, Bool.not_eq_true'] at ends
        exact ends.1
      simp [other]
  rw [List.takeWhile_append, stops, List.append_nil]
  split
  · next whole => exact (List.IsPrefix.eq_of_length (List.takeWhile_prefix _) whole).symm
  · rfl

/-- Segments that make up a whole text are taken as far where no path goes on behind it. -/
theorem segments_append {length : Nat} {cs : List Char}
    (full : segments length cs = length + cs.length) :
    segments length (cs ++ rest) = length + cs.length := by
  fun_induction segments length cs with
  | case1 length behind empty => simp at full
  | case2 length behind n taken ih =>
    have same := takeWhile_segment ends behind
    have within := (List.takeWhile_prefix isSegmentRest (l := behind)).length_le
    rw [List.length_cons] at full ⊢
    rw [List.cons_append, segments]
    split
    · next empty =>
      rw [same] at empty
      omega
    · next m taken' =>
      obtain rfl : m = n := by rw [same] at taken'; omega
      have rest : (behind ++ rest).drop (m + 1) = behind.drop (m + 1) ++ rest :=
        List.drop_append_of_le_length (by omega)
      rw [rest, ih (by rw [List.length_drop]; omega), List.length_drop]
      omega
  | case3 length cs other =>
    obtain rfl : cs = [] := List.eq_nil_of_length_eq_zero (by omega)
    rw [List.nil_append, segments]
    · rfl
    · rintro behind rfl
      simp [atPathEnd] at ends

/-- A path is taken whole where it cannot go on. -/
theorem path_append {cs : List Char} (full : path cs = some cs.length) :
    path (cs ++ rest) = some cs.length := by
  cases cs with
  | nil => simp [path] at full
  | cons c cs =>
    rw [path] at full
    split at full
    · next starts =>
      have whole := Option.some.inj full
      have within := (List.takeWhile_prefix isSegmentRest (l := cs)).length_le
      have split : (c :: cs ++ rest).drop (1 + (cs.takeWhile isSegmentRest).length) =
          (c :: cs).drop (1 + (cs.takeWhile isSegmentRest).length) ++ rest :=
        List.drop_append_of_le_length (by rw [List.length_cons]; omega)
      have counted : (c :: cs).length = 1 + (cs.takeWhile isSegmentRest).length +
          ((c :: cs).drop (1 + (cs.takeWhile isSegmentRest).length)).length := by
        rw [List.length_drop, List.length_cons]
        omega
      rw [List.cons_append, path, if_pos starts]
      simp only [takeWhile_segment ends]
      rw [← List.cons_append, split, segments_append ends (whole.trans counted), ← counted]
    · exact nomatch full

end Paths

end Pattern

end Storefront
