import Storefront.Filter.Lexicon
import Storefront.Proofs.Token.Layout
import Storefront.Proofs.Token.Numeral
import Storefront.Proofs.Token.Quotation

/-!
The tokens of filters as they are written. Quotations, integers, the words of the language and its
marks are each taken whole in front of whatever a layout puts behind them, and a path is so in front
of its colon, unless a word of the language is what it begins with. A layout of a path, a colon and
such tokens is therefore cut into them.
-/
namespace Storefront.Filter

def words : List (Kind × String) :=
  [(.exist, "exists"), (.missing, "missing"), (.range, "range"), (.to, "TO"), (.yes, "true"),
   (.no, "false")]

def marks : List (Kind × String) :=
  [(.star, "*"), (.colon, ":"), (.comma, ","), (.lParen, "("), (.rParen, ")")]

/-- What filters are written with, apart from paths. -/
inductive Regular : Lexeme Kind → Prop
  | quotation (quote : Quote) (text : String) : Regular ⟨.str, quote.around text⟩
  | integer (i : Int) : Regular ⟨.number, String.ofList (Numeral.decimal i)⟩
  | word {kind : Kind} {text : String} (mem : (kind, text) ∈ words) : Regular ⟨kind, text⟩
  | mark {kind : Kind} {text : String} (mem : (kind, text) ∈ marks) : Regular ⟨kind, text⟩

section Taking
variable {kind : Kind} {text : String} {rest : List Char}

theorem takes_mark (mem : (kind, text) ∈ marks) : Takes lexicon ⟨kind, text⟩ rest := by
  simp only [marks, List.mem_cons, List.not_mem_nil, or_false, Prod.mk.injEq] at mem
  rcases mem with ⟨rfl, rfl⟩ | ⟨rfl, rfl⟩ | ⟨rfl, rfl⟩ | ⟨rfl, rfl⟩ | ⟨rfl, rfl⟩ <;>
    exact ⟨_, rfl, rfl, rfl⟩

/-- The rules in front of that of a word match nothing where it stands. -/
theorem takes_word (mem : (kind, text) ∈ words) (ends : Pattern.atWordEnd rest = true) :
    Takes lexicon ⟨kind, text⟩ rest := by
  have taken := Pattern.keyword_append ends
  simp only [words, List.mem_cons, List.not_mem_nil, or_false, Prod.mk.injEq] at mem
  rcases mem with ⟨rfl, rfl⟩ | ⟨rfl, rfl⟩ | ⟨rfl, rfl⟩ | ⟨rfl, rfl⟩ | ⟨rfl, rfl⟩ | ⟨rfl, rfl⟩
  · exact takes_of_drop 4 rfl rfl (taken _) (by decide)
  · exact takes_of_drop 5 rfl rfl (taken _) (by decide)
  · exact takes_of_drop 6 rfl rfl (taken _) (by decide)
  · exact takes_of_drop 7 rfl rfl (taken _) (by decide)
  · exact takes_of_drop 8 rfl rfl (taken _) (by decide)
  · exact takes_of_drop 9 rfl rfl (taken _) (by decide)

theorem takes_integer (i : Int) (ends : Pattern.atWordEnd rest = true)
    (noPoint : rest.head? ≠ some '.') :
    Takes lexicon ⟨.number, String.ofList (Numeral.decimal i)⟩ rest := by
  refine ⟨⟨.number, Pattern.fixedPoint, false⟩, ?_, rfl, rfl⟩
  rw [String.toList_ofList]
  exact Numeral.firstMatch?_decimal i (Pattern.fixedPoint_decimal i ends noPoint)

theorem takes_quotation (quote : Quote) (text : String) :
    Takes lexicon ⟨.str, quote.around text⟩ rest :=
  ⟨_, quote.firstMatch?_around text rest, rfl, rfl⟩

theorem takes_regular {lexeme : Lexeme Kind} (regular : Regular lexeme)
    (apart : endsInWord lexeme.text.toList = true → Pattern.atWordEnd rest = true)
    (noPoint : rest.head? ≠ some '.') : Takes lexicon lexeme rest := by
  cases regular with
  | quotation quote text => exact takes_quotation quote text
  | integer i =>
    have ends := Numeral.endsInWord_decimal i
    rw [String.toList_ofList] at apart
    exact takes_integer i (apart ends) noPoint
  | word mem =>
    have ends : words.all (fun word => endsInWord word.2.toList) = true := by decide
    exact takes_word mem (apart (List.all_eq_true.1 ends _ mem))
  | mark mem => exact takes_mark mem

end Taking

/-! ### Layouts -/

theorem fixed_starts {spelling : Kind × String} (mem : spelling ∈ words ++ marks) :
    ∃ c cs, spelling.2.toList = c :: cs ∧ Text.isBlank c = false ∧ c ≠ '.' := by
  have all : (words ++ marks).all (fun spelling =>
      spelling.2.toList.head?.any fun c => !Text.isBlank c && c != '.') = true := by decide
  obtain ⟨c, head, start⟩ := (Option.any_eq_true _ _).1 (List.all_eq_true.1 all _ mem)
  obtain ⟨cs, split⟩ := List.head?_eq_some_iff.1 head
  simp only [Bool.and_eq_true, Bool.not_eq_true', bne_iff_ne] at start
  exact ⟨c, cs, split, start⟩

theorem Regular.starts {lexeme : Lexeme Kind} (regular : Regular lexeme) :
    ∃ c cs, lexeme.text.toList = c :: cs ∧ Text.isBlank c = false ∧ c ≠ '.' := by
  cases regular with
  | quotation quote text =>
    refine ⟨quote.char, _, quote.toList_around text, ?_⟩
    cases quote <;> decide
  | integer i =>
    obtain ⟨c, cs, split, notBlank, -, -, noPoint⟩ := Numeral.decimal_starts i
    exact ⟨c, cs, String.toList_ofList.trans split, notBlank, noPoint⟩
  | word mem => exact fixed_starts (List.mem_append_left _ mem)
  | mark mem => exact fixed_starts (List.mem_append_right _ mem)

/-! ### Paths -/

/-- The longest run of word characters at the front of the first segment of a path. -/
def leadingWord (path : String) : List Char :=
  (path.toList.takeWhile (· ≠ '.')).takeWhile Text.isWord

/-- A path, all of it, which does not begin with a word of the language. -/
structure IsFieldPath (path : String) : Prop where
  full : Pattern.path path.toList = some path.toList.length
  unreserved : ∀ word ∈ words, leadingWord path ≠ word.2.toList

theorem IsFieldPath.starts {path : String} (isPath : IsFieldPath path) :
    ∃ c cs, path.toList = c :: cs ∧ Pattern.isNameStart c = true := by
  cases split : path.toList with
  | nil => exact absurd isPath.full (by simp [split, Pattern.path])
  | cons c cs =>
    refine ⟨c, cs, rfl, ?_⟩
    cases starts : Pattern.isNameStart c with
    | true => rfl
    | false => exact absurd isPath.full (by simp [split, Pattern.path, starts])

/-- No word goes on past a point. -/
theorem leadingWord_eq (path : String) : leadingWord path = path.toList.takeWhile Text.isWord := by
  rw [leadingWord]
  induction path.toList with
  | nil => rfl
  | cons c cs ih =>
    cases word : Text.isWord c with
    | false =>
      have stops : Text.isWord c ≠ true := by simp [word]
      rw [List.takeWhile_cons_of_neg stops, List.takeWhile_cons]
      split
      · exact List.takeWhile_cons_of_neg stops
      · rfl
    | true =>
      have noPoint : c ≠ '.' := by
        rintro rfl
        exact absurd word (by decide)
      rw [List.takeWhile_cons_of_pos (by simp [noPoint]), List.takeWhile_cons_of_pos word,
        List.takeWhile_cons_of_pos word, ih]

/-- No word of the language is taken from the front of a path that does not begin with one. -/
theorem keyword_path {path : String} (isPath : IsFieldPath path) {kind : Kind} {word : String}
    (mem : (kind, word) ∈ words) {rest : List Char} (ends : Pattern.atWordEnd rest = true) :
    Pattern.keyword word (path.toList ++ rest) = none := by
  have isWord : words.all (fun word => word.2.toList.all Text.isWord) = true := by decide
  cases found : Pattern.keyword word (path.toList ++ rest) with
  | none => rfl
  | some n =>
    have run := Pattern.takeWhile_of_keyword (List.all_eq_true.1 isWord _ mem) found
    rw [List.takeWhile_append, Pattern.takeWhile_isWord_of_atWordEnd ends, List.append_nil] at run
    have whole : path.toList.takeWhile Text.isWord = word.toList := by
      split at run
      · next whole =>
        exact ((List.takeWhile_prefix Text.isWord).eq_of_length whole).trans run
      · exact run
    exact absurd ((leadingWord_eq path).trans whole) (isPath.unreserved _ mem)

theorem takes_path {path : String} (isPath : IsFieldPath path) {rest : List Char}
    (ends : ∀ c ∈ rest.head?, Text.isBlank c = true ∨ c = ':') :
    Takes lexicon ⟨.path, path⟩ rest := by
  have wordEnd : Pattern.atWordEnd rest = true := by
    cases rest with
    | nil => rfl
    | cons d rest =>
      have other : Text.isWord d = false := by
        rcases ends d rfl with blank | rfl
        · exact Text.isWord_of_isBlank blank
        · decide
      simp [Pattern.atWordEnd, other]
  have pathEnd : Pattern.atPathEnd rest = true := by
    cases rest with
    | nil => rfl
    | cons d rest =>
      have wordless : Text.isWord d = false := by simpa [Pattern.atWordEnd] using wordEnd
      have notName : Pattern.isNameRest d = false := by
        cases inside : Pattern.isNameRest d with
        | false => rfl
        | true => exact absurd (Pattern.isWord_of_isNameRest inside) (by simp [wordless])
      have other : d ≠ '-' ∧ d ≠ '.' := by
        constructor <;> rintro rfl <;> exact absurd (ends _ rfl) (by decide)
      simp [Pattern.atPathEnd, Pattern.isSegmentRest, notName, other]
  have taken := Pattern.path_append pathEnd isPath.full
  have noWord := fun kind word mem => @keyword_path path isPath kind word mem rest wordEnd
  obtain ⟨c, cs, split, starts⟩ := isPath.starts
  rw [split, List.cons_append] at noWord taken
  refine ⟨⟨.path, Pattern.path, false⟩, ?_, rfl, rfl⟩
  rw [split, List.cons_append, lexicon, Lexicon.firstMatch?_zero (Pattern.blanks_name starts _),
    Lexicon.firstMatch?_none (Pattern.quoted_name starts _ (by decide)),
    Lexicon.firstMatch?_none (Pattern.quoted_name starts _ (by decide)),
    Lexicon.firstMatch?_none (Pattern.fixedPoint_name starts _),
    Lexicon.firstMatch?_none (noWord .exist _ (by decide)),
    Lexicon.firstMatch?_none (noWord .missing _ (by decide)),
    Lexicon.firstMatch?_none (noWord .range _ (by decide)),
    Lexicon.firstMatch?_none (noWord .to _ (by decide)),
    Lexicon.firstMatch?_none (noWord .yes _ (by decide)),
    Lexicon.firstMatch?_none (noWord .no _ (by decide)),
    Lexicon.firstMatch?_some taken]
  rfl

end Storefront.Filter
