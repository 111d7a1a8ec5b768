import Storefront.Proofs.Filter.Lexemes
import Storefront.Proofs.Filter.Parsing

/-!
Writing filters. A filter on a path that the language can tell from its own words is written as the
path, a colon and the items of its condition between commas; whatever white space is put between the
tokens, the text compiles to that path and that condition.
-/
namespace Storefront.Filter

/-- A string, with the quotes it is written in, or an integer of 64 bits. -/
inductive Constant where
  | text (quote : Quote) (content : String)
  | integer (value : Int) (fits : Numeral.Fits value)

namespace Constant

def value : Constant → Json
  | text _ content => .string content
  | integer value _ => .ofInt value

def lexeme : Constant → Lexeme Kind
  | text quote content => ⟨.str, quote.around content⟩
  | integer value _ => ⟨.number, String.ofList (Numeral.decimal value)⟩

end Constant

/-- A value that a filter allows. -/
inductive Scalar where
  | literal (constant : Constant)
  | bool (value : Bool)

namespace Scalar

def value : Scalar → Json
  | literal constant => constant.value
  | bool value => .bool value

def lexeme : Scalar → Lexeme Kind
  | literal constant => constant.lexeme
  | bool true => ⟨.yes, "true"⟩
  | bool false => ⟨.no, "false"⟩

end Scalar

/-- One end of an interval, which is open without a constant. -/
abbrev End := Option Constant

def End.bound (ending : End) : Bound :=
  ending.map Constant.value

def End.lexeme : End → Lexeme Kind
  | none => ⟨.star, "*"⟩
  | some constant => constant.lexeme

/-- A condition, with the quotes that its strings are written in. -/
inductive Items where
  | values (items : List Scalar)
  | presence (items : List Bool)
  | ranges (items : List (End × End))

namespace Items

def condition : Items → Condition
  | values items => .values (items.map Scalar.value)
  | presence items => .presence items
  | ranges items => .ranges (items.map fun (low, high) => (End.bound low, End.bound high))

def isEmpty : Items → Bool
  | values items => items.isEmpty
  | presence items => items.isEmpty
  | ranges items => items.isEmpty

end Items

/-- Pieces with a comma between two of them. -/
def listed (pieces : List (List (Lexeme Kind))) : List (Lexeme Kind) :=
  [⟨.comma, ","⟩].intercalate pieces

def presenceLexeme : Bool → Lexeme Kind
  | true => ⟨.exist, "exists"⟩
  | false => ⟨.missing, "missing"⟩

def intervalLexemes (interval : End × End) : List (Lexeme Kind) :=
  [⟨.lParen, "("⟩, End.lexeme interval.1, ⟨.to, "TO"⟩, End.lexeme interval.2, ⟨.rParen, ")"⟩]

/-- The tokens of a condition; its intervals make one list behind one `range`. -/
def Items.lexemes : Items → List (Lexeme Kind)
  | values items => listed (items.map fun item => [item.lexeme])
  | presence items => listed (items.map fun item => [presenceLexeme item])
  | ranges items => ⟨.range, "range"⟩ :: listed (items.map intervalLexemes)

/-- The tokens of a filter. -/
def written (path : String) (items : Items) : List (Lexeme Kind) :=
  ⟨.path, path⟩ :: ⟨.colon, ":"⟩ :: items.lexemes

/-! ### What is written can be cut -/

theorem Constant.regular (constant : Constant) : Regular constant.lexeme := by
  cases constant with
  | text quote content => exact .quotation quote content
  | integer value fits => exact .integer value

theorem Scalar.regular (scalar : Scalar) : Regular scalar.lexeme := by
  match scalar with
  | .literal constant => exact constant.regular
  | .bool true => exact .word (by decide)
  | .bool false => exact .word (by decide)

theorem End.regular (ending : End) : Regular (End.lexeme ending) := by
  cases ending with
  | none => exact .mark (by decide)
  | some constant => exact constant.regular

theorem regular_listed {pieces : List (List (Lexeme Kind))}
    (regular : ∀ piece ∈ pieces, ∀ lexeme ∈ piece, Regular lexeme) :
    ∀ lexeme ∈ listed pieces, Regular lexeme := by
  have comma : Regular ⟨.comma, ","⟩ := .mark (by decide)
  induction pieces with
  | nil => exact nofun
  | cons piece more ih =>
    obtain ⟨front, behind⟩ := List.forall_mem_cons.1 regular
    cases more with
    | nil => simpa [listed] using front
    | cons next more =>
      have behind := ih behind
      rw [listed] at behind ⊢
      simp only [List.intercalate_cons_cons, List.mem_append, List.mem_singleton]
      rintro lexeme ((mem | rfl) | mem)
      · exact front lexeme mem
      · exact comma
      · exact behind lexeme mem

theorem Items.regular (items : Items) : ∀ lexeme ∈ items.lexemes, Regular lexeme := by
  cases items with
  | values items =>
    refine regular_listed fun piece mem => ?_
    obtain ⟨item, -, rfl⟩ := List.mem_map.1 mem
    simpa using item.regular
  | presence items =>
    refine regular_listed fun piece mem => ?_
    obtain ⟨item, -, rfl⟩ := List.mem_map.1 mem
    have word : Regular (presenceLexeme item) := by
      cases item <;> exact .word (by decide)
    simpa using word
  | ranges items =>
    have range : Regular ⟨.range, "range"⟩ := .word (by decide)
    refine List.forall_mem_cons.2 ⟨range, regular_listed fun piece mem => ?_⟩
    obtain ⟨⟨low, high⟩, -, rfl⟩ := List.mem_map.1 mem
    have opening : Regular ⟨.lParen, "("⟩ := .mark (by decide)
    have word : Regular ⟨.to, "TO"⟩ := .word (by decide)
    have closing : Regular ⟨.rParen, ")"⟩ := .mark (by decide)
    simpa [intervalLexemes] using ⟨opening, End.regular low, word, End.regular high, closing⟩

/-- A path is followed by a colon, wherever the white space is, so all of it is cut off. -/
theorem cut_written {path : String} (isPath : IsFieldPath path) {items : Items} {cs : List Char}
    (laid : LaidOut (written path items) cs) : Cut lexicon (written path items) cs := by
  have colon : Regular ⟨.colon, ":"⟩ := .mark (by decide)
  cases laid with
  | cons blank apart further =>
    have behind := cut_of_laidOut Regular.starts takes_regular further
      (List.forall_mem_cons.2 ⟨colon, items.regular⟩)
    refine .cons blank ?_ (takes_path isPath (further.starts (fun c => Or.inl) ?_)) behind
    · obtain ⟨c, cs, split, starts⟩ := isPath.starts
      exact ⟨c, cs, split, Pattern.isBlank_name starts⟩
    · rintro lexeme ⟨⟩
      exact ⟨':', [], rfl, .inr rfl⟩

/-! ### What is written is derived -/

section Derivation
variable {token : Token Kind} {tokens : List (Token Kind)}

theorem Constant.spelt (constant : Constant) (same : token.lexeme = constant.lexeme) :
    (token.kind = .str ∧ constant.value = .string (Literal.unquote token.text)) ∨
      (token.kind = .number ∧ Literal.number token.text = .ok constant.value) := by
  obtain ⟨kind, text, offset⟩ := token
  cases constant with
  | text quote content =>
    obtain ⟨rfl, rfl⟩ := Lexeme.mk.inj same
    exact .inl ⟨rfl, congrArg Json.string (quote.unquote_around content).symm⟩
  | integer value fits =>
    obtain ⟨rfl, rfl⟩ := Lexeme.mk.inj same
    exact .inr ⟨rfl, Literal.number_decimal fits⟩

theorem Scalar.spelt (scalar : Scalar) (same : token.lexeme = scalar.lexeme) :
    (Expression.value scalar.value).Spelt [token] := by
  match scalar with
  | .literal constant =>
    rcases constant.spelt same with ⟨kind, value⟩ | ⟨kind, converts⟩
    · have spelt := Expression.Spelt.text kind
      rwa [← value] at spelt
    · exact .number kind converts
  | .bool true => exact .yes (congrArg Lexeme.kind same)
  | .bool false => exact .no (congrArg Lexeme.kind same)

theorem End.spelt (ending : End) (same : token.lexeme = End.lexeme ending) :
    SpellsBound (End.bound ending) token := by
  cases ending with
  | none => exact .unbounded (congrArg Lexeme.kind same)
  | some constant =>
    rcases constant.spelt same with ⟨kind, value⟩ | ⟨kind, converts⟩
    · have spelt := SpellsBound.text kind
      rwa [← value] at spelt
    · exact .number kind converts

theorem presence_spelt (wanted : Bool) (same : token.lexeme = presenceLexeme wanted) :
    (Expression.presence wanted).Spelt [token] := by
  cases wanted with
  | true => exact .exist (congrArg Lexeme.kind same)
  | false => exact .missing (congrArg Lexeme.kind same)

theorem interval_spelt (interval : End × End)
    (same : tokens.map Token.lexeme = intervalLexemes interval) :
    SpellsInterval (End.bound interval.1, End.bound interval.2) tokens := by
  obtain ⟨low, high⟩ := interval
  obtain ⟨opening, tokens, rfl, opens, same⟩ := List.map_eq_cons_iff.1 same
  obtain ⟨first, tokens, rfl, lower, same⟩ := List.map_eq_cons_iff.1 same
  obtain ⟨word, tokens, rfl, goesOn, same⟩ := List.map_eq_cons_iff.1 same
  obtain ⟨last, tokens, rfl, upper, same⟩ := List.map_eq_cons_iff.1 same
  obtain ⟨closing, rfl, closes⟩ := List.map_eq_singleton_iff.1 same
  exact .between (congrArg Lexeme.kind opens) (End.spelt low lower) (congrArg Lexeme.kind goesOn)
    (End.spelt high upper) (congrArg Lexeme.kind closes)

/-- Items that are written with commas between them are spelt so, if each of them is spelt. -/
theorem separated_of_listed {α β : Type} {spells : β → List (Token Kind) → Prop} {value : α → β}
    {piece : α → List (Lexeme Kind)}
    (spelt : ∀ item tokens, tokens.map Token.lexeme = piece item → spells (value item) tokens)
    {items : List α} (nonempty : items ≠ [])
    (same : tokens.map Token.lexeme = listed (items.map piece)) :
    Separated .comma spells (items.map value) tokens := by
  induction items generalizing tokens with
  | nil => exact absurd rfl nonempty
  | cons item more ih =>
    cases more with
    | nil =>
      rw [List.map_singleton, listed, List.intercalate_singleton] at same
      exact .one (spelt item tokens same)
    | cons next more =>
      rw [List.map_cons, List.map_cons, listed, List.intercalate_cons_cons,
        List.append_assoc] at same
      obtain ⟨front, behind, rfl, isFront, same⟩ := List.map_eq_append_iff.1 same
      obtain ⟨separator, behind, rfl, comma, same⟩ := List.map_eq_cons_iff.1 same
      exact .cons (spelt item front isFront) (congrArg Lexeme.kind comma) (ih (by simp) same)

/-- The expressions that the items of a condition are written as. -/
def Items.expressions : Items → List Expression
  | values items => items.map fun item => .value item.value
  | presence items => items.map .presence
  | ranges items => [.ranges (items.map fun (low, high) => (End.bound low, End.bound high))]

theorem Items.spelt {items : Items} (nonempty : items.isEmpty = false)
    (same : tokens.map Token.lexeme = items.lexemes) :
    Separated .comma Expression.Spelt items.expressions tokens := by
  have single : ∀ {lexeme : Lexeme Kind} {expression : Expression} (tokens : List (Token Kind)),
      (∀ token : Token Kind, token.lexeme = lexeme → expression.Spelt [token]) →
      tokens.map Token.lexeme = [lexeme] → expression.Spelt tokens := by
    intro lexeme expression tokens spelt same
    obtain ⟨token, rfl, isLexeme⟩ := List.map_eq_singleton_iff.1 same
    exact spelt token isLexeme
  cases items with
  | values items =>
    refine separated_of_listed (fun item tokens => single tokens fun _ => item.spelt) ?_ same
    simpa [isEmpty] using nonempty
  | presence items =>
    refine separated_of_listed (fun item tokens => single tokens fun _ => presence_spelt item) ?_ same
    simpa [isEmpty] using nonempty
  | ranges items =>
    obtain ⟨word, tokens, rfl, range, same⟩ := List.map_eq_cons_iff.1 same
    refine .one (.ranges (congrArg Lexeme.kind range) ?_)
    refine separated_of_listed (fun item tokens => interval_spelt item) ?_ same
    simpa [isEmpty] using nonempty

theorem Items.lists (items : Items) : Expression.Lists items.expressions items.condition := by
  cases items with
  | values items =>
    have lists := Expression.Lists.values (items.map Scalar.value)
    rwa [List.map_map] at lists
  | presence items => exact .presence items
  | ranges items =>
    have lists := Expression.Lists.ranges
      [items.map fun (low, high) => (End.bound low, End.bound high)]
    rwa [List.flatten_singleton] at lists

theorem Items.countP_isRanges (items : Items) :
    items.expressions.countP Expression.isRanges ≤ 1 := by
  cases items with
  | values items => simp [expressions, List.countP_map, Function.comp_def, Expression.isRanges]
  | presence items => simp [expressions, List.countP_map, Function.comp_def, Expression.isRanges]
  | ranges items => exact Nat.le_refl 1

/-- The tokens that a filter is written with are derived as its path and its condition, and `range`
is among them once at most. -/
theorem derives_written {path : String} {items : Items} (nonempty : items.isEmpty = false)
    (same : tokens.map Token.lexeme = written path items) :
    Derives tokens ⟨path, items.condition⟩ ∧ ¬ RepeatsRange tokens := by
  obtain ⟨name, tokens, rfl, isName, same⟩ := List.map_eq_cons_iff.1 same
  obtain ⟨mark, pieces, rfl, isMark, same⟩ := List.map_eq_cons_iff.1 same
  have spelt := Items.spelt nonempty same
  have pathKind : name.kind = .path := congrArg Lexeme.kind isName
  have colonKind : mark.kind = .colon := congrArg Lexeme.kind isMark
  have derives : Derives (name :: mark :: pieces) ⟨name.text, items.condition⟩ :=
    .clause pathKind colonKind spelt items.lists
  have once : ¬ RepeatsRange (name :: mark :: pieces) := by
    rw [RepeatsRange, rangeWords_clause pathKind colonKind spelt, Nat.not_lt]
    exact items.countP_isRanges
  have pathText : name.text = path := congrArg Lexeme.text isName
  rw [pathText] at derives
  exact ⟨derives, once⟩

end Derivation

/-- A filter that is written, with any white space that keeps its words apart, compiles to its path
and its condition. -/
theorem written_filter_compiles {path : String} (isPath : IsFieldPath path) {items : Items}
    (nonempty : items.isEmpty = false) {text : String}
    (laid : LaidOut (written path items) text.toList) :
    compile text = .ok ⟨path, items.condition⟩ := by
  obtain ⟨tokens, cut, same⟩ := (cut_written isPath laid).tokensFrom 0
  obtain ⟨derives, once⟩ := derives_written nonempty same
  exact compile_eq_ok_iff.2 ⟨_, cut, derives, once⟩

/-- A quote inside a string, a negative integer, and white space where none is needed. -/
theorem written_filter_compiles_quoted_and_negative :
    let items := Items.values [.literal (.text .single "it's"), .literal (.integer (-5) (by decide))]
    let text := "n:'it\\'s'  ,-5\n"
    IsFieldPath "n" ∧ items.isEmpty = false ∧ LaidOut (written "n" items) text.toList ∧
      compile text = .ok ⟨"n", .values [.string "it's", .ofInt (-5)]⟩ := by
  intro items text
  have isPath : IsFieldPath "n" := ⟨by with_unfolding_all rfl, by decide⟩
  have noGap : [].all Text.isBlank = true := rfl
  have twoBlanks : [' ', ' '].all Text.isBlank = true := by decide
  have lineFeed : ['\n'].all Text.isBlank = true := by decide
  have integer : LaidOut [⟨Kind.number, "-5"⟩] "-5\n".toList :=
    .cons noGap (fun _ => by decide) (.nil lineFeed)
  have values : LaidOut items.lexemes "'it\\'s'  ,-5\n".toList :=
    .cons noGap (fun _ => by decide) (.cons twoBlanks (fun _ => by decide) integer)
  have behind : LaidOut (⟨.colon, ":"⟩ :: items.lexemes) ":'it\\'s'  ,-5\n".toList :=
    .cons noGap (fun _ => by decide) values
  have laid : LaidOut (written "n" items) "n:'it\\'s'  ,-5\n".toList :=
    .cons noGap (fun _ => by decide) behind
  exact ⟨isPath, rfl, laid, written_filter_compiles isPath rfl laid⟩

end Storefront.Filter
