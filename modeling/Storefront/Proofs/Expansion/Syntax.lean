import Storefront.Proofs.Decimal.Numeral
import Storefront.Proofs.Expansion.Growth
import Storefront.Proofs.Json.Path

/-!
The syntax of expand clauses. A clause is its steps with points between them, and a step is the name of a
member, alone or with an index in brackets behind it. Points part a text before brackets are looked at, and
brackets are opened from the left and closed from the right; what is read is told here for each text, and
what is written is read back.
-/
namespace Storefront

/-! ### The first separator -/

section Separators
variable {separator : Char} {cs before behind : List Char}

theorem Text.splitOnce?_eq_none_iff : splitOnce? separator cs = none ↔ separator ∉ cs := by
  induction cs with
  | nil => simp [splitOnce?]
  | cons c cs ih =>
    by_cases here : c = separator
    · simp [splitOnce?, here]
    · simp [splitOnce?, here, Ne.symm here, ih]

theorem Text.splitOnce?_eq_some_iff :
    splitOnce? separator cs = some (before, behind) ↔
      separator ∉ before ∧ cs = before ++ separator :: behind := by
  induction cs generalizing before with
  | nil => simp [splitOnce?]
  | cons c cs ih =>
    rw [splitOnce?]
    split
    · rename_i here
      subst here
      cases before with
      | nil => simp [eq_comm]
      | cons other before => simp +contextual [eq_comm]
    · rename_i other
      cases before with
      | nil => simp [other]
      | cons first before =>
        simp only [Option.map_eq_some_iff, Prod.exists, Prod.mk.injEq, List.cons.injEq, List.mem_cons,
          List.cons_append, not_or]
        constructor
        · rintro ⟨found, rest, split, ⟨rfl, rfl⟩, rfl⟩
          obtain ⟨absent, rfl⟩ := ih.mp split
          exact ⟨⟨Ne.symm other, absent⟩, rfl, rfl⟩
        · rintro ⟨⟨-, absent⟩, rfl, rfl⟩
          exact ⟨before, behind, ih.mpr ⟨absent, rfl⟩, ⟨rfl, rfl⟩, rfl⟩

end Separators

namespace Expansion

variable {cs inner piece : List Char} {pieces : List (List Char)} {index : Index} {step : Step}
  {clause : Clause} {source : String} {error : Error}

/-! ### Texts of steps -/

/-- An index as it may stand in brackets: a star, or a position in decimal. -/
inductive SpellsIndex : List Char → Index → Prop where
  | all : SpellsIndex ['*'] .all
  | position {text : List Char} {n : Nat} : Numeral.Spells text n → n ≤ Numeral.maxNatural →
      SpellsIndex text (.at n)

/-- A step as it may stand between points. Its name is not empty and opens no bracket. -/
inductive SpellsStep : List Char → Step → Prop where
  | member {name : List Char} : name ≠ [] → '[' ∉ name → SpellsStep name ⟨String.ofList name, none⟩
  | indexed {name inner : List Char} {index : Index} : name ≠ [] → '[' ∉ name →
      SpellsIndex inner index →
      SpellsStep (name ++ '[' :: (inner ++ [']'])) ⟨String.ofList name, some index⟩

theorem bracketed?_eq_some_iff : bracketed? cs = some inner ↔ cs = inner ++ [']'] := by
  simp only [bracketed?, Option.ite_none_right_eq_some, Option.some.injEq]
  constructor
  · rintro ⟨last, rfl⟩
    obtain ⟨front, rfl⟩ := List.getLast?_eq_some_iff.mp last
    rw [List.dropLast_concat]
  · rintro rfl
    exact ⟨List.getLast?_concat, List.dropLast_concat⟩

/-- A star is no digit, so it is not the numeral of a position. -/
theorem not_spells_star (n : Nat) : ¬ Numeral.Spells ['*'] n := by
  rintro ⟨digits, rfl | signed, -, all, -⟩
  · exact absurd (all '*' List.mem_cons_self) (by decide)
  · exact absurd signed (by simp)

theorem readIndex?_eq_some_iff : readIndex? cs = some index ↔ SpellsIndex cs index := by
  unfold readIndex?
  split
  · rename_i star
    subst star
    constructor
    · intro read
      cases read
      exact .all
    · rintro (_ | ⟨spelt, -⟩)
      · rfl
      · exact absurd spelt (not_spells_star _)
  · rename_i other
    rw [Option.map_eq_some_iff]
    constructor
    · rintro ⟨n, read, rfl⟩
      obtain ⟨spelt, fits⟩ := Numeral.natural?_eq_some_iff.mp read
      exact .position spelt fits
    · rintro (_ | ⟨spelt, fits⟩)
      · exact absurd rfl other
      · exact ⟨_, Numeral.natural?_eq_some_iff.mpr ⟨spelt, fits⟩, rfl⟩

theorem readStep?_eq_some_iff : readStep? piece = some step ↔ SpellsStep piece step := by
  unfold readStep?
  split
  · rename_i single
    have plain := Text.splitOnce?_eq_none_iff.mp single
    rw [Option.ite_none_left_eq_some, Option.some.injEq]
    constructor
    · rintro ⟨nonempty, rfl⟩
      exact .member nonempty plain
    · rintro (⟨nonempty, -⟩ | -)
      · exact ⟨nonempty, rfl⟩
      · exact absurd (List.mem_append_right _ List.mem_cons_self) plain
  · rename_i name rest found
    obtain ⟨plain, rfl⟩ := Text.splitOnce?_eq_some_iff.mp found
    simp only [Option.bind_eq_bind, Option.bind_eq_some_iff, bracketed?_eq_some_iff,
      readIndex?_eq_some_iff, Option.ite_none_left_eq_some, Option.some.injEq]
    constructor
    · rintro ⟨inner, rfl, index, spelt, nonempty, rfl⟩
      exact .indexed nonempty plain spelt
    · generalize whole : name ++ '[' :: rest = text
      rintro (⟨-, open'⟩ | ⟨nonempty, plain', spelt⟩)
      · exact absurd (whole ▸ List.mem_append_right _ List.mem_cons_self) open'
      · -- the first opening bracket ends the name in both
        have same := found.symm.trans (Text.splitOnce?_eq_some_iff.mpr ⟨plain', whole⟩)
        cases same
        exact ⟨_, rfl, _, spelt, nonempty, rfl⟩

/-! ### Texts of clauses -/

theorem readSteps_of_refused (refused : readStep? piece = none) (pieces : List (List Char)) :
    readSteps (piece :: pieces) = .error (.badInput (.expandClause (join (piece :: pieces)))) := by
  rw [readSteps, refused]

theorem readSteps_of_read (read : readStep? piece = some step) (pieces : List (List Char)) :
    readSteps (piece :: pieces) = (readSteps pieces).map (step :: ·) := by
  rw [readSteps, read]
  cases readSteps pieces <;> rfl

theorem readSteps_eq_ok_iff :
    readSteps pieces = .ok clause ↔ List.Forall₂ SpellsStep pieces clause := by
  induction pieces generalizing clause with
  | nil => rw [readSteps, Except.ok.injEq, List.forall₂_nil_left_iff, eq_comm]
  | cons piece pieces ih =>
    rw [List.forall₂_cons_left_iff]
    cases read : readStep? piece with
    | none =>
      rw [readSteps_of_refused read]
      refine iff_of_false nofun ?_
      rintro ⟨step, -, spelt, -⟩
      cases read.symm.trans (readStep?_eq_some_iff.mpr spelt)
    | some step =>
      rw [readSteps_of_read read, map_eq_ok_iff]
      constructor
      · rintro ⟨steps, later, rfl⟩
        exact ⟨step, steps, readStep?_eq_some_iff.mp read, ih.mp later, rfl⟩
      · rintro ⟨other, steps, spelt, later, rfl⟩
        cases read.symm.trans (readStep?_eq_some_iff.mpr spelt)
        exact ⟨steps, ih.mpr later, rfl⟩

/-- Pieces that are steps in front, one that is none, and a refusal that quotes from there on. -/
def RefusedAt (pieces : List (List Char)) (error : Error) : Prop :=
  ∃ before bad behind, pieces = before ++ bad :: behind ∧
    (∀ piece ∈ before, ∃ step, SpellsStep piece step) ∧ (¬ ∃ step, SpellsStep bad step) ∧
    error = .badInput (.expandClause (join (bad :: behind)))

theorem refusedAt_cons_of_not (bad : ¬ ∃ step, SpellsStep piece step) :
    RefusedAt (piece :: pieces) error ↔
      error = .badInput (.expandClause (join (piece :: pieces))) := by
  constructor
  · rintro ⟨_ | ⟨first, before⟩, other, behind, parts, good, -, rfl⟩
    · cases parts
      rfl
    · cases parts
      exact absurd (good piece List.mem_cons_self) bad
  · rintro rfl
    exact ⟨[], piece, pieces, rfl, nofun, bad, rfl⟩

theorem refusedAt_cons_of_spelt (good : ∃ step, SpellsStep piece step) :
    RefusedAt (piece :: pieces) error ↔ RefusedAt pieces error := by
  constructor
  · rintro ⟨_ | ⟨first, before⟩, bad, behind, parts, each, refused, rfl⟩
    · cases parts
      exact absurd good refused
    · cases parts
      exact ⟨before, bad, behind, rfl, (List.forall_mem_cons.mp each).2, refused, rfl⟩
  · rintro ⟨before, bad, behind, rfl, each, refused, rfl⟩
    exact ⟨piece :: before, bad, behind, rfl, List.forall_mem_cons.mpr ⟨good, each⟩, refused, rfl⟩

/-- Reading goes from left to right and fails at the first piece that is no step. -/
theorem readSteps_eq_error_iff : readSteps pieces = .error error ↔ RefusedAt pieces error := by
  induction pieces with
  | nil =>
    refine iff_of_false nofun ?_
    rintro ⟨before, bad, behind, parts, -⟩
    simp at parts
  | cons piece pieces ih =>
    cases read : readStep? piece with
    | none =>
      have bad : ¬ ∃ step, SpellsStep piece step := by
        rintro ⟨step, spelt⟩
        cases read.symm.trans (readStep?_eq_some_iff.mpr spelt)
      rw [readSteps_of_refused read, refusedAt_cons_of_not bad, Except.error.injEq, eq_comm]
    | some step =>
      have good : ∃ step, SpellsStep piece step := ⟨step, readStep?_eq_some_iff.mp read⟩
      rw [readSteps_of_read read, map_eq_error_iff, ih, refusedAt_cons_of_spelt good]

theorem readClause_eq (source : String) :
    readClause source = readSteps (source.toList.splitOn '.') := by
  rw [readClause, Json.split_eq_splitOn]

/-! ### Writing clauses -/

def Index.render : Index → String
  | all => "*"
  | .at position => toString position

def Step.render (step : Step) : String :=
  match step.index with
  | none => step.element
  | some index => step.element ++ "[" ++ index.render ++ "]"

def Clause.render (clause : Clause) : String :=
  ".".intercalate (clause.map Step.render)

/-- A step that can be written: its name is not empty and has neither point nor opening bracket, and its
position is one that an array can have. -/
structure Step.Writable (step : Step) : Prop where
  named : step.element ≠ ""
  noPoint : '.' ∉ step.element.toList
  noBracket : '[' ∉ step.element.toList
  fits : ∀ position, step.index = some (.at position) → position ≤ Numeral.maxNatural

theorem Index.toList_render_at (position : Nat) :
    (Index.at position).render.toList = Nat.toDigits 10 position :=
  Nat.toList_repr

theorem Index.spells_render (fits : ∀ position, index = .at position → position ≤ Numeral.maxNatural) :
    SpellsIndex index.render.toList index := by
  cases index with
  | all => exact .all
  | «at» position =>
    rw [toList_render_at]
    have digits := Numeral.digits?_eq_some_iff.mp (Numeral.digits?_toDigits position)
    exact .position ⟨_, .inl rfl, digits⟩ (fits position rfl)

theorem Index.point_not_mem_render (index : Index) : '.' ∉ index.render.toList := by
  cases index with
  | all => simp [render]
  | «at» position =>
    rw [toList_render_at]
    intro point
    exact absurd (Numeral.isDigit_of_mem_toDigits point) (by decide)

theorem Step.toList_render_indexed (element : String) (index : Index) :
    (Step.mk element (some index)).render.toList =
      element.toList ++ '[' :: (index.render.toList ++ [']']) := by
  simp [render]

theorem Step.Writable.spells_render (writable : step.Writable) :
    SpellsStep step.render.toList step := by
  obtain ⟨element, index⟩ := step
  have nonempty : element.toList ≠ [] := by simpa using writable.named
  cases index with
  | none =>
    have spelt := SpellsStep.member nonempty writable.noBracket
    rwa [String.ofList_toList] at spelt
  | some index =>
    have inside := Index.spells_render fun position same => writable.fits position (congrArg some same)
    have spelt := SpellsStep.indexed nonempty writable.noBracket inside
    rwa [String.ofList_toList, ← Step.toList_render_indexed] at spelt

theorem Step.Writable.point_not_mem_render (writable : step.Writable) :
    '.' ∉ step.render.toList := by
  obtain ⟨element, index⟩ := step
  cases index with
  | none => exact writable.noPoint
  | some index =>
    rw [Step.toList_render_indexed]
    simp [writable.noPoint, index.point_not_mem_render]

theorem splitOn_render (nonempty : clause ≠ []) (writable : ∀ step ∈ clause, step.Writable) :
    clause.render.toList.splitOn '.' = clause.map fun step => step.render.toList := by
  have separate : ∀ piece ∈ clause.map fun step => step.render.toList, '.' ∉ piece := by
    simpa using fun step mem => (writable step mem).point_not_mem_render
  have written : clause.render.toList =
      ['.'].intercalate (clause.map fun step => step.render.toList) := by
    rw [Clause.render, String.toList_intercalate, List.map_map]
    rfl
  rw [written]
  exact List.splitOn_intercalate '.' separate (by simpa using nonempty)

/-- A clause that is written is read back. A text is read exactly if each of its pieces between points is a
name, or a name with a star or a position of 64 bits in brackets behind it, and then piece by piece; else it
is refused as bad input, and the message quotes it from its first bad piece on. -/
theorem clause_syntax_exact :
    (∀ clause : Clause, clause ≠ [] → (∀ step ∈ clause, step.Writable) →
      readClause clause.render = .ok clause) ∧
    ∀ source : String,
      let pieces := source.toList.splitOn '.'
      ((∃ clause, readClause source = .ok clause) ↔ ∀ piece ∈ pieces, ∃ step, SpellsStep piece step) ∧
      (∀ clause, readClause source = .ok clause ↔ List.Forall₂ SpellsStep pieces clause) ∧
      ∀ error, readClause source = .error error ↔ RefusedAt pieces error := by
  refine ⟨?_, fun source => ?_⟩
  · intro clause nonempty writable
    rw [readClause_eq, splitOn_render nonempty writable, readSteps_eq_ok_iff, List.forall₂_map_left_iff,
      List.forall₂_same]
    exact fun step mem => (writable step mem).spells_render
  · intro pieces
    rw [readClause_eq]
    refine ⟨?_, fun clause => readSteps_eq_ok_iff, fun error => readSteps_eq_error_iff⟩
    constructor
    · rintro ⟨clause, read⟩
      intro piece member
      obtain ⟨step, -, spelt⟩ := exists_of_mem_forall₂ (readSteps_eq_ok_iff.mp read) piece member
      exact ⟨step, spelt⟩
    · intro each
      cases read : readSteps pieces with
      | ok clause => exact ⟨clause, rfl⟩
      | error error =>
        obtain ⟨before, bad, behind, parts, -, refused, -⟩ := readSteps_eq_error_iff.mp read
        exact absurd (each bad (parts ▸ List.mem_append_right _ List.mem_cons_self)) refused

/-- A name with a closing bracket, the largest position, a position with a plus and zeros in front, and one
that is too large. -/
theorem clause_syntax_at_largest_position :
    let clause : Clause := [⟨"lines", some .all⟩, ⟨"prices]", some (.at 18446744073709551615)⟩]
    clause.render = "lines[*].prices][18446744073709551615]" ∧
      readClause clause.render = .ok clause ∧
      readClause "lines[+007]" = .ok [⟨"lines", some (.at 7)⟩] ∧
      readClause "a.b[18446744073709551616].c" =
        .error (.badInput (.expandClause "b[18446744073709551616].c")) := by
  intro clause
  obtain ⟨written, texts⟩ := clause_syntax_exact
  have writable : ∀ step ∈ clause, step.Writable := by
    simp only [clause, List.forall_mem_cons]
    refine ⟨⟨by decide, by decide, by decide, nofun⟩, ⟨by decide, by decide, by decide, ?_⟩, nofun⟩
    rintro position ⟨⟩
    exact Nat.le_refl _
  have zeros : SpellsIndex "+007".toList (.at 7) := readIndex?_eq_some_iff.mp rfl
  have lines : SpellsStep ("lines".toList ++ '[' :: ("+007".toList ++ [']'])) ⟨"lines", some (.at 7)⟩ :=
    .indexed (by decide) (by decide) zeros
  have tooLarge : readStep? "b[18446744073709551616]".toList = none := by decide
  refine ⟨by decide +kernel, written clause nofun writable, ((texts _).2.1 _).mpr (.cons lines .nil), ?_⟩
  refine ((texts _).2.2 _).mpr ⟨["a".toList], "b[18446744073709551616]".toList, ["c".toList], by decide,
    ?_, ?_, rfl⟩
  · rw [List.forall_mem_singleton]
    exact ⟨_, .member (by decide) (by decide)⟩
  · rintro ⟨step, spelt⟩
    cases tooLarge.symm.trans (readStep?_eq_some_iff.mpr spelt)

end Expansion
end Storefront
