import Storefront.Proofs.Query.Candidates
import Storefront.Proofs.Text.Lowercase

/-!
Conditions that ignore the case of letters. One that holds with case holds without it, except that of a
beginning or of a piece between stars whose lower-case form is another one inside of longer texts.
-/
namespace Storefront.Query

/-! ### Keeping matches -/

/-- Wherever a query holds, the other one holds as well. -/
def Implies (query other : Query) : Prop :=
  ∀ doc, query.holds doc = .ok true → other.holds doc = .ok true

/-- A form is determined by the text, so equality outlives it. -/
theorem exactEq_ignoring {candidate operand : Json} (same : exactEq false candidate operand = true) :
    exactEq true candidate operand = true := by
  cases candidate with
  | string text =>
    cases operand with
    | string other =>
      obtain rfl : text = other := by simpa [exactEq] using same
      simp [exactEq]
    | _ => exact same
  | _ => cases operand <;> exact same

theorem exact_implies_ignoring (target : Target) (value : Option Json) (values : Option (List Json)) :
    (exact target value values false).Implies (exact target value values true) := by
  intro doc held
  cases given : operands? value values with
  | none => simp [holds, run, given, Except.map] at held
  | some operands =>
    rw [holds_exact given, Except.ok.injEq, List.any_eq_true] at held
    rw [holds_exact given, Except.ok.injEq, List.any_eq_true]
    obtain ⟨candidate, tried, equals⟩ := held
    obtain ⟨operand, given, same⟩ := List.any_eq_true.mp equals
    exact ⟨candidate, tried, List.any_eq_true.mpr ⟨operand, given, exactEq_ignoring same⟩⟩

/-- A text condition keeps its matches in all documents exactly if it does on all texts. -/
theorem textual_implies_iff {mode : TextMode} {value : String} :
    (∀ target, (textual mode target value false).Implies (textual mode target value true)) ↔
      ∀ text, mode.holds false value.toList text = true → mode.holds true value.toList text = true := by
  constructor
  · intro implies text held
    have found (ignoreCase : Bool) := holds_textual_member mode value ignoreCase (String.ofList text)
    simp only [String.toList_ofList] at found
    have kept := implies ⟨"f", none, none⟩ _ ((found false).trans (congrArg Except.ok held))
    exact Except.ok.inj ((found true).symm.trans kept)
  · intro kept target doc held
    rw [holds_textual, Except.ok.injEq, List.any_eq_true] at held ⊢
    obtain ⟨candidate, tried, held⟩ := held
    refine ⟨candidate, tried, ?_⟩
    cases candidate with
    | string text => exact kept text.toList held
    | _ => contradiction

/-! ### Beginnings and pieces between stars -/

theorem beginning_kept_iff {value : List Char} :
    (∀ text, TextMode.beginning.holds false value text = true →
      TextMode.beginning.holds true value text = true) ↔ ¬ Text.LooksBehind value := by
  simp only [TextMode.holds, Bool.false_eq_true, if_false, if_true, List.isPrefixOf_iff_prefix]
  constructor
  · intro kept behind
    exact Text.lower_prefix_iff.mp (kept (value ++ ['a']) (List.prefix_append _ _))
      ⟨behind, by decide⟩
  · rintro closed _ ⟨rest, rfl⟩
    exact Text.lower_prefix_iff.mpr fun looks => closed looks.1

theorem wildcardMatches_iff {text pattern : List Char} :
    wildcardMatches text pattern = true ↔ ∀ piece ∈ Text.split '*' pattern, piece <:+: text := by
  rw [wildcardMatches, List.all_eq_true]
  refine forall₂_congr fun piece _ => ?_
  rw [Bool.or_eq_true, Text.occursIn_iff, List.isEmpty_iff]
  exact ⟨fun either => either.elim (fun empty => empty ▸ List.nil_infix) id, .inr⟩

theorem wildcard_holds_iff {value text : List Char} :
    (TextMode.wildcard.holds false value text = true ↔
      ∀ piece ∈ Text.split '*' value, piece <:+: text) ∧
    (TextMode.wildcard.holds true value text = true ↔
      ∀ piece ∈ Text.split '*' value, Text.lower piece <:+: Text.lower text) := by
  simp only [TextMode.holds, Bool.false_eq_true, if_false, if_true, wildcardMatches_iff,
    Text.split_lower, List.forall_mem_map, and_self]

/-- A text that looks neither behind nor before itself. -/
def Closed (piece : List Char) : Prop :=
  ¬ Text.LooksBehind piece ∧ ¬ Text.LooksBefore piece

theorem closed_nil : Closed [] := by
  simp [Closed, Text.LooksBehind, Text.LooksBefore]

theorem wildcard_kept {value text : List Char} (closed : ∀ piece ∈ Text.split '*' value, Closed piece)
    (held : TextMode.wildcard.holds false value text = true) :
    TextMode.wildcard.holds true value text = true := by
  rw [wildcard_holds_iff.1] at held
  rw [wildcard_holds_iff.2]
  intro piece among
  obtain ⟨notBehind, notBefore⟩ := closed piece among
  exact Text.lower_infix notBehind notBefore (held piece among)

/-- With one piece only, possibly more than once, nothing else than what it looks at loses a match. -/
theorem closed_of_wildcard_kept {value piece : List Char} (among : piece ∈ Text.split '*' value)
    (only : ∀ other ∈ Text.split '*' value, other = [] ∨ other = piece)
    (kept : ∀ text, TextMode.wildcard.holds false value text = true →
      TextMode.wildcard.holds true value text = true) : Closed piece := by
  by_contra looks
  obtain ⟨text, inside, lost⟩ : ∃ text, piece <:+: text ∧ ¬ Text.lower piece <:+: Text.lower text :=
    Text.exists_without_lower ((not_and_or.mp looks).imp not_not.mp not_not.mp)
  have held : TextMode.wildcard.holds false value text = true := by
    rw [wildcard_holds_iff.1]
    intro other listed
    rcases only other listed with rfl | rfl
    · exact List.nil_infix
    · exact inside
  exact lost (wildcard_holds_iff.2.mp (kept text held) piece among)

/-- Ignoring case never loses an equal value. It loses no beginning exactly if that does not look behind
itself, and no piece between stars if none of them looks behind or before itself. If there is one piece
only, its matches are kept exactly in this case. -/
theorem ignoring_case_keeps_matches_of_closed_texts (target : Target) (value : Option Json)
    (values : Option (List Json)) (wanted : String) :
    (exact target value values false).Implies (exact target value values true) ∧
    ((∀ target, (textual .beginning target wanted false).Implies
      (textual .beginning target wanted true)) ↔ ¬ Text.LooksBehind wanted.toList) ∧
    ((∀ piece ∈ Text.split '*' wanted.toList, Closed piece) →
      (textual .wildcard target wanted false).Implies (textual .wildcard target wanted true)) ∧
    ∀ piece ∈ Text.split '*' wanted.toList,
      (∀ other ∈ Text.split '*' wanted.toList, other = [] ∨ other = piece) →
      ((∀ target, (textual .wildcard target wanted false).Implies
        (textual .wildcard target wanted true)) ↔ Closed piece) := by
  refine ⟨exact_implies_ignoring target value values, ?_, ?_, ?_⟩
  · rw [textual_implies_iff, beginning_kept_iff]
  · intro closed
    exact textual_implies_iff.mpr (fun text => wildcard_kept closed) target
  · intro piece among only
    rw [textual_implies_iff]
    constructor
    · exact closed_of_wildcard_kept among only
    · intro closed text
      refine wildcard_kept fun other listed => ?_
      rcases only other listed with rfl | rfl
      · exact closed_nil
      · exact closed

/-- A capital sigma behind a letter is a beginning of a word that goes on behind it, and alone it is a piece
of a word that ends with it. Neither is found in the lower-case form of the word. -/
theorem final_sigma_loses_matches :
    let target : Target := ⟨"f", none, none⟩
    let inWord (word : String) := Json.object [("f", .string word)]
    (textual .beginning target "ΑΣ" false).holds (inWord "ΑΣΑ") = .ok true ∧
      (textual .beginning target "ΑΣ" true).holds (inWord "ΑΣΑ") = .ok false ∧
      (textual .wildcard target "*Σ*" false).holds (inWord "ΑΣ") = .ok true ∧
      (textual .wildcard target "*Σ*" true).holds (inWord "ΑΣ") = .ok false := by
  simp only [holds_textual_member, Except.ok.injEq]
  decide +kernel

end Storefront.Query
