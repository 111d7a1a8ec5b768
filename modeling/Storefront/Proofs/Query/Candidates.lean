import Storefront.Proofs.Json.Path
import Storefront.Query.Basic

/-!
Conditions on candidates. An exact condition and one on texts hold of a document if one of the values that
they are tried on passes, and neither fails for a value.
-/
namespace Storefront.Query

/-- The values that a condition is tried on: those that its field leads to in the document, or in each of
the variants of it. -/
def Target.tried (target : Target) (doc : Json) : List Json :=
  match Variant.relativePath? target.field.toList with
  | some path => (Variant.all doc).flatMap fun variant => Json.finds (target.resolve? path variant)
  | none => Json.finds (target.resolve? target.field.toList doc)

/-- Where the field is of no variant, the document alone is looked at. -/
theorem Target.tried_of_plain {target : Target}
    (single : Variant.relativePath? target.field.toList = none) (doc : Json) :
    target.tried doc = Json.finds (target.resolve? target.field.toList doc) := by
  rw [tried, single]

theorem anyCandidate_ok (condition : Json → Bool) (field : Option Json) :
    anyCandidate (fun candidate => .ok (condition candidate)) field =
      .ok ((Json.finds field).any condition) := by
  cases field with
  | none => rfl
  | some value => exact List.anyM_pure

theorem isSome_firstFrom (condition : Json → Bool) (index : Nat) (variants : List Json) :
    (Variant.firstFrom (fun variant => .ok (condition variant)) index variants).map Option.isSome =
      .ok (variants.any condition) := by
  induction variants generalizing index with
  | nil => rfl
  | cons variant variants ih =>
    rw [Variant.firstFrom, List.any_cons]
    cases condition variant with
    | true => rfl
    | false => exact ih (index + 1)

theorem map_map_isSome (first : Except Error (Option Nat)) :
    (first.map fun first => (⟨first.isSome, some first⟩ : Outcome)).map (·.result) =
      first.map Option.isSome := by
  cases first <;> rfl

theorem Target.probe_ok (target : Target) (doc : Json) (condition : Json → Bool) :
    (target.probe doc (anyCandidate fun candidate => .ok (condition candidate))).map (·.result) =
      .ok ((target.tried doc).any condition) := by
  have each : anyCandidate (fun candidate => .ok (condition candidate)) = fun field =>
    .ok ((Json.finds field).any condition) := funext (anyCandidate_ok condition)
  rw [each, probe, tried]
  cases Variant.relativePath? target.field.toList with
  | none => rfl
  | some path =>
    have first := isSome_firstFrom
      (fun variant => (Json.finds (target.resolve? path variant)).any condition) 0 (Variant.all doc)
    rw [List.any_flatMap, ← first]
    exact map_map_isSome _

theorem holds_textual (mode : TextMode) (target : Target) (value : String) (ignoreCase : Bool)
    (doc : Json) : (textual mode target value ignoreCase).holds doc =
      .ok ((target.tried doc).any (textHolds mode ignoreCase value)) := by
  rw [holds, run]
  exact target.probe_ok doc _

/-- A condition on a member that is a string asks it of the string. -/
theorem holds_textual_member (mode : TextMode) (value : String) (ignoreCase : Bool) (text : String) :
    (textual mode ⟨"f", none, none⟩ value ignoreCase).holds (.object [("f", .string text)]) =
      .ok (mode.holds ignoreCase value.toList text.toList) := by
  have tried : Target.tried ⟨"f", none, none⟩ (.object [("f", .string text)]) = [.string text] := rfl
  rw [holds_textual, tried, List.any_cons, List.any_nil, Bool.or_false]
  rfl

theorem holds_exact {value : Option Json} {values : Option (List Json)} {operands : List Json}
    (given : operands? value values = some operands) (target : Target) (ignoreCase : Bool) (doc : Json) :
    (exact target value values ignoreCase).holds doc =
      .ok ((target.tried doc).any fun candidate => operands.any (exactEq ignoreCase candidate)) := by
  simp only [holds, run, given]
  exact target.probe_ok doc _

end Storefront.Query
