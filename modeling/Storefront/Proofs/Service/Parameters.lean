import Mathlib.Data.List.Induction
import Storefront.Proofs.Decimal.Numeral
import Storefront.Proofs.Dictionary
import Storefront.Proofs.Service.Addressing

/-!
Query strings, decoded name by name. What a name is decoded to depends on its own values and their order
only, so pairs of different names may stand in any order.
-/
namespace Storefront

namespace Parameters
open Numeral (Spells)

variable {parameters : Parameters} {name : String}

/-! ### Counts -/

/-- The last value of a name is no natural number, or too large a one. -/
def Miscounts (parameters : Parameters) (name value : String) : Prop :=
  parameters.last? name = some value ∧ ∀ n, Spells value.toList n → Numeral.maxNatural < n

/-- The count that a name gives, by the number that its last value spells, if it has a value. -/
inductive Counts (parameters : Parameters) (name : String) : Option Nat → Prop
  | absent : parameters.last? name = none → Counts parameters name none
  | spelt {value : String} {n : Nat} : parameters.last? name = some value → Spells value.toList n →
      n ≤ Numeral.maxNatural → Counts parameters name (some n)

theorem natural_eq_ok_iff {value : String} {n : Nat} :
    natural name value = .ok n ↔ Spells value.toList n ∧ n ≤ Numeral.maxNatural := by
  rw [← Numeral.natural?_eq_some_iff, natural]
  cases Numeral.natural? Numeral.maxNatural value.toList <;> simp

theorem natural_eq_error_iff {value : String} {failure : Failure} :
    natural name value = .error failure ↔
      (∀ n, Spells value.toList n → Numeral.maxNatural < n) ∧ failure = .invalidValue value name := by
  cases read : natural name value with
  | ok n =>
    obtain ⟨spelt, fits⟩ := natural_eq_ok_iff.mp read
    refine iff_of_false nofun ?_
    rintro ⟨large, -⟩
    exact absurd (large n spelt) (Nat.not_lt.mpr fits)
  | error other =>
    have large : ∀ n, Spells value.toList n → Numeral.maxNatural < n := by
      intro n spelt
      by_contra fits
      cases read.symm.trans (natural_eq_ok_iff.mpr ⟨spelt, Nat.not_lt.mp fits⟩)
    obtain rfl : other = .invalidValue value name := by
      unfold natural at read
      split at read
      · contradiction
      · exact (Except.error.inj read).symm
    rw [Except.error.injEq, and_iff_right large, eq_comm]

theorem natural?_eq_ok_iff {count : Option Nat} :
    parameters.natural? name = .ok count ↔ Counts parameters name count := by
  unfold natural?
  split
  · rename_i missing
    rw [Except.ok.injEq]
    constructor
    · rintro rfl
      exact .absent missing
    · rintro (_ | ⟨present, -, -⟩)
      · rfl
      · cases missing.symm.trans present
  · rename_i value present
    constructor
    · intro read
      cases counted : natural name value with
      | error failure => cases counted ▸ read
      | ok n =>
        cases counted ▸ read
        obtain ⟨spelt, fits⟩ := natural_eq_ok_iff.mp counted
        exact .spelt present spelt fits
    · rintro (missing | ⟨there, spelt, fits⟩)
      · cases present.symm.trans missing
      · cases present.symm.trans there
        rw [natural_eq_ok_iff.mpr ⟨spelt, fits⟩]
        rfl

theorem natural?_eq_error_iff {failure : Failure} :
    parameters.natural? name = .error failure ↔
      ∃ value, Miscounts parameters name value ∧ failure = .invalidValue value name := by
  unfold natural?
  split
  · rename_i missing
    refine iff_of_false nofun ?_
    rintro ⟨value, ⟨present, -⟩, -⟩
    cases missing.symm.trans present
  · rename_i value present
    have failed : (natural name value).map some = .error failure ↔ natural name value = .error failure := by
      cases natural name value <;> simp [Except.map]
    rw [failed, natural_eq_error_iff]
    constructor
    · rintro ⟨large, rfl⟩
      exact ⟨value, ⟨present, large⟩, rfl⟩
    · rintro ⟨last, ⟨there, large⟩, rfl⟩
      cases present.symm.trans there
      exact ⟨large, rfl⟩

/-! ### Variables -/

/-- The variable that some values make: one value alone, or a list of several. -/
def together? : List String → Option Json
  | [] => none
  | [value] => some (.string value)
  | values => some (.array (values.map .string))

theorem addValue_together? (values : List String) (value : String) :
    some (addValue (.string value) (together? values)) = together? (values ++ [value]) := by
  rcases values with _ | ⟨first, _ | ⟨second, more⟩⟩
  · rfl
  · rfl
  · simp [together?, addValue]

theorem values_concat (parameters : Parameters) (parameter : String × String) (name : String) :
    Parameters.values (parameters ++ [parameter]) name =
      if parameter.1 = name then parameters.values name ++ [parameter.2] else parameters.values name := by
  by_cases named : parameter.1 = name <;> simp [values, named]

/-- A pair adds its value to the one variable that it names, if it names one. -/
theorem get?_bindVariable (bound : Variables) (parameter : String × String) (name : String) :
    Dictionary.get? (bindVariable bound parameter) name =
      if parameter.1 = "var." ++ name then
        some (addValue (.string parameter.2) (Dictionary.get? bound name))
      else Dictionary.get? bound name := by
  have named (rest : List Char) : parameter.1 = "var." ++ String.ofList rest ↔
      Text.after? "var." parameter.1.toList = some rest := by
    have behind : (String.ofList rest).toList = rest := String.toList_ofList
    rw [Text.after?_eq_some_iff, ← String.toList_inj, String.toList_append, behind]
  unfold bindVariable
  split
  · rename_i other
    have differs := named name.toList
    rw [other, String.ofList_toList] at differs
    rw [if_neg fun same => nomatch differs.mp same]
  · rename_i rest split
    have same : parameter.1 = "var." ++ name ↔ String.ofList rest = name := by
      rw [(named rest).mpr split, String.append_right_inj]
    simp only [same, Dictionary.get?_insert]
    split
    · rename_i asked
      rw [asked]
    · rfl

theorem bindings_concat (parameters : Parameters) (parameter : String × String) :
    Parameters.bindings (parameters ++ [parameter]) = bindVariable parameters.bindings parameter :=
  List.foldl_append

/-- A variable has what all values of its name make, in their order. -/
theorem get?_bindings (parameters : Parameters) (name : String) :
    Dictionary.get? parameters.bindings name = together? (parameters.values ("var." ++ name)) := by
  induction parameters using List.reverseRecOn with
  | nil => rfl
  | append_singleton parameters parameter ih =>
    rw [bindings_concat, get?_bindVariable, ih, values_concat]
    split
    · exact addValue_together? _ _
    · rfl

theorem ordered_bindings (parameters : Parameters) : Dictionary.Ordered parameters.bindings := by
  induction parameters using List.reverseRecOn with
  | nil => exact Dictionary.ordered_nil
  | append_singleton parameters parameter ih =>
    rw [bindings_concat, bindVariable]
    split
    · exact ih
    · exact Dictionary.Ordered.insert ih _ _

/-! ### Query strings -/

/-- What a query string is decoded to, name by name. -/
structure Decodes (parameters : Parameters) (params : QueryParams) : Prop where
  predicates : params.predicates = parameters.values "where"
  expand : params.expand = parameters.values "expand"
  offset : Counts parameters "offset" params.offset
  limit : Counts parameters "limit" params.limit
  ordered : Dictionary.Ordered params.bindings
  bindings : ∀ name,
    Dictionary.get? params.bindings name = together? (parameters.values ("var." ++ name))

theorem queryParams_eq_ok_iff {params : QueryParams} :
    parameters.queryParams = .ok params ↔ Decodes parameters params := by
  constructor
  · intro decoded
    cases offset : parameters.natural? "offset" with
    | error failure =>
      rw [queryParams, offset] at decoded
      contradiction
    | ok first =>
      cases limit : parameters.natural? "limit" with
      | error failure =>
        rw [queryParams, offset, limit] at decoded
        contradiction
      | ok count =>
        rw [queryParams, offset, limit] at decoded
        cases decoded
        exact ⟨rfl, rfl, natural?_eq_ok_iff.mp offset, natural?_eq_ok_iff.mp limit,
          ordered_bindings parameters, get?_bindings parameters⟩
  · rintro ⟨predicates, expand, offset, limit, ordered, bound⟩
    have bindings : params.bindings = parameters.bindings := by
      apply ordered.ext (ordered_bindings parameters)
      exact fun name => (bound name).trans (get?_bindings parameters name).symm
    rw [queryParams, natural?_eq_ok_iff.mpr offset, natural?_eq_ok_iff.mpr limit, ← predicates, ← expand,
      ← bindings]
    rfl

/-- The offset is looked at before the limit. -/
theorem queryParams_eq_error_iff {failure : Failure} :
    parameters.queryParams = .error failure ↔
      (∃ value, Miscounts parameters "offset" value ∧ failure = .invalidValue value "offset") ∨
      (∀ value, ¬ Miscounts parameters "offset" value) ∧
        ∃ value, Miscounts parameters "limit" value ∧ failure = .invalidValue value "limit" := by
  rw [← natural?_eq_error_iff, ← natural?_eq_error_iff]
  cases offset : parameters.natural? "offset" with
  | error other =>
    obtain ⟨value, miscounts, -⟩ := natural?_eq_error_iff.mp offset
    have first : parameters.queryParams = .error other := by
      rw [queryParams, offset]
      rfl
    rw [first, or_iff_left fun counts => counts.1 value miscounts, Except.error.injEq,
      Except.error.injEq]
  | ok first =>
    have counts : ∀ value, ¬ Miscounts parameters "offset" value := by
      intro value miscounts
      cases offset.symm.trans (natural?_eq_error_iff.mpr ⟨value, miscounts, rfl⟩)
    rw [and_iff_right counts, or_iff_right nofun, queryParams, offset]
    cases parameters.natural? "limit" with
    | error other => simp only [bind, Except.bind, Except.error.injEq]
    | ok count => exact iff_of_false nofun nofun

/-- A query string is refused exactly if its last offset or its last limit is no count, with the first
of the two named. Else it is decoded name by name, and pairs in another order come to the same, as long
as the values of each name stay in their order. -/
theorem query_string_decoded_by_name (parameters : Parameters) :
    (∀ failure, parameters.queryParams = .error failure ↔
      (∃ value, Miscounts parameters "offset" value ∧ failure = .invalidValue value "offset") ∨
      (∀ value, ¬ Miscounts parameters "offset" value) ∧
        ∃ value, Miscounts parameters "limit" value ∧ failure = .invalidValue value "limit") ∧
    (∀ params, parameters.queryParams = .ok params ↔ Decodes parameters params) ∧
    ∀ reordered : Parameters, (∀ name, reordered.values name = parameters.values name) →
      reordered.queryParams = parameters.queryParams := by
  refine ⟨fun failure => queryParams_eq_error_iff, fun params => queryParams_eq_ok_iff, ?_⟩
  intro reordered same
  have count (name : String) : reordered.natural? name = parameters.natural? name := by
    simp only [natural?, last?, same]
  have bindings : reordered.bindings = parameters.bindings := by
    apply (ordered_bindings reordered).ext (ordered_bindings parameters)
    intro name
    rw [get?_bindings, get?_bindings, same]
  simp only [queryParams, count, same, bindings]

/-- Variables one after the other or among one another. -/
theorem query_string_decoded_among_other_names :
    let apart : Parameters := [("var.ids", "x"), ("var.ids", "y"), ("var.name", "z"), ("limit", "+5")]
    let among : Parameters := [("limit", "+5"), ("var.ids", "x"), ("var.name", "z"), ("var.ids", "y")]
    (∀ name, among.values name = apart.values name) ∧ among.queryParams = apart.queryParams ∧
      ∃ params, apart.queryParams = .ok params ∧ params.limit = some 5 ∧
        Dictionary.get? params.bindings "ids" = some (.array [.string "x", .string "y"]) ∧
        Dictionary.get? params.bindings "name" = some (.string "z") := by
  intro apart among
  obtain ⟨-, decoded, reordered⟩ := query_string_decoded_by_name apart
  have same : ∀ name, among.values name = apart.values name := by
    intro name
    by_cases ids : "var.ids" = name
    · subst ids
      rfl
    · by_cases limit : "limit" = name
      · subst limit
        rfl
      · simp [among, apart, values, List.filter_cons, ids, limit]
  obtain ⟨params, read⟩ : ∃ params, apart.queryParams = .ok params := ⟨_, rfl⟩
  obtain ⟨-, -, -, limit, -, bound⟩ := (decoded params).mp read
  refine ⟨same, reordered among same, params, read, ?_, bound "ids", bound "name"⟩
  cases read
  rfl

end Parameters
end Storefront
