import Storefront.Proofs.Dictionary
import Storefront.Service.Http

/-!
Bodies of updates. However the members of a body stand, the fields that are read from it come in the order
of their names, each of them once: what every member keeps, the whole body keeps.
-/
namespace Storefront

namespace Body

/-- What is read first and what is read with it. -/
theorem exists_of_bind {α β : Type} {first : Read α} {next : α → Read β} {value : β}
    (read : (first >>= next) = .ok value) :
    ∃ middle, first = .ok middle ∧ next middle = .ok value := by
  cases first with
  | error fault => cases read
  | ok middle => exact ⟨middle, rfl, read⟩

theorem mismatch_ne_ok {α : Type} (accepted : List Container) (reading : Reading) (value : α) :
    mismatch accepted reading ≠ .ok value := by
  cases reading <;> simp [mismatch]

/-! ### What members keep -/

section Members
variable {σ : Type} {step : σ → String → Reading → Read σ} {P : σ → Prop} {state after : σ}

/-- A property that taking in a member keeps. -/
def Keeps (step : σ → String → Reading → Read σ) (P : σ → Prop) : Prop :=
  ∀ state name reading after, step state name reading = .ok after → P state → P after

theorem Keeps.members (keeps : Keeps step P) {closed : Bool} {list : List (Option String × Reading)}
    (read : members step closed state list = .ok after) (initial : P state) : P after := by
  induction list generalizing state with
  | nil =>
    cases closed <;> cases read
    exact initial
  | cons member list ih =>
    obtain ⟨_ | name, reading⟩ := member
    · cases read
    · rw [Body.members] at read
      split at read
      · cases read
      · rename_i next stepped
        exact ih read (keeps _ _ _ _ stepped initial)

theorem Keeps.positional (keeps : Keeps step P) {closed : Bool} {names : List String}
    {items : List Reading} (read : positional step closed state names items = .ok after)
    (initial : P state) : P after := by
  induction items generalizing state names with
  | nil =>
    rw [Body.positional] at read
    cases closed <;> cases read
    exact initial
  | cons reading items ih =>
    cases names with
    | nil => cases read
    | cons name names =>
      rw [Body.positional] at read
      split at read
      · cases read
      · rename_i next stepped
        exact ih read (keeps _ _ _ _ stepped initial)

theorem Keeps.object (keeps : Keeps step P) {reading : Reading}
    (read : object step state reading = .ok after) (initial : P state) : P after := by
  unfold Body.object at read
  split at read
  · exact keeps.members read initial
  · exact absurd read (mismatch_ne_ok _ _ _)

theorem Keeps.record (keeps : Keeps step P) {names : List String} {reading : Reading}
    (read : record step state names reading = .ok after) (initial : P state) : P after := by
  unfold Body.record at read
  split at read
  · exact keeps.members read initial
  · exact keeps.positional read initial
  · exact absurd read (mismatch_ne_ok _ _ _)

end Members

/-! ### Fields in order -/

theorem ordered_of_dictionary {reading : Reading} {entries : Dictionary Json}
    (read : dictionary reading = .ok entries) : Dictionary.Ordered entries := by
  have keeps : Keeps (fun entries name reading => do
      .ok (Dictionary.insert entries name (← json reading))) Dictionary.Ordered := by
    intro entries name reading after step ordered
    obtain ⟨value, -, inserted⟩ := exists_of_bind step
    cases inserted
    exact ordered.insert name value
  exact keeps.object read Dictionary.ordered_nil

theorem ordered_of_updateMember :
    Keeps updateMember fun seen => ∀ fields, seen.fields = some fields → Dictionary.Ordered fields := by
  intro seen name reading after step ordered
  unfold updateMember at step
  split at step
  · obtain ⟨version, -, set⟩ := exists_of_bind step
    cases set
    exact ordered
  · obtain ⟨fields, taken, set⟩ := exists_of_bind step
    cases set
    rintro fields rfl
    unfold once at taken
    split at taken
    · cases taken
    · cases entries : dictionary reading with
      | error fault =>
        rw [entries] at taken
        cases taken
      | ok value =>
        rw [entries] at taken
        cases taken
        exact ordered_of_dictionary entries
  · obtain ⟨-, -, same⟩ := exists_of_bind step
    cases same
    exact ordered

theorem ordered_of_updateRequest {reading : Reading} {update : UpdateRequest}
    (read : updateRequest reading = .ok update) : Dictionary.Ordered update.fields := by
  obtain ⟨seen, taken, made⟩ := exists_of_bind read
  have ordered := ordered_of_updateMember.record taken nofun
  split at made
  · cases made
    cases present : seen.fields with
    | none => exact Dictionary.ordered_nil
    | some fields => exact ordered fields present
  · cases made

theorem exists_of_ofText {α : Type} {read : Reading → Read α} {body : String} {value : α}
    (whole : ofText read body = .ok value) : ∃ reading, read reading = .ok value := by
  obtain ⟨found, taken, ending⟩ := exists_of_bind whole
  refine ⟨(Reading.ofText body.toList).1, taken.trans ?_⟩
  split at ending
  · cases ending
  · split at ending
    · exact ending
    · cases ending

end Body

namespace Service

/-- An update that a request brings names its fields in order. -/
theorem ordered_of_readBody {request : Request} {update : UpdateRequest}
    (read : readBody request Body.updateRequest = .ok update) : Dictionary.Ordered update.fields := by
  unfold readBody at read
  split at read
  · split at read
    · split at read
      · rename_i whole
        cases read
        obtain ⟨reading, taken⟩ := Body.exists_of_ofText whole
        exact Body.ordered_of_updateRequest taken
      · cases read
    · cases read
  · cases read

end Service
end Storefront
