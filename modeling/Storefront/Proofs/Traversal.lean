import Storefront.Error

/-!
Going through a list with steps that may fail. A traversal fails as its first step that fails does, if
all steps before it let it go on; what is behind it is not looked at.
-/
namespace Storefront

variable {α β : Type}

/-- Going through some items comes to one of them: all items before it are passed. -/
def ComesTo (passes : α → Prop) (items : List α) (item : α) : Prop :=
  ∃ before after, items = before ++ item :: after ∧ ∀ earlier ∈ before, passes earlier

theorem comesTo_nil {passes : α → Prop} {item : α} : ¬ ComesTo passes [] item := by
  rintro ⟨before, after, parts, -⟩
  cases before <;> cases parts

/-- Going through a list comes to the first item, and to later ones if the first one is passed. -/
theorem comesTo_cons {passes : α → Prop} {first item : α} {items : List α} :
    ComesTo passes (first :: items) item ↔
      item = first ∨ passes first ∧ ComesTo passes items item := by
  constructor
  · rintro ⟨before, after, parts, passed⟩
    cases before with
    | nil =>
      cases parts
      exact .inl rfl
    | cons earlier before =>
      cases parts
      rw [List.forall_mem_cons] at passed
      exact .inr ⟨passed.1, before, after, rfl, passed.2⟩
  · rintro (rfl | ⟨passed, before, after, rfl, passes⟩)
    · exact ⟨[], items, rfl, nofun⟩
    · exact ⟨first :: before, after, rfl, List.forall_mem_cons.mpr ⟨passed, passes⟩⟩

theorem ComesTo.mem {passes : α → Prop} {item : α} {items : List α}
    (comes : ComesTo passes items item) : item ∈ items := by
  obtain ⟨before, after, rfl, -⟩ := comes
  exact List.mem_append_right before List.mem_cons_self

section Failures
variable {error : Error} {fails : α → Prop} {passes : α → Prop}

/-- Where the first item fails, a failing item that a traversal comes to is the first one. -/
theorem exists_comesTo_cons {first : α} {items : List α} :
    (∃ item, ComesTo passes (first :: items) item ∧ fails item) ↔
      fails first ∨ passes first ∧ ∃ item, ComesTo passes items item ∧ fails item := by
  constructor
  · rintro ⟨item, comes, failed⟩
    rcases comesTo_cons.mp comes with rfl | ⟨passed, later⟩
    · exact .inl failed
    · exact .inr ⟨passed, item, later, failed⟩
  · rintro (failed | ⟨passed, item, later, failed⟩)
    · exact ⟨first, comesTo_cons.mpr (.inl rfl), failed⟩
    · exact ⟨item, comesTo_cons.mpr (.inr ⟨passed, later⟩), failed⟩

theorem allM_error_iff {test : α → Except Error Bool} {items : List α} :
    items.allM test = .error error ↔
      ∃ item, ComesTo (fun earlier => test earlier = .ok true) items item ∧
        test item = .error error := by
  induction items with
  | nil => exact ⟨nofun, fun ⟨_, comes, _⟩ => absurd comes comesTo_nil⟩
  | cons first items ih =>
    rw [exists_comesTo_cons, ← ih, List.allM_cons]
    cases test first with
    | error e => simp [bind, Except.bind]
    | ok holds => cases holds <;> simp [bind, Except.bind, pure, Except.pure]

theorem anyM_error_iff {test : α → Except Error Bool} {items : List α} :
    items.anyM test = .error error ↔
      ∃ item, ComesTo (fun earlier => test earlier = .ok false) items item ∧
        test item = .error error := by
  induction items with
  | nil => exact ⟨nofun, fun ⟨_, comes, _⟩ => absurd comes comesTo_nil⟩
  | cons first items ih =>
    rw [exists_comesTo_cons, ← ih, List.anyM_cons]
    cases test first with
    | error e => simp [bind, Except.bind]
    | ok holds => cases holds <;> simp [bind, Except.bind, pure, Except.pure]

theorem mapM_error_iff {step : α → Except Error β} {items : List α} :
    items.mapM step = .error error ↔
      ∃ item, ComesTo (fun earlier => ∃ result, step earlier = .ok result) items item ∧
        step item = .error error := by
  induction items with
  | nil => exact ⟨nofun, fun ⟨_, comes, _⟩ => absurd comes comesTo_nil⟩
  | cons first items ih =>
    rw [exists_comesTo_cons, ← ih, List.mapM_cons]
    cases step first with
    | error e => simp [bind, Except.bind]
    | ok result => cases items.mapM step <;> simp [bind, Except.bind, pure, Except.pure]

end Failures
end Storefront
