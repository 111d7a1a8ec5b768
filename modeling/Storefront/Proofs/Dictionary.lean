import Storefront.Dictionary

/-! What a lookup finds after each change of a dictionary, and the order of names that every change
keeps. The laws of lookup need no order; membership agrees with lookup in ordered entries only. -/
namespace Storefront.Dictionary

@[simp] theorem get?_nil (name : String) : get? ([] : Dictionary α) name = none := rfl

@[simp] theorem get?_insert_self (entries : Dictionary α) (name : String) (value : α) :
    get? (insert entries name value) name = some value := by
  rw [get?_insert, if_pos rfl]

theorem get?_insert_of_ne (entries : Dictionary α) (value : α) (different : name ≠ other) :
    get? (insert entries name value) other = get? entries other := by
  rw [get?_insert, if_neg different]

theorem erase_cons (entry : String × α) (rest : Dictionary α) (name : String) :
    erase (entry :: rest) name =
      if entry.1 = name then erase rest name else entry :: erase rest name := by
  by_cases dropped : entry.1 = name <;> simp [erase, dropped]

theorem get?_erase (entries : Dictionary α) (name other : String) :
    get? (erase entries name) other = if name = other then none else get? entries other := by
  induction entries with
  | nil => simp [erase]
  | cons entry rest ih =>
    rw [erase_cons]
    by_cases dropped : entry.1 = name
    · rw [if_pos dropped, ih]
      by_cases asked : name = other
      · simp only [asked, if_true]
      · simp only [get?, dropped, asked, if_false]
    · rw [if_neg dropped]
      by_cases asked : entry.1 = other
      · simp only [get?, asked, if_true, if_neg (asked ▸ Ne.symm dropped : name ≠ other)]
      · simp only [get?, asked, if_false, ih]

@[simp] theorem get?_erase_self (entries : Dictionary α) (name : String) :
    get? (erase entries name) name = none := by
  rw [get?_erase, if_pos rfl]

theorem get?_erase_of_ne (entries : Dictionary α) (different : name ≠ other) :
    get? (erase entries name) other = get? entries other := by
  rw [get?_erase, if_neg different]

theorem insert_insert_self (entries : Dictionary α) (name : String) (first second : α) :
    insert (insert entries name first) name second = insert entries name second := by
  induction entries with
  | nil => simp [insert]
  | cons entry rest ih =>
    obtain ⟨other, old⟩ := entry
    by_cases same : other = name
    · simp [insert, same]
    · by_cases before : name < other
      · simp [insert, same, before]
      · simp [insert, same, before, ih]

theorem erase_insert_self (entries : Dictionary α) (name : String) (value : α) :
    erase (insert entries name value) name = erase entries name := by
  induction entries with
  | nil => simp [insert, erase]
  | cons entry rest ih =>
    obtain ⟨other, old⟩ := entry
    by_cases same : other = name
    · simp [insert, erase_cons, same]
    · by_cases before : name < other
      · simp [insert, erase_cons, same, before]
      · simp [insert, erase_cons, same, before, ih]

theorem map_insert (f : α → β) (entries : Dictionary α) (name : String) (value : α) :
    (insert entries name value).map (fun entry => (entry.1, f entry.2)) =
      insert (entries.map fun entry => (entry.1, f entry.2)) name (f value) := by
  induction entries with
  | nil => rfl
  | cons entry rest ih =>
    obtain ⟨other, old⟩ := entry
    by_cases same : other = name
    · simp [insert, same]
    · by_cases before : name < other
      · simp [insert, same, before]
      · simp [insert, same, before, ih]

theorem erase_of_get?_none {entries : Dictionary α} (absent : get? entries name = none) :
    erase entries name = entries := by
  induction entries with
  | nil => rfl
  | cons entry rest ih =>
    by_cases same : entry.1 = name
    · simp [get?, same] at absent
    · rw [get?, if_neg same] at absent
      rw [erase_cons, if_neg same, ih absent]

theorem get?_map (f : α → β) (entries : Dictionary α) (name : String) :
    get? (entries.map fun entry => (entry.1, f entry.2)) name = (get? entries name).map f := by
  induction entries with
  | nil => rfl
  | cons entry rest ih =>
    by_cases asked : entry.1 = name <;> simp [get?, asked, ih]

theorem get?_append (front back : Dictionary α) (name : String) :
    get? (front ++ back) name = (get? front name).or (get? back name) := by
  induction front with
  | nil => rfl
  | cons entry rest ih =>
    by_cases asked : entry.1 = name <;> simp [get?, asked, ih]

/-- The later one of two entries under a name is the one that is found. -/
theorem get?_ofList (entries : List (String × α)) (name : String) :
    get? (ofList entries) name = get? entries.reverse name := by
  have found : ∀ (entries : List (String × α)) (built : Dictionary α),
      get? (entries.foldl (fun built entry => insert built entry.1 entry.2) built) name =
        (get? entries.reverse name).or (get? built name) := by
    intro entries
    induction entries with
    | nil => exact fun _ => rfl
    | cons entry entries ih =>
      intro built
      rw [List.foldl_cons, ih, get?_insert, List.reverse_cons, get?_append, Option.or_assoc]
      by_cases asked : entry.1 = name <;> simp [get?, asked]
  rw [ofList, found, get?_nil, Option.or_none]

theorem mem_of_get? {entries : Dictionary α} (found : get? entries name = some value) :
    (name, value) ∈ entries := by
  induction entries with
  | nil => contradiction
  | cons entry rest ih =>
    obtain ⟨first, old⟩ := entry
    by_cases asked : first = name
    · simp only [get?, asked, if_true, Option.some.injEq] at found
      simp [asked, found]
    · simp only [get?, asked, if_false] at found
      exact List.mem_cons_of_mem _ (ih found)

theorem mem_names_iff {entries : Dictionary α} :
    name ∈ names entries ↔ (get? entries name).isSome := by
  induction entries with
  | nil => simp [names]
  | cons entry rest ih =>
    obtain ⟨first, old⟩ := entry
    simp only [names] at ih
    by_cases asked : first = name
    · simp [names, get?, asked]
    · simp [names, get?, asked, Ne.symm asked, ih]

/-! ### Order -/

theorem ordered_nil : Ordered ([] : Dictionary α) := .nil

theorem Ordered.nodup_names {entries : Dictionary α} (ordered : Ordered entries) :
    (names entries).Nodup :=
  List.pairwise_map.mpr (ordered.imp String.ne_of_lt)

theorem Ordered.erase {entries : Dictionary α} (ordered : Ordered entries) (name : String) :
    Ordered (erase entries name) :=
  List.Pairwise.filter _ ordered

/-- Every entry of the result is the new one or an old one. -/
theorem mem_of_mem_insert {entries : Dictionary α} {entry : String × α}
    (member : entry ∈ insert entries name value) : entry = (name, value) ∨ entry ∈ entries := by
  induction entries with
  | nil => simpa [insert] using member
  | cons first rest ih =>
    simp only [insert] at member
    split at member
    · rcases List.mem_cons.mp member with new | old
      · exact .inl new
      · exact .inr (List.mem_cons_of_mem _ old)
    · split at member
      · simpa using member
      · rcases List.mem_cons.mp member with same | later
        · exact .inr (same ▸ List.mem_cons_self)
        · exact (ih later).imp_right (List.mem_cons_of_mem _)

theorem Ordered.insert {entries : Dictionary α} (ordered : Ordered entries) (name : String)
    (value : α) : Ordered (insert entries name value) := by
  induction entries with
  | nil => exact List.pairwise_singleton _ _
  | cons entry rest ih =>
    obtain ⟨first, old⟩ := entry
    obtain ⟨above, tail⟩ := List.pairwise_cons.mp ordered
    simp only [Dictionary.insert]
    split
    · rename_i same
      exact List.pairwise_cons.mpr ⟨fun later member => same ▸ above later member, tail⟩
    · rename_i different
      split
      · rename_i below
        refine List.pairwise_cons.mpr ⟨fun later member => ?_, ordered⟩
        rcases List.mem_cons.mp member with rfl | member
        · exact below
        · exact String.lt_trans below (above later member)
      · rename_i notBelow
        have before : first < name :=
          Std.lt_of_le_of_ne (String.not_lt.mp notBelow) different
        refine List.pairwise_cons.mpr ⟨fun later member => ?_, ih tail⟩
        rcases mem_of_mem_insert member with rfl | member
        · exact before
        · exact above later member

theorem ordered_ofList (entries : List (String × α)) : Ordered (ofList entries) := by
  have kept : ∀ (entries : List (String × α)) (built : Dictionary α), Ordered built →
      Ordered (entries.foldl (fun built entry => insert built entry.1 entry.2) built) := by
    intro entries
    induction entries with
    | nil => exact fun _ ordered => ordered
    | cons entry entries ih => exact fun built ordered => ih _ (ordered.insert entry.1 entry.2)
  exact kept entries [] ordered_nil

theorem mem_of_mem_ofList {entries : List (String × α)} (member : entry ∈ ofList entries) :
    entry ∈ entries := by
  have among : ∀ (entries : List (String × α)) (built : Dictionary α),
      entry ∈ entries.foldl (fun built entry => insert built entry.1 entry.2) built →
        entry ∈ built ∨ entry ∈ entries := by
    intro entries
    induction entries with
    | nil => exact fun _ => .inl
    | cons first entries ih =>
      intro built member
      rcases ih _ member with before | later
      · rcases mem_of_mem_insert before with rfl | old
        · exact .inr List.mem_cons_self
        · exact .inl old
      · exact .inr (List.mem_cons_of_mem _ later)
  exact (among entries [] member).resolve_left List.not_mem_nil

theorem get?_of_mem {entries : Dictionary α} (ordered : Ordered entries)
    (member : (name, value) ∈ entries) : get? entries name = some value := by
  induction entries with
  | nil => contradiction
  | cons entry rest ih =>
    obtain ⟨first, old⟩ := entry
    obtain ⟨above, tail⟩ := List.pairwise_cons.mp ordered
    rcases List.mem_cons.mp member with same | later
    · obtain ⟨rfl, rfl⟩ := Prod.mk.inj same
      simp [get?]
    · have different : first ≠ name := String.ne_of_lt (above _ later)
      simpa [get?, different] using ih tail later

theorem mem_iff_get? {entries : Dictionary α} (ordered : Ordered entries) :
    (name, value) ∈ entries ↔ get? entries name = some value :=
  ⟨get?_of_mem ordered, mem_of_get?⟩

/-- In order, entries are known by what a lookup finds. -/
theorem Ordered.ext {left right : Dictionary α} (leftOrdered : Ordered left)
    (rightOrdered : Ordered right) (same : ∀ name, get? left name = get? right name) :
    left = right := by
  have distinct {entries : Dictionary α} (ordered : Ordered entries) : entries.Nodup :=
    ordered.imp fun before equal => String.ne_of_lt before (congrArg Prod.fst equal)
  have permuted : left.Perm right := by
    apply (List.perm_ext_iff_of_nodup (distinct leftOrdered) (distinct rightOrdered)).mpr
    intro entry
    rw [mem_iff_get? leftOrdered, mem_iff_get? rightOrdered, same]
  apply permuted.eq_of_pairwise ?_ leftOrdered rightOrdered
  intro first second _ _ before after
  exact absurd (String.lt_trans before after) (String.lt_irrefl _)

/-- Putting in what is there already changes nothing. -/
theorem Ordered.insert_of_get? {entries : Dictionary α} (ordered : Ordered entries)
    (found : get? entries name = some value) : Dictionary.insert entries name value = entries := by
  apply (ordered.insert name value).ext ordered
  intro other
  rw [get?_insert]
  split
  · rename_i same
    exact same ▸ found.symm
  · rfl

end Storefront.Dictionary
