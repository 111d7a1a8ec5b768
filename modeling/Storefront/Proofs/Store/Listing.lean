import Mathlib.Data.List.Basic
import Storefront.Proofs.Store.Collection

/-!
Collections as lists. A collection is kept as documents by id beside an order of ids, and whatever is
put in and taken out, it answers as the list would that holds each id with its document in the order
in which the ids came.
-/
namespace Storefront

/-- Ids with their documents, in order. -/
abbrev Listing := List (String × Json)

namespace Listing

/-- Puts a document in the place of the one with its id, or else at the end. -/
def insert : Listing → String → Json → Listing
  | [], id, doc => [(id, doc)]
  | (other, old) :: rest, id, doc =>
    if other = id then (id, doc) :: rest else (other, old) :: insert rest id doc

def get? (listing : Listing) (id : String) : Option Json :=
  (listing.find? fun entry => entry.1 = id).map (·.2)

/-- Takes out the entry with an id and gives its document. -/
def remove (listing : Listing) (id : String) : Option Json × Listing :=
  (listing.get? id, listing.eraseP fun entry => entry.1 = id)

/-- The document of the first entry whose document has a key. -/
def getByKey? (listing : Listing) (key : String) : Option Json :=
  (listing.find? fun entry => Document.key? entry.2 = some key).map (·.2)

end Listing

/-- A change of what is kept under ids. -/
inductive Edit where
  | insert (id : String) (doc : Json)
  | remove (id : String)

/-- What every removal among some changes gives, and what is left after all of them, for a way of
keeping documents. -/
def editAll {σ : Type} (insert : σ → String → Json → σ) (remove : σ → String → Option Json × σ) :
    σ → List Edit → List (Option Json) × σ
  | state, [] => ([], state)
  | state, .insert id doc :: edits => editAll insert remove (insert state id doc) edits
  | state, .remove id :: edits =>
    let (removed, after) := remove state id
    let (more, last) := editAll insert remove after edits
    (removed :: more, last)

/-- A collection answers as a list does. -/
structure Collection.AnswersAs (collection : Collection) (listing : Listing) : Prop where
  get : ∀ id, collection.get? id = listing.get? id
  getByKey : ∀ key, collection.getByKey? key = listing.getByKey? key
  iterate : collection.toList = listing.map (·.2)
  count : collection.size = listing.length
  empty : collection.isEmpty = listing.isEmpty

/-- A collection has the documents of a list, and its order. -/
structure Collection.Refines (collection : Collection) (listing : Listing) : Prop where
  consistent : Consistent collection
  order : collection.order = listing.map (·.1)
  found : ∀ id, collection.get? id = listing.get? id

namespace Listing
variable {listing : Listing}

theorem get?_cons (entry : String × Json) (rest : Listing) (id : String) :
    get? (entry :: rest) id = if entry.1 = id then some entry.2 else get? rest id := by
  by_cases same : entry.1 = id <;> simp [get?, same]

theorem get?_eq_none_iff {id : String} : listing.get? id = none ↔ id ∉ listing.map (·.1) := by
  induction listing with
  | nil => simp [get?]
  | cons entry rest ih =>
    rw [get?_cons, List.map_cons, List.mem_cons, not_or, ← ih]
    by_cases same : entry.1 = id
    · simp [same]
    · simp [same, Ne.symm same]

theorem get?_insert (listing : Listing) (id other : String) (doc : Json) :
    (listing.insert id doc).get? other = if id = other then some doc else listing.get? other := by
  induction listing with
  | nil => rw [insert, get?_cons]
  | cons entry rest ih =>
    rw [insert]
    split
    · rename_i same
      rw [get?_cons, get?_cons, same]
      split <;> rfl
    · rename_i different
      rw [get?_cons, get?_cons, ih]
      by_cases first : entry.1 = other
      · have apart : id ≠ other := fun same => different (first.trans same.symm)
        simp [first, apart]
      · simp [first]

/-- The id of an entry stays where it is, a new one comes last. -/
theorem ids_insert (listing : Listing) (id : String) (doc : Json) :
    (listing.insert id doc).map (·.1) =
      if id ∈ listing.map (·.1) then listing.map (·.1) else listing.map (·.1) ++ [id] := by
  induction listing with
  | nil => rfl
  | cons entry rest ih =>
    rw [insert]
    by_cases same : entry.1 = id
    · simp [same]
    · rw [if_neg same, List.map_cons, ih, List.map_cons]
      by_cases later : id ∈ rest.map (·.1) <;> simp [later, Ne.symm same]

section Distinct
variable (distinct : (listing.map (·.1)).Nodup)
include distinct

theorem get?_of_mem {entry : String × Json} (member : entry ∈ listing) :
    listing.get? entry.1 = some entry.2 := by
  induction listing with
  | nil => contradiction
  | cons first rest ih =>
    rw [List.map_cons, List.nodup_cons] at distinct
    rw [get?_cons]
    rcases List.mem_cons.1 member with rfl | later
    · rw [if_pos rfl]
    · have different : first.1 ≠ entry.1 := fun same =>
        distinct.1 (same ▸ List.mem_map_of_mem later)
      rw [if_neg different, ih distinct.2 later]

theorem ids_remove (id : String) :
    (listing.remove id).2.map (·.1) = (listing.map (·.1)).filter (· ≠ id) := by
  have erased : (listing.remove id).2.map (·.1) = (listing.map (·.1)).erase id := by
    rw [remove, List.erase_eq_eraseP', List.eraseP_map]
    rfl
  rw [erased, distinct.erase_eq_filter]
  apply List.filter_congr
  intro other _
  exact (decide_not ..).symm

theorem get?_remove (id other : String) :
    (listing.remove id).2.get? other = if id = other then none else listing.get? other := by
  simp only [remove]
  induction listing with
  | nil => simp [get?]
  | cons entry rest ih =>
    rw [List.map_cons, List.nodup_cons] at distinct
    by_cases same : entry.1 = id
    · subst same
      rw [List.eraseP_cons_of_pos (by simp), get?_cons]
      split
      · rename_i asked
        exact get?_eq_none_iff.2 (asked ▸ distinct.1)
      · rfl
    · rw [List.eraseP_cons_of_neg (by simp [same]), get?_cons, get?_cons, ih distinct.2]
      by_cases first : entry.1 = other
      · have apart : id ≠ other := fun equal => same (first.trans equal.symm)
        simp [first, apart]
      · simp [first]

end Distinct
end Listing

namespace Collection.Refines
variable {collection : Collection} {listing : Listing}

theorem distinct (refines : collection.Refines listing) : (listing.map (·.1)).Nodup :=
  refines.order ▸ refines.consistent.nodup

theorem empty : Collection.empty.Refines [] :=
  ⟨consistent_empty, rfl, fun _ => rfl⟩

theorem insert (refines : collection.Refines listing) (id : String) (doc : Json) :
    (collection.insert id doc).Refines (listing.insert id doc) := by
  refine ⟨refines.consistent.insert id doc, ?_, fun other => ?_⟩
  · have present : (collection.get? id).isSome = true ↔ id ∈ listing.map (·.1) := by
      rw [← refines.consistent.mem_order_iff_isSome, refines.order]
    rw [Listing.ids_insert, Collection.insert, ← refines.order]
    simp only [present, refines.order]
  · rw [Collection.get?_insert, Listing.get?_insert, refines.found]

theorem remove (refines : collection.Refines listing) (id : String) :
    (collection.remove id).1 = (listing.remove id).1 ∧
      (collection.remove id).2.Refines (listing.remove id).2 := by
  refine ⟨refines.found id, refines.consistent.erase id, ?_, fun other => ?_⟩
  · rw [Listing.ids_remove refines.distinct, ← refines.order]
    change (collection.erase id).order = _
    unfold erase
    split
    · rename_i absent
      have unlisted : id ∉ collection.order := fun listed => by
        simpa [absent] using refines.consistent.mem_order_iff_isSome.1 listed
      refine (List.filter_eq_self.2 fun other member => ?_).symm
      exact decide_eq_true fun same => unlisted (same ▸ member)
    · rfl
  · rw [Listing.get?_remove refines.distinct, ← refines.found]
    exact Collection.get?_erase collection id other

theorem toList_eq (refines : collection.Refines listing) :
    collection.toList = listing.map (·.2) := by
  rw [toList, refines.order, List.filterMap_map]
  apply List.filterMap_eq_map_iff_forall_eq_some.2
  intro entry member
  exact (refines.found entry.1).trans (Listing.get?_of_mem refines.distinct member)

theorem answersAs (refines : collection.Refines listing) : collection.AnswersAs listing := by
  have count : collection.size = listing.length := by
    rw [refines.consistent.size_eq_length_toList, refines.toList_eq, List.length_map]
  refine ⟨refines.found, fun key => ?_, refines.toList_eq, count, ?_⟩
  · rw [getByKey?, refines.toList_eq, List.find?_map]
    rfl
  · rw [Bool.eq_iff_iff, isEmpty, List.isEmpty_iff_length_eq_zero, List.isEmpty_iff_length_eq_zero,
      ← count, size]

/-- Changes of a collection are changes of the list. -/
theorem editAll (refines : collection.Refines listing) (edits : List Edit) :
    (Storefront.editAll Collection.insert Collection.remove collection edits).1 =
      (Storefront.editAll Listing.insert Listing.remove listing edits).1 ∧
    (Storefront.editAll Collection.insert Collection.remove collection edits).2.Refines
      (Storefront.editAll Listing.insert Listing.remove listing edits).2 := by
  induction edits generalizing collection listing with
  | nil => exact ⟨rfl, refines⟩
  | cons edit edits ih =>
    cases edit with
    | insert id doc => exact ih (refines.insert id doc)
    | remove id =>
      obtain ⟨removed, after⟩ := refines.remove id
      obtain ⟨more, last⟩ := ih after
      exact ⟨List.cons_eq_cons.2 ⟨removed, more⟩, last⟩

end Collection.Refines

/-- After any changes of an empty collection, each removal gave what it gives in the list, and all that
can be asked of the collection is answered as by the list. -/
theorem Collection.refines_association_list (edits : List Edit) :
    (editAll Collection.insert Collection.remove Collection.empty edits).1 =
      (editAll Listing.insert Listing.remove [] edits).1 ∧
    (editAll Collection.insert Collection.remove Collection.empty edits).2.AnswersAs
      (editAll Listing.insert Listing.remove [] edits).2 := by
  obtain ⟨removed, refines⟩ := Refines.empty.editAll edits
  exact ⟨removed, refines.answersAs⟩

end Storefront
