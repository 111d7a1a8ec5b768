import Storefront.Store.Collection
import Storefront.Proofs.Dictionary

/-! The documents of a collection and the order of their ids. The two are changed together, and stay
consistent: the order lists every id that has a document once, and no other. -/
namespace Storefront.Collection

variable {collection : Collection} {id : String}

theorem get?_insert (collection : Collection) (id other : String) (doc : Json) :
    (collection.insert id doc).get? other = if id = other then some doc else collection.get? other :=
  Dictionary.get?_insert collection.documents id other doc

theorem get?_erase (collection : Collection) (id other : String) :
    (collection.erase id).get? other = if id = other then none else collection.get? other := by
  unfold erase
  split
  · rename_i absent
    split
    · rename_i same
      exact same ▸ absent
    · rfl
  · exact Dictionary.get?_erase collection.documents id other

structure Consistent (collection : Collection) : Prop where
  ordered : Dictionary.Ordered collection.documents
  nodup : collection.order.Nodup
  mem_order_iff : ∀ id, id ∈ collection.order ↔ id ∈ Dictionary.names collection.documents

theorem Consistent.mem_order_iff_isSome (consistent : Consistent collection) :
    id ∈ collection.order ↔ (collection.get? id).isSome :=
  (consistent.mem_order_iff id).trans Dictionary.mem_names_iff

theorem consistent_empty : Consistent empty :=
  ⟨Dictionary.ordered_nil, List.nodup_nil, fun _ => Iff.rfl⟩

theorem Consistent.mem_order_insert (consistent : Consistent collection) :
    other ∈ (collection.insert id doc).order ↔ id = other ∨ other ∈ collection.order := by
  simp only [Collection.insert]
  split
  · rename_i present
    constructor
    · exact .inr
    · rintro (rfl | member)
      · exact consistent.mem_order_iff_isSome.mpr present
      · exact member
  · rw [List.mem_append, List.mem_singleton, or_comm, eq_comm]

theorem Consistent.mem_order_erase (consistent : Consistent collection) :
    other ∈ (collection.erase id).order ↔ id ≠ other ∧ other ∈ collection.order := by
  unfold Collection.erase
  split
  · rename_i absent
    constructor
    · intro member
      refine ⟨?_, member⟩
      rintro rfl
      simpa [absent] using consistent.mem_order_iff_isSome.mp member
    · exact And.right
  · rw [List.mem_filter, decide_eq_true_eq, ne_comm, and_comm]

theorem Consistent.insert (consistent : Consistent collection) (id : String) (doc : Json) :
    Consistent (collection.insert id doc) := by
  refine ⟨consistent.ordered.insert id doc, ?_, ?_⟩
  · simp only [Collection.insert]
    split
    · exact consistent.nodup
    · rename_i fresh
      have absent : id ∉ collection.order := fun present =>
        fresh (consistent.mem_order_iff_isSome.mp present)
      refine List.nodup_append.mpr ⟨consistent.nodup, List.pairwise_singleton _ id, ?_⟩
      rintro other member last single rfl
      exact absent (List.mem_singleton.mp single ▸ member)
  · intro other
    have found := get?_insert collection id other doc
    rw [consistent.mem_order_insert, Dictionary.mem_names_iff]
    change _ ↔ ((collection.insert id doc).get? other).isSome = true
    rw [found, consistent.mem_order_iff_isSome]
    by_cases same : id = other <;> simp [same]

theorem Consistent.erase (consistent : Consistent collection) (id : String) :
    Consistent (collection.erase id) := by
  refine ⟨?_, ?_, ?_⟩
  · unfold Collection.erase
    split
    · exact consistent.ordered
    · exact consistent.ordered.erase id
  · unfold Collection.erase
    split
    · exact consistent.nodup
    · exact consistent.nodup.filter _
  · intro other
    have found := get?_erase collection id other
    rw [consistent.mem_order_erase, Dictionary.mem_names_iff]
    change _ ↔ ((collection.erase id).get? other).isSome = true
    rw [found, consistent.mem_order_iff_isSome]
    by_cases same : id = other <;> simp [same]

/-- The size counts exactly the documents that are listed. -/
theorem Consistent.size_eq_length_toList (consistent : Consistent collection) :
    collection.size = collection.toList.length := by
  have listed : collection.toList.length = collection.order.length := by
    apply List.filterMap_length_eq_length.mpr
    exact fun id member => consistent.mem_order_iff_isSome.mp member
  have same : List.Perm collection.order (Dictionary.names collection.documents) :=
    (List.perm_ext_iff_of_nodup consistent.nodup consistent.ordered.nodup_names).mpr
      consistent.mem_order_iff
  rw [listed, same.length_eq, Dictionary.names, List.length_map, size]

end Storefront.Collection
