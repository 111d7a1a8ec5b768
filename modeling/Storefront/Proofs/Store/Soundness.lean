import Storefront.Proofs.Store.Operation

/-! What every collection of a store holds, however the store came about: valid documents without
targets, each under its own id, and an order that lists each of them once. -/
namespace Storefront

/-- Every entry is a stored document, and order, documents and size agree. -/
structure Collection.Sound (collection : Collection) : Prop where
  stored : ∀ id doc, (id, doc) ∈ collection.documents → Document.Stored id doc
  consistent : collection.Consistent
  counted : collection.size = collection.toList.length

namespace Collection

variable {collection : Collection} {id : String} {doc : Json}

theorem sound_of_get? (consistent : collection.Consistent)
    (stored : ∀ id doc, collection.get? id = some doc → Document.Stored id doc) :
    collection.Sound :=
  ⟨fun id doc member => stored id doc (Dictionary.get?_of_mem consistent.ordered member),
    consistent, consistent.size_eq_length_toList⟩

theorem Sound.of_get? (sound : collection.Sound)
    (found : collection.get? id = some doc) : Document.Stored id doc :=
  sound.stored id doc (Dictionary.mem_of_get? found)

theorem sound_empty : empty.Sound :=
  sound_of_get? consistent_empty fun _ _ found => nomatch found

theorem Sound.insert (sound : collection.Sound) (stored : Document.Stored id doc) :
    (collection.insert id doc).Sound := by
  apply sound_of_get? (sound.consistent.insert id doc)
  intro other found there
  rw [get?_insert] at there
  split at there
  · rename_i same
    cases there
    exact same ▸ stored
  · exact sound.of_get? there

theorem Sound.erase (sound : collection.Sound) (id : String) :
    (collection.erase id).Sound := by
  apply sound_of_get? (sound.consistent.erase id)
  intro other found there
  rw [get?_erase] at there
  split at there
  · contradiction
  · exact sound.of_get? there

end Collection

namespace Store

/-- Every collection, of whatever tenant and type, is sound. -/
def Sound (store : Store) : Prop :=
  ∀ tenant typeId collection, store.collection? tenant typeId = some collection → collection.Sound

theorem Sound.modify {store : Store} (sound : store.Sound) (tenant typeId : String)
    (change : Collection → Collection)
    (keeps : ∀ collection, collection.Sound → (change collection).Sound) :
    (store.modify tenant typeId change).Sound := by
  intro otherTenant otherType collection found
  rw [collection?_modify] at found
  split at found
  · cases found
    apply keeps
    cases present : store.collection? tenant typeId with
    | none => exact Collection.sound_empty
    | some before => exact sound tenant typeId before present
  · exact sound otherTenant otherType collection found

theorem Sound.effect {store after : Store} (sound : store.Sound)
    (effect : Effect store tenant typeId after) : after.Sound := by
  cases effect with
  | kept same =>
    intro otherTenant otherType collection found
    rw [collection?, same] at found
    exact sound otherTenant otherType collection found
  | stored id doc valid => exact sound.modify _ _ _ fun _ before => before.insert valid
  | removed id doc _ => exact sound.modify _ _ _ fun _ before => before.erase id

/-- Whatever is called, in whatever order and with whatever arguments and answers, the store stays
sound from the empty one on. -/
theorem run_empty_sound (settings : Settings) (operations : List Operation) :
    ((empty settings).run operations).Sound :=
  run_invariant (fun store operation sound => sound.effect (perform_effect store operation))
    operations fun _ _ _ found => nomatch found

end Store
end Storefront
