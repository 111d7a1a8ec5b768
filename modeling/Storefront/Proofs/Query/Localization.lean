import Storefront.Proofs.Json.Composition
import Storefront.Proofs.Json.Order
import Storefront.Query.Language

/-!
Languages of localized values. Two tags agree if, the case of ASCII letters apart, one is the other with
or without further subtags; they have the same primary subtag then. What a value gives in a language is
taken from the objects that it holds in arrays of arrays: from each the member with the least name that
agrees with the language, and nothing from those that have none.
-/
namespace Storefront

namespace Json

mutual
/-- The objects that a value is or holds in arrays, at any depth of these, in order. -/
def objects : Json → List (Dictionary Json)
  | .object members => [members]
  | .array items => objectsOfItems items
  | _ => []

def objectsOfItems : List Json → List (Dictionary Json)
  | [] => []
  | item :: items => objects item ++ objectsOfItems items
end

theorem mem_objectsOfItems {items : List Json} {members : Dictionary Json} :
    members ∈ objectsOfItems items ↔ ∃ item ∈ items, members ∈ item.objects := by
  induction items with
  | nil => simp [objectsOfItems]
  | cons item items ih => simp [objectsOfItems, ih]

theorem listed_eq_none_iff {found : List Json} : listed found = none ↔ found = [] := by
  cases found <;> simp [listed]

theorem listed_eq_some_iff {found : List Json} {value : Json} :
    listed found = some value ↔ found ≠ [] ∧ array found = value := by
  cases found <;> simp [listed]

end Json

namespace Query

/-! ### Tags -/

/-- The part of a tag before its first hyphen, in lower case. -/
def primarySubtag (tag : String) : List Char :=
  (Text.asciiLower tag.toList).takeWhile (· ≠ '-')

/-- Two tags are the same, or one is the beginning of the other up to one of its hyphens. The case of
ASCII letters does not count. -/
def TagsAgree (tag other : String) : Prop :=
  let tag := Text.asciiLower tag.toList
  let other := Text.asciiLower other.toList
  tag = other ∨ tag ++ ['-'] <+: other ∨ other ++ ['-'] <+: tag

variable {tag other language : String}

theorem tagsAgree_comm : TagsAgree tag other ↔ TagsAgree other tag := by
  simp only [TagsAgree]
  rw [eq_comm, or_comm (a := _ <+: _)]

theorem languageMatches_iff : languageMatches tag language = true ↔ TagsAgree tag language := by
  simp only [languageMatches, isTagPrefix, TagsAgree, Bool.or_eq_true, decide_eq_true_eq,
    List.isPrefixOf_iff_prefix, or_assoc]
  rw [or_comm (a := _ <+: _)]

theorem takeWhile_ne_of_begins {separator : Char} {short long : List Char}
    (begins : short ++ [separator] <+: long) :
    short.takeWhile (· ≠ separator) = long.takeWhile (· ≠ separator) := by
  obtain ⟨behind, rfl⟩ := begins
  induction short with
  | nil => simp
  | cons c short ih =>
    simp only [List.cons_append, List.takeWhile_cons]
    rw [ih]

theorem TagsAgree.primarySubtag_eq (agree : TagsAgree tag other) :
    primarySubtag tag = primarySubtag other := by
  rcases agree with same | begins | begins
  · exact congrArg (List.takeWhile (· ≠ '-')) same
  · exact takeWhile_ne_of_begins begins
  · exact (takeWhile_ne_of_begins begins).symm

/-! ### Members -/

/-- The member of an object for a language: of those whose names agree with it the one with the least
name. -/
structure Least (language : String) (members : Dictionary Json) (member : String × Json) : Prop where
  mem : member ∈ members
  agrees : TagsAgree member.1 language
  least : ∀ other ∈ members, TagsAgree other.1 language → other = member ∨ member.1 < other.1

/-- No object that a value holds has a member for a language. -/
def Silent (language : String) (value : Json) : Prop :=
  ∀ members ∈ value.objects, ∀ member ∈ members, ¬ TagsAgree member.1 language

variable {members : Dictionary Json} {member : String × Json}

theorem find?_eq_some_iff_least (ordered : Dictionary.Ordered members) :
    members.find? (fun member => languageMatches member.1 language) = some member ↔
      Least language members member := by
  rw [List.find?_eq_some_iff_append]
  simp only [languageMatches_iff, Bool.not_eq_true', ← Bool.not_eq_true]
  constructor
  · rintro ⟨agrees, before, behind, rfl, passed⟩
    refine ⟨List.mem_append_right before List.mem_cons_self, agrees, ?_⟩
    intro other among alsoAgrees
    rcases List.mem_append.mp among with earlier | later
    · exact absurd alsoAgrees (passed other earlier)
    · rcases List.mem_cons.mp later with rfl | later
      · exact .inl rfl
      · have ascends := List.pairwise_append.mp ordered
        exact .inr ((List.pairwise_cons.mp ascends.2.1).1 other later)
  · rintro ⟨mem, agrees, least⟩
    obtain ⟨before, behind, rfl⟩ := List.append_of_mem mem
    refine ⟨agrees, before, behind, rfl, ?_⟩
    intro earlier among alsoAgrees
    have ascends : earlier.1 < member.1 :=
      (List.pairwise_append.mp ordered).2.2 earlier among member List.mem_cons_self
    rcases least earlier (List.mem_append_left _ among) alsoAgrees with rfl | descends
    · exact String.lt_irrefl _ ascends
    · exact String.lt_irrefl _ (String.lt_trans ascends descends)

/-! ### Values -/

mutual
/-- What a value gives in a language, with the members it is taken from. An object gives its member for
the language; an array gives an array of what its elements give, those left out that have nothing, and
nothing if all are left out. -/
inductive Gives (language : String) : Json → List (String × Json) → Json → Prop where
  | member {members : Dictionary Json} {member : String × Json}
      (least : Least language members member) : Gives language (.object members) [member] member.2
  | array {items texts : List Json} {taken : List (String × Json)}
      (each : GivesAll language items taken texts) (nonempty : texts ≠ []) :
      Gives language (.array items) taken (.array texts)

inductive GivesAll (language : String) : List Json → List (String × Json) → List Json → Prop where
  | nil : GivesAll language [] [] []
  | cons {item text : Json} {items texts : List Json} {here there : List (String × Json)}
      (gives : Gives language item here text) (each : GivesAll language items there texts) :
      GivesAll language (item :: items) (here ++ there) (text :: texts)
  | leave {item : Json} {items texts : List Json} {taken : List (String × Json)}
      (silent : Silent language item) (each : GivesAll language items taken texts) :
      GivesAll language (item :: items) taken texts
end

/-- The members that objects have for a language, one after the other; objects that have none are left
out. -/
inductive Offers (language : String) : List (Dictionary Json) → List (String × Json) → Prop where
  | nil : Offers language [] []
  | cons {members : Dictionary Json} {member : String × Json} {objects : List (Dictionary Json)}
      {taken : List (String × Json)} (least : Least language members member)
      (later : Offers language objects taken) :
      Offers language (members :: objects) (member :: taken)
  | leave {members : Dictionary Json} {objects : List (Dictionary Json)}
      {taken : List (String × Json)}
      (silent : ∀ member ∈ members, ¬ TagsAgree member.1 language)
      (later : Offers language objects taken) : Offers language (members :: objects) taken

theorem Offers.append {objects others : List (Dictionary Json)} {here there : List (String × Json)}
    (offers : Offers language objects here) (further : Offers language others there) :
    Offers language (objects ++ others) (here ++ there) := by
  induction offers with
  | nil => exact further
  | cons least _ ih => exact .cons least ih
  | leave silent _ ih => exact .leave silent ih

theorem offers_nil {objects : List (Dictionary Json)}
    (silent : ∀ members ∈ objects, ∀ member ∈ members, ¬ TagsAgree member.1 language) :
    Offers language objects [] := by
  induction objects with
  | nil => exact .nil
  | cons members objects ih =>
    obtain ⟨here, there⟩ := List.forall_mem_cons.mp silent
    exact .leave here (ih there)

theorem Offers.agree {objects : List (Dictionary Json)} {taken : List (String × Json)}
    (offers : Offers language objects taken) : ∀ member ∈ taken, TagsAgree member.1 language := by
  induction offers with
  | nil => exact nofun
  | cons least _ ih => exact List.forall_mem_cons.mpr ⟨least.agrees, ih⟩
  | leave _ _ ih => exact ih

mutual
theorem Gives.offers {value found : Json} {taken : List (String × Json)} :
    Gives language value taken found → Offers language value.objects taken
  | .member least => .cons least .nil
  | .array each _ => each.offers

theorem GivesAll.offers {items texts : List Json} {taken : List (String × Json)} :
    GivesAll language items taken texts → Offers language (Json.objectsOfItems items) taken
  | .nil => .nil
  | .cons gives each => gives.offers.append each.offers
  | .leave silent each => (offers_nil silent).append each.offers
end

theorem localizedItems_eq_filterMap (items : List Json) :
    localizedItems language items = items.filterMap (localized? language) := by
  induction items with
  | nil => rfl
  | cons item items ih =>
    rw [localizedItems, List.filterMap_cons]
    cases localized? language item <;> simp only [ih]

theorem localized?_array (items : List Json) :
    localized? language (.array items) = Json.listed (items.filterMap (localized? language)) := by
  rw [localized?, localizedItems_eq_filterMap]
  cases items.filterMap (localized? language) <;> rfl

theorem localized?_eq_none_iff {value : Json} :
    localized? language value = none ↔ Silent language value := by
  induction value using Json.induct with
  | array items each =>
    rw [localized?_array, Json.listed_eq_none_iff, List.filterMap_eq_nil_iff]
    constructor
    · intro nothing members reached
      obtain ⟨item, among, reached⟩ := Json.mem_objectsOfItems.mp reached
      exact (each item among).mp (nothing item among) members reached
    · intro silent item among
      refine (each item among).mpr fun members reached => silent members ?_
      exact Json.mem_objectsOfItems.mpr ⟨item, among, reached⟩
  | object members =>
    simp only [localized?, Option.map_eq_none_iff, List.find?_eq_none, languageMatches_iff]
    simp only [Silent, Json.objects, List.forall_mem_singleton]
  | _ => exact ⟨fun _ => nofun, fun _ => rfl⟩

mutual
theorem Gives.localized?_eq {value found : Json} {taken : List (String × Json)}
    (ordered : value.Ordered) :
    Gives language value taken found → localized? language value = some found
  | .member least => by
    have least := (find?_eq_some_iff_least (Json.ordered_object_iff.mp ordered).1).mpr least
    rw [localized?, least, Option.map_some]
  | .array each nonempty => by
    rw [localized?_array, each.filterMap_eq (Json.ordered_array_iff.mp ordered)]
    exact Json.listed_eq_some_iff.mpr ⟨nonempty, rfl⟩

theorem GivesAll.filterMap_eq {items texts : List Json} {taken : List (String × Json)}
    (ordered : ∀ item ∈ items, item.Ordered) :
    GivesAll language items taken texts → items.filterMap (localized? language) = texts
  | .nil => rfl
  | .cons gives each => by
    obtain ⟨here, there⟩ := List.forall_mem_cons.mp ordered
    rw [List.filterMap_cons, gives.localized?_eq here, each.filterMap_eq there]
  | .leave silent each => by
    obtain ⟨-, there⟩ := List.forall_mem_cons.mp ordered
    rw [List.filterMap_cons, localized?_eq_none_iff.mpr silent, each.filterMap_eq there]
end

theorem exists_givesAll {items : List Json}
    (each : ∀ item ∈ items, ∀ text, localized? language item = some text →
      ∃ taken, Gives language item taken text) :
    ∃ taken, GivesAll language items taken (items.filterMap (localized? language)) := by
  induction items with
  | nil => exact ⟨[], .nil⟩
  | cons item items ih =>
    obtain ⟨here, there⟩ := List.forall_mem_cons.mp each
    obtain ⟨later, givesAll⟩ := ih there
    rw [List.filterMap_cons]
    cases given : localized? language item with
    | none => exact ⟨later, .leave (localized?_eq_none_iff.mp given) givesAll⟩
    | some text =>
      obtain ⟨taken, gives⟩ := here text given
      exact ⟨taken ++ later, .cons gives givesAll⟩

/-- Looking up a language finds what the value gives in it. -/
theorem localized?_eq_some_iff {value found : Json} (ordered : value.Ordered) :
    localized? language value = some found ↔ ∃ taken, Gives language value taken found := by
  constructor
  · intro given
    induction value using Json.induct generalizing found with
    | array items each =>
      rw [localized?_array] at given
      obtain ⟨nonempty, rfl⟩ := Json.listed_eq_some_iff.mp given
      have each item (among : item ∈ items) text (given : localized? language item = some text) :=
        each item among (Json.ordered_array_iff.mp ordered item among) given
      obtain ⟨taken, givesAll⟩ := exists_givesAll each
      exact ⟨taken, .array givesAll nonempty⟩
    | object members =>
      rw [localized?, Option.map_eq_some_iff] at given
      obtain ⟨member, least, rfl⟩ := given
      have inOrder := (Json.ordered_object_iff.mp ordered).1
      exact ⟨[member], .member ((find?_eq_some_iff_least inOrder).mp least)⟩
    | _ => contradiction
  · rintro ⟨taken, gives⟩
    exact gives.localized?_eq ordered

/-- Looking up a language finds something exactly if an object that the value holds has a member whose
name agrees with it. What is found is then what the value gives: one text for each such object, in the
order of the objects, that of the least name that agrees. Tags agree in both directions, and only with
the same primary subtag. -/
theorem lookup_keeps_to_language (language : String) (value : Json) (ordered : value.Ordered) :
    ((localized? language value).isSome = true ↔
      ∃ members ∈ value.objects, ∃ member ∈ members, TagsAgree member.1 language) ∧
    (∀ found, localized? language value = some found ↔ ∃ taken, Gives language value taken found) ∧
    (∀ taken found, Gives language value taken found → Offers language value.objects taken ∧
      ∀ member ∈ taken, TagsAgree member.1 language ∧
        primarySubtag member.1 = primarySubtag language) ∧
    (∀ tag other, TagsAgree tag other ↔ TagsAgree other tag) := by
  refine ⟨?_, fun found => localized?_eq_some_iff ordered, ?_, fun tag other => tagsAgree_comm⟩
  · rw [Option.isSome_iff_ne_none, ne_eq, localized?_eq_none_iff]
    simp only [Silent, Classical.not_forall, not_not, exists_prop]
  · intro taken found gives
    have offers := gives.offers
    exact ⟨offers, fun member among =>
      ⟨offers.agree member among, (offers.agree member among).primarySubtag_eq⟩⟩

/-- Names that begin as the language does without agreeing with it are passed over, and so are objects
and arrays that have nothing else. -/
theorem lookup_keeps_to_dutch :
    let value : Json := .array [.ofMembers [("n", .string "a"), ("nld", .string "b")],
      .array [.ofMembers [("en", .string "c"), ("NL", .string "d"), ("nl-BE", .string "e")]],
      .array [], .ofMembers [("nl-NL-x", .string "f")]]
    localized? "nl-NL" value = some (.array [.array [.string "d"], .string "f"]) ∧
    ∃ taken, Gives "nl-NL" value taken (.array [.array [.string "d"], .string "f"]) ∧
      Offers "nl-NL" value.objects taken ∧
      ∀ member ∈ taken, primarySubtag member.1 = "nl".toList := by
  intro value
  have ordered : value.Ordered := by
    simp [value, Json.ordered_array_iff, Json.ordered_ofMembers, Json.ordered_string]
  have found : localized? "nl-NL" value = some (.array [.array [.string "d"], .string "f"]) := rfl
  obtain ⟨-, exactly, kept, -⟩ := lookup_keeps_to_language "nl-NL" value ordered
  obtain ⟨taken, gives⟩ := (exactly _).mp found
  obtain ⟨offers, agree⟩ := kept taken _ gives
  exact ⟨found, taken, gives, offers, fun member among => (agree member among).2⟩

end Query
end Storefront
