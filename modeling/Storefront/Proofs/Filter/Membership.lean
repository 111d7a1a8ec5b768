import Storefront.Proofs.Predicate.Writing

/-!
Filters on values as memberships. A path whose names are field names of predicates, and which gets no
treatment of its own, asks with its values what a membership asks behind a descent into each name in
front of the last one: the path collects what it finds in arrays, the descents look for any element,
and both come to the same values unless an array is directly inside of another one.
-/
namespace Storefront.Filter

/-! ### Names between points -/

/-- Names with a point in front of each. -/
def behindPoints (names : List String) : List Char :=
  names.flatMap fun name => '.' :: name.toList

theorem toList_dotted (first : String) (more : List String) :
    (".".intercalate (first :: more)).toList = first.toList ++ behindPoints more := by
  rw [String.toList_intercalate, List.map_cons]
  exact (intercalate_cons '.' _ _).trans (congrArg _ (List.flatMap_map ..))

/-- A run of characters that a name is made of ends with the name, since a point comes next. -/
theorem takeWhile_name {p : Char → Bool} (stops : p '.' = false) {name : List Char}
    (inside : ∀ c ∈ name, p c = true) (more : List String) :
    (name ++ behindPoints more).takeWhile p = name := by
  have none : (behindPoints more).takeWhile p = [] := by
    cases more with
    | nil => rfl
    | cons next more => exact List.takeWhile_cons_of_neg (by simp [stops])
  rw [List.takeWhile_append_of_pos inside, none, List.append_nil]

theorem segments_behindPoints {names : List String}
    (inside : ∀ name ∈ names, name.toList ≠ [] ∧ ∀ c ∈ name.toList, Pattern.isSegmentRest c = true)
    (length : Nat) :
    Pattern.segments length (behindPoints names) = length + (behindPoints names).length := by
  induction names generalizing length with
  | nil =>
    rw [behindPoints, List.flatMap_nil, Pattern.segments]
    · rfl
    · intro rest same
      contradiction
  | cons name names ih =>
    rw [List.forall_mem_cons] at inside
    have run := takeWhile_name rfl inside.1.2 names
    have split : behindPoints (name :: names) = '.' :: (name.toList ++ behindPoints names) := rfl
    obtain ⟨n, count⟩ : ∃ n, name.toList.length = n + 1 :=
      Nat.exists_eq_succ_of_ne_zero (by simpa using inside.1.1)
    rw [split, Pattern.segments]
    split
    · rename_i none
      rw [run, count] at none
      contradiction
    · rename_i m some
      obtain rfl : m = n := by
        rw [run, count] at some
        omega
      rw [← count, List.drop_left, ih inside.2, List.length_cons, List.length_append]
      omega

/-! ### Paths of field names -/

/-- The words of filters that are names of fields in predicates. -/
def reserved : List String :=
  ["exists", "missing", "range", "TO"]

section Names
variable {first : String} {more : List String}
  (named : ∀ name ∈ first :: more, Predicate.IsFieldName name)

theorem isSegmentRest_of_isFieldName {name : String} (named : Predicate.IsFieldName name) :
    name.toList ≠ [] ∧ ∀ c ∈ name.toList, Pattern.isSegmentRest c = true := by
  obtain ⟨c, cs, spelt, starts, continues⟩ := named.parts
  have rest : ∀ c, Pattern.isNameRest c = true → Pattern.isSegmentRest c = true := by
    intro c inside
    simp [Pattern.isSegmentRest, inside]
  rw [spelt, List.forall_mem_cons]
  refine ⟨List.cons_ne_nil c cs, rest c (by simp [Pattern.isNameRest, starts]), fun c mem => ?_⟩
  exact rest c (List.all_eq_true.mp continues c mem)

include named

theorem path_dotted : Pattern.path (".".intercalate (first :: more)).toList =
    some (".".intercalate (first :: more)).toList.length := by
  rw [List.forall_mem_cons] at named
  obtain ⟨c, cs, spelt, starts, -⟩ := named.1.parts
  have inside := (isSegmentRest_of_isFieldName named.1).2
  rw [spelt, List.forall_mem_cons] at inside
  have run := takeWhile_name rfl inside.2 more
  have further (length : Nat) :
      Pattern.segments length (behindPoints more) = length + (behindPoints more).length := by
    apply segments_behindPoints
    intro name mem
    exact isSegmentRest_of_isFieldName (named.2 name mem)
  rw [toList_dotted, spelt, List.cons_append, Pattern.path, if_pos starts]
  simp only [run]
  have dropped : (c :: (cs ++ behindPoints more)).drop (1 + cs.length) = behindPoints more := by
    rw [Nat.add_comm, List.drop_succ_cons, List.drop_left]
  rw [dropped, further, List.length_cons, List.length_append]
  congr 1
  omega

/-- Field names with points between them are a path of filters, unless the first one is reserved. -/
theorem isFieldPath_dotted (unreserved : first ∉ reserved) :
    IsFieldPath (".".intercalate (first :: more)) := by
  refine ⟨path_dotted named, ?_⟩
  rw [List.forall_mem_cons] at named
  have leading : leadingWord (".".intercalate (first :: more)) = first.toList := by
    rw [leadingWord_eq, toList_dotted]
    exact takeWhile_name rfl named.1.isWord more
  rw [leading]
  have other : ∀ word ∈ reserved ++ ["true", "false"], first ≠ word := by
    rintro word mem rfl
    rcases List.mem_append.mp mem with mem | mem
    · exact unreserved mem
    · simp [named.1.notTruth] at mem
  intro word mem same
  have listed : word.2 ∈ reserved ++ ["true", "false"] := by
    have all : ∀ word ∈ words, word.2 ∈ reserved ++ ["true", "false"] := by decide
    exact all word mem
  exact other word.2 listed (String.toList_injective same)

theorem pathNames_dotted : Json.pathNames (".".intercalate (first :: more)).toList = first :: more := by
  refine Json.pathNames_intercalate (List.cons_ne_nil first more) fun name mem point => ?_
  have word := (named name mem).isWord '.' point
  contradiction

end Names

/-! ### What a path asks of a document -/

/-- A path that is of no variant, names no attribute and stands for no amount. -/
structure IsPlain (path : String) : Prop where
  noVariant : ¬ "variants.".toList <+: path.toList
  noAttribute : ¬ "attributes.".toList <+: path.toList
  noAmount : path ∉
    ["price.centAmount", "prices.currentCentAmount", "scopedPrice.value.centAmount"]

theorem after?_eq_none {beginning : String} {text : List Char}
    (other : ¬ beginning.toList <+: text) : Text.after? beginning text = none := by
  rw [Text.after?, if_neg]
  rwa [List.isPrefixOf_iff_prefix]

section Plain
variable {path : String} (plain : IsPlain path)
include plain

theorem resolveField?_of_isPlain (doc : Json) :
    Variant.resolveField? doc path.toList = doc.resolve? (Json.pathNames path.toList) := by
  have other : ∀ amount ∈
      ["price.centAmount", "prices.currentCentAmount", "scopedPrice.value.centAmount"],
      path.toList ≠ amount.toList := by
    intro amount mem same
    rw [String.toList_injective same] at plain
    exact plain.noAmount mem
  simp only [List.forall_mem_cons] at other
  rw [Variant.resolveField?, after?_eq_none plain.noAttribute]
  simp only [other, false_and, or_self, if_false]

/-- A plain path with values asks whether the path finds one of them. -/
theorem holds_values_of_isPlain (allowed : List Json) (doc : Json) :
    holds ⟨path, .values allowed⟩ doc = .ok ((Json.finds (doc.resolve?
      (Json.pathNames path.toList))).any (Predicate.equalsAny allowed)) := by
  have everywhere : variantPath? ⟨path, .values allowed⟩ = none := after?_eq_none plain.noVariant
  rw [holds, everywhere]
  simp only [test, resolveField?_of_isPlain plain]
  cases doc.resolve? (Json.pathNames path.toList) <;> rfl

end Plain

/-- A filter with values on a plain path of field names, and a membership in the same values behind
descents along these names, hold of the same documents in which no array is directly inside of another
one: of those in which descending leads to one of the values. Neither of them fails. -/
theorem agrees_with_membership {first : String} {more : List String} {items : List Scalar}
    (named : ∀ name ∈ first :: more, Predicate.IsFieldName name) (unreserved : first ∉ reserved)
    (plain : IsPlain (".".intercalate (first :: more))) (nonempty : items ≠ [])
    {filterText predicateText : String}
    (filterLaid : LaidOut (written (".".intercalate (first :: more)) (.values items))
      filterText.toList)
    (predicateLaid : LaidOut (Predicate.written items first more) predicateText.toList) :
    ∃ filter predicate, compile filterText = .ok filter ∧
      Predicate.compile predicateText = .ok predicate ∧
      ∀ (vars : Variables) (doc : Json), doc.isObject = true → doc.Flat → ∃ truth,
        filter.holds doc = .ok truth ∧ predicate.matchesWith vars doc = .ok truth ∧
        truth = doc.leadsTo (Predicate.equalsAny (items.map Scalar.value)) first more := by
  have isPath := isFieldPath_dotted named unreserved
  obtain ⟨tokens, cut, same⟩ := (cut_written isPath filterLaid).tokensFrom 0
  have some : (Items.values items).isEmpty = false := by simpa [Items.isEmpty] using nonempty
  obtain ⟨derives, once⟩ := derives_written some same
  obtain ⟨predicate, compiled, asks⟩ := Predicate.compile_written nonempty named predicateLaid
  refine ⟨_, predicate, compile_eq_ok_iff.2 ⟨_, cut, derives, once⟩, compiled, ?_⟩
  intro vars doc object flat
  have single : ∀ items, doc ≠ .array items := by
    rintro items rfl
    contradiction
  refine ⟨_, ?_, asks vars doc, rfl⟩
  rw [Items.condition, holds_values_of_isPlain plain, pathNames_dotted named,
    Json.any_finds_resolve? flat single]

/-- An array on the way, and a string, a negative integer and a truth value as values. -/
theorem agrees_with_membership_in_objects :
    let items : List Scalar :=
      [.literal (.text .single "x"), .literal (.integer (-5) (by decide)), .bool true]
    let filterText := " a.b : 'x' , -5 , true"
    let predicateText := " a ( b in ( 'x' , -5 , true ) )"
    let doc : Json :=
      .object [("a", .array [.object [("b", .string "y")], .object [("b", .ofInt (-5))]])]
    (∀ name ∈ ["a", "b"], Predicate.IsFieldName name) ∧ "a" ∉ reserved ∧ IsPlain "a.b" ∧
      LaidOut (written "a.b" (.values items)) filterText.toList ∧
      LaidOut (Predicate.written items "a" ["b"]) predicateText.toList ∧
      doc.isObject = true ∧ doc.Flat ∧
      ∃ filter predicate, compile filterText = .ok filter ∧
        Predicate.compile predicateText = .ok predicate ∧
        filter.holds doc = .ok true ∧ predicate.matchesWith [] doc = .ok true := by
  intro items filterText predicateText doc
  have named : ∀ name ∈ ["a", "b"], Predicate.IsFieldName name := by
    have a : Predicate.IsFieldName "a" := ⟨⟨'a', [], rfl, by decide, by decide⟩, by decide, by decide⟩
    have b : Predicate.IsFieldName "b" := ⟨⟨'b', [], rfl, by decide, by decide⟩, by decide, by decide⟩
    simp [a, b]
  have unreserved : "a" ∉ reserved := by decide
  have plain : IsPlain "a.b" := ⟨by decide, by decide, by decide⟩
  have filterLaid : LaidOut (written "a.b" (.values items)) filterText.toList := by
    have spelt : filterText.toList = spaced (written "a.b" (.values items)) := by decide
    rw [spelt]
    exact laidOut_spaced _
  have predicateLaid : LaidOut (Predicate.written items "a" ["b"]) predicateText.toList := by
    have spelt : predicateText.toList = spaced (Predicate.written items "a" ["b"]) := by decide
    rw [spelt]
    exact laidOut_spaced _
  have flat : doc.Flat := by
    simp [doc, Json.flat_object_iff, Json.flat_array_iff, Json.flat_of_string, Json.flat_ofInt]
  obtain ⟨filter, predicate, compiled, compiled', agree⟩ :=
    agrees_with_membership named unreserved plain (List.cons_ne_nil _ _) filterLaid predicateLaid
  obtain ⟨truth, filters, matchesToo, decided⟩ := agree [] doc rfl flat
  have found : truth = true := decided.trans (by decide +kernel)
  rw [found] at filters matchesToo
  exact ⟨named, unreserved, plain, filterLaid, predicateLaid, rfl, flat, filter, predicate, compiled,
    compiled', filters, matchesToo⟩

/-- A membership of a field whose name is a word of filters compiles and holds; the filter on that
name does not compile. -/
theorem reserved_name_refused :
    let items : List Scalar := [.literal (.integer 1 (by decide))]
    let doc : Json := .object [("range", .ofInt 1)]
    Predicate.IsFieldName "range" ∧ IsPlain "range" ∧
      LaidOut (written "range" (.values items)) "range:1".toList ∧
      LaidOut (Predicate.written items "range" []) "range in (1)".toList ∧
      doc.isObject = true ∧ doc.Flat ∧
      compile "range:1" = .error (.badText (.expected "LParen") ":") ∧
      ∃ predicate, Predicate.compile "range in (1)" = .ok predicate ∧
        predicate.matchesWith [] doc = .ok true := by
  intro items doc
  have named : Predicate.IsFieldName "range" :=
    ⟨⟨'r', "ange".toList, rfl, by decide, by decide⟩, by decide, by decide⟩
  have noGap : [].all Text.isBlank = true := rfl
  have oneBlank : [' '].all Text.isBlank = true := rfl
  have filterLaid : LaidOut (written "range" (.values items)) "range:1".toList :=
    .cons noGap (fun _ => by decide) (.cons noGap (fun word => absurd word (by decide))
      (.cons noGap (fun _ => by decide) (.nil noGap)))
  have inside : LaidOut (Predicate.valueList items) " (1)".toList :=
    .cons oneBlank (fun word => absurd word (by decide)) (.cons noGap (fun _ => by decide)
      (.cons noGap (fun _ => by decide) (.nil noGap)))
  have predicateLaid : LaidOut (Predicate.written items "range" []) "range in (1)".toList :=
    .cons noGap (fun _ => by decide) (.cons oneBlank (fun _ => by decide) inside)
  have flat : doc.Flat := by
    simp [doc, Json.flat_object_iff, Json.flat_ofInt]
  have refused : compile "range:1" = .error (.badText (.expected "LParen") ":") := by
    with_unfolding_all rfl
  obtain ⟨predicate, compiled, asks⟩ := Predicate.compile_written (List.cons_ne_nil _ _)
    (List.forall_mem_singleton.mpr named) predicateLaid
  have found : Json.leadsTo (Predicate.equalsAny [.ofInt 1]) "range" []
      (.object [("range", .ofInt 1)]) = true := by decide +kernel
  exact ⟨named, ⟨by decide, by decide, by decide⟩, filterLaid, predicateLaid, rfl, flat, refused,
    predicate, compiled, (asks [] doc).trans (congrArg Except.ok found)⟩

end Storefront.Filter
