import Storefront.Proofs.Dictionary
import Storefront.Proofs.Query.Structure
import Storefront.Query.Wire

/-! The JSON form of queries. What a node has to look like to be read is said apart from the readers;
they accept nothing else, and they read back what is written of a query, so long as no operand that may
be left out is null. -/
namespace Storefront.Query

/-! ### Nodes -/

/-- What is asked of a member of a node. -/
inductive Demand where
  | text
  | textOrNothing
  | listOrNothing
  | flag

/-- A null is as good as nothing, but not in the place of a flag. -/
def Demand.Met : Demand → Option Json → Prop
  | text, member => ∃ value : String, member = some (.string value)
  | textOrNothing, member =>
    member = none ∨ member = some .null ∨ ∃ value : String, member = some (.string value)
  | listOrNothing, member =>
    member = none ∨ member = some .null ∨ ∃ items : List Json, member = some (.array items)
  | flag, member => member = none ∨ ∃ value : Bool, member = some (.bool value)

/-- Every member that something is asked of is what is asked. -/
def AllMet (asked : List (String × Demand)) (members : Dictionary Json) : Prop :=
  ∀ demand ∈ asked, demand.2.Met (Dictionary.get? members demand.1)

def targetDemands : List (String × Demand) :=
  [("field", .text), ("language", .textOrNothing), ("fieldType", .textOrNothing)]

def textDemands : List (String × Demand) :=
  targetDemands ++ [("value", .text), ("caseInsensitive", .flag)]

def exactDemands : List (String × Demand) :=
  targetDemands ++ [("values", .listOrNothing), ("caseInsensitive", .flag)]

/-- The kinds of conditions, and what each of them asks of its members. The bounds of a range and the
value of an exact condition may be of any type. -/
def demands : List (String × List (String × Demand)) :=
  [("range", targetDemands), ("exact", exactDemands), ("exists", targetDemands),
    ("fullText", textDemands), ("fullTextPrefix", textDemands), ("prefix", textDemands),
    ("wildcard", textDemands)]

def connectives : List String := ["and", "or", "filter", "not"]

/-- A node is an object with one member, which says its kind. -/
inductive WellFormed : Json → Prop where
  | connective (known : kind ∈ connectives) (each : ∀ item ∈ items, WellFormed item) :
      WellFormed (.object [(kind, .array items)])
  | negation : WellFormed operand → WellFormed (.object [("not", operand)])
  | condition (known : (kind, asked) ∈ demands) (met : AllMet asked members) :
      WellFormed (.object [(kind, .object members)])
  /-- A target may also be given by a list of its members, from which the last ones may be missing. -/
  | positional (short : items.length ≤ targetDemands.length)
      (met : ∀ (index : Nat) (demand : String × Demand), targetDemands[index]? = some demand →
        demand.2.Met items[index]?) :
      WellFormed (.object [("exists", .array items)])

/-! ### Members -/

variable {members : Dictionary Json} {items : List Json} {kind name : String} {json : Json}
  {query : Query}

theorem allMet_append {first second : List (String × Demand)} :
    AllMet (first ++ second) members ↔ AllMet first members ∧ AllMet second members :=
  List.forall_mem_append

theorem requiredString?_met :
    (∃ value, requiredString? members name = some value) ↔
      Demand.text.Met (Dictionary.get? members name) := by
  rw [requiredString?]
  rcases Dictionary.get? members name with _ | _ | _ | _ | _ | _ | _ <;> simp [Demand.Met, Json.string?]

theorem optionalString?_met :
    (∃ value, optionalString? members name = some value) ↔
      Demand.textOrNothing.Met (Dictionary.get? members name) := by
  rw [optionalString?]
  rcases Dictionary.get? members name with _ | _ | _ | _ | _ | _ | _ <;> simp [Demand.Met]

theorem optionalList?_met :
    (∃ value, optionalList? members name = some value) ↔
      Demand.listOrNothing.Met (Dictionary.get? members name) := by
  rw [optionalList?]
  rcases Dictionary.get? members name with _ | _ | _ | _ | _ | _ | _ <;> simp [Demand.Met]

theorem flag?_met :
    (∃ value, flag? members name = some value) ↔
      Demand.flag.Met (Dictionary.get? members name) := by
  rw [flag?]
  rcases Dictionary.get? members name with _ | _ | _ | _ | _ | _ | _ <;> simp [Demand.Met]

theorem exists_bind_eq_some_iff {first : Option α} {next : α → Option β} :
    (∃ result, (first >>= next) = some result) ↔
      ∃ value, first = some value ∧ ∃ result, next value = some result := by
  cases first <;> simp

theorem target?_met :
    (∃ target, target? members = some target) ↔ AllMet targetDemands members := by
  simp only [AllMet, targetDemands, List.forall_mem_cons, ← requiredString?_met, ← optionalString?_met]
  simp only [target?, exists_bind_eq_some_iff]
  simp

theorem textQuery?_met (mode : TextMode) :
    (∃ query, textQuery? mode members = some query) ↔ AllMet textDemands members := by
  rw [textDemands, allMet_append, ← target?_met]
  simp only [AllMet, List.forall_mem_cons, ← requiredString?_met, ← flag?_met]
  simp only [textQuery?, exists_bind_eq_some_iff]
  simp

theorem exactQuery?_met :
    (∃ query, exactQuery? members = some query) ↔ AllMet exactDemands members := by
  rw [exactDemands, allMet_append, ← target?_met]
  simp only [AllMet, List.forall_mem_cons, ← optionalList?_met, ← flag?_met]
  simp only [exactQuery?, exists_bind_eq_some_iff]
  simp

theorem presentQuery?_met :
    (∃ query, presentQuery? members = some query) ↔ AllMet targetDemands members := by
  rw [← target?_met]
  simp only [presentQuery?, exists_bind_eq_some_iff]
  simp

theorem rangeQuery?_met :
    (∃ query, rangeQuery? members = some query) ↔ AllMet targetDemands members := by
  rw [← target?_met]
  simp only [rangeQuery?, exists_bind_eq_some_iff]
  simp

/-- A condition is read exactly if its kind is known and its members are what that kind asks. -/
theorem condition?_met :
    (∃ query, condition? kind members = some query) ↔
      ∃ asked, (kind, asked) ∈ demands ∧ AllMet asked members := by
  unfold condition?
  split
  · simp [demands, rangeQuery?_met]
  · simp [demands, exactQuery?_met]
  · simp [demands, presentQuery?_met]
  · simp [demands, textQuery?_met]
  · simp [demands, textQuery?_met]
  · simp [demands, textQuery?_met]
  · simp [demands, textQuery?_met]
  · constructor
    · rintro ⟨query, read⟩
      cases read
    · rintro ⟨asked, known, -⟩
      simp only [demands, List.mem_cons, List.not_mem_nil, or_false, Prod.mk.injEq] at known
      rcases known with ⟨same, -⟩ | ⟨same, -⟩ | ⟨same, -⟩ | ⟨same, -⟩ | ⟨same, -⟩ | ⟨same, -⟩ |
        ⟨same, -⟩
      all_goals contradiction

/-- The members of a target that is given by a list. -/
theorem get?_positional (items : List Json) {index : Nat} {demand : String × Demand}
    (asked : targetDemands[index]? = some demand) :
    Dictionary.get? (Dictionary.ofList (Target.names.zip items)) demand.1 = items[index]? := by
  rw [Dictionary.get?_ofList]
  rcases index with _ | _ | _ | index <;> cases asked
  all_goals
    rcases items with _ | ⟨field, _ | ⟨language, _ | ⟨fieldType, rest⟩⟩⟩ <;>
      simp [Target.names, Dictionary.get?]

theorem allMet_positional (items : List Json) :
    AllMet targetDemands (Dictionary.ofList (Target.names.zip items)) ↔
      ∀ (index : Nat) (demand : String × Demand), targetDemands[index]? = some demand →
        demand.2.Met items[index]? := by
  constructor
  · intro each index demand asked
    rw [← get?_positional items asked]
    exact each demand (List.mem_of_getElem? asked)
  · intro each demand member
    obtain ⟨index, asked⟩ := List.mem_iff_getElem?.mp member
    rw [get?_positional items asked]
    exact each index demand asked

theorem listedCondition?_met :
    (∃ query, listedCondition? kind items = some query) ↔
      kind = "exists" ∧ items.length ≤ targetDemands.length ∧
        ∀ (index : Nat) (demand : String × Demand), targetDemands[index]? = some demand →
          demand.2.Met items[index]? := by
  have sameLength : Target.names.length = targetDemands.length := rfl
  rw [listedCondition?, sameLength, ← allMet_positional]
  split
  · rename_i short
    rw [presentQuery?_met]
    exact ⟨fun met => ⟨short.1, short.2, met⟩, fun all => all.2.2⟩
  · rename_i long
    constructor
    · rintro ⟨query, read⟩
      cases read
    · rintro ⟨known, short, -⟩
      exact absurd ⟨known, short⟩ long

/-! ### Accepted nodes -/

theorem ofSingle?_eq (members : List (String × Json)) : ofSingle? members = ofJson? (.object members) := by
  rcases members with _ | ⟨⟨kind, operand⟩, _ | ⟨second, rest⟩⟩ <;> simp [ofSingle?, ofJson?]

/-- The ways in which a query is read from a node. -/
inductive Spells : Json → Query → Prop where
  | and {items : List Json} {children : List Query} (read : ofItems? items = some children) :
      Spells (.object [("and", .array items)]) (.and children)
  | or {items : List Json} {children : List Query} (read : ofItems? items = some children) :
      Spells (.object [("or", .array items)]) (.or children)
  | filter {items : List Json} {children : List Query} (read : ofItems? items = some children) :
      Spells (.object [("filter", .array items)]) (.filter children)
  | nor {items : List Json} {children : List Query} (read : ofItems? items = some children) :
      Spells (.object [("not", .array items)]) (.nor children)
  | not {operand : Json} {child : Query} (read : ofJson? operand = some child) :
      Spells (.object [("not", operand)]) (.not child)
  | condition {kind : String} {members : Dictionary Json} {query : Query}
      (read : condition? kind members = some query) : Spells (.object [(kind, .object members)]) query
  | positional {kind : String} {items : List Json} {query : Query}
      (read : listedCondition? kind items = some query) :
      Spells (.object [(kind, .array items)]) query

theorem spells_of_ofJson? (read : ofJson? json = some query) : Spells json query := by
  unfold ofJson? at read
  split at read
  · rename_i kind operand
    cases operand with
    | array items =>
      simp only [ofNode?] at read
      split at read
      · obtain ⟨children, there, rfl⟩ := Option.map_eq_some_iff.mp read
        exact .and there
      · obtain ⟨children, there, rfl⟩ := Option.map_eq_some_iff.mp read
        exact .or there
      · obtain ⟨children, there, rfl⟩ := Option.map_eq_some_iff.mp read
        exact .filter there
      · obtain ⟨children, there, rfl⟩ := Option.map_eq_some_iff.mp read
        exact .nor there
      · exact .positional read
    | object members =>
      simp only [ofNode?] at read
      split at read
      · obtain ⟨child, there, rfl⟩ := Option.map_eq_some_iff.mp read
        rw [ofSingle?_eq] at there
        exact .not there
      · exact .condition read
    | _ => cases read
  · cases read

theorem exists_ofItems? (each : ∀ item ∈ items, ∃ query, ofJson? item = some query) :
    ∃ children, ofItems? items = some children := by
  induction items with
  | nil => exact ⟨[], by rw [ofItems?]⟩
  | cons item items ih =>
    obtain ⟨⟨child, here⟩, later⟩ := List.forall_mem_cons.mp each
    obtain ⟨children, there⟩ := ih later
    exact ⟨child :: children, by simp [ofItems?, here, there]⟩

/-- Every item is read as one of the children, and every child is read from one of the items. -/
theorem mem_of_ofItems? {children : List Query} (read : ofItems? items = some children) :
    (∀ item ∈ items, ∃ child ∈ children, ofJson? item = some child) ∧
      ∀ child ∈ children, ∃ item ∈ items, ofJson? item = some child := by
  induction items generalizing children with
  | nil =>
    rw [ofItems?] at read
    cases read
    exact ⟨nofun, nofun⟩
  | cons item items ih =>
    simp only [ofItems?, Option.bind_eq_bind, Option.bind_eq_some_iff] at read
    obtain ⟨child, here, later, there, same⟩ := read
    cases same
    obtain ⟨forward, backward⟩ := ih there
    constructor
    · intro other member
      rcases List.mem_cons.mp member with rfl | member
      · exact ⟨child, List.mem_cons_self, here⟩
      · obtain ⟨found, among, reads⟩ := forward other member
        exact ⟨found, List.mem_cons_of_mem _ among, reads⟩
    · intro other member
      rcases List.mem_cons.mp member with rfl | member
      · exact ⟨item, List.mem_cons_self, here⟩
      · obtain ⟨found, among, reads⟩ := backward other member
        exact ⟨found, List.mem_cons_of_mem _ among, reads⟩

/-- What is asked of a node is enough for it to be read. -/
theorem WellFormed.exists_ofJson? (formed : WellFormed json) : ∃ query, ofJson? json = some query := by
  induction formed with
  | @connective kind items known each ih =>
    obtain ⟨children, read⟩ := exists_ofItems? ih
    simp only [connectives, List.mem_cons, List.not_mem_nil, or_false] at known
    rcases known with rfl | rfl | rfl | rfl <;> simp [ofJson?, ofNode?, read]
  | @negation operand formed ih =>
    obtain ⟨child, read⟩ := ih
    cases formed <;> exact ⟨.not child, by simpa [ofJson?, ofNode?, ofSingle?] using read⟩
  | @condition kind asked members known met =>
    obtain ⟨query, read⟩ := condition?_met.mpr ⟨asked, known, met⟩
    refine ⟨query, ?_⟩
    have other : kind ≠ "not" := by
      rintro rfl
      cases read
    simp [ofJson?, ofNode?, read]
  | positional short met =>
    obtain ⟨query, read⟩ := listedCondition?_met.mpr ⟨rfl, short, met⟩
    exact ⟨query, by simp [ofJson?, ofNode?, read]⟩

/-! ### Operands that may be left out -/

/-- The JSON operands of a condition that may be left out. -/
def optionalOperands : Query → List (Option Json)
  | range _ bounds => [bounds.atLeast, bounds.above, bounds.atMost, bounds.below]
  | exact _ value _ _ => [value]
  | _ => []

/-- No operand that may be left out is null, in the query or in any query inside of it. -/
def NullFree (query : Query) : Prop :=
  ∀ inner, Within inner query → some .null ∉ inner.optionalOperands

theorem nullFree_iff : query.NullFree ↔
    some .null ∉ query.optionalOperands ∧ ∀ child ∈ query.children, child.NullFree := by
  constructor
  · intro free
    exact ⟨free query .self, fun child member inner within => free inner (.child member within)⟩
  · rintro ⟨here, below⟩ inner within
    cases within with
    | self => exact here
    | child member within => exact below _ member inner within

theorem optionalValue_ne_null (members : Dictionary Json) (name : String) :
    optionalValue members name ≠ some .null := by
  intro same
  obtain ⟨-, given⟩ := Option.filter_eq_some_iff.mp same
  cases given

/-- What is read from the members of a node is a condition, and a null operand is not kept. -/
theorem plain_of_condition? (read : condition? kind members = some query) :
    query.children = [] ∧ some .null ∉ query.optionalOperands := by
  unfold condition? at read
  split at read
  all_goals
    simp only [rangeQuery?, exactQuery?, presentQuery?, textQuery?, Option.bind_eq_bind,
      Option.bind_eq_some_iff, Option.some.injEq, reduceCtorEq] at read
  · obtain ⟨target, -, rfl⟩ := read
    simp [children, optionalOperands, bounds, Ne.symm (optionalValue_ne_null members _)]
  · obtain ⟨target, -, values, -, ignoreCase, -, rfl⟩ := read
    simp [children, optionalOperands, Ne.symm (optionalValue_ne_null members _)]
  · obtain ⟨target, -, rfl⟩ := read
    simp [children, optionalOperands]
  all_goals
    obtain ⟨target, -, value, -, ignoreCase, -, rfl⟩ := read
    simp [children, optionalOperands]

theorem plain_of_listedCondition? (read : listedCondition? kind items = some query) :
    query.children = [] ∧ some .null ∉ query.optionalOperands := by
  rw [listedCondition?] at read
  split at read
  · have asMembers : condition? "exists" (Dictionary.ofList (Target.names.zip items)) = some query := read
    exact plain_of_condition? asMembers
  · cases read

/-- What is read was well-formed, and nothing in it is null that may be left out. -/
theorem formed_of_ofJson? (query : Query) :
    ∀ json, ofJson? json = some query → WellFormed json ∧ query.NullFree := by
  induction query using induct_children with
  | step query ih =>
    -- A list is well-formed because each of its items is read as one of the children.
    have listed {items : List Json} (read : ofItems? items = some query.children)
        (plain : some .null ∉ query.optionalOperands) :
        (∀ item ∈ items, WellFormed item) ∧ query.NullFree := by
      obtain ⟨forward, backward⟩ := mem_of_ofItems? read
      constructor
      · intro item member
        obtain ⟨child, among, here⟩ := forward item member
        exact (ih child among item here).1
      · refine nullFree_iff.mpr ⟨plain, fun child member => ?_⟩
        obtain ⟨item, -, here⟩ := backward child member
        exact (ih child member item here).2
    intro json read
    cases spells_of_ofJson? read with
    | and children | or children | filter children | nor children =>
      obtain ⟨formed, free⟩ := listed children List.not_mem_nil
      exact ⟨.connective (by decide) formed, free⟩
    | not child =>
      obtain ⟨formed, free⟩ := ih _ List.mem_cons_self _ child
      exact ⟨.negation formed, nullFree_iff.mpr ⟨List.not_mem_nil, List.forall_mem_singleton.mpr free⟩⟩
    | condition members =>
      obtain ⟨asked, known, met⟩ := condition?_met.mp ⟨_, members⟩
      obtain ⟨childless, plain⟩ := plain_of_condition? members
      exact ⟨.condition known met, nullFree_iff.mpr ⟨plain, childless ▸ nofun⟩⟩
    | positional items =>
      obtain ⟨rfl, short, met⟩ := listedCondition?_met.mp ⟨_, items⟩
      obtain ⟨childless, plain⟩ := plain_of_listedCondition? items
      exact ⟨.positional short met, nullFree_iff.mpr ⟨plain, childless ▸ nofun⟩⟩

/-! ### Written queries -/

section Written

variable {target : Target} {rest : List (String × Json)}

@[simp] theorem get?_optionalMember (name other : String) (value : Option Json) :
    Dictionary.get? (optionalMember name value) other = if name = other then value else none := by
  cases value <;> simp [optionalMember, Dictionary.get?]

@[simp] theorem reverse_optionalMember (name : String) (value : Option Json) :
    (optionalMember name value).reverse = optionalMember name value := by
  cases value <;> rfl

theorem optionalString?_of_get? {value : Option String}
    (found : Dictionary.get? members name = value.map .string) :
    optionalString? members name = some value := by
  rw [optionalString?, found]
  cases value <;> rfl

theorem optionalList?_of_get? {values : Option (List Json)}
    (found : Dictionary.get? members name = values.map .array) :
    optionalList? members name = some values := by
  rw [optionalList?, found]
  cases values <;> rfl

theorem optionalValue_of_get? {value : Option Json} (found : Dictionary.get? members name = value)
    (given : value ≠ some .null) : optionalValue members name = value := by
  rw [optionalValue, found]
  rcases value with _ | _ | _ | _ | _ | _ | _ <;> simp_all [Json.isNull]

/-- What is found among written members that are not those of the target. -/
theorem get?_written (foreign : name ∉ Target.names) :
    Dictionary.get? (Dictionary.ofList (target.members ++ rest)) name =
      Dictionary.get? rest.reverse name := by
  simp only [Target.names, List.mem_cons, List.not_mem_nil, or_false, not_or] at foreign
  obtain ⟨field, language, fieldType⟩ := foreign
  rw [Dictionary.get?_ofList, List.reverse_append, Dictionary.get?_append]
  simp [Target.members, Dictionary.get?_append, Dictionary.get?, Ne.symm field, Ne.symm language,
    Ne.symm fieldType]

/-- A target is read back from among other members. -/
theorem target?_written (clear : ∀ name ∈ Target.names, Dictionary.get? rest.reverse name = none) :
    target? (Dictionary.ofList (target.members ++ rest)) = some target := by
  have found (name : String) (own : name ∈ Target.names) :
      Dictionary.get? (Dictionary.ofList (target.members ++ rest)) name =
        Dictionary.get? target.members.reverse name := by
    rw [Dictionary.get?_ofList, List.reverse_append, Dictionary.get?_append, clear name own,
      Option.none_or]
  have field : requiredString? (Dictionary.ofList (target.members ++ rest)) "field" =
      some target.field := by
    rw [requiredString?, found _ (by decide)]
    simp [Target.members, Dictionary.get?_append, Dictionary.get?, Json.string?]
  have language : optionalString? (Dictionary.ofList (target.members ++ rest)) "language" =
      some target.language := by
    apply optionalString?_of_get?
    rw [found _ (by decide)]
    simp [Target.members, Dictionary.get?_append, Dictionary.get?]
  have fieldType : optionalString? (Dictionary.ofList (target.members ++ rest)) "fieldType" =
      some target.fieldType := by
    apply optionalString?_of_get?
    rw [found _ (by decide)]
    simp [Target.members, Dictionary.get?_append, Dictionary.get?]
  simp [target?, field, language, fieldType]

theorem rangeQuery?_written {bounds : Bounds}
    (free : some .null ∉ (Query.range target bounds).optionalOperands) :
    rangeQuery? (Dictionary.ofList (target.members ++ bounds.members)) =
      some (.range target bounds) := by
  simp only [optionalOperands, List.mem_cons, List.not_mem_nil, or_false, not_or] at free
  obtain ⟨atLeast, above, atMost, below⟩ := free
  have clear : ∀ name ∈ Target.names, Dictionary.get? bounds.members.reverse name = none := by
    simp [Target.names, Bounds.members, Dictionary.get?_append]
  have bounded : Query.bounds (Dictionary.ofList (target.members ++ bounds.members)) = bounds := by
    obtain ⟨gte, gt, lte, lt⟩ := bounds
    rw [Query.bounds, Bounds.mk.injEq]
    refine ⟨optionalValue_of_get? ?_ (Ne.symm atLeast), optionalValue_of_get? ?_ (Ne.symm above),
      optionalValue_of_get? ?_ (Ne.symm atMost), optionalValue_of_get? ?_ (Ne.symm below)⟩
    all_goals
      rw [get?_written (by decide)]
      simp [Bounds.members, Dictionary.get?_append]
  simp [rangeQuery?, target?_written clear, bounded]

theorem exactQuery?_written {value : Option Json} {values : Option (List Json)} {ignoreCase : Bool}
    (free : some .null ∉ (Query.exact target value values ignoreCase).optionalOperands) :
    exactQuery? (Dictionary.ofList (target.members ++ optionalMember "value" value ++
      optionalMember "values" (values.map .array) ++ [("caseInsensitive", .bool ignoreCase)])) =
      some (.exact target value values ignoreCase) := by
  simp only [optionalOperands, List.mem_singleton] at free
  let rest := optionalMember "value" value ++ (optionalMember "values" (values.map .array) ++
    [("caseInsensitive", .bool ignoreCase)])
  have clear : ∀ name ∈ Target.names, Dictionary.get? rest.reverse name = none := by
    simp [rest, Target.names, Dictionary.get?_append, Dictionary.get?]
  have single : optionalValue (Dictionary.ofList (target.members ++ rest)) "value" = value := by
    apply optionalValue_of_get? ?_ (Ne.symm free)
    rw [get?_written (by decide)]
    simp [rest, Dictionary.get?_append, Dictionary.get?]
  have several : optionalList? (Dictionary.ofList (target.members ++ rest)) "values" =
      some values := by
    apply optionalList?_of_get?
    rw [get?_written (by decide)]
    simp [rest, Dictionary.get?_append, Dictionary.get?]
  have folds : flag? (Dictionary.ofList (target.members ++ rest)) "caseInsensitive" =
      some ignoreCase := by
    rw [flag?, get?_written (by decide)]
    simp [rest, Dictionary.get?]
  rw [List.append_assoc, List.append_assoc]
  simp only [exactQuery?, target?_written clear, several, folds, single, Option.bind_eq_bind,
    Option.bind_some, rest]

theorem textQuery?_written (mode : TextMode) (value : String) (ignoreCase : Bool) :
    textQuery? mode (Dictionary.ofList (target.members ++
      [("value", .string value), ("caseInsensitive", .bool ignoreCase)])) =
      some (.textual mode target value ignoreCase) := by
  let rest : List (String × Json) := [("value", .string value), ("caseInsensitive", .bool ignoreCase)]
  have clear : ∀ name ∈ Target.names, Dictionary.get? rest.reverse name = none := by
    simp [rest, Target.names, Dictionary.get?]
  have wanted : requiredString? (Dictionary.ofList (target.members ++ rest)) "value" = some value := by
    rw [requiredString?, get?_written (by decide)]
    simp [rest, Dictionary.get?, Json.string?]
  have folds : flag? (Dictionary.ofList (target.members ++ rest)) "caseInsensitive" =
      some ignoreCase := by
    rw [flag?, get?_written (by decide)]
    simp [rest, Dictionary.get?]
  change textQuery? mode (Dictionary.ofList (target.members ++ rest)) = _
  simp [textQuery?, target?_written clear, wanted, folds]

end Written

theorem ofItems?_toItems {children : List Query}
    (each : ∀ child ∈ children, ofJson? child.toJson = some child) :
    ofItems? (toItems children) = some children := by
  induction children with
  | nil => rw [toItems, ofItems?]
  | cons child children ih =>
    obtain ⟨here, later⟩ := List.forall_mem_cons.mp each
    simp [toItems, ofItems?, here, ih later]

theorem toJson_eq_object (query : Query) : ∃ members, query.toJson = .object members := by
  cases query <;> exact ⟨_, by rw [toJson]; rfl⟩

/-- A query without null is read back from what is written of it. -/
theorem ofJson?_toJson (query : Query) (free : query.NullFree) : ofJson? query.toJson = some query := by
  induction query using induct with
  | and children ih | or children ih | filter children ih | nor children ih =>
    have read := ofItems?_toItems fun child member => ih child member ((nullFree_iff.mp free).2 child member)
    simp [toJson, node, ofJson?, ofNode?, read]
  | not child ih =>
    have read := ih ((nullFree_iff.mp free).2 child List.mem_cons_self)
    -- The child is written as an object, so the operand is not taken for a list of children.
    obtain ⟨members, written⟩ := child.toJson_eq_object
    rw [toJson, node, ofJson?, written, ofNode?, ofSingle?_eq, ← written, read]
    rfl
  | condition query check condition =>
    have plain := (nullFree_iff.mp free).1
    cases query with
    | range target bounds =>
      simpa [toJson, node, Json.ofMembers, ofJson?, ofNode?, condition?] using rangeQuery?_written plain
    | exact target value values ignoreCase =>
      simpa [toJson, node, Json.ofMembers, ofJson?, ofNode?, condition?] using exactQuery?_written plain
    | present target =>
      have read : target? (Dictionary.ofList (target.members ++ [])) = some target :=
        target?_written fun _ _ => rfl
      rw [List.append_nil] at read
      simp [toJson, node, Json.ofMembers, ofJson?, ofNode?, condition?, presentQuery?, read]
    | textual mode target value ignoreCase =>
      have read := @textQuery?_written target mode value ignoreCase
      cases mode <;>
        simpa [toJson, node, Json.ofMembers, TextMode.kind, ofJson?, ofNode?, condition?] using read
    | _ => contradiction

theorem compile_eq_ok_iff : compile json = .ok query ↔ ofJson? json = some query := by
  rw [compile]
  cases ofJson? json <;> simp

theorem compile_eq_error_iff :
    compile json = .error error ↔ ofJson? json = none ∧ .badInput .malformedQuery = error := by
  rw [compile]
  cases ofJson? json <;> simp

/-- Exactly the well-formed nodes are read as queries, and all others are refused alike. What is
written of a query without null is read back, and so is what is written of a query that was read. -/
theorem wire_form_exact :
    (∀ query : Query, query.NullFree → compile query.toJson = .ok query) ∧
    (∀ json, (∃ query, compile json = .ok query) ↔ WellFormed json) ∧
    (∀ json error, compile json = .error error → error = .badInput .malformedQuery) ∧
    ∀ json query, compile json = .ok query → compile query.toJson = .ok query := by
  refine ⟨?_, ?_, ?_, ?_⟩
  · intro query free
    exact compile_eq_ok_iff.mpr (ofJson?_toJson query free)
  · intro json
    simp only [compile_eq_ok_iff]
    constructor
    · rintro ⟨query, read⟩
      exact (formed_of_ofJson? query json read).1
    · exact WellFormed.exists_ofJson?
  · intro json error failed
    exact (compile_eq_error_iff.mp failed).2.symm
  · intro json query read
    have free := (formed_of_ofJson? query json (compile_eq_ok_iff.mp read)).2
    exact compile_eq_ok_iff.mpr (ofJson?_toJson query free)

/-- A null bound and a member of another name leave no trace in the query that is read. -/
theorem wire_form_of_negation :
    let json := Json.object [("not", .array [.object [("range", .object
      [("boost", .ofNat 2), ("field", .string "n"), ("gte", .null), ("lt", .ofNat 5)])]])]
    let query : Query := .nor [.range ⟨"n", none, none⟩ { below := some (.ofNat 5) }]
    query.NullFree ∧ compile json = .ok query ∧ WellFormed json ∧ compile query.toJson = .ok query := by
  intro json query
  have bounded : some Json.null ∉ (Query.range ⟨"n", none, none⟩
      { below := some (.ofNat 5) }).optionalOperands := by
    simp [optionalOperands, Json.ofNat]
  have free : query.NullFree := nullFree_iff.mpr
    ⟨List.not_mem_nil, List.forall_mem_singleton.mpr (nullFree_iff.mpr ⟨bounded, nofun⟩)⟩
  have read : compile json = .ok query := rfl
  obtain ⟨back, accepted, -, -⟩ := wire_form_exact
  exact ⟨free, read, (accepted json).mp ⟨query, read⟩, back query free⟩

end Storefront.Query
