import Storefront.Query.Basic

/-!
The JSON form of search queries. A node is an object with one member, whose name is the kind of the
node. Reading is strict about the kinds and the types of their operands and passes over members it
does not know; writing leaves out what is absent.
-/
namespace Storefront.Query

/-! ### Reading -/

def requiredString? (members : Dictionary Json) (name : String) : Option String :=
  (Dictionary.get? members name).bind (·.string?)

def optionalString? (members : Dictionary Json) (name : String) : Option (Option String) :=
  match Dictionary.get? members name with
  | none => some none
  | some .null => some none
  | some (.string value) => some (some value)
  | some _ => none

/-- A value of any type, where null is the same as nothing. -/
def optionalValue (members : Dictionary Json) (name : String) : Option Json :=
  (Dictionary.get? members name).filter (fun value => !value.isNull)

def optionalList? (members : Dictionary Json) (name : String) : Option (Option (List Json)) :=
  match Dictionary.get? members name with
  | none => some none
  | some .null => some none
  | some (.array items) => some (some items)
  | some _ => none

def flag? (members : Dictionary Json) (name : String) : Option Bool :=
  match Dictionary.get? members name with
  | none => some false
  | some (.bool value) => some value
  | some _ => none

/-- The names of the members that make up a target, in their order. -/
def Target.names : List String := ["field", "language", "fieldType"]

def target? (members : Dictionary Json) : Option Target := do
  let field ← requiredString? members "field"
  let language ← optionalString? members "language"
  let fieldType ← optionalString? members "fieldType"
  some ⟨field, language, fieldType⟩

def bounds (members : Dictionary Json) : Bounds :=
  ⟨optionalValue members "gte", optionalValue members "gt", optionalValue members "lte",
    optionalValue members "lt"⟩

def rangeQuery? (members : Dictionary Json) : Option Query := do
  let target ← target? members
  some (.range target (bounds members))

def exactQuery? (members : Dictionary Json) : Option Query := do
  let target ← target? members
  let values ← optionalList? members "values"
  let ignoreCase ← flag? members "caseInsensitive"
  some (.exact target (optionalValue members "value") values ignoreCase)

def presentQuery? (members : Dictionary Json) : Option Query := do
  let target ← target? members
  some (.present target)

def textQuery? (mode : TextMode) (members : Dictionary Json) : Option Query := do
  let target ← target? members
  let value ← requiredString? members "value"
  let ignoreCase ← flag? members "caseInsensitive"
  some (.textual mode target value ignoreCase)

def condition? (kind : String) (members : Dictionary Json) : Option Query :=
  match kind with
  | "range" => rangeQuery? members
  | "exact" => exactQuery? members
  | "exists" => presentQuery? members
  | "fullText" => textQuery? .fullText members
  | "fullTextPrefix" => textQuery? .fullTextPrefix members
  | "prefix" => textQuery? .beginning members
  | "wildcard" => textQuery? .wildcard members
  | _ => none

/-- The query of a node of some kind whose operand is a list of the values of its members. -/
def listedCondition? (kind : String) (items : List Json) : Option Query :=
  if kind = "exists" ∧ items.length ≤ Target.names.length then
    presentQuery? (Dictionary.ofList (Target.names.zip items))
  else none

mutual
def ofJson? : Json → Option Query
  | .object [(kind, operand)] => ofNode? kind operand
  | _ => none

def ofNode? (kind : String) : Json → Option Query
  | .array items =>
    match kind with
    | "and" => (ofItems? items).map .and
    | "or" => (ofItems? items).map .or
    | "filter" => (ofItems? items).map .filter
    | "not" => (ofItems? items).map .nor
    | _ => listedCondition? kind items
  | .object members =>
    match kind with
    | "not" => (ofSingle? members).map .not
    | _ => condition? kind members
  | _ => none

def ofSingle? : List (String × Json) → Option Query
  | [(kind, operand)] => ofNode? kind operand
  | _ => none

def ofItems? : List Json → Option (List Query)
  | [] => some []
  | item :: items => do
    let child ← ofJson? item
    let children ← ofItems? items
    some (child :: children)
end

/-- Reads a query, or says that it is none. -/
def compile (json : Json) : Except Error Query :=
  match ofJson? json with
  | some query => .ok query
  | none => .error (.badInput .malformedQuery)

/-! ### Writing -/

/-- A member that is left out when there is nothing to write. -/
def optionalMember (name : String) : Option Json → List (String × Json)
  | none => []
  | some value => [(name, value)]

def Target.members (target : Target) : List (String × Json) :=
  ("field", .string target.field) :: optionalMember "fieldType" (target.fieldType.map .string) ++
    optionalMember "language" (target.language.map .string)

def Bounds.members (bounds : Bounds) : List (String × Json) :=
  optionalMember "gte" bounds.atLeast ++ optionalMember "gt" bounds.above ++
    optionalMember "lte" bounds.atMost ++ optionalMember "lt" bounds.below

def TextMode.kind : TextMode → String
  | fullText => "fullText"
  | fullTextPrefix => "fullTextPrefix"
  | beginning => "prefix"
  | wildcard => "wildcard"

def node (kind : String) (operand : Json) : Json :=
  .object [(kind, operand)]

mutual
def toJson : Query → Json
  | and children => node "and" (.array (toItems children))
  | or children => node "or" (.array (toItems children))
  | filter children => node "filter" (.array (toItems children))
  | not child => node "not" (toJson child)
  | nor children => node "not" (.array (toItems children))
  | range target bounds => node "range" (.ofMembers (target.members ++ bounds.members))
  | exact target value values ignoreCase =>
    node "exact" (.ofMembers (target.members ++ optionalMember "value" value ++
      optionalMember "values" (values.map .array) ++ [("caseInsensitive", .bool ignoreCase)]))
  | present target => node "exists" (.ofMembers target.members)
  | textual mode target value ignoreCase =>
    node mode.kind (.ofMembers (target.members ++
      [("value", .string value), ("caseInsensitive", .bool ignoreCase)]))

def toItems : List Query → List Json
  | [] => []
  | child :: children => toJson child :: toItems children
end

end Storefront.Query
