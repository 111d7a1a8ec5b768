import Storefront.Json.Reading
import Storefront.Service.Handlers

/-!
Bodies of requests with a fixed form.

A body is walked in the order of its text, and the first fault met decides: a place where the text
stops being JSON makes it unreadable, a value of the wrong type, a repeated member or a missing one
makes it mismatched. Members that a form does not know are passed over.
-/
namespace Storefront.Body

abbrev Read (α : Type) := Except BodyFault α

/-! ### Values -/

/-- The fault of a value of the wrong type where containers of some kinds are the right one. A
container of another kind is not looked into, but what is no container has to be readable to its
end, and a container of the right kind must not be nested too deeply. -/
def mismatch {α : Type} (accepted : List Container) : Reading → Read α
  | .unusable => .error .unreadable
  | .broken => .error .unreadable
  | .tooDeep container _ => .error (if container ∈ accepted then .unreadable else .mismatched)
  | _ => .error .mismatched

def json (reading : Reading) : Read Json :=
  match reading.toJson? with
  | some value => .ok value
  | none => .error .unreadable

def text : Reading → Read String
  | .string value => .ok value
  | other => mismatch [] other

def flag : Reading → Read Bool
  | .bool value => .ok value
  | other => mismatch [] other

def natural : Reading → Read Nat
  | .number value =>
    match value.toNatural? with
    | some n => .ok n
    | none => .error .mismatched
  | other => mismatch [] other

def optional {α : Type} (read : Reading → Read α) : Reading → Read (Option α)
  | .null => .ok none
  | other => (read other).map some

/-- A value that is passed over; all of it has to be JSON still. -/
def skip (reading : Reading) : Read Unit :=
  if reading.isWhole then .ok () else .error .unreadable

def close {α : Type} (closed : Bool) (value : α) : Read α :=
  if closed then .ok value else .error .unreadable

/-! ### Objects -/

def members {σ : Type} (step : σ → String → Reading → Read σ) (closed : Bool) :
    σ → List (Option String × Reading) → Read σ
  | state, [] => close closed state
  | _, (none, _) :: _ => .error .unreadable
  | state, (some name, reading) :: rest =>
    match step state name reading with
    | .error fault => .error fault
    | .ok state => members step closed state rest

/-- Takes in values one after the other as the members of some names; the last names may go without
a value, but no value without a name. -/
def positional {σ : Type} (step : σ → String → Reading → Read σ) (closed : Bool) :
    σ → List String → List Reading → Read σ
  | state, _, [] => close closed state
  | _, [], _ :: _ => .error .unreadable
  | state, name :: names, reading :: rest =>
    match step state name reading with
    | .error fault => .error fault
    | .ok state => positional step closed state names rest

/-- An object, by what its members do one after the other. -/
def object {σ : Type} (step : σ → String → Reading → Read σ) (start : σ) : Reading → Read σ
  | .object list closed => members step closed start list
  | other => mismatch [.object] other

/-- An object whose members have fixed names, or a list of their values in the order of the
names. -/
def record {σ : Type} (step : σ → String → Reading → Read σ) (start : σ) (names : List String) :
    Reading → Read σ
  | .object list closed => members step closed start list
  | .array items closed => positional step closed start names items
  | other => mismatch [.object, .array] other

def once {α : Type} (seen : Option α) (read : Reading → Read α) (reading : Reading) :
    Read (Option α) :=
  match seen with
  | some _ => .error .mismatched
  | none => (read reading).map some

/-- An object of any members; of two values under one name the later one stays. -/
def dictionary : Reading → Read (Dictionary Json) :=
  object (fun entries name reading => do .ok (Dictionary.insert entries name (← json reading))) []

/-! ### Updates -/

structure UpdateMembers where
  version : Option Nat := none
  fields : Option (Dictionary Json) := none

def updateMember (seen : UpdateMembers) (name : String) (reading : Reading) :
    Read UpdateMembers :=
  match name with
  | "version" => do .ok { seen with version := ← once seen.version natural reading }
  | "fields" => do .ok { seen with fields := ← once seen.fields dictionary reading }
  | _ => do skip reading; .ok seen

/-- An update; without fields it only raises the version. -/
def updateRequest (reading : Reading) : Read UpdateRequest := do
  let seen ← record updateMember {} ["version", "fields"] reading
  match seen.version with
  | some version => .ok ⟨version, seen.fields.getD []⟩
  | none => .error .mismatched

/-! ### Queries -/

/-- A list of any values, or null. -/
def listOrNull : Reading → Read Json
  | .null => .ok .null
  | .array items closed => json (.array items closed)
  | other => mismatch [.array] other

/-- How a condition reads a member of its own; the members that name the field of a condition are
such only where it has no others. -/
def conditionMember? (kind name : String) : Option (Reading → Read Json) :=
  let asText (reading : Reading) : Read Json := (text reading).map .string
  let asFlag (reading : Reading) : Read Json := (flag reading).map .bool
  match kind, name with
  | "range", "gte" => some json
  | "range", "gt" => some json
  | "range", "lte" => some json
  | "range", "lt" => some json
  | "exact", "value" => some json
  | "exact", "values" => some listOrNull
  | "exact", "caseInsensitive" => some asFlag
  | "exists", "field" => some asText
  | "exists", "language" => some fun reading => (optional asText reading).map (·.getD .null)
  | "exists", "fieldType" => some fun reading => (optional asText reading).map (·.getD .null)
  | "exists", _ => none
  | _, "value" => if kind = "range" then none else some asText
  | _, "caseInsensitive" => if kind = "range" then none else some asFlag
  | _, _ => none

/-- The members of a condition: its own, and the others, which are read as they are. -/
structure ConditionMembers where
  own : List (String × Json) := []
  others : List (String × Json) := []

def conditionMember (kind : String) (seen : ConditionMembers) (name : String)
    (reading : Reading) : Read ConditionMembers :=
  match conditionMember? kind name with
  | some read =>
    if seen.own.any (·.1 = name) then .error .mismatched
    else do .ok { seen with own := (name, ← read reading) :: seen.own }
  | none =>
    if kind = "exists" then do skip reading; .ok seen
    else do .ok { seen with others := (name, ← json reading) :: seen.others }

def isRepeated (entries : List (String × Json)) (name : String) : Bool :=
  1 < (entries.filter (·.1 = name)).length

/-- A condition of some kind from the members of its operand. -/
def condition (kind : String) (seen : ConditionMembers) : Read Query :=
  if ["field", "language", "fieldType"].any (isRepeated seen.others) then .error .mismatched
  else
    match Query.condition? kind (Dictionary.ofList (seen.others ++ seen.own)) with
    | some query => .ok query
    | none => .error .mismatched

def conditionKinds : List String :=
  ["range", "exact", "exists", "fullText", "fullTextPrefix", "prefix", "wildcard"]

def connectiveKinds : List String := ["and", "or", "filter"]

/-- The containers that the operand of a node of some kind may be. -/
def operandContainers (kind : String) : List Container :=
  if kind ∈ connectiveKinds then [.array]
  else if kind = "not" ∨ kind = "exists" then [.object, .array]
  else if kind ∈ conditionKinds then [.object]
  else []

def connect (kind : String) (children : List Query) : Query :=
  match kind with
  | "and" => .and children
  | "or" => .or children
  | _ => .filter children

/-- What is wrong with the operand of a negation does not matter as long as it is readable. -/
def negated (usable : Bool) (operand : Read Query) : Read Query :=
  if usable then
    match operand with
    | .ok query => .ok query
    | .error _ => .error .mismatched
  else .error .unreadable

mutual
/-- A query: an object with one member. -/
def query : Reading → Read Query
  | .object ((some kind, operand) :: rest) closed =>
    match queryOf kind operand with
    | .error fault => .error fault
    | .ok found => if rest.isEmpty && closed then .ok found else .error .unreadable
  | .string _ => .error .mismatched
  | _ => .error .unreadable

def queryOf (kind : String) : Reading → Read Query
  | .array items closed =>
    if kind ∈ connectiveKinds then
      match queries items with
      | .error fault => .error fault
      | .ok children => close closed (connect kind children)
    else if kind = "not" then
      negated (Reading.toJson? (.array items closed)).isSome ((queries items).map .nor)
    else if kind = "exists" then do
      condition kind (← positional (conditionMember kind) closed {} Query.Target.names items)
    else .error .mismatched
  | .object list closed =>
    if kind = "not" then
      negated (Reading.toJson? (.object list closed)).isSome ((single list).map .not)
    else if kind ∈ conditionKinds then do
      condition kind (← members (conditionMember kind) closed {} list)
    else .error .mismatched
  | other =>
    if kind ∈ connectiveKinds ∨ kind ∈ conditionKinds ∨ kind = "not" then
      mismatch (operandContainers kind) other
    else .error .mismatched

def single : List (Option String × Reading) → Read Query
  | [(some kind, operand)] => queryOf kind operand
  | _ => .error .mismatched

def queries : List Reading → Read (List Query)
  | [] => .ok []
  | item :: items =>
    match query item with
    | .error fault => .error fault
    | .ok child =>
      match queries items with
      | .error fault => .error fault
      | .ok children => .ok (child :: children)
end

/-! ### Searches -/

structure SearchMembers where
  query : Option (Option Query) := none
  markMatchingVariants : Option Bool := none
  staged : Option Bool := none
  offset : Option (Option Nat) := none
  limit : Option (Option Nat) := none

def searchMember (seen : SearchMembers) (name : String) (reading : Reading) :
    Read SearchMembers :=
  match name with
  | "query" => do .ok { seen with query := ← once seen.query (optional query) reading }
  | "markMatchingVariants" => do
    .ok { seen with markMatchingVariants := ← once seen.markMatchingVariants flag reading }
  | "staged" => do .ok { seen with staged := ← once seen.staged flag reading }
  | "offset" => do .ok { seen with offset := ← once seen.offset (optional natural) reading }
  | "limit" => do .ok { seen with limit := ← once seen.limit (optional natural) reading }
  | _ => do skip reading; .ok seen

/-- A product search, every member of which may be left out. -/
def productSearch (reading : Reading) : Read ProductSearchRequest := do
  let seen ← record searchMember {}
    ["query", "markMatchingVariants", "staged", "offset", "limit"] reading
  .ok { query := seen.query.getD none,
        markMatchingVariants := seen.markMatchingVariants.getD false,
        staged := seen.staged.getD false, offset := seen.offset.getD none,
        limit := seen.limit.getD none }

/-! ### Whole bodies -/

/-- A body of some form, which nothing but blanks may follow. -/
def ofText {α : Type} (read : Reading → Read α) (body : String) : Read α :=
  match Reading.ofText body.toList with
  | (reading, rest) => do
    let value ← read reading
    match rest with
    | none => .error .unreadable
    | some rest => if Reading.skipBlanks rest = [] then .ok value else .error .unreadable

end Storefront.Body
