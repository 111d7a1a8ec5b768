import Storefront.Decimal.Numeral
import Storefront.Document.Reference
import Storefront.Error
import Storefront.Text.Search

/-!
Expansion of references. A clause such as `lineItems[*].variant` names a way through a document;
every reference it reaches gets the document it refers to as its member `obj`, and the way goes on
in there. What is not there is passed over, as is a reference without a target unless references are
strict.
-/
namespace Storefront.Expansion

inductive Index where
  | all
  | at (position : Nat)
deriving DecidableEq, Repr

/-- A step to a member, or to elements of that member. -/
structure Step where
  element : String
  index : Option Index
deriving DecidableEq, Repr

/-- The steps of a clause, of which there is at least one. -/
abbrev Clause := List Step

/-! ### Reading clauses -/

/-- What stands between the brackets of a step, if it ends in one. -/
def bracketed? (cs : List Char) : Option (List Char) :=
  if cs.getLast? = some ']' then some cs.dropLast else none

def readIndex? (cs : List Char) : Option Index :=
  if cs = ['*'] then some .all
  else (Numeral.natural? Numeral.maxNatural cs).map .at

/-- A step as written: a name, and behind it an index in brackets or nothing. -/
def readStep? (cs : List Char) : Option Step :=
  match Text.splitOnce? '[' cs with
  | none => if cs = [] then none else some ⟨String.ofList cs, none⟩
  | some (element, rest) => do
    let inner ← bracketed? rest
    let index ← readIndex? inner
    if element = [] then none else some ⟨String.ofList element, some index⟩

def join (pieces : List (List Char)) : String :=
  String.ofList (List.intercalate ['.'] pieces)

/-- The steps of the pieces of a clause. A message quotes the clause from the bad step on. -/
def readSteps : List (List Char) → Except Error Clause
  | [] => .ok []
  | piece :: pieces =>
    match readStep? piece with
    | none => .error (.badInput (.expandClause (join (piece :: pieces))))
    | some step =>
      match readSteps pieces with
      | .error e => .error e
      | .ok steps => .ok (step :: steps)

def readClause (source : String) : Except Error Clause :=
  readSteps (Text.split '.' source.toList)

/-! ### Expanding -/

/-- What expansion has to know of the documents around. -/
structure Surroundings where
  /-- The document a reference refers to. -/
  target? : Reference → Option Json
  /-- Whether a reference without a target is an error. -/
  strict : Bool

/-- A reference with its target attached, unless it carries one already. -/
def attach (around : Surroundings) (reference : Reference) (value : Json) : Except Error Json :=
  match value.field? Reference.targetField, around.target? reference with
  | some _, _ => .ok value
  | none, some target => .ok (value.setField Reference.targetField target)
  | none, none =>
    if around.strict then .error (.danglingReference reference.typeId reference.identifier)
    else .ok value

/-- Arrives at a value: goes on in it, or in its target if it is a reference. -/
def arrive (around : Surroundings) (go : Json → Except Error Json) (value : Json) :
    Except Error Json :=
  match Reference.ofValue? value with
  | none => go value
  | some reference =>
    match attach around reference value with
    | .error e => .error e
    | .ok attached =>
      match attached.field? Reference.targetField with
      | none => .ok attached
      | some target => (go target).map (attached.setField Reference.targetField)

/-- Arrives at the elements of a member that an index names, or at the member itself. -/
def enter (arrive : Json → Except Error Json) (index : Option Index) (member : Json) :
    Except Error Json :=
  match index, member with
  | none, member => arrive member
  | some (.at position), .array items =>
    match items[position]? with
    | none => .ok member
    | some item => (arrive item).map fun item => .array (items.set position item)
  | some .all, .array items => (items.mapM arrive).map .array
  | some _, member => .ok member

def walk (around : Surroundings) : Clause → Json → Except Error Json
  | [], value => .ok value
  | step :: steps, value =>
    match value.field? step.element with
    | none => .ok value
    | some member =>
      (enter (arrive around (walk around steps)) step.index member).map
        (value.setField step.element)

def expand (around : Surroundings) (clauses : List String) (value : Json) : Except Error Json :=
  clauses.foldlM (fun value source => do walk around (← readClause source) value) value

end Storefront.Expansion
