import Storefront.Text.Lowercase
import Storefront.Text.Search

/-!
Media types: which ones announce JSON. A media type is a type and a subtype with parameters behind;
the part of the subtype behind its last plus is its suffix.
-/
namespace Storefront.MediaType

/-- The characters of types and of names and plain values of parameters. -/
def isToken (c : Char) : Bool :=
  ('a' ≤ c && c ≤ 'z') || ('A' ≤ c && c ≤ 'Z') || ('0' ≤ c && c ≤ '9') ||
    "!#$%&*+-.^_|~".toList.contains c || c.toNat = 0x27 || c.toNat = 0x60

def isQuotable (c : Char) : Bool :=
  31 < c.toNat && c.toNat < 127

/-- What follows the value of a parameter. There is at least one character between quotes, which may
itself be a quote. -/
def afterValue? (cs : List Char) : Option (List Char) :=
  match cs with
  | '"' :: c :: rest =>
    match rest.dropWhile (fun c => isQuotable c && c ≠ '"') with
    | '"' :: rest =>
      match isQuotable c, rest.dropWhile (· = ' ') with
      | true, [] => some []
      | true, ';' :: rest => some rest
      | _, _ => none
    | _ => none
  | _ =>
    match cs.dropWhile isToken with
    | [] => some []
    | ';' :: rest => if cs.head? = some ';' then none else some rest
    | _ => none

/-- Whether a text is a list of parameters, each a name and a value. Blanks may stand in front of a
name. Each of them is shorter than what it is read from, so the length of the text is fuel enough. -/
def areParameters : Nat → List Char → Bool
  | 0, cs => cs.isEmpty
  | fuel + 1, cs =>
    match cs.dropWhile (· = ' ') with
    | [] => true
    | body =>
      match body.dropWhile isToken with
      | '=' :: rest =>
        if body.head? = some '=' then false
        else
          match afterValue? rest with
          | some rest => areParameters fuel rest
          | none => false
      | _ => false

/-- The essence of a subtype and its suffix; a plus in front is part of the essence. -/
def splitSuffix (subtype : List Char) : List Char × Option (List Char) :=
  let suffix := (subtype.reverse.takeWhile (· ≠ '+')).reverse
  let essence := subtype.take (subtype.length - suffix.length - 1)
  if suffix.length < subtype.length ∧ essence ≠ [] then (essence, some suffix) else (subtype, none)

/-- Whether a media type is `application/json` or one with the suffix `json`. -/
def isJson (text : String) : Bool :=
  let cs := Text.asciiLower text.toList
  match Text.splitOnce? '/' cs with
  | none => false
  | some (type, rest) =>
    let subtype := rest.takeWhile isToken
    let parametersOk := match rest.dropWhile isToken with
      | [] => true
      | ';' :: parameters => areParameters (parameters.length + 1) parameters
      | _ => false
    let (essence, suffix) := splitSuffix subtype
    type = "application".toList && subtype ≠ [] && parametersOk &&
      (essence = "json".toList || suffix = some "json".toList)

end Storefront.MediaType
