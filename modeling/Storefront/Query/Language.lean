import Storefront.Json.Basic
import Storefront.Text.Lowercase
import Storefront.Text.Search

/-!
Localized values: objects whose member names are language tags.
-/
namespace Storefront.Query

/-- Whether a tag is the beginning of another one up to one of its hyphens. -/
def isTagPrefix (short long : List Char) : Bool :=
  (short ++ ['-']).isPrefixOf long

/-- Whether a member name serves a language: it is the same tag, or one of the two is the other with
further subtags. The case of ASCII letters does not count. -/
def languageMatches (key language : String) : Bool :=
  let key := Text.asciiLower key.toList
  let language := Text.asciiLower language.toList
  key = language || isTagPrefix language key || isTagPrefix key language

mutual
/-- The member for a language, the first one in the order of names; of an array, those of its
elements. -/
def localized? (language : String) : Json → Option Json
  | .object members =>
    (members.find? fun member => languageMatches member.1 language).map (·.2)
  | .array items =>
    match localizedItems language items with
    | [] => none
    | found => some (.array found)
  | _ => none

def localizedItems (language : String) : List Json → List Json
  | [] => []
  | item :: items =>
    match localized? language item with
    | some found => found :: localizedItems language items
    | none => localizedItems language items
end

mutual
/-- The keys of enumeration values: an object stands for its member `key`. -/
def enumKeys? : Json → Option Json
  | .object members => Dictionary.get? members "key"
  | .array items => some (.array (enumKeyItems items))
  | other => some other

def enumKeyItems : List Json → List Json
  | [] => []
  | item :: items =>
    match enumKeys? item with
    | some found => found :: enumKeyItems items
    | none => enumKeyItems items
end

end Storefront.Query
