/-!
Finding text in text.
-/
namespace Storefront.Text

def occursIn (needle : List Char) : List Char → Bool
  | [] => needle.isEmpty
  | c :: cs => needle.isPrefixOf (c :: cs) || occursIn needle cs

/-- The pieces of a text between separators; a text without one is one piece. -/
def split (separator : Char) : List Char → List (List Char)
  | [] => [[]]
  | c :: cs =>
    if c = separator then [] :: split separator cs
    else
      match split separator cs with
      | piece :: pieces => (c :: piece) :: pieces
      | [] => [[c]]

/-- What is left of a text behind a beginning, if it has that beginning. -/
def after? (beginning : String) (text : List Char) : Option (List Char) :=
  if beginning.toList.isPrefixOf text then some (text.drop beginning.length) else none

/-- The text before and the text behind the first separator, if there is one. -/
def splitOnce? (separator : Char) : List Char → Option (List Char × List Char)
  | [] => none
  | c :: cs =>
    if c = separator then some ([], cs)
    else (splitOnce? separator cs).map fun (before, behind) => (c :: before, behind)

end Storefront.Text
