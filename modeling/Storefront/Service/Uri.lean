import Storefront.Json.Reading
import Storefront.Text.Search
import Storefront.Text.Utf8

/-!
Paths and query strings. A percent sign and two hexadecimal digits stand for a byte, any other
percent sign for itself. A path is taken apart before that is undone, so that a segment may hold a
slash; in a query string a plus is a blank.
-/
namespace Storefront.Uri

/-- The bytes of a text with percent signs. -/
def percentDecode : List Char → List Nat
  | [] => []
  | '%' :: a :: b :: rest =>
    match Reading.hexValue? a, Reading.hexValue? b with
    | some high, some low => (high * 16 + low) :: percentDecode rest
    | _, _ => '%'.toNat :: percentDecode (a :: b :: rest)
  | c :: rest => Text.utf8Bytes [c] ++ percentDecode rest

/-- A segment of a path, if its bytes are UTF-8. -/
def decodeSegment? (segment : List Char) : Option String :=
  Text.ofUtf8? (percentDecode segment)

/-- A name or a value of a query string; bytes that are not UTF-8 are replaced. -/
def decodeForm (piece : List Char) : String :=
  Text.ofUtf8Lossy (percentDecode (piece.map fun c => if c = '+' then ' ' else c))

/-- A pair of a query string; without an equals sign the value is empty. -/
def decodePair (piece : List Char) : String × String :=
  match Text.splitOnce? '=' piece with
  | some (name, value) => (decodeForm name, decodeForm value)
  | none => (decodeForm piece, "")

/-- The pairs of a query string; empty pieces are passed over. -/
def decodeQuery (query : List Char) : List (String × String) :=
  ((Text.split '&' query).filter (· ≠ [])).map decodePair

/-- The characters of a scheme, which may be empty. The tilde is allowed beside the usual ones. -/
def isSchemeChar (c : Char) : Bool :=
  ('a' ≤ c && c ≤ 'z') || ('A' ≤ c && c ≤ 'Z') || ('0' ≤ c && c ≤ '9') || "+-.~".toList.contains c

/-- What an address asks for once it is reached: its path with what follows. Before a path that does
not begin the address stand a scheme and an authority, and behind these the root may be left out. An
authority alone asks for nothing. -/
def target (address : List Char) : List Char :=
  match address with
  | '/' :: _ => address
  | _ =>
    match address.dropWhile isSchemeChar with
    | ':' :: '/' :: '/' :: rest =>
      match rest.dropWhile (fun c => c ≠ '/' && c ≠ '?' && c ≠ '#') with
      | '/' :: path => '/' :: path
      | behind => '/' :: behind
    | _ => []

/-- The path and the query string of an address, without its fragment. -/
def parts (address : List Char) : List Char × List Char :=
  let target := (target address).takeWhile (· ≠ '#')
  match Text.splitOnce? '?' target with
  | some parts => parts
  | none => (target, [])

/-- The segments of a path, which begins with a slash. -/
def segments (path : List Char) : List (List Char) :=
  (Text.split '/' path).drop 1

end Storefront.Uri
