import Storefront.Text.Blank
import Storefront.Text.Digit
import Storefront.Text.Word
import Storefront.Token.Basic

/-!
The patterns that the query languages are made of.
-/
namespace Storefront.Pattern

def many1 (p : Char → Bool) : Pattern := fun cs =>
  some (cs.takeWhile p).length

def blanks : Pattern := many1 Text.isBlank

def exact (text : String) : Pattern := fun cs =>
  if text.toList.isPrefixOf cs then some text.length else none

/-- Whether a character is the lower-case letter given when case is ignored. Outside ASCII this
holds of the long s alone. -/
def sameLetter (letter c : Char) : Bool :=
  c = letter || (c.toNat + 32 = letter.toNat && 'A' ≤ c && c ≤ 'Z') ||
    (letter = 's' && c.toNat = 0x17f)

/-- Whether a word cannot go on at the front of `cs`. -/
def atWordEnd : List Char → Bool
  | [] => true
  | c :: _ => !Text.isWord c

/-- A word of its own, letter by letter under a comparison. -/
def wordBy (same : Char → Char → Bool) : List Char → Nat → Pattern
  | [], length, cs => if atWordEnd cs then some length else none
  | _ :: _, _, [] => none
  | letter :: letters, length, c :: cs =>
    if same letter c then wordBy same letters (length + 1) cs else none

def keyword (word : String) : Pattern :=
  wordBy (fun a b => a = b) word.toList 0

/-- A word in these lower-case letters or their capitals. -/
def anyCaseKeyword (word : String) : Pattern :=
  wordBy sameLetter word.toList 0

/-- What follows an opening quote, up to and with the closing one. A backslash takes the next
character with it, which may be any but a line feed. -/
def quotedFrom (quote : Char) (length : Nat) : List Char → Option Nat
  | [] => none
  | c :: cs =>
    if c = quote then some (length + 1)
    else if c = '\\' then
      match cs with
      | [] => none
      | e :: cs => if e = '\n' then none else quotedFrom quote (length + 2) cs
    else quotedFrom quote (length + 1) cs

def quoted (quote : Char) : Pattern
  | [] => none
  | c :: cs => if c = quote then quotedFrom quote 1 cs else none

def optional (pattern : Pattern) (cs : List Char) : Nat :=
  (pattern cs).getD 0

def fraction : Pattern
  | '.' :: cs =>
    match (cs.takeWhile Text.isDigit).length with
    | 0 => none
    | n => some (n + 1)
  | _ => none

/-- The mark of an exponent, a sign or none, and digits. -/
def exponent : Pattern
  | mark :: cs =>
    if mark = 'e' || mark = 'E' then
      let sign := match cs with
        | c :: _ => if c = '+' || c = '-' then 1 else 0
        | [] => 0
      match ((cs.drop sign).takeWhile Text.isDigit).length with
      | 0 => none
      | n => some (1 + sign + n)
    else none
  | [] => none

/-- Digits, with a minus in front or not, and a fraction or none. -/
def fixedPoint : Pattern := fun cs =>
  let sign := match cs with
    | '-' :: _ => 1
    | _ => 0
  match ((cs.drop sign).takeWhile Text.isDigit).length with
  | 0 => none
  | n => some (sign + n + optional fraction (cs.drop (sign + n)))

/-- As `fixedPoint`, and an exponent or none. -/
def floatingPoint : Pattern := fun cs =>
  (fixedPoint cs).map fun n => n + optional exponent (cs.drop n)

def isLetter (c : Char) : Bool :=
  ('a' ≤ c && c ≤ 'z') || ('A' ≤ c && c ≤ 'Z')

def isNameStart (c : Char) : Bool :=
  isLetter c || c = '_'

def isNameRest (c : Char) : Bool :=
  isNameStart c || ('0' ≤ c && c ≤ '9')

/-- A name of ASCII letters, digits and underscores that does not begin with a digit. -/
def name : Pattern
  | c :: cs => if isNameStart c then some (1 + (cs.takeWhile isNameRest).length) else none
  | [] => none

def parameter : Pattern
  | ':' :: cs => (name cs).map (1 + ·)
  | _ => none

def isSegmentRest (c : Char) : Bool :=
  isNameRest c || c = '-'

/-- The further segments of a path, each behind a point and none of them empty. -/
def segments (length : Nat) (cs : List Char) : Nat :=
  match cs with
  | '.' :: rest =>
    match h : (rest.takeWhile isSegmentRest).length with
    | 0 => length
    | n + 1 => segments (length + n + 2) (rest.drop (n + 1))
  | _ => length
termination_by cs.length
decreasing_by simp only [List.length_drop, List.length_cons]; omega

/-- A path of segments separated by points; the first one begins like a name. -/
def path : Pattern
  | c :: cs =>
    if isNameStart c then
      let n := 1 + (cs.takeWhile isSegmentRest).length
      some (segments n ((c :: cs).drop n))
    else none
  | [] => none

end Storefront.Pattern
