/-!
Classes of characters as lists of ranges of code points. The tables of this folder hold the
characters outside ASCII; the ASCII part of each class stands in its rule. The classes that tokens
are made of are those of Unicode 16, the ones that lower-casing goes by are those of Unicode 17.
-/
namespace Storefront.Text

/-- Ranges of code points, both ends included. -/
abbrev Ranges := List (Nat × Nat)

def Ranges.contain : Ranges → Nat → Bool
  | [], _ => false
  | (first, last) :: rest, code => (first ≤ code && code ≤ last) || Ranges.contain rest code

end Storefront.Text
