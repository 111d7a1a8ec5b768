import Storefront.Decimal.Numeral
import Storefront.Store.Settings
import Storefront.Text.Blank
import Storefront.Text.Lowercase

/-!
The configuration of the service, read from named values; what is not there has a default.
-/
namespace Storefront

structure Configuration where
  host : String := "0.0.0.0"
  tcpPort : Nat := 8989
  settings : Settings := {}
deriving DecidableEq, Repr

inductive ConfigurationError where
  | invalidPort
  | invalidBool (name : String)
  | invalidNumber (name : String)
deriving DecidableEq, Repr

def ConfigurationError.message : ConfigurationError → String
  | invalidPort => "Invalid PORT value"
  | invalidBool name => s!"Invalid boolean value for {name}"
  | invalidNumber name => s!"Invalid number for {name}"

namespace Configuration

def largestPort : Nat := 65535

/-- The truth value of a word, in any case and with blanks around it. -/
def flag? (value : String) : Option Bool :=
  let word := String.ofList (Text.asciiLower (Text.trim value.toList))
  if word ∈ ["1", "true", "yes", "on"] then some true
  else if word ∈ ["0", "false", "no", "off"] then some false
  else none

/-- A named value, read if it is there. -/
def setting {α : Type} (lookup : String → Option String) (name : String) (default : α)
    (read? : String → Option α) (fault : ConfigurationError) : Except ConfigurationError α :=
  match lookup name with
  | none => .ok default
  | some value =>
    match read? value with
    | some found => .ok found
    | none => .error fault

def count (lookup : String → Option String) (name : String) (default : Nat) :
    Except ConfigurationError Nat :=
  setting lookup name default (fun value => Numeral.natural? Numeral.maxNatural value.toList)
    (.invalidNumber name)

/-- Reads a configuration; of several faults the first one in this order is reported. -/
def read (lookup : String → Option String) : Except ConfigurationError Configuration := do
  let default : Configuration := {}
  let tcpPort ← setting lookup "PORT" default.tcpPort
    (fun value => Numeral.natural? largestPort value.toList) .invalidPort
  let strictReferences ← setting lookup "STRICT_REFERENCES" default.settings.strictReferences flag?
    (.invalidBool "STRICT_REFERENCES")
  let defaultLimit ← count lookup "DEFAULT_LIMIT" default.settings.defaultLimit
  let maxLimit ← count lookup "MAX_LIMIT" default.settings.maxLimit
  let predicateCacheSize ← count lookup "PREDICATE_CACHE_SIZE" default.settings.predicateCacheSize
  .ok ⟨(lookup "HOST").getD default.host, tcpPort,
    { strictReferences, defaultLimit, maxLimit, predicateCacheSize }⟩

end Configuration
end Storefront
