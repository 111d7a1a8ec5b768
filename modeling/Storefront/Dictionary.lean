/-!
Dictionaries: values under distinct names, kept in ascending order of the names by code point.
Every listing of a dictionary, in a written document or in an answer, goes in that order.
-/
namespace Storefront

/-- Entries in ascending order of their names. -/
abbrev Dictionary (α : Type) := List (String × α)

namespace Dictionary
variable {α β : Type}

/-- Names strictly ascend, so that no name occurs twice. -/
def Ordered (entries : Dictionary α) : Prop :=
  List.Pairwise (fun a b => a.1 < b.1) entries

def get? : Dictionary α → String → Option α
  | [], _ => none
  | (other, value) :: rest, name => if other = name then some value else get? rest name

/-- Puts `value` under `name`, in the place of a value already there. -/
def insert : Dictionary α → String → α → Dictionary α
  | [], name, value => [(name, value)]
  | (other, old) :: rest, name, value =>
    if other = name then (name, value) :: rest
    else if name < other then (name, value) :: (other, old) :: rest
    else (other, old) :: insert rest name value

def erase (entries : Dictionary α) (name : String) : Dictionary α :=
  entries.filter (·.1 ≠ name)

def contains (entries : Dictionary α) (name : String) : Bool :=
  (get? entries name).isSome

/-- The names, in order. -/
def names (entries : Dictionary α) : List String :=
  entries.map (·.1)

/-- The dictionary of `entries`; of two values under one name the later one stays. -/
def ofList (entries : List (String × α)) : Dictionary α :=
  entries.foldl (fun built entry => insert built entry.1 entry.2) []

theorem get?_insert (entries : Dictionary α) (name other : String) (value : α) :
    get? (insert entries name value) other =
      if name = other then some value else get? entries other := by
  induction entries with
  | nil => simp [insert, get?]
  | cons entry rest ih =>
    obtain ⟨first, old⟩ := entry
    by_cases h : first = name
    · subst h
      by_cases ho : first = other <;> simp [insert, get?, ho]
    · by_cases hl : name < first
      · simp [insert, get?, h, hl]
      · by_cases ho : first = other
        · subst ho
          simp [insert, get?, hl, h, Ne.symm h]
        · simp [insert, get?, h, hl, ho, ih]

end Dictionary
end Storefront
