import MethodRoles.Text.Basic

/-!
# Lists ordered by key

Results are listed in the order of their names, character by character.  An
entry that is inserted under a name already present replaces the old one.

The other functions here work on entries in any order: they keep the first
occurrence of each name.
-/

namespace MethodRoles

/-- Entries under names, in the order of the names, each name once. -/
abbrev Keyed (α : Type) := List (Text × α)

namespace Keyed

variable {α : Type}

/-- Insert an entry at its place, or replace the one that has its name. -/
def insert (name : Text) (content : α) : Keyed α → Keyed α
  | [] => [(name, content)]
  | entry :: others =>
      if name < entry.1 then
        (name, content) :: entry :: others
      else if name = entry.1 then
        (name, content) :: others
      else
        entry :: insert name content others

/-- Order some entries; of two under one name the later one stays. -/
def ofList (entries : List (Text × α)) : Keyed α :=
  entries.foldl (fun ordered entry => insert entry.1 entry.2 ordered) []

/-- The names, in order. -/
def names (entries : Keyed α) : List Text :=
  entries.map Prod.fst

end Keyed

namespace Text

/-- The texts of a list without the repetitions of earlier ones. -/
def distinct : List Text → List Text
  | [] => []
  | text :: others => text :: (distinct others).filter (· != text)

/-- The entries of a list without those whose name occurs earlier. -/
def distinctByName {α : Type} : List (Text × α) → List (Text × α)
  | [] => []
  | entry :: others =>
      entry :: (distinctByName others).filter (fun other => other.1 != entry.1)

end Text

end MethodRoles
