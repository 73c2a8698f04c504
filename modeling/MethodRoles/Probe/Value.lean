import MethodRoles.Binary64.Layout
import MethodRoles.Text.Quoted

/-!
# Values read from live objects

A value is what a getter of a live object returns.  Two values are the same when
they have the same form and the same content; for numbers with a binary point
that is sameness of numbers, not of bit patterns.

Reading may fail, so what is known about a value is a resolution: the value, or
the statement that it is unresolved.
-/

namespace MethodRoles

/-- What a getter of a live object returns. -/
inductive Value where
  /-- Nothing. -/
  | nothing
  /-- A truth value. -/
  | bool (truth : Bool)
  /-- A whole number. -/
  | int (number : Int)
  /-- A number with a binary point. -/
  | float (number : Binary64)
  /-- A text. -/
  | text (content : Text)
  /-- A group of values. -/
  | tuple (elements : List Value)
  /-- Another object, by its class. -/
  | object (className : Text)

namespace Value

mutual

/-- Whether two values are equal, bit patterns included. -/
def isEqual : Value → Value → Bool
  | .nothing, .nothing => true
  | .bool left, .bool right => left == right
  | .int left, .int right => left == right
  | .float left, .float right => left == right
  | .text left, .text right => left == right
  | .tuple left, .tuple right => areEqual left right
  | .object left, .object right => left == right
  | _, _ => false

/-- Whether two lists of values are equal. -/
def areEqual : List Value → List Value → Bool
  | [], [] => true
  | left :: lefts, right :: rights => isEqual left right && areEqual lefts rights
  | _, _ => false

end

mutual

theorem isEqual_iff : ∀ left right : Value, isEqual left right = true ↔ left = right
  | .nothing, right => by cases right <;> simp [isEqual]
  | .bool _, right => by cases right <;> simp [isEqual]
  | .int _, right => by cases right <;> simp [isEqual]
  | .float _, right => by cases right <;> simp [isEqual]
  | .text _, right => by cases right <;> simp [isEqual]
  | .tuple elements, right => by cases right <;> simp [isEqual, areEqual_iff elements]
  | .object _, right => by cases right <;> simp [isEqual]

theorem areEqual_iff : ∀ left right : List Value, areEqual left right = true ↔ left = right
  | [], right => by cases right <;> simp [areEqual]
  | left :: lefts, right => by
      cases right <;> simp [areEqual, isEqual_iff left, areEqual_iff lefts]

end

instance : Inhabited Value :=
  ⟨.nothing⟩

instance : DecidableEq Value := fun left right =>
  decidable_of_iff _ (isEqual_iff left right)

mutual

/-- Whether two values are the same. -/
def isSame : Value → Value → Bool
  | .nothing, .nothing => true
  | .bool left, .bool right => left == right
  | .int left, .int right => left == right
  | .float left, .float right => left.isSame right
  | .text left, .text right => left == right
  | .tuple left, .tuple right => areSame left right
  | .object left, .object right => left == right
  | _, _ => false

/-- Whether two lists hold the same values in the same places. -/
def areSame : List Value → List Value → Bool
  | [], [] => true
  | left :: lefts, right :: rights => isSame left right && areSame lefts rights
  | _, _ => false

end

/-- A value as a whole number; a truth value is one or zero. -/
def asInt? : Value → Option Int
  | .int number => some number
  | .bool truth => some (if truth then 1 else 0)
  | _ => none

/-- A value as a number with a binary point. -/
def asFloat? : Value → Option Binary64
  | .float number => some number
  | .int number => some (.ofInt number)
  | _ => none

/-- A value as the state of a toggle; a whole number is on unless it is zero. -/
def asToggle? : Value → Option Bool
  | .bool truth => some truth
  | .int number => some (number != 0)
  | _ => none

/-- Plain notation starts at `1e-4` and ends below `1e16`. -/
def floatLayout : Binary64.Layout :=
  ⟨-4, 16⟩

mutual

/-- The written form of a value. -/
def render : Value → Text
  | .nothing => "None".toList
  | .bool truth => if truth then "true".toList else "false".toList
  | .int number => Text.ofInt number
  | .float number => floatLayout.render number
  | .text content => Text.quoted content
  | .tuple elements => '(' :: renderListed elements ++ [')']
  | .object className => '<' :: className ++ ['>']

/-- The written forms of some values, with commas between them. -/
def renderListed : List Value → Text
  | [] => []
  | [element] => render element
  | element :: next :: others => render element ++ [',', ' '] ++ renderListed (next :: others)

end

end Value

/-- What is known about something that is read from a live object. -/
inductive Resolution (α : Type) where
  /-- It was read. -/
  | known (value : α)
  /-- It could not be read. -/
  | unresolved
deriving DecidableEq

namespace Resolution

variable {α β : Type}

/-- Whether something was read. -/
def isKnown : Resolution α → Bool
  | .known _ => true
  | .unresolved => false

/-- What was read. -/
def known? : Resolution α → Option α
  | .known value => some value
  | .unresolved => none

/-- A resolution that is known when an optional value is there. -/
def ofOption : Option α → Resolution α
  | some value => .known value
  | none => .unresolved

/-- Change what was read. -/
def map (change : α → β) : Resolution α → Resolution β
  | .known value => .known (change value)
  | .unresolved => .unresolved

/-- Change what was read by a reading that may fail. -/
def andThen (change : α → Option β) : Resolution α → Resolution β
  | .known value => ofOption (change value)
  | .unresolved => .unresolved

end Resolution

end MethodRoles
