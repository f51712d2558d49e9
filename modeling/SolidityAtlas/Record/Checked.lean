/-! Values that were checked against the form of a record. A check collects every fault of a value
in the order of the record's fields; faults of two checks put together add up.
-/

namespace SolidityAtlas

/-- What is wrong with one value. -/
inductive FaultKind where
  /-- A field without a default is missing. -/
  | missing
  | notString
  | notInteger
  /-- A string that is no integer in decimal digits. -/
  | unreadableInteger
  /-- A number with a fraction. -/
  | fractionalInteger
  /-- A number with a fraction or an exponent that is beyond 64 bits, or too many digits. -/
  | oversizedInteger
  /-- An infinite or undefined number. -/
  | infiniteInteger
  | notBoolean
  /-- A string or number that is no truth value. -/
  | unreadableBoolean
  | notList
  | notRecord
  /-- A value outside a fixed set of words. -/
  | unknownWord
  deriving DecidableEq, Repr

/-- A fault and the fields and list positions that lead to it. -/
structure Fault where
  path : List String
  kind : FaultKind
  deriving DecidableEq, Repr

/-- The same fault seen from the value around it. -/
def Fault.inside (step : String) (fault : Fault) : Fault :=
  { fault with path := step :: fault.path }

/-- A value that passed a check, or the faults it has. -/
inductive Checked (α : Type) where
  | valid (value : α)
  | faulty (faults : List Fault)
  deriving Repr

namespace Checked

variable {α β : Type}

/-- The faults of a checked value. -/
def faults : Checked α → List Fault
  | .valid _ => []
  | .faulty found => found

/-- Applies a function to a valid value. -/
def map (f : α → β) : Checked α → Checked β
  | .valid value => .valid (f value)
  | .faulty found => .faulty found

/-- Puts two checks together; the faults of the first come first. -/
def apply (f : Checked (α → β)) (value : Checked α) : Checked β :=
  match f, value with
  | .valid f, .valid value => .valid (f value)
  | f, value => .faulty (f.faults ++ value.faults)

instance : Applicative Checked where
  pure := .valid
  map := map
  seq f value := apply f (value ())

/-- A single fault of the value itself. -/
def fault (kind : FaultKind) : Checked α :=
  .faulty [⟨[], kind⟩]

/-- A check of a field or list item, its faults seen from the whole. -/
def inside (step : String) : Checked α → Checked α
  | .valid value => .valid value
  | .faulty found => .faulty (found.map (Fault.inside step))

/-- Checks the items of a list; faults name the position, counted from `position`. -/
def items (check : β → Checked α) (position : Nat) : List β → Checked (List α)
  | [] => .valid []
  | item :: rest =>
      List.cons <$> inside (toString position) (check item) <*> items check (position + 1) rest

end Checked

end SolidityAtlas
