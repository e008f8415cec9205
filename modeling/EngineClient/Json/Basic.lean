import EngineClient.Decimal.Binary64

/-!
JSON values. An object keeps its members in the order in which their keys first appeared.
-/

namespace EngineClient

namespace Json

structure Integer where
  value : Int
  within : -0x8000000000000000 ≤ value ∧ value < 0x10000000000000000
  deriving DecidableEq, Repr

/-- Integers in range stay integers; all other numbers are binary floating point. -/
inductive Number where
  | integer (value : Integer)
  | double (value : Binary64)
  deriving DecidableEq, Repr

end Json

inductive Json where
  | null
  | bool (value : Bool)
  | number (value : Json.Number)
  | string (value : String)
  | list (items : List Json)
  | object (members : List (String × Json))
  deriving Inhabited, Repr

namespace Json

abbrev Members := List (String × Json)

def Number.ofInt? (value : Int) : Option Number :=
  if within : -0x8000000000000000 ≤ value ∧ value < 0x10000000000000000 then
    some (.integer ⟨value, within⟩)
  else (Binary64.ofFraction? value.natAbs 1).map fun x => .double (x.withSign (value < 0))

def ofNat (value : Nat) : Json :=
  match Number.ofInt? value with
  | some n => .number n
  | none => .null

/-- A repeated key keeps its place and takes the last value. -/
def insert (key : String) (value : Json) : Members → Members
  | [] => [(key, value)]
  | (name, old) :: rest =>
    if name = key then (name, value) :: rest else (name, old) :: insert key value rest

def Members.find? (key : String) : Members → Option Json
  | [] => none
  | (name, value) :: rest => if name = key then some value else Members.find? key rest

def get? (json : Json) (key : String) : Option Json :=
  match json with
  | .object members => Members.find? key members
  | _ => none

def string? : Json → Option String
  | .string value => some value
  | _ => none

end Json

end EngineClient
