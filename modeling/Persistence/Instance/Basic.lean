import Persistence.Catalog
import Persistence.Value.Hash

/-!
# Instances

What stands for a row in memory. An instance answers for its entity's name and for the
values of its fields; a record holds them all, and identity is read through the catalog.
-/

set_option autoImplicit false

namespace Persistence

/-- Anything that answers for an entity's name and for field values. A field may have none. -/
structure Instance where
  entity : String
  /-- Value of a field, if the instance carries it. -/
  value? : String → Option Value

/-- The value of a field, null if the instance does not carry it. -/
def Instance.value (item : Instance) (field : String) : Value :=
  (item.value? field).getD .null

/-- An entity's name and field values in the order in which they were first set. A record read
from elsewhere may repeat a field; the first value counts. -/
structure Record where
  entity : String
  values : List (String × Value) := []
deriving DecidableEq

namespace Record

/-- Puts the value in place of the first one of its field, or at the end if there is none. -/
def setIn (field : String) (value : Value) : List (String × Value) → List (String × Value)
  | [] => [(field, value)]
  | (name, existing) :: rest =>
      if name = field then (name, value) :: rest
      else (name, existing) :: setIn field value rest

def set (record : Record) (field : String) (value : Value) : Record :=
  { record with values := setIn field value record.values }

def setAll (record : Record) (values : List (String × Value)) : Record :=
  values.foldl (fun record (field, value) => record.set field value) record

def value? (record : Record) (field : String) : Option Value :=
  (record.values.find? fun (name, _) => name == field).map Prod.snd

def toInstance (record : Record) : Instance := ⟨record.entity, record.value?⟩

/-- Whether the fields are the same in the same order and their values are equal. -/
def valuesEqual : List (String × Value) → List (String × Value) → Bool
  | [], [] => true
  | (leftName, leftValue) :: left, (rightName, rightValue) :: right =>
      leftName == rightName && leftValue.equals rightValue && valuesEqual left right
  | _, _ => false

/-- Equality of records. Floats are compared as numbers. -/
def equals (left right : Record) : Bool :=
  left.entity == right.entity && valuesEqual left.values right.values

end Record

namespace Catalog

/-- The primary key of an instance, null if it carries none. -/
def keyValue (catalog : Catalog) (item : Instance) : Except Error Value := do
  let mapping ← catalog.mapping item.entity
  .ok (item.value mapping.key.name)

/-- Whether an instance has no key yet: none, null, or the number zero. -/
def lacksKey (catalog : Catalog) (item : Instance) : Except Error Bool := do
  let key ← catalog.keyValue item
  .ok (key.isNull || key.isZero)

def identityHashOf (catalog : Catalog) (item : Instance) : Except Error Int32 := do
  let key ← catalog.keyValue item
  .ok (identityHash item.entity key)

/-- Whether the instance is the one of the entity with the key. Hashes of different identities
may agree, this does not. -/
def hasIdentity (catalog : Catalog) (item : Instance) (entity : String) (key : Value) : Bool :=
  item.entity == entity &&
    match catalog.keyValue item with
    | .ok own => own.identifiesSame key
    | .error _ => false

end Catalog

end Persistence
