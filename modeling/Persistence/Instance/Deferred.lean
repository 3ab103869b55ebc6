import Persistence.Instance.Basic

/-!
# Deferred instances

A reference whose key is known before its instance is loaded. It answers for the key
without loading, and once loaded it keeps what was found.
-/

set_option autoImplicit false

namespace Persistence

/-- A reference to an instance that is loaded on demand. -/
structure Deferred where
  entity : String
  keyField : String
  key : Value
  /-- The instance, once it is loaded. -/
  loaded : Option Record := none
deriving DecidableEq

namespace Deferred

def isLoaded (reference : Deferred) : Bool := reference.loaded.isSome

/-- The value of a field: the key for the key's field, else what the loaded instance says. -/
def value? (reference : Deferred) (field : String) : Option Value :=
  if field = reference.keyField then some reference.key
  else reference.loaded.bind fun record => record.value? field

def toInstance (reference : Deferred) : Instance := ⟨reference.entity, reference.value?⟩

/-- The reference after loading. The loader is asked for the entity and the key unless the
instance is there already; if it finds nothing the reference stays as it is. -/
def load {m : Type → Type} [Monad m] (loader : String → Value → m (Option Record))
    (reference : Deferred) : m Deferred :=
  match reference.loaded with
  | some _ => pure reference
  | none => do
      let found ← loader reference.entity reference.key
      pure { reference with loaded := found }

end Deferred

end Persistence
