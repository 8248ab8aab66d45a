import CapillaryActions.Python.UUID
import CapillaryActions.Python.Value

/-! The learner memory model that the store and the manifest check work on. -/
namespace CapillaryActions.Models

open Python

/-- A single memory entry in any tier. The score is kept as its IEEE bits. -/
structure MemoryEntry (Obj : Type) where
  id : UUID
  tier : String
  dimension : String
  content : Dict String (AnyValue Obj)
  relevanceScore : UInt64
  createdAt : Datetime
  expiresAt : Option Datetime
  metadata : Dict String (AnyValue Obj)

/-- An entry with nothing but its tier and its dimension. -/
def bareEntry {Obj : Type} (tier dimension : String) : MemoryEntry Obj where
  id := ⟨0⟩
  tier
  dimension
  content := ∅
  relevanceScore := 0x3FF0000000000000
  createdAt := ⟨0, none⟩
  expiresAt := none
  metadata := ∅

end CapillaryActions.Models
