import XrLayer.OpenXr.Result
import XrLayer.Input.Pose
/-!
The calls the bridge makes on an OpenXR runtime, as operations in a monad.

Handles are numbers. A call that can fail gives either its output or the runtime's
failure code; binding suggestions give the runtime's code as it is, and the caller
decides what counts as a failure.
-/
namespace XrLayer.OpenXr

open Linear

inductive ActionType where
  | boolean
  | float
  | vibration
  | pose
deriving DecidableEq, Repr

def ActionType.name : ActionType → String
  | .boolean => "boolean"
  | .float => "float"
  | .vibration => "vibration"
  | .pose => "pose"

inductive ReferenceSpace where
  /-- Follows the head. -/
  | view
  /-- A world-locked origin for seated use. -/
  | localSpace
  /-- The floor of the play area. -/
  | stage
deriving DecidableEq, Repr

/-- What the runtime reports for a space: a pose, velocities and flag bits saying which
parts hold. -/
structure RawLocation where
  pose : Pose := {}
  locationFlags : Nat := 15
  velocityFlags : Nat := 3
  linear : Vec3 := Vec3.zero
  angular : Vec3 := Vec3.zero

structure Runtime (m : Type → Type) where
  createActionSet : (name localized : String) → (priority : Nat) → m (Except Int Nat)
  createAction : (set : Nat) → (name localized : String) → ActionType → m (Except Int Nat)
  stringToPath : String → m (Except Int Nat)
  suggestBindings : (profile : Nat) → List (Nat × Nat) → m Int
  createReferenceSpace : ReferenceSpace → m (Except Int Nat)
  /-- Locate a space relative to a base space at a time in nanoseconds. -/
  locateSpace : (space base : Nat) → (time : Int) → m (Except Int RawLocation)

end XrLayer.OpenXr
