import XrLayer.OpenXr.Runtime
import XrLayer.Input.Context
/-!
Locating registered spaces against the reference space that a tracking origin selects.

The seated origin uses the world-locked local space; standing and raw use the stage. A
space that was never registered is a soft failure, and the runtime is not asked. The openxr
crate reads the runtime's answer first (`RawLocation.relate`): a part of the pose whose flag
is clear reads as zero, the orientation as the zero quaternion. The bridge then reads a
velocity whose flag is clear as zero (`Location.ofRaw`). Orientation is flag bit 0 and
position bit 1 of the location; linear velocity is bit 0 and angular bit 1 of the velocity.
-/
namespace XrLayer.OpenXr

open Linear

structure Spaces where
  localSpace : Nat
  stage : Nat
  registered : List Nat := []
  /-- The predicted display time used for every locate, in nanoseconds. -/
  displayTime : Int := 0

/-- The openxr crate's reading of a located space (`Space::relate`): a part of the pose whose
flag is clear may be uninitialised, so it is read as zeros. Velocities and flags pass as they
are. -/
def RawLocation.relate (l : RawLocation) : RawLocation :=
  { l with pose := { l.pose with
      position := if l.locationFlags.testBit 1 then l.pose.position else Vec3.zero,
      orientation := if l.locationFlags.testBit 0 then l.pose.orientation else ⟨0, 0, 0, 0⟩ } }

namespace Spaces

def create {m : Type → Type} [Monad m] (rt : Runtime m) : m (Except Error Spaces) := do
  match ← rt.createReferenceSpace .localSpace with
  | .error code => return .error (.soft ("OpenXR local space: " ++ resultName code))
  | .ok l =>
    match ← rt.createReferenceSpace .stage with
    | .error code => return .error (.soft ("OpenXR stage space: " ++ resultName code))
    | .ok s => return .ok { localSpace := l, stage := s }

def insert (s : Spaces) (space : Nat) : Spaces := { s with registered := s.registered ++ [space] }

def base (s : Spaces) : TrackingOrigin → Nat
  | .seated => s.localSpace
  | .standing | .rawAndUncalibrated => s.stage

/-- The bridge's location of a related reading: a velocity whose flag is clear reads as zero,
and the location flags say whether position and orientation hold. -/
def Location.ofRaw (l : RawLocation) : Location :=
  { pose := l.pose,
    velocity := { linear := if l.velocityFlags.testBit 0 then l.linear else Vec3.zero,
                  angular := if l.velocityFlags.testBit 1 then l.angular else Vec3.zero },
    positionValid := l.locationFlags.testBit 1, orientationValid := l.locationFlags.testBit 0 }

def locate {m : Type → Type} [Monad m] (rt : Runtime m) (s : Spaces) (space : Nat)
    (origin : TrackingOrigin) : m (Except Error Location) := do
  if !s.registered.contains space then
    return .error (.soft ("unknown space SpaceHandle(" ++ toString space ++ ")"))
  match ← rt.locateSpace space (s.base origin) s.displayTime with
  | .error code => return .error (.soft ("OpenXR locate space: " ++ resultName code))
  | .ok l => return .ok (Location.ofRaw l.relate)

end Spaces

end XrLayer.OpenXr
