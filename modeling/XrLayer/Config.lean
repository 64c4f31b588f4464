import XrLayer.Linear.Vec
/-!
User configuration.

Grip offsets per hand (a position in metres and Euler angles in degrees, each used only
when its switch is on), a global tilt about the X axis, the parameters of pose smoothing,
and whether soft failures are escalated. Every field has a default, so a partial
configuration is complete.
-/
namespace XrLayer

open Linear

structure ControllerAdjust where
  adjustLeftPosition : Bool := false
  adjustRightPosition : Bool := false
  adjustLeftRotation : Bool := false
  adjustRightRotation : Bool := false
  /-- Metres. -/
  leftPosition : Vec3 := Vec3.zero
  /-- Metres. -/
  rightPosition : Vec3 := Vec3.zero
  /-- Degrees about X, Y, Z. -/
  leftRotation : Vec3 := Vec3.zero
  /-- Degrees about X, Y, Z. -/
  rightRotation : Vec3 := Vec3.zero
  adjustTilt : Bool := false
  /-- Degrees about X. -/
  tilt : Float32 := 0

structure SmoothingConfig where
  enabled : Bool := false
  posMinCutoff : Float32 := 1.25
  posBeta : Float32 := 20
  rotMinCutoff : Float32 := 1.5
  rotBeta : Float32 := 0.2

structure Config where
  controller : ControllerAdjust := {}
  smoothing : SmoothingConfig := {}
  stopOnSoftAbort : Bool := false

end XrLayer
