import XrLayer.Linear.Mat4
import XrLayer.Config
import XrLayer.Input.Hand
/-!
Affine transforms built from offsets, and the user's grip adjustment.

`eulerTransform` builds a transform from an origin in metres and rotations about X, Y
and Z in degrees, with the shift in the last column. A hand's adjustment is such a
transform when its position or rotation switch is on, otherwise the global tilt about X
when that is on, otherwise nothing; it is applied by post-multiplying a family's grip
calibration.
-/
namespace XrLayer

open Linear Scalar

/-- The transform whose rotation is given by the Euler angles `rotate`, in degrees about
X, Y and Z, and whose shift is `origin`. -/
def eulerTransform (origin rotate : Vec3) : Mat4 :=
  let (sx, cx) := sinCos (toRadians rotate.x)
  let (sy, cy) := sinCos (toRadians rotate.y)
  let (sz, cz) := sinCos (toRadians rotate.z)
  ⟨⟨cy * cz, (-cy) * sz, sy, 0⟩,
   ⟨cz * sx * sy + cx * sz, cx * cz - sx * sy * sz, (-cy) * sx, 0⟩,
   ⟨(-cx) * cz * sy + sx * sz, cz * sx + cx * sy * sz, cx * cy, 0⟩,
   origin.extend 1⟩

/-- The inverse of `eulerTransform`, for calibration data authored from grip space to
model space. -/
def inverseCalibration (origin rotate : Vec3) : Mat4 :=
  (eulerTransform origin rotate).inverse

def axisX : Vec3 := ⟨1, 0, 0⟩
def axisY : Vec3 := ⟨0, 1, 0⟩
def axisZ : Vec3 := ⟨0, 0, 1⟩

/-- `Rx · Ry · Rz`, angles in degrees. -/
def rotationMatrix (x y z : Float32) : Mat4 :=
  Mat4.ofAxisAngle axisX (toRadians x) * Mat4.ofAxisAngle axisY (toRadians y) *
    Mat4.ofAxisAngle axisZ (toRadians z)

namespace ControllerAdjust

/-- The user offset for `hand`, if any: a hand's own position or rotation override wins
over the global tilt. -/
def offset (cfg : ControllerAdjust) (hand : Hand) : Option Mat4 :=
  let (adjustPos, pos, adjustRot, rot) := match hand with
    | .left =>
      (cfg.adjustLeftPosition, cfg.leftPosition, cfg.adjustLeftRotation, cfg.leftRotation)
    | .right =>
      (cfg.adjustRightPosition, cfg.rightPosition, cfg.adjustRightRotation, cfg.rightRotation)
  if adjustPos || adjustRot then
    some (eulerTransform (if adjustPos then pos else Vec3.zero)
      (if adjustRot then rot else Vec3.zero))
  else if cfg.adjustTilt then some (rotationMatrix cfg.tilt 0 0)
  else none

def apply (cfg : ControllerAdjust) (hand : Hand) (primary : Mat4) : Mat4 :=
  match cfg.offset hand with
  | some o => primary * o
  | none => primary

end ControllerAdjust

end XrLayer
