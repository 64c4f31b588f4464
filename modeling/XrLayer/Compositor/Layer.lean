import XrLayer.Scalar
/-!
The part of a submitted texture that a layer shows, in pixels.

Bounds are a sub-rectangle of texture coordinates. They are vertically flipped when the
lower `v` edge is above the upper one; the region itself is the same either way. Pixel
coordinates are 32-bit float products of a bound and the texture size, truncated toward
zero into the 32-bit signed range, so an extent can land one pixel short. Without
bounds the layer shows the whole texture, whose size is read as signed and wraps.
-/
namespace XrLayer.Compositor

open XrLayer.Scalar

/-- Texture-coordinate bounds of the region a layer shows. -/
structure Bounds where
  uMin : Float32 := 0
  vMin : Float32 := 0
  uMax : Float32 := 1
  vMax : Float32 := 1

namespace Bounds

def isFlipped (b : Bounds) : Bool := b.vMin > b.vMax

def unflipped (b : Bounds) : Bounds :=
  if b.isFlipped then { b with vMin := b.vMax, vMax := b.vMin } else b

end Bounds

structure Rect where
  x : Int
  y : Int
  width : Int
  height : Int
deriving DecidableEq, Repr

structure LayerFlags where
  /-- The texture's first row is its bottom row. -/
  originAtBottomLeft : Bool := false
deriving DecidableEq, Repr

def LayerFlags.bits (f : LayerFlags) : Nat := if f.originAtBottomLeft then 1 else 0

/-- The pixel rectangle of `bounds` on a `width` by `height` texture, and whether the
bounds were flipped. -/
def viewport (bounds : Option Bounds) (width height : Nat) : Rect × Bool :=
  match bounds with
  | none => (⟨0, 0, wrapInt32 width, wrapInt32 height⟩, false)
  | some bounds =>
    let b := bounds.unflipped
    let w := single width
    let h := single height
    (⟨truncInt32 (b.uMin * w), truncInt32 (b.vMin * h),
      truncInt32 ((b.uMax - b.uMin) * w), truncInt32 ((b.vMax - b.vMin) * h)⟩, bounds.isFlipped)

structure EyeLayer where
  viewport : Rect
  flags : LayerFlags

end XrLayer.Compositor
