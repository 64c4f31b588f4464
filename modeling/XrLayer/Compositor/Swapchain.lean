import XrLayer.Compositor.Format
/-!
Descriptions of application textures and of the swapchains that receive copies of them.

A swapchain for a texture has its size, its mip count and the resolved format, one array
layer, one sample, and generated mips. A swapchain can take a copy of a texture when the
size, the mip count and the resolved format agree; array size and sample count are not
compared.
-/
namespace XrLayer.Compositor

inductive Eye where
  | left
  | right
deriving DecidableEq, Repr

namespace Eye

def index : Eye → Nat
  | .left => 0
  | .right => 1

def name : Eye → String
  | .left => "left"
  | .right => "right"

def title : Eye → String
  | .left => "Left"
  | .right => "Right"

end Eye

structure TextureDesc where
  width : Nat
  height : Nat
  mipLevels : Nat := 1
  arraySize : Nat := 1
  format : TextureFormat := .rgba8
deriving DecidableEq, Repr

structure SwapchainDesc where
  width : Nat
  height : Nat
  mipCount : Nat := 1
  arraySize : Nat := 1
  sampleCount : Nat := 1
  format : TextureFormat := .rgba8
  autoGenerateMips : Bool := true
deriving DecidableEq, Repr

def SwapchainDesc.forSource (src : TextureDesc) (cs : ColorSpace) : SwapchainDesc where
  width := src.width
  height := src.height
  mipCount := src.mipLevels
  arraySize := 1
  sampleCount := 1
  format := src.format.resolve cs
  autoGenerateMips := true

def TextureDesc.fits (src : TextureDesc) (chain : SwapchainDesc) (cs : ColorSpace) : Bool :=
  src.width == chain.width && src.height == chain.height && src.mipLevels == chain.mipCount &&
    src.format.resolve cs == chain.format

/-- How an eye's swapchain stands with respect to a texture. -/
inductive SlotState where
  | uninitialized
  /-- The swapchain can take the texture. -/
  | bound
  /-- The texture no longer fits the swapchain. -/
  | stale
deriving DecidableEq, Repr

def SlotState.name : SlotState → String
  | .uninitialized => "Uninitialized"
  | .bound => "Bound"
  | .stale => "Stale"

end XrLayer.Compositor
