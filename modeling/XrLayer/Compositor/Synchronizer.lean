import XrLayer.Compositor.Layer
import XrLayer.Compositor.Swapchain
import XrLayer.Error
/-!
One runtime swapchain per eye, kept in step with the application's submitted textures.

Each submission is checked against the eye's swapchain. A swapchain that cannot take
the texture is destroyed and a new one created, since the runtime cannot resize in
place. The texture is then copied whole into an acquired image, and the image released.
A release is attempted even after a failed copy; the failed copy then wins and is
reported as a lost device, with the device's removal reason when it has one. Only after
a complete submission are the viewport and the flip of the eye updated.

The runtime and the graphics device are a `Backend`: operations in a monad `m` on
swapchains of type `C` and textures of type `T`.
-/
namespace XrLayer.Compositor

/-- What the synchronizer needs from the runtime and from the graphics device. -/
structure Backend (m : Type → Type) (C T : Type) where
  describe : T → TextureDesc
  create : Eye → SwapchainDesc → m (Except Error C)
  destroy : C → m Unit
  /-- Acquire and wait for the next writable image; gives its index. -/
  acquire : C → m (C × Except Error Nat)
  image : C → Nat → m (Except Error T)
  release : C → m (C × Except Error Unit)
  /-- Copy every subresource of the second texture into the first. -/
  copy : T → T → m (Except Error Unit)
  removedReason : m (Option String)

/-- One eye's swapchain and what it was created for. -/
structure Slot (C : Type) where
  chain : Option C := none
  desc : Option SwapchainDesc := none
  flipped : Bool := false

def Slot.layerFlags {C : Type} (s : Slot C) : LayerFlags := ⟨s.flipped⟩

structure Synchronizer (C : Type) where
  left : Slot C := {}
  right : Slot C := {}

namespace Synchronizer

variable {m : Type → Type} {C T : Type}

def slot (s : Synchronizer C) : Eye → Slot C
  | .left => s.left
  | .right => s.right

def modifySlot (s : Synchronizer C) (eye : Eye) (f : Slot C → Slot C) : Synchronizer C :=
  match eye with
  | .left => { s with left := f s.left }
  | .right => { s with right := f s.right }

def slotState (s : Synchronizer C) (eye : Eye) (src : TextureDesc) (cs : ColorSpace) : SlotState :=
  match (s.slot eye).chain, (s.slot eye).desc with
  | some _, some d => if src.fits d cs then .bound else .stale
  | _, _ => .uninitialized

/-- A submission step: it may fail, and it changes the slots either way. -/
abbrev Step (m : Type → Type) (C : Type) := ExceptT Error (StateT (Synchronizer C) m)

def call [Monad m] {α : Type} (x : m (Except Error α)) : Step m C α :=
  ExceptT.mk (StateT.lift x)

def run [Monad m] {α : Type} (x : m α) : Step m C α :=
  ExceptT.lift (StateT.lift x)

def ensure [Monad m] (b : Backend m C T) (eye : Eye) (src : TextureDesc) (cs : ColorSpace) :
    Step m C Unit := do
  let s ← get
  if s.slotState eye src cs == .bound then return
  if let some old := (s.slot eye).chain then
    run (b.destroy old)
  modify (·.modifySlot eye (fun sl => { sl with chain := none, desc := none }))
  let desc := SwapchainDesc.forSource src cs
  let chain ← call (b.create eye desc)
  modify (·.modifySlot eye (fun sl => { sl with chain := some chain, desc := some desc }))

def keep [Monad m] (eye : Eye) (chain : C) : Step m C Unit :=
  modify (·.modifySlot eye (fun sl => { sl with chain := some chain }))

/-- Push one eye's submitted texture into its swapchain; gives the eye's layer. -/
def invoke [Monad m] (b : Backend m C T) (eye : Eye) (texture : T) (cs : ColorSpace)
    (bounds : Option Bounds) : Step m C EyeLayer := do
  let src := b.describe texture
  ensure b eye src cs
  let some chain := ((← get).slot eye).chain
    | throw (.swapchainImage ("no swapchain bound for " ++ eye.title))
  let (chain, acquired) ← run (b.acquire chain)
  keep eye chain
  let index ← call (pure acquired)
  let image ← call (b.image chain index)
  let copied ← run (b.copy image texture)
  let (chain, released) ← run (b.release chain)
  keep eye chain
  if let .error err := copied then
    let removed ← run b.removedReason
    throw (.deviceLost "CopyResource" (removed.getD err.message))
  call (pure released)
  let (rect, flipped) := viewport bounds src.width src.height
  modify (·.modifySlot eye (fun sl => { sl with flipped }))
  return ⟨rect, ((← get).slot eye).layerFlags⟩

/-- Destroy both swapchains, the left one first. -/
def close [Monad m] (b : Backend m C T) (s : Synchronizer C) : m Unit := do
  if let some c := s.left.chain then b.destroy c
  if let some c := s.right.chain then b.destroy c

end Synchronizer

end XrLayer.Compositor
