import XrLayer.Compositor.Synchronizer
/-!
A simulated runtime and graphics device for driving the synchronizer without hardware.

Swapchains are numbered 1, 2, … for the life of the simulation; a refused creation uses
no number. A swapchain holds at most one acquired image: the n-th acquire of a swapchain
(counting from zero) gets image `n mod count`, where the count is at least one, and an
image is texture `1000 · swapchain + index`. Failures are switched on and off with knobs
that stay until changed. A failed call changes nothing. Every call that succeeds, and
every refused creation, is logged.
-/
namespace XrLayer.Compositor

/-- Failure switches and settings of the simulation. -/
structure Knobs where
  failCreate : Option Int := none
  failAcquire : Option String := none
  failImage : Option String := none
  failRelease : Option String := none
  failCopy : Bool := false
  removed : Option String := none
  imageCount : Nat := 3

structure SimTexture where
  id : Nat
  desc : TextureDesc

structure SimChain where
  id : Nat
  desc : SwapchainDesc
  acquired : Bool := false
  acquires : Nat := 0

inductive Event where
  | create (eye : Eye) (id : Nat) (desc : SwapchainDesc)
  | createFailed (eye : Eye) (code : Int)
  | destroy (id : Nat)
  | acquire (id index : Nat)
  | release (id : Nat)
  | copy (dst src : Nat)

structure Simulation where
  knobs : Knobs := {}
  lastId : Nat := 0
  /-- Logged calls, oldest first. -/
  log : Array Event := #[]

namespace Simulation

def record (e : Event) : StateM Simulation Unit := modify (fun s => { s with log := s.log.push e })

def refusal (knob : Option String) : Option Error := knob.map Error.swapchainImage

def backend : Backend (StateM Simulation) SimChain SimTexture where
  describe t := t.desc
  create eye desc := do
    match (← get).knobs.failCreate with
    | some code =>
      record (.createFailed eye code)
      return .error (.swapchainCreation eye.index code)
    | none =>
      let id := (← get).lastId + 1
      modify (fun s => { s with lastId := id })
      record (.create eye id desc)
      return .ok { id, desc }
  destroy c := record (.destroy c.id)
  acquire c := do
    let k := (← get).knobs
    if let some e := refusal k.failAcquire then return (c, .error e)
    if c.acquired then return (c, .error (.swapchainImage "image already acquired"))
    let index := c.acquires % max k.imageCount 1
    record (.acquire c.id index)
    return ({ c with acquired := true, acquires := c.acquires + 1 }, .ok index)
  image c index := do
    if let some e := refusal (← get).knobs.failImage then return .error e
    return .ok ⟨1000 * c.id + index,
      ⟨c.desc.width, c.desc.height, c.desc.mipCount, c.desc.arraySize, c.desc.format⟩⟩
  release c := do
    if let some e := refusal (← get).knobs.failRelease then return (c, .error e)
    record (.release c.id)
    return ({ c with acquired := false }, .ok ())
  copy dst src := do
    if (← get).knobs.failCopy then return .error (.soft "copy failed")
    record (.copy dst.id src.id)
    return .ok ()
  removedReason := return (← get).knobs.removed

end Simulation

end XrLayer.Compositor
