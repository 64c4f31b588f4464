import XrLayer.Input.Registry
import XrLayer.Input.Binding
import XrLayer.Smoothing.Smoother
/-!
The input side of the bridge: the profile registry, the user's configuration and the
per-device smoothing state, and the legacy pose record built from a located space.

A failed locate is handled by its tier: a fatal failure is returned, a soft one yields
the default location (identity pose, zero velocity, invalid) unless soft failures are
escalated. The family correction, when given, post-multiplies the located pose, and only
then is the pose smoothed, when smoothing is on.
-/
namespace XrLayer

open Linear Smoothing

structure Location where
  pose : Pose := {}
  velocity : Velocity := {}
  positionValid : Bool := false
  orientationValid : Bool := false

inductive TrackingResult where
  | runningOk
  | runningOutOfRange
deriving DecidableEq, Repr

def TrackingResult.name : TrackingResult → String
  | .runningOk => "RunningOk"
  | .runningOutOfRange => "RunningOutOfRange"

/-- The pose record handed to the legacy application. -/
structure DevicePose where
  matrix : Hmd34
  velocity : Vec3
  angularVelocity : Vec3
  result : TrackingResult
  poseIsValid : Bool
  deviceIsConnected : Bool

structure Context where
  config : Config
  registry : Registry
  smoother : Smoother

namespace Context

def new (config : Config) (reverbG2 : Bool) : Context :=
  ⟨config, Registry.build reverbG2, Smoother.ofConfig config.smoothing⟩

def profile (c : Context) (path : String) : Except Error Profile := c.registry.byPath path

def gripToLegacy (c : Context) (path : String) (hand : Option Hand) : Except Error Mat4 := do
  let p ← c.profile path
  return p.gripToLegacy c.config.controller hand

def legacyBindingsFor {m : Type → Type} [Monad m] (c : Context) (path : String)
    (actions : LegacyActions) (resolve : String → m (Except Error Nat)) :
    m (Except Error (List Suggestion)) :=
  match c.profile path with
  | .error e => pure (.error e)
  | .ok p => p.legacySuggestions actions resolve

/-- The legacy pose record for a locate outcome, at `now` nanoseconds. -/
def poseFromSpace (c : Context) (located : Except Error Location) (device : Nat)
    (extra : Option Mat4) (now : Nat) : Except Error DevicePose × Context :=
  let loc : Except Error Location := match located with
    | .ok l => .ok l
    | .error e =>
      if e.isFatal then .error e
      else (softAbort e c.config.stopOnSoftAbort).map (fun _ => {})
  match loc with
  | .error e => (.error e, c)
  | .ok l =>
    let m := l.pose.toMat4
    let (m, c) := match extra with
      | none => (m, c)
      | some x =>
        let m := m * x
        if c.config.smoothing.enabled then
          let (m, s) := c.smoother.smooth device m l.velocity now
          (m, { c with smoother := s })
        else (m, c)
    (.ok {
      matrix := Hmd34.ofMat4 m
      velocity := l.velocity.linear
      angularVelocity := l.velocity.angular
      result := if l.positionValid then .runningOk else .runningOutOfRange
      poseIsValid := l.positionValid
      deviceIsConnected := true }, c)

def summary (c : Context) : String :=
  "InputContext \x7b profiles: " ++ toString c.registry.profiles.length ++ ", smoothing: " ++
    toString c.config.smoothing.enabled ++ ", tracked_devices: " ++
    toString c.smoother.trackedDevices ++ " \x7d"

end Context

end XrLayer
