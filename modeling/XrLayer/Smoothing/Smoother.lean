import XrLayer.Smoothing.Filter
import XrLayer.Linear.Mat4
import XrLayer.Config
import XrLayer.Input.Pose
/-!
Per-device pose smoothing.

Each tracked device has its own position and rotation filters. Times are nanoseconds on one
monotonic clock, the resolution of its instants and durations. The first sample of a device
only records its time. A sample whose time does not move forward changes nothing and returns
the last filtered output, or its own pose while there is none. An interval of more than 3 ms
becomes the device's sampling interval; shorter ones count as timer noise and keep the interval
known before. Until an interval is known a sample passes through, and is not recorded as an
output.
-/
namespace XrLayer.Smoothing

open Linear

/-- Intervals at or below this many nanoseconds, 3 ms, are timer noise. -/
def minFrameInterval : Nat := 3000000

structure DeviceFilter where
  position : PositionFilter
  rotation : RotationFilter
  lastSample : Option Nat := none
  interval : Option Nat := none
  lastOutput : Option Mat4 := none

/-- An interval of nanoseconds in seconds: whole seconds plus the nanoseconds of the rest
divided by 10⁹. -/
def seconds (ns : Nat) : Float :=
  Scalar.double (ns / 1000000000 : Nat) + Scalar.double (ns % 1000000000 : Nat) / 1000000000

def DeviceFilter.new (positionParams rotationParams : Params) : DeviceFilter where
  position := PositionFilter.new positionParams
  rotation := { params := rotationParams }

/-- Take a sample at `now` with the device's sampling interval now `interval`: record the time,
and pass the pose through while no interval is known, or else step every filter once at the
interval's rate. -/
def DeviceFilter.accept (d : DeviceFilter) (pose : Mat4) (vel : Velocity) (now : Nat)
    (interval : Option Nat) : Mat4 × DeviceFilter :=
  let d := { d with lastSample := some now, interval }
  match interval with
  | none => (pose, d)
  | some iv =>
    let rate := 1 / seconds iv
    let position := d.position.setRate rate
    let rotation := { d.rotation with rate }
    let (_, rot, shift) := pose.decompose
    let (p, position) := position.step shift vel.linear
    let (q, rotation) := rotation.step rot vel.angular
    let out := Mat4.rigid q p
    (out, { d with position, rotation, lastOutput := some out })

/-- Smooth `pose` of one device sampled at `now` nanoseconds: the output and the device's next
state. -/
def DeviceFilter.smooth (d : DeviceFilter) (pose : Mat4) (vel : Velocity) (now : Nat) :
    Mat4 × DeviceFilter :=
  match d.lastSample with
  | none => d.accept pose vel now d.interval
  | some last =>
    -- a time that does not move forward gives a zero interval: keep everything
    if now ≤ last then (d.lastOutput.getD pose, d)
    else d.accept pose vel now
      (if now - last > minFrameInterval then some (now - last) else d.interval)

/-- Filters for every device seen, by device index. -/
structure Smoother where
  positionParams : Params
  rotationParams : Params
  devices : List (Nat × DeviceFilter) := []

namespace Smoother

def ofConfig (cfg : SmoothingConfig) : Smoother :=
  ⟨⟨Scalar.widen cfg.posMinCutoff, Scalar.widen cfg.posBeta⟩,
   ⟨Scalar.widen cfg.rotMinCutoff, Scalar.widen cfg.rotBeta⟩, []⟩

def trackedDevices (s : Smoother) : Nat := s.devices.length

def reset (s : Smoother) : Smoother := { s with devices := [] }

def stateOf (s : Smoother) (device : Nat) : DeviceFilter :=
  (s.devices.lookup device).getD (DeviceFilter.new s.positionParams s.rotationParams)

def store (s : Smoother) (device : Nat) (d : DeviceFilter) : Smoother :=
  if s.devices.any (fun e => e.1 == device) then
    { s with devices := s.devices.map (fun e => if e.1 == device then (device, d) else e) }
  else { s with devices := s.devices ++ [(device, d)] }

def smooth (s : Smoother) (device : Nat) (pose : Mat4) (vel : Velocity) (now : Nat) :
    Mat4 × Smoother :=
  let (out, d) := (s.stateOf device).smooth pose vel now
  (out, s.store device d)

end Smoother

end XrLayer.Smoothing
