import Mathlib
import XrLayer.Input.Context
/-!
The legacy pose record built from a locate outcome.

A locate ends in a location, a soft failure or a fatal one. A fatal failure is handed back and
the context does not move. A soft failure is escalated, again with nothing moved, when the
configuration asks for it; otherwise it reads as the default location `{}`: the identity pose at
rest, with neither position nor orientation valid. Every location gives the record of a connected
device that is valid and tracked exactly when its position is, moving with the location's own
velocities (`RecordsLocation`). The matrix is the located pose followed by the family correction;
it is smoothed, and the device's smoother moved, only when smoothing is on and a correction is
given. Main statement: `poseFromSpace_outcome`.
-/
namespace XrLayer

open Linear Smoothing

namespace Context

/-- `out` is the record for location `l` and the context after it: a connected device, valid and
tracked exactly when the position is, with the location's velocities, at the located pose followed
by the correction `extra`. That matrix goes through the smoother of `device` when a correction is
given and smoothing is on, and the smoother keeps what the step left; otherwise the context is
`c` itself. -/
def RecordsLocation (c : Context) (l : Location) (device : Nat) (extra : Option Mat4) (now : Nat)
    (out : Except Error DevicePose × Context) : Prop :=
  ∃ d, out.1 = .ok d ∧ d.deviceIsConnected = true ∧ d.poseIsValid = l.positionValid ∧
    d.result = (if l.positionValid then .runningOk else .runningOutOfRange) ∧
    d.velocity = l.velocity.linear ∧ d.angularVelocity = l.velocity.angular ∧
    match extra with
    | none => d.matrix = Hmd34.ofMat4 l.pose.toMat4 ∧ out.2 = c
    | some x =>
      if c.config.smoothing.enabled then
        d.matrix = Hmd34.ofMat4 (c.smoother.smooth device (l.pose.toMat4 * x) l.velocity now).1 ∧
          out.2 = { c with
            smoother := (c.smoother.smooth device (l.pose.toMat4 * x) l.velocity now).2 }
      else d.matrix = Hmd34.ofMat4 (l.pose.toMat4 * x) ∧ out.2 = c

variable (c : Context) (device : Nat) (extra : Option Mat4) (now : Nat)

theorem poseFromSpace_fatal {e : Error} (hfatal : e.isFatal = true) :
    c.poseFromSpace (.error e) device extra now = (.error e, c) := by
  simp [poseFromSpace, hfatal]

theorem poseFromSpace_escalated {e : Error} (hsoft : e.isFatal = false)
    (hstop : c.config.stopOnSoftAbort = true) :
    c.poseFromSpace (.error e) device extra now = (.error (.escalated e.message), c) := by
  simp [poseFromSpace, hsoft, hstop, softAbort, Except.map]

/-- Without escalation a soft failure is the default location. -/
theorem poseFromSpace_soft {e : Error} (hsoft : e.isFatal = false)
    (hstop : c.config.stopOnSoftAbort = false) :
    c.poseFromSpace (.error e) device extra now = c.poseFromSpace (.ok {}) device extra now := by
  simp [poseFromSpace, hsoft, hstop, softAbort, Except.map]

theorem poseFromSpace_records (l : Location) :
    RecordsLocation c l device extra now (c.poseFromSpace (.ok l) device extra now) := by
  cases extra with
  | none => exact ⟨_, rfl, rfl, rfl, rfl, rfl, rfl, rfl, rfl⟩
  | some x =>
    -- the smoothing flag decides the matrix and the context: settle it before reading them
    by_cases hsmooth : c.config.smoothing.enabled = true
    · simp only [RecordsLocation, poseFromSpace, hsmooth, ite_true]
      exact ⟨_, rfl, rfl, rfl, rfl, rfl, rfl, rfl, trivial⟩
    · simp only [RecordsLocation, poseFromSpace, hsmooth, Bool.false_eq_true, ite_false]
      exact ⟨_, rfl, rfl, rfl, rfl, rfl, rfl, rfl, trivial⟩

/-- Building the legacy pose record from a locate outcome, for any context, device, correction
and time. A fatal failure comes back unchanged, and a soft one escalated when the configuration
asks for it; in both cases the context, smoother included, is untouched. A soft failure that is
not escalated gives the record of the default location, and a location its own record, as
`RecordsLocation` says: only a correction under enabled smoothing moves the smoother, and
otherwise the matrix is exactly the located pose followed by the correction. -/
theorem poseFromSpace_outcome :
    (∀ e : Error, e.isFatal = true →
      c.poseFromSpace (.error e) device extra now = (.error e, c)) ∧
    (∀ e : Error, e.isFatal = false → c.config.stopOnSoftAbort = true →
      c.poseFromSpace (.error e) device extra now = (.error (.escalated e.message), c)) ∧
    (∀ e : Error, e.isFatal = false → c.config.stopOnSoftAbort = false →
      RecordsLocation c {} device extra now (c.poseFromSpace (.error e) device extra now)) ∧
    (∀ l : Location,
      RecordsLocation c l device extra now (c.poseFromSpace (.ok l) device extra now)) := by
  refine ⟨fun e hfatal => poseFromSpace_fatal c device extra now hfatal,
    fun e hsoft hstop => poseFromSpace_escalated c device extra now hsoft hstop, ?_,
    poseFromSpace_records c device extra now⟩
  intro e hsoft hstop
  rw [poseFromSpace_soft c device extra now hsoft hstop]
  exact poseFromSpace_records c device extra now {}

end Context

end XrLayer
