import XrLayer.OpenXr.Spaces
import XrLayer.OpenXr.Scripted
import XrLayer.Proofs.Input.PoseRecord
import XrLayer.Proofs.Input.LegacyBindings
/-!
Locating a registered space, and the legacy pose record built from what the runtime answered.

The runtime is any stateful one, `Runtime (StateM σ)`. A space that was never registered is a
soft failure and the runtime is not asked; otherwise it is asked once, against the local space for
a seated origin and the stage for the other two, and a failure code is again a soft failure. An
answer is read as `ReadsAnswer` says: each part of the pose only when the runtime's flag for it
is set, as the openxr crate relates it, and each velocity likewise, as the bridge reads it. Since every failure of a locate is soft, the pose record built from
it fails only by escalation, and only when escalation is configured; and it is valid exactly when
the runtime answered with its position flag set. Main statement: `locate_reading`; the closed
`locate_drops_unflagged_position` shows a position the runtime gave without its flag being read as
zero.
-/
namespace XrLayer.OpenXr

open Linear

/-- How a reading holds the runtime's answer `l`. The linear velocity is bit 0 of the velocity
flags and the angular velocity bit 1; the orientation is bit 0 of the location flags and the
position bit 1. A part whose flag is clear reads as zero, the orientation as the zero quaternion. -/
def ReadsAnswer (l : RawLocation) (loc : Location) : Prop :=
  loc.velocity.linear = (if l.velocityFlags.testBit 0 then l.linear else Vec3.zero) ∧
  loc.velocity.angular = (if l.velocityFlags.testBit 1 then l.angular else Vec3.zero) ∧
  loc.positionValid = l.locationFlags.testBit 1 ∧
  loc.orientationValid = l.locationFlags.testBit 0 ∧
  loc.pose.position = (if l.locationFlags.testBit 1 then l.pose.position else Vec3.zero) ∧
  loc.pose.orientation = (if l.locationFlags.testBit 0 then l.pose.orientation else ⟨0, 0, 0, 0⟩)

theorem readsAnswer_relate (l : RawLocation) : ReadsAnswer l (Spaces.Location.ofRaw l.relate) :=
  ⟨rfl, rfl, rfl, rfl, rfl, rfl⟩

namespace Spaces

variable {σ : Type} (rt : Runtime (StateM σ)) (s : Spaces) (space : Nat) (origin : TrackingOrigin)

theorem base_eq : s.base origin = if origin = .seated then s.localSpace else s.stage := by
  cases origin <;> rfl

theorem locate_unregistered (h : space ∉ s.registered) (st : σ) :
    (s.locate rt space origin).run st =
      (.error (.soft ("unknown space SpaceHandle(" ++ toString space ++ ")")), st) := by
  simp [locate, h]
  rfl

theorem locate_registered (h : space ∈ s.registered) (st : σ) :
    (s.locate rt space origin).run st =
      (match ((rt.locateSpace space (s.base origin) s.displayTime).run st).1 with
       | .error code => .error (.soft ("OpenXR locate space: " ++ resultName code))
       | .ok l => .ok (Location.ofRaw l.relate),
       ((rt.locateSpace space (s.base origin) s.displayTime).run st).2) := by
  have hc : s.registered.contains space = true := List.contains_iff_mem.2 h
  simp only [locate, hc, Bool.not_true, Bool.false_eq_true, ite_false]
  rw [run_bind_state]
  rcases (rt.locateSpace space (s.base origin) s.displayTime).run st with ⟨_ | _, _⟩ <;> rfl

/-- A locate fails softly or not at all. -/
theorem locate_error_soft (st : σ) {e : Error} (h : ((s.locate rt space origin).run st).1 = .error e) :
    e.isFatal = false := by
  by_cases hreg : space ∈ s.registered
  · rw [locate_registered rt s space origin hreg] at h
    -- the runtime's answer decides which of the two outcomes the locate has
    generalize (rt.locateSpace space (s.base origin) s.displayTime).run st = r at h
    rcases r with ⟨_ | _, _⟩
    · cases h
      rfl
    · cases h
  · rw [locate_unregistered rt s space origin hreg] at h
    cases h
    rfl

/-- A locate succeeds exactly on a registered space whose runtime call answered, and then
holds the reading of that answer. -/
theorem locate_eq_ok_iff (st : σ) {loc : Location} :
    ((s.locate rt space origin).run st).1 = .ok loc ↔
      space ∈ s.registered ∧ ∃ l, ((rt.locateSpace space (s.base origin) s.displayTime).run st).1 =
        .ok l ∧ loc = Location.ofRaw l.relate := by
  by_cases hreg : space ∈ s.registered
  · rw [locate_registered rt s space origin hreg]
    rcases (rt.locateSpace space (s.base origin) s.displayTime).run st with ⟨_ | l, _⟩
    · simp
    · simp [hreg, eq_comm]
  · simp [locate_unregistered rt s space origin hreg, hreg]

/-- A locate reads a valid position exactly when the space is registered and the runtime
answered with its position flag set. -/
theorem locate_positionValid_iff (st : σ) :
    (∃ loc, ((s.locate rt space origin).run st).1 = .ok loc ∧ loc.positionValid = true) ↔
      space ∈ s.registered ∧ ∃ l, ((rt.locateSpace space (s.base origin) s.displayTime).run st).1 =
        .ok l ∧ l.locationFlags.testBit 1 = true := by
  constructor
  · rintro ⟨loc, hloc, hvalid⟩
    obtain ⟨hreg, l, hl, rfl⟩ := (locate_eq_ok_iff rt s space origin st).1 hloc
    exact ⟨hreg, l, hl, hvalid⟩
  · rintro ⟨hreg, l, hl, hvalid⟩
    exact ⟨_, (locate_eq_ok_iff rt s space origin st).2 ⟨hreg, l, hl, rfl⟩, hvalid⟩

end Spaces

end XrLayer.OpenXr

namespace XrLayer.Context

variable (c : Context) (device : Nat) (extra : Option Linear.Mat4) (now : Nat)

/-- Fed an outcome that can only fail softly, the pose record fails only by escalation, and only
when escalation is configured. -/
theorem poseFromSpace_error_of_soft {located : Except Error Location}
    (hsoft : ∀ e, located = .error e → e.isFatal = false) {e : Error}
    (h : (c.poseFromSpace located device extra now).1 = .error e) :
    c.config.stopOnSoftAbort = true ∧ ∃ m, e = .escalated m := by
  cases located with
  | error e' =>
    have hs := hsoft e' rfl
    cases hstop : c.config.stopOnSoftAbort with
    | false =>
      -- without escalation the soft failure is the default location, which gives a record
      rw [poseFromSpace_soft c device extra now hs hstop] at h
      obtain ⟨d, hd, -⟩ := poseFromSpace_records c device extra now {}
      rw [hd] at h
      cases h
    | true =>
      rw [poseFromSpace_escalated c device extra now hs hstop] at h
      cases h
      exact ⟨rfl, _, rfl⟩
  | ok l =>
    obtain ⟨d, hd, -⟩ := poseFromSpace_records c device extra now l
    rw [hd] at h
    cases h

/-- Fed an outcome that can only fail softly, a pose record is valid exactly when the outcome
is a location with a valid position. -/
theorem poseIsValid_of_soft {located : Except Error Location}
    (hsoft : ∀ e, located = .error e → e.isFatal = false) {d : DevicePose}
    (h : (c.poseFromSpace located device extra now).1 = .ok d) :
    d.poseIsValid = true ↔ ∃ l, located = .ok l ∧ l.positionValid = true := by
  cases located with
  | error e' =>
    have hs := hsoft e' rfl
    cases hstop : c.config.stopOnSoftAbort with
    | false =>
      -- the default location stands in, and its position is not valid
      rw [poseFromSpace_soft c device extra now hs hstop] at h
      obtain ⟨d', hd, -, hvalid, -⟩ := poseFromSpace_records c device extra now {}
      rw [hd] at h
      cases h
      simp [hvalid]
    | true =>
      rw [poseFromSpace_escalated c device extra now hs hstop] at h
      cases h
  | ok l =>
    obtain ⟨d', hd, -, hvalid, -⟩ := poseFromSpace_records c device extra now l
    rw [hd] at h
    cases h
    simp [hvalid]

end XrLayer.Context

namespace XrLayer.OpenXr

open Linear

variable {σ : Type} (rt : Runtime (StateM σ)) (s : Spaces) (space : Nat) (origin : TrackingOrigin)

/-- Locating a space through any runtime, and the pose record built from it. The seated origin
locates against the local space, the other two against the stage. An unregistered space is a soft
failure and leaves the runtime untouched; a registered one asks the runtime once, and its failure
code is a soft failure, its answer read as `ReadsAnswer` says. The pose record built from the
locate, for any context, device, correction and time, fails only by an escalation that the
configuration asked for, and is valid exactly when the runtime answered with its position flag
set. -/
theorem locate_reading (st : σ) (c : Context) (device : Nat) (extra : Option Mat4) (now : Nat) :
    let out := (s.locate rt space origin).run st
    let call := (rt.locateSpace space (s.base origin) s.displayTime).run st
    s.base origin = (if origin = .seated then s.localSpace else s.stage) ∧
    (space ∉ s.registered →
      out = (.error (.soft ("unknown space SpaceHandle(" ++ toString space ++ ")")), st)) ∧
    (space ∈ s.registered → out.2 = call.2 ∧
      (∀ code, call.1 = .error code →
        out.1 = .error (.soft ("OpenXR locate space: " ++ resultName code))) ∧
      (∀ l, call.1 = .ok l → ∃ loc, out.1 = .ok loc ∧ ReadsAnswer l loc)) ∧
    (∀ e, (c.poseFromSpace out.1 device extra now).1 = .error e →
      c.config.stopOnSoftAbort = true ∧ ∃ m, e = .escalated m) ∧
    (∀ d, (c.poseFromSpace out.1 device extra now).1 = .ok d →
      (d.poseIsValid = true ↔
        space ∈ s.registered ∧ ∃ l, call.1 = .ok l ∧ l.locationFlags.testBit 1 = true)) := by
  dsimp only
  have hsoft : ∀ e, ((s.locate rt space origin).run st).1 = .error e → e.isFatal = false :=
    fun _ h => Spaces.locate_error_soft rt s space origin st h
  refine ⟨Spaces.base_eq s origin, fun hreg => Spaces.locate_unregistered rt s space origin hreg st,
    fun hreg => ?_,
    fun e he => c.poseFromSpace_error_of_soft device extra now hsoft he, fun d hd => ?_⟩
  · have hout := Spaces.locate_registered rt s space origin hreg st
    refine ⟨by rw [hout], fun code hcode => by rw [hout, hcode], fun l hl => ?_⟩
    exact ⟨_, by rw [hout, hl], readsAnswer_relate l⟩
  · rw [c.poseIsValid_of_soft device extra now hsoft hd]
    exact Spaces.locate_positionValid_iff rt s space origin st

/-- A runtime that answers with a position but sets only the orientation flag: the located
position is zero, not the one the runtime gave. -/
theorem locate_drops_unflagged_position :
    ∃ loc, ((Spaces.locate Script.runtime ⟨51, 52, [53], 0⟩ 53 .seated).run
        { answer := (0, { pose := { position := ⟨1, 2, 3⟩ }, locationFlags := 1 }) }).1 = .ok loc ∧
      loc.pose.position ≠ ⟨1, 2, 3⟩ := by
  refine ⟨_, rfl, fun h => ?_⟩
  have hx := congrArg Vec3.x h
  revert hx
  decide

end XrLayer.OpenXr
