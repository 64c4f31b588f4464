import Mathlib
import XrLayer.Proofs.Smoothing.History
import XrLayer.Proofs.Scalar.Widen
/-!
Smoothing with no weight on speed.

The cutoff of each filter is `minCutoff + β·|v|`. With `β = 0` the speed term is `+0` for every
finite speed (`zero_mul_abs_widen`, `zero_mul_widen_length`), so each filter steps as it would
at rest, and a whole run of calls returns the same matrices and ends in the same state as the
run with every velocity replaced by zero (`Smoother.ZeroBeta.outputs_still`). Finite is what the
arithmetic needs: the linear velocity's three components, and the 32-bit length of the angular
velocity. That length can overflow while its components are finite; `0 · ∞` is then NaN, and
the speed does reach the output (`overflowing_turn_reaches_output`). Main statement:
`outputs_ignore_velocity`.
-/
namespace XrLayer.Smoothing

open Linear Scalar

/-- A velocity whose speed terms stay finite: its three linear components, and the 32-bit length
of its angular velocity. -/
def FiniteSpeeds (v : Velocity) : Prop :=
  (v.linear.x.isFinite = true ∧ v.linear.y.isFinite = true ∧ v.linear.z.isFinite = true) ∧
    v.angular.length.isFinite = true

theorem finiteSpeeds_still : FiniteSpeeds {} := by
  refine ⟨⟨?_, ?_, ?_⟩, ?_⟩ <;> decide

/-- A velocity reaches an axis filter only through the speed term of its cutoff. -/
theorem VelocityFilter.step_congr_speed (f : VelocityFilter) (x : Float) {v v' : Float}
    (h : f.params.beta * v.abs = f.params.beta * v'.abs) : f.step x v = f.step x v' := by
  simp only [VelocityFilter.step, h]

theorem VelocityFilter.step_of_zero_beta {f : VelocityFilter} (hb : f.params.beta = 0) (x : Float)
    {c c' : Float32} (hc : c.isFinite = true) (hc' : c'.isFinite = true) :
    f.step x (widen c) = f.step x (widen c') :=
  f.step_congr_speed x (by rw [hb, zero_mul_abs_widen hc, zero_mul_abs_widen hc'])

/-- With no weight on speed, a position filter steps alike at any two velocities with finite
components. -/
theorem PositionFilter.step_of_zero_beta {f : PositionFilter} (hx : f.x.params.beta = 0)
    (hy : f.y.params.beta = 0) (hz : f.z.params.beta = 0) (p : Vec3) {v v' : Vec3}
    (hv : v.x.isFinite = true ∧ v.y.isFinite = true ∧ v.z.isFinite = true)
    (hv' : v'.x.isFinite = true ∧ v'.y.isFinite = true ∧ v'.z.isFinite = true) :
    f.step p v = f.step p v' := by
  simp only [PositionFilter.step]
  rw [VelocityFilter.step_of_zero_beta hx _ hv.1 hv'.1,
    VelocityFilter.step_of_zero_beta hy _ hv.2.1 hv'.2.1,
    VelocityFilter.step_of_zero_beta hz _ hv.2.2 hv'.2.2]

/-- With no weight on speed, a rotation filter steps alike at any two angular velocities of
finite length. -/
theorem RotationFilter.step_of_zero_beta {f : RotationFilter} (hb : f.params.beta = 0)
    (q : Quat) {ω ω' : Vec3} (h : ω.length.isFinite = true) (h' : ω'.length.isFinite = true) :
    f.step q ω = f.step q ω' := by
  simp only [RotationFilter.step, hb, zero_mul_widen_length h, zero_mul_widen_length h']

namespace DeviceFilter

structure ZeroBeta (d : DeviceFilter) : Prop where
  x : d.position.x.params.beta = 0
  y : d.position.y.params.beta = 0
  z : d.position.z.params.beta = 0
  rotation : d.rotation.params.beta = 0

theorem zeroBeta_new {pp rp : Params} (hp : pp.beta = 0) (hr : rp.beta = 0) :
    (new pp rp).ZeroBeta :=
  ⟨hp, hp, hp, hr⟩

variable {d : DeviceFilter}

theorem ZeroBeta.accept (h : d.ZeroBeta) (pose : Mat4) (vel : Velocity) (now : Nat)
    (iv : Option Nat) : (d.accept pose vel now iv).2.ZeroBeta := by
  cases iv with
  | none => exact ⟨h.x, h.y, h.z, h.rotation⟩
  | some δ =>
    rw [accept_some]
    exact ⟨h.x, h.y, h.z, h.rotation⟩

/-- A call changes no filter's weights. -/
theorem ZeroBeta.smooth (h : d.ZeroBeta) (pose : Mat4) (vel : Velocity) (now : Nat) :
    (d.smooth pose vel now).2.ZeroBeta := by
  unfold DeviceFilter.smooth
  split
  · exact h.accept _ _ _ _
  · split
    · exact h
    · exact h.accept _ _ _ _

/-- With no weight on speed, taking a sample at a velocity of finite speeds is taking it at
rest. -/
theorem ZeroBeta.accept_still (h : d.ZeroBeta) (pose : Mat4) {vel : Velocity}
    (hv : FiniteSpeeds vel) (now : Nat) (iv : Option Nat) :
    d.accept pose vel now iv = d.accept pose {} now iv := by
  -- without an interval the filters are not stepped; with one, each cutoff weighs speed by zero
  cases iv with
  | none => rfl
  | some δ =>
    rw [accept_some, accept_some,
      PositionFilter.step_of_zero_beta (f := d.position.setRate (1 / seconds δ)) h.x h.y h.z _
        hv.1 finiteSpeeds_still.1,
      RotationFilter.step_of_zero_beta (f := { d.rotation with rate := 1 / seconds δ }) h.rotation _
        hv.2 finiteSpeeds_still.2]

theorem ZeroBeta.smooth_still (h : d.ZeroBeta) (pose : Mat4) {vel : Velocity}
    (hv : FiniteSpeeds vel) (now : Nat) : d.smooth pose vel now = d.smooth pose {} now := by
  unfold DeviceFilter.smooth
  split
  · exact h.accept_still pose hv _ _
  · split
    · rfl
    · exact h.accept_still pose hv _ _

end DeviceFilter

def Op.still : Op → Op
  | .smooth dev x => .smooth dev { x with vel := {} }
  | .reset => .reset

def Op.FiniteSpeeds : Op → Prop
  | .smooth _ x => Smoothing.FiniteSpeeds x.vel
  | .reset => True

namespace Smoother

/-- The matrices a sequence of calls returns, one for each smoothing call. -/
def outputs (s : Smoother) : List Op → List Mat4
  | [] => []
  | .smooth dev x :: ops =>
    (s.smooth dev x.pose x.vel x.now).1 :: (s.apply (.smooth dev x)).outputs ops
  | .reset :: ops => (s.apply .reset).outputs ops

theorem run_cons (s : Smoother) (op : Op) (ops : List Op) :
    s.run (op :: ops) = (s.apply op).run ops :=
  rfl

/-- Every filter the smoother holds, or will create, gives speed no weight. -/
structure ZeroBeta (s : Smoother) : Prop where
  position : s.positionParams.beta = 0
  rotation : s.rotationParams.beta = 0
  devices : ∀ e ∈ s.devices, e.2.ZeroBeta

variable {s : Smoother}

theorem ZeroBeta.stateOf (h : s.ZeroBeta) (dev : Nat) : (s.stateOf dev).ZeroBeta := by
  unfold Smoother.stateOf
  cases hl : s.devices.lookup dev with
  | none => exact DeviceFilter.zeroBeta_new h.position h.rotation
  | some d =>
    obtain ⟨l₁, l₂, hl, -⟩ := List.lookup_eq_some_iff.1 hl
    exact h.devices (dev, d) (by simp [hl])

theorem mem_store {dev : Nat} {d : DeviceFilter} {e : Nat × DeviceFilter}
    (he : e ∈ (s.store dev d).devices) : e ∈ s.devices ∨ e = (dev, d) := by
  unfold Smoother.store at he
  split at he
  · obtain ⟨e', he', rfl⟩ := List.mem_map.1 he
    split
    · exact .inr rfl
    · exact .inl he'
  · simpa using he

theorem ZeroBeta.apply (h : s.ZeroBeta) (op : Op) : (s.apply op).ZeroBeta := by
  cases op with
  | reset => exact ⟨h.position, h.rotation, fun e he => by cases he⟩
  | smooth dev x =>
    refine ⟨by simpa [Smoother.apply, smooth_snd] using h.position,
      by simpa [Smoother.apply, smooth_snd] using h.rotation, fun e he => ?_⟩
    rcases mem_store he with he | rfl
    · exact h.devices e he
    · exact (h.stateOf dev).smooth _ _ _

/-- With no weight on speed, a run of calls whose velocities have finite speeds returns the
matrices, and leaves the state, of the same run at rest. -/
theorem ZeroBeta.outputs_still (h : s.ZeroBeta) (ops : List Op)
    (hv : ∀ op ∈ ops, op.FiniteSpeeds) :
    s.outputs ops = s.outputs (ops.map Op.still) ∧ s.run ops = s.run (ops.map Op.still) := by
  -- `ZeroBeta` carries over each call, and under it each call is the call at rest
  induction ops generalizing s with
  | nil => exact ⟨rfl, rfl⟩
  | cons op ops ih =>
    have htail := ih (h.apply op) (fun o ho => hv o (List.mem_cons_of_mem _ ho))
    cases op with
    | reset => exact ⟨htail.1, htail.2⟩
    | smooth dev x =>
      have hstep : s.smooth dev x.pose x.vel x.now = s.smooth dev x.pose {} x.now := by
        simp only [Smoother.smooth, (h.stateOf dev).smooth_still x.pose (hv _ List.mem_cons_self)]
      have happly : s.apply (.smooth dev x) = s.apply (.smooth dev { x with vel := {} }) := by
        simp only [Smoother.apply, hstep]
      refine ⟨?_, ?_⟩
      · simp only [List.map_cons, outputs, Op.still]
        rw [hstep, htail.1, happly]
      · rw [List.map_cons, run_cons, run_cons, htail.2, happly]
        rfl

end Smoother

/-- A smoother configured with no weight on speed, for position and for rotation, answers two
runs of calls that differ only in their velocities with the same matrices, bit for bit, and
ends both in the same state, provided every velocity has finite linear components and an angular
velocity of finite 32-bit length. -/
theorem outputs_ignore_velocity (cfg : SmoothingConfig) (hp : cfg.posBeta = 0)
    (hr : cfg.rotBeta = 0) (ops ops' : List Op) (hsame : ops.map Op.still = ops'.map Op.still)
    (hv : ∀ op ∈ ops, op.FiniteSpeeds) (hv' : ∀ op ∈ ops', op.FiniteSpeeds) :
    (Smoother.ofConfig cfg).outputs ops = (Smoother.ofConfig cfg).outputs ops' ∧
      (Smoother.ofConfig cfg).run ops = (Smoother.ofConfig cfg).run ops' := by
  have hzero : widen 0 = 0 := by decide
  have h : (Smoother.ofConfig cfg).ZeroBeta :=
    ⟨by simp [Smoother.ofConfig, hp, hzero], by simp [Smoother.ofConfig, hr, hzero],
      fun e he => by cases he⟩
  -- each run answers as the same run at rest, and the two runs at rest are one
  obtain ⟨ho, hr⟩ := h.outputs_still ops hv
  obtain ⟨ho', hr'⟩ := h.outputs_still ops' hv'
  exact ⟨by rw [ho, ho', hsame], by rw [hr, hr', hsame]⟩

/-- Three samples 20 ms apart, drifting at one unit a second along `x` and turning at one radian
a second about `z`, are answered as the same samples at rest. -/
theorem drift_and_turn_unweighted :
    let cfg : SmoothingConfig := { posBeta := 0, rotBeta := 0 }
    let vel : Velocity := ⟨⟨1, 0, 0⟩, ⟨0, 0, 1⟩⟩
    let ops := [0, 20000000, 40000000].map fun t => Op.smooth 0 ⟨Mat4.identity, vel, t⟩
    (∀ op ∈ ops, op.FiniteSpeeds) ∧
      (Smoother.ofConfig cfg).outputs ops = (Smoother.ofConfig cfg).outputs (ops.map Op.still) ∧
      (Smoother.ofConfig cfg).run ops = (Smoother.ofConfig cfg).run (ops.map Op.still) := by
  intro cfg vel ops
  -- the length goes through a square root, which `decide` does not unfold but the kernel does
  have hv : FiniteSpeeds vel := ⟨⟨by decide, by decide, by decide⟩, by decide +kernel⟩
  have hops : ∀ op ∈ ops, op.FiniteSpeeds := by
    simp only [ops, List.map_cons, List.map_nil, List.mem_cons, List.not_mem_nil, or_false]
    rintro op (rfl | rfl | rfl) <;> exact hv
  exact ⟨hops, outputs_ignore_velocity cfg rfl rfl ops (ops.map Op.still) rfl hops
    (fun _ hop => by
      obtain ⟨o, -, rfl⟩ := List.mem_map.1 hop
      cases o with
      | smooth dev x => exact finiteSpeeds_still
      | reset => trivial)⟩

/-- Without a finite angular length the speed reaches the output. The angular velocity
`(10²⁰, 0, 0)` has finite components, but its squared length `10⁴⁰` overflows 32 bits, so the
speed term is `0 · ∞`, a NaN. The first call passes through and the second starts the filters,
so neither blends; the third blends at a NaN fraction and returns a NaN rotation, where the same
calls at rest return numbers. -/
theorem overflowing_turn_reaches_output :
    let cfg : SmoothingConfig := { posBeta := 0, rotBeta := 0 }
    let ω : Vec3 := ⟨1e20, 0, 0⟩
    let ops := [0, 10000000, 20000000].map fun t => Op.smooth 0 ⟨Mat4.identity, ⟨Vec3.zero, ω⟩, t⟩
    (ω.x.isFinite = true ∧ ω.length.isFinite = false) ∧
      ((Smoother.ofConfig cfg).outputs ops).map (·.c0.x.isNaN) = [false, false, true] ∧
      ((Smoother.ofConfig cfg).outputs (ops.map Op.still)).map (·.c0.x.isNaN) =
        [false, false, false] := by
  decide +kernel

end XrLayer.Smoothing
