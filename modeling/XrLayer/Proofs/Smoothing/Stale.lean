import Mathlib
import XrLayer.Proofs.Smoothing.History
/-!
What a call with a stale time returns.

A call whose time is no later than one the device has seen since the last reset changes
nothing and returns the device's last output, or its own pose when there is none. The last
output is written only by a call that steps the filters, that is once the device has a sampling
interval, and a device has a last output exactly when it has an interval (`Synced`). So once a
gap between taken samples has exceeded the timer noise, the last output is what the device's
previous call returned, filtered or stale, and a stale call repeats it. Before that, the previous
call passed its own pose through without recording it, and a stale call returns its own pose
instead: right after a device's first sample, a stale call with another pose does not return
what the first call did (`stale_after_first_sample`). Main statement: `stale_call_output`.
-/
namespace XrLayer.Smoothing

open Linear

namespace DeviceFilter

/-- What one call can do: take the sample, with an interval that is none only when the state
had none, or refuse it and change nothing. -/
theorem smooth_cases (d : DeviceFilter) (pose : Mat4) (vel : Velocity) (now : Nat) :
    (∃ iv, (iv = none → d.interval = none) ∧ d.smooth pose vel now = d.accept pose vel now iv) ∨
      d.smooth pose vel now = (d.lastOutput.getD pose, d) := by
  unfold DeviceFilter.smooth
  split
  · exact .inl ⟨d.interval, id, rfl⟩
  · split
    · exact .inr rfl
    · -- a short gap keeps the interval the state had
      refine .inl ⟨_, fun hiv => ?_, rfl⟩
      split at hiv
      · cases hiv
      · exact hiv

/-- A device has a last output exactly when it has a sampling interval. -/
def Synced (d : DeviceFilter) : Prop := d.lastOutput.isSome = d.interval.isSome

theorem synced_new (pp rp : Params) : Synced (new pp rp) := rfl

variable {d : DeviceFilter}

theorem Synced.smooth (h : Synced d) (pose : Mat4) (vel : Velocity) (now : Nat) :
    Synced (d.smooth pose vel now).2 := by
  rcases smooth_cases d pose vel now with ⟨iv, hiv, heq⟩ | heq
  · rw [heq]
    cases iv with
    | none =>
      -- passed through: neither the interval nor the last output is there
      have hnone : d.lastOutput.isSome = false := by rw [h, hiv rfl]; rfl
      simpa [Synced, accept_none] using hnone
    | some δ => simp [Synced, accept_some]
  · rw [heq]
    exact h

theorem synced_run (pp rp : Params) (h : List Sample) : Synced ((new pp rp).run h) := by
  induction h using List.reverseRecOn with
  | nil => exact synced_new pp rp
  | append_singleton h x ih => simpa using ih.smooth x.pose x.vel x.now

/-- After a call, a device that has an interval holds that call's own output as its last
output, whether the call stepped the filters or was refused. -/
theorem Synced.lastOutput_smooth (h : Synced d) (pose : Mat4) (vel : Velocity) (now : Nat)
    (hi : (d.smooth pose vel now).2.interval ≠ none) :
    (d.smooth pose vel now).2.lastOutput = some (d.smooth pose vel now).1 := by
  rcases smooth_cases d pose vel now with ⟨iv, -, heq⟩ | heq
  · rw [heq] at hi ⊢
    cases iv with
    | none => exact absurd (accept_interval d pose vel now none) hi
    | some δ => rfl
  · rw [heq] at hi ⊢
    -- refused: the interval is the old one, so the old last output is there and is returned
    have hsome : d.lastOutput.isSome = true := by
      rw [h]
      exact Option.isSome_iff_ne_none.mpr hi
    obtain ⟨o, ho⟩ := Option.isSome_iff_exists.mp hsome
    simp [ho]

end DeviceFilter

theorem historyOf_append_others {dev : Nat} (ops post : List Op)
    (hpost : ∀ op ∈ post, op ≠ .reset ∧ ∀ y, op ≠ .smooth dev y) :
    historyOf dev (ops ++ post) = historyOf dev ops := by
  induction post using List.reverseRecOn with
  | nil => simp
  | append_singleton post op ih =>
    have hop := hpost op (by simp)
    have ih' := ih (fun op' h' => hpost op' (by simp [h']))
    rw [← List.append_assoc]
    cases op with
    | reset => exact absurd rfl hop.1
    | smooth d y =>
      -- a call for another device adds nothing to this one's history
      have hd : d ≠ dev := fun h => hop.2 y (h ▸ rfl)
      rw [historyOf_snoc_smooth, if_neg hd, List.append_nil, ih']

/-- A call no later than a time the device has seen since the last reset changes nothing and
returns the device's last output, or its own pose when there is none. -/
theorem smooth_refused (pp rp : Params) (ops : List Op) (dev : Nat) (pose : Mat4)
    (vel : Velocity) (now : Nat) (hrej : ¬ ∀ t ∈ (historyOf dev ops).map Sample.now, t < now) :
    let s := Smoother.run ⟨pp, rp, []⟩ ops
    s.smooth dev pose vel now = ((s.stateOf dev).lastOutput.getD pose, s) := by
  intro s
  have htr : DeviceFilter.Tracks (s.stateOf dev) ((historyOf dev ops).map Sample.now) :=
    stateOf_run pp rp ops dev ▸ DeviceFilter.tracks_run pp rp (historyOf dev ops)
  -- a refused time lies at or before one the device has seen, so the device has an entry
  have hsampled : (s.stateOf dev).lastSample ≠ none := fun hl => hrej (by
    simp [htr.nil_of_unsampled hl])
  show (((s.stateOf dev).smooth pose vel now).1,
    s.store dev ((s.stateOf dev).smooth pose vel now).2) = _
  rw [htr.smooth_eq, if_neg hrej,
    Smoother.store_stateOf s dev (keys_run pp rp ops).1 (Smoother.lookup_of_sampled s hsampled)]

/-- A call for device `dev` at a time `now` no later than one the device has seen since the last
reset, after any calls `pre`, the device's previous call `x`, and calls `post` for other devices.
It changes nothing. Once some gap between the device's taken samples since the last reset has
exceeded the timer noise, it returns exactly what the previous call returned. While none has,
it returns its own pose. -/
theorem stale_call_output (pp rp : Params) (pre post : List Op) (dev : Nat) (x : Sample)
    (hpost : ∀ op ∈ post, op ≠ .reset ∧ ∀ y, op ≠ .smooth dev y) (pose : Mat4) (vel : Velocity)
    (now : Nat) (hstale : ¬ ∀ t ∈ (historyOf dev (pre ++ .smooth dev x :: post)).map Sample.now,
      t < now) :
    let ops := pre ++ .smooth dev x :: post
    let s := Smoother.run ⟨pp, rp, []⟩ ops
    let prev := ((Smoother.run ⟨pp, rp, []⟩ pre).smooth dev x.pose x.vel x.now).1
    let r := s.smooth dev pose vel now
    let gap := lastLongGap (acceptedTimes ((historyOf dev ops).map Sample.now))
    r.2 = s ∧ (gap ≠ none → r.1 = prev) ∧ (gap = none → r.1 = pose) := by
  intro ops s prev r gap
  -- the device's history ends with its previous call
  have hhist : historyOf dev ops = historyOf dev pre ++ [x] := by
    have h := historyOf_append_others (pre ++ [.smooth dev x]) post hpost
    simp only [List.append_assoc, List.singleton_append, historyOf_snoc_smooth, if_true] at h
    exact h
  let d := (DeviceFilter.new pp rp).run (historyOf dev pre)
  have hprev : prev = (d.smooth x.pose x.vel x.now).1 := by
    show (((Smoother.run ⟨pp, rp, []⟩ pre).stateOf dev).smooth x.pose x.vel x.now).1 = _
    rw [stateOf_run]
  have hstate : s.stateOf dev = (d.smooth x.pose x.vel x.now).2 := by
    rw [stateOf_run, hhist, DeviceFilter.run_snoc]
  have hgap : gap = (s.stateOf dev).interval :=
    (stateOf_run pp rp ops dev ▸ DeviceFilter.tracks_run pp rp (historyOf dev ops)).interval.symm
  have hr : r = ((s.stateOf dev).lastOutput.getD pose, s) :=
    smooth_refused pp rp ops dev pose vel now hstale
  have hsync : DeviceFilter.Synced d := DeviceFilter.synced_run pp rp _
  refine ⟨by rw [hr], fun hg => ?_, fun hg => ?_⟩
  · -- with an interval, the previous call left its own output as the last one
    have hi : (d.smooth x.pose x.vel x.now).2.interval ≠ none := hstate ▸ hgap ▸ hg
    rw [hr, hstate, hsync.lastOutput_smooth _ _ _ hi, hprev]
    rfl
  · -- without an interval there is no last output
    have hnone : (s.stateOf dev).lastOutput = none := by
      have hs := hstate ▸ hsync.smooth x.pose x.vel x.now
      rw [DeviceFilter.Synced, ← hgap, hg] at hs
      simpa using hs
    rw [hr, hnone]
    rfl

/-- The rule at the smallest history with a rate: samples at 0 and 11 ms establish an interval,
and a call at 11 ms again repeats what the second call returned. -/
theorem stale_call_output_after_rate :
    let ops : List Op := [.smooth 0 ⟨Mat4.identity, {}, 0⟩, .smooth 0 ⟨Mat4.identity, {}, 11000000⟩]
    (∀ op ∈ ([] : List Op), op ≠ .reset ∧ ∀ y, op ≠ .smooth 0 y) ∧
    (¬ ∀ t ∈ (historyOf 0 ops).map Sample.now, t < 11000000) ∧
    let s := Smoother.run ⟨⟨1, 0⟩, ⟨1, 0⟩, []⟩ ops
    let prev := ((Smoother.run ⟨⟨1, 0⟩, ⟨1, 0⟩, []⟩ [.smooth 0 ⟨Mat4.identity, {}, 0⟩]).smooth 0
      Mat4.identity {} 11000000).1
    let r := s.smooth 0 Mat4.identity {} 11000000
    let gap := lastLongGap (acceptedTimes ((historyOf 0 ops).map Sample.now))
    r.2 = s ∧ (gap ≠ none → r.1 = prev) ∧ (gap = none → r.1 = Mat4.identity) := by
  have hstale : ¬ ∀ t ∈ (historyOf 0 ([.smooth 0 ⟨Mat4.identity, {}, 0⟩] ++
      .smooth 0 ⟨Mat4.identity, {}, 11000000⟩ :: [])).map Sample.now, t < 11000000 := by
    simp [historyOf, sinceReset]
  exact ⟨by simp, hstale, stale_call_output ⟨1, 0⟩ ⟨1, 0⟩ [.smooth 0 ⟨Mat4.identity, {}, 0⟩] [] 0
    ⟨Mat4.identity, {}, 11000000⟩ (by simp) Mat4.identity {} 11000000 hstale⟩

def shiftedX : Mat4 := ⟨⟨1, 0, 0, 0⟩, ⟨0, 1, 0, 0⟩, ⟨0, 0, 1, 0⟩, ⟨1, 0, 0, 1⟩⟩

/-- Right after a device's first sample, which returns its pose, a call at the same time with
another pose returns that other pose, not what the first call returned. -/
theorem stale_after_first_sample :
    let first := (Smoother.ofConfig {}).smooth 0 Mat4.identity {} 0
    let second := first.2.smooth 0 shiftedX {} 0
    first.1 = Mat4.identity ∧ second.1 = shiftedX ∧ second.1 ≠ first.1 := by
  intro first second
  have hfirst : first.1 = Mat4.identity := rfl
  have hsecond : second.1 = shiftedX := rfl
  refine ⟨hfirst, hsecond, ?_⟩
  rw [hfirst, hsecond]
  -- the two matrices differ in their shift along X
  intro h
  have hx : (1 : Float32) = 0 := congrArg (fun m : Mat4 => m.c3.x) h
  exact absurd hx (by decide)

end XrLayer.Smoothing
