import Mathlib
import XrLayer.Smoothing.Smoother
/-!
Pose smoothing over whole histories of calls.

A smoother keeps one state per device, so each device sees only its own calls: after any
interleaving of calls and resets, the state of a device is its own samples since the last reset
run through the per-device step from a fresh state. Read against that history, a sample is
taken exactly when its time is later than every earlier one, and a sample not taken changes
nothing. A taken sample passes through while no gap between taken samples has exceeded the timer
noise, and otherwise steps every filter once at the rate of the latest long gap. Main statement:
`smoother_history`.
-/
namespace XrLayer.Smoothing

open Linear

/-- One sample of a device: its pose, its velocity, and its time in nanoseconds. -/
structure Sample where
  pose : Mat4
  vel : Velocity
  now : Nat

inductive Op where
  | smooth (device : Nat) (x : Sample)
  | reset

section Times

/-- The times that move a device's clock forward, each strictly later than every time before
it, among the times `ts` that follow the times `earlier`. -/
def acceptedAfter (earlier : List Nat) : List Nat → List Nat
  | [] => []
  | t :: ts => (if ∀ u ∈ earlier, u < t then [t] else []) ++ acceptedAfter (earlier ++ [t]) ts

def acceptedTimes (ts : List Nat) : List Nat := acceptedAfter [] ts

def gaps : List Nat → List Nat
  | a :: b :: rest => (b - a) :: gaps (b :: rest)
  | _ => []

/-- The most recent gap longer than the timer noise. -/
def lastLongGap (ts : List Nat) : Option Nat :=
  ((gaps ts).filter (· > minFrameInterval)).getLast?

theorem acceptedAfter_snoc (earlier ts : List Nat) (t : Nat) :
    acceptedAfter earlier (ts ++ [t]) =
      acceptedAfter earlier ts ++ if ∀ u ∈ earlier ++ ts, u < t then [t] else [] := by
  induction ts generalizing earlier with
  | nil => simp [acceptedAfter]
  | cons t' ts ih =>
    simp only [acceptedAfter, List.cons_append, ih, List.append_assoc, List.nil_append]

theorem acceptedTimes_snoc (ts : List Nat) (t : Nat) :
    acceptedTimes (ts ++ [t]) = acceptedTimes ts ++ if ∀ u ∈ ts, u < t then [t] else [] := by
  simp [acceptedTimes, acceptedAfter_snoc]

theorem mem_of_mem_acceptedAfter {earlier ts : List Nat} {t : Nat}
    (h : t ∈ acceptedAfter earlier ts) : t ∈ ts := by
  induction ts generalizing earlier with
  | nil => simp [acceptedAfter] at h
  | cons t' ts ih =>
    simp only [acceptedAfter, List.mem_append] at h
    rcases h with h | h
    · split at h <;> simp_all
    · exact List.mem_cons_of_mem _ (ih h)

theorem acceptedTimes_eq_nil {ts : List Nat} : acceptedTimes ts = [] ↔ ts = [] := by
  cases ts <;> simp [acceptedTimes, acceptedAfter]

theorem gaps_snoc (ts : List Nat) (t : Nat) :
    gaps (ts ++ [t]) = gaps ts ++ (ts.getLast?.map (t - ·)).toList := by
  induction ts with
  | nil => rfl
  | cons a ts ih =>
    cases ts with
    | nil => rfl
    | cons b rest =>
      simp only [List.cons_append] at ih ⊢
      simp [gaps, ih]

theorem lastLongGap_snoc {ts : List Nat} {a : Nat} (h : ts.getLast? = some a) (t : Nat) :
    lastLongGap (ts ++ [t]) =
      if t - a > minFrameInterval then some (t - a) else lastLongGap ts := by
  by_cases hgap : t - a > minFrameInterval <;> simp [lastLongGap, gaps_snoc, h, hgap]

example : acceptedTimes [5, 3, 9, 9, 12] = [5, 9, 12] := by decide
example : lastLongGap (acceptedTimes [0, 5000000, 4000000, 6000000, 7000000]) = some 5000000 := by
  decide

end Times

namespace DeviceFilter

def run (d : DeviceFilter) (h : List Sample) : DeviceFilter :=
  h.foldl (fun d x => (d.smooth x.pose x.vel x.now).2) d

@[simp] theorem run_nil (d : DeviceFilter) : d.run [] = d := rfl

@[simp] theorem run_snoc (d : DeviceFilter) (h : List Sample) (x : Sample) :
    d.run (h ++ [x]) = ((d.run h).smooth x.pose x.vel x.now).2 := by
  simp [run, List.foldl_append]

section Accept

variable (d : DeviceFilter) (pose : Mat4) (vel : Velocity) (now : Nat)

@[simp] theorem accept_lastSample (iv : Option Nat) :
    (d.accept pose vel now iv).2.lastSample = some now := by
  cases iv <;> rfl

@[simp] theorem accept_interval (iv : Option Nat) :
    (d.accept pose vel now iv).2.interval = iv := by
  cases iv <;> rfl

theorem accept_none :
    d.accept pose vel now none = (pose, { d with lastSample := some now, interval := none }) :=
  rfl

theorem accept_some (δ : Nat) :
    d.accept pose vel now (some δ) =
      let position := (d.position.setRate (1 / seconds δ)).step pose.decompose.2.2 vel.linear
      let rotation := { d.rotation with rate := 1 / seconds δ }.step pose.decompose.2.1 vel.angular
      (Mat4.rigid rotation.1 position.1,
        { d with lastSample := some now, interval := some δ, position := position.2,
                 rotation := rotation.2, lastOutput := some (Mat4.rigid rotation.1 position.1) }) :=
  rfl

end Accept

/-- What a device's state knows of its history of times `ts`: its last sample is the latest
accepted time, no time of the history is later, and its interval is the latest long gap between
accepted times. -/
structure Tracks (d : DeviceFilter) (ts : List Nat) : Prop where
  last : d.lastSample = (acceptedTimes ts).getLast?
  interval : d.interval = lastLongGap (acceptedTimes ts)
  latest : ∀ t ∈ ts, ∀ l ∈ d.lastSample, t ≤ l

theorem tracks_new (pp rp : Params) : Tracks (new pp rp) [] := ⟨rfl, rfl, by simp⟩

variable {d : DeviceFilter} {ts : List Nat}

theorem Tracks.nil_of_unsampled (h : Tracks d ts) (hl : d.lastSample = none) : ts = [] := by
  have hlast := h.last
  rw [hl, eq_comm, List.getLast?_eq_none_iff, acceptedTimes_eq_nil] at hlast
  exact hlast

theorem Tracks.mem_of_last (h : Tracks d ts) {l : Nat} (hl : d.lastSample = some l) : l ∈ ts := by
  have hacc : (acceptedTimes ts).getLast? = some l := h.last ▸ hl
  exact mem_of_mem_acceptedAfter (List.mem_of_getLast? hacc)

/-- The step of a device read against its history: a sample later than every earlier one is
taken with the interval the history gives; any other sample changes nothing. -/
theorem Tracks.smooth_eq (h : Tracks d ts) (pose : Mat4) (vel : Velocity) (now : Nat) :
    d.smooth pose vel now =
      if ∀ t ∈ ts, t < now then
        d.accept pose vel now (lastLongGap (acceptedTimes (ts ++ [now])))
      else (d.lastOutput.getD pose, d) := by
  rcases hl : d.lastSample with _ | l
  · -- no sample yet, so the history is empty
    obtain rfl := h.nil_of_unsampled hl
    simp [DeviceFilter.smooth, hl, h.interval, acceptedTimes, acceptedAfter, lastLongGap, gaps]
  · have hmem := h.mem_of_last hl
    by_cases hnow : now ≤ l
    · -- the last sample is a time of the history no earlier than `now`
      have hnot : ¬ ∀ t ∈ ts, t < now := fun hall => absurd (hall l hmem) (by omega)
      simp [DeviceFilter.smooth, hl, hnow, hnot]
    · have hall : ∀ t ∈ ts, t < now := fun t ht => by
        have := h.latest t ht l (by simp [hl])
        omega
      have hacc : (acceptedTimes ts).getLast? = some l := h.last ▸ hl
      rw [if_pos hall, acceptedTimes_snoc, if_pos hall, lastLongGap_snoc hacc, ← h.interval]
      simp [DeviceFilter.smooth, hl, hnow]

/-- One sample keeps what the state knows of its history. -/
theorem Tracks.smooth (h : Tracks d ts) (pose : Mat4) (vel : Velocity) (now : Nat) :
    Tracks (d.smooth pose vel now).2 (ts ++ [now]) := by
  rw [h.smooth_eq]
  by_cases hall : ∀ t ∈ ts, t < now
  · -- taken: the new time is the latest accepted one
    rw [if_pos hall]
    refine ⟨by rw [acceptedTimes_snoc, if_pos hall]; simp, by simp, ?_⟩
    intro t ht l hl
    simp only [accept_lastSample, Option.mem_def, Option.some.injEq] at hl
    rcases List.mem_append.mp ht with ht | ht
    · exact hl ▸ (hall t ht).le
    · simp_all
  · -- refused: nothing changes, and the new time is no later than the last sample
    rw [if_neg hall]
    obtain ⟨t, ht, hle⟩ : ∃ t ∈ ts, now ≤ t := by simpa using hall
    refine ⟨by simp [acceptedTimes_snoc, hall, h.last], by simp [acceptedTimes_snoc, hall,
      h.interval], ?_⟩
    intro u hu l hl
    rcases List.mem_append.mp hu with hu | hu
    · exact h.latest u hu l hl
    · have := h.latest t ht l hl
      simp only [List.mem_singleton] at hu
      omega

/-- Every history run from a fresh state is known to the state. -/
theorem tracks_run (pp rp : Params) (h : List Sample) :
    Tracks ((new pp rp).run h) (h.map Sample.now) := by
  -- a history is run oldest first, so the induction adds its samples at the end
  induction h using List.reverseRecOn with
  | nil => exact tracks_new pp rp
  | append_singleton h x ih => simpa using ih.smooth x.pose x.vel x.now

end DeviceFilter

namespace Smoother

section Store

variable (s : Smoother) (dev : Nat) (d : DeviceFilter)

@[simp] theorem store_positionParams : (s.store dev d).positionParams = s.positionParams := by
  unfold store; split <;> rfl

@[simp] theorem store_rotationParams : (s.store dev d).rotationParams = s.rotationParams := by
  unfold store; split <;> rfl

theorem any_key_iff :
    (s.devices.any fun e => e.1 == dev) = true ↔ dev ∈ s.devices.map Prod.fst := by
  simp only [List.any_eq_true, beq_iff_eq, List.mem_map]

theorem lookup_map_replace (l : List (Nat × DeviceFilter)) (k : Nat) :
    (l.map fun e => if e.1 = dev then (dev, d) else e).lookup k =
      if k = dev then (if dev ∈ l.map Prod.fst then some d else none) else l.lookup k := by
  induction l with
  | nil => simp
  | cons e l ih =>
    obtain ⟨k', v⟩ := e
    by_cases hk : k = k'
    · subst hk
      by_cases hkd : k = dev <;> simp [hkd]
    · -- an entry for another key is kept and skipped
      have hb : (k == k') = false := by simpa using hk
      by_cases hk' : k' = dev
      · subst hk'
        simp [List.lookup_cons, hb, hk, ih]
      · simp only [List.map_cons, hk', if_false, List.lookup_cons, hb, ih, List.mem_cons,
          Ne.symm hk', false_or]

/-- Storing the state of a device changes what is found for that device only. -/
theorem lookup_store (k : Nat) :
    (s.store dev d).devices.lookup k = if k = dev then some d else s.devices.lookup k := by
  unfold store
  split
  · rename_i hany
    simp [lookup_map_replace, (any_key_iff s dev).mp hany]
  · rename_i hany
    have hnone : s.devices.lookup dev = none := by
      rw [List.lookup_eq_none_iff]
      intro p hp
      have : p.1 ≠ dev := fun h => hany ((any_key_iff s dev).mpr (h ▸ List.mem_map_of_mem hp))
      exact bne_iff_ne.mpr (Ne.symm this)
    by_cases hk : k = dev
    · subst hk
      simp [List.lookup_append, hnone]
    · have hb : (k == dev) = false := by simpa using hk
      simp [List.lookup_append, List.lookup_cons, hk, hb]

theorem stateOf_store (k : Nat) :
    (s.store dev d).stateOf k = if k = dev then d else s.stateOf k := by
  by_cases hk : k = dev <;> simp [stateOf, lookup_store, hk]

theorem keys_store :
    (s.store dev d).devices.map Prod.fst =
      if dev ∈ s.devices.map Prod.fst then s.devices.map Prod.fst
      else s.devices.map Prod.fst ++ [dev] := by
  unfold store
  split
  · rename_i hany
    rw [if_pos ((any_key_iff s dev).mp hany), List.map_map]
    -- replacing an entry keeps its key
    congr 1
    funext e
    by_cases he : e.1 = dev <;> simp [he]
  · rename_i hany
    rw [if_neg (fun h => hany ((any_key_iff s dev).mpr h))]
    simp

theorem lookup_of_sampled {k : Nat} (h : (s.stateOf k).lastSample ≠ none) :
    s.devices.lookup k = some (s.stateOf k) := by
  unfold stateOf at h ⊢
  rcases hl : s.devices.lookup k with _ | e
  · simp [hl, DeviceFilter.new] at h
  · rfl

theorem lookup_of_mem {l : List (Nat × DeviceFilter)} (hnd : (l.map Prod.fst).Nodup) {k : Nat}
    {v : DeviceFilter} (h : (k, v) ∈ l) : l.lookup k = some v := by
  induction l with
  | nil => simp at h
  | cons e l ih =>
    obtain ⟨k', v'⟩ := e
    simp only [List.map_cons, List.nodup_cons, List.mem_map] at hnd
    rcases List.mem_cons.mp h with h | h
    · simp_all
    · -- the key of the head is not `k`, which the tail holds
      have hk : k ≠ k' := fun hk => hnd.1 ⟨(k, v), h, hk⟩
      have hb : (k == k') = false := by simpa using hk
      simp [List.lookup_cons, hb, ih hnd.2 h]

theorem store_stateOf (hnd : (s.devices.map Prod.fst).Nodup) {d : DeviceFilter}
    (h : s.devices.lookup dev = some d) : s.store dev d = s := by
  have hmem : dev ∈ s.devices.map Prod.fst := by
    obtain ⟨l₁, l₂, heq, -⟩ := List.lookup_eq_some_iff.mp h
    simp [heq]
  have hsame : (s.devices.map fun e => if e.1 == dev then (dev, d) else e) = s.devices := by
    conv => rhs; rw [← List.map_id s.devices]
    apply List.map_congr_left
    intro e he
    by_cases hk : e.1 = dev
    · -- the one entry for `dev` is the one looked up
      have hv : s.devices.lookup e.1 = some e.2 := lookup_of_mem hnd he
      rw [hk, h, Option.some.injEq] at hv
      simp only [hk, beq_self_eq_true, if_true, id_eq, hv]
      exact Prod.ext hk.symm rfl
    · simp [hk]
  unfold store
  rw [if_pos ((any_key_iff s dev).mpr hmem), hsame]

end Store

def apply (s : Smoother) : Op → Smoother
  | .smooth dev x => (s.smooth dev x.pose x.vel x.now).2
  | .reset => s.reset

def run (s : Smoother) (ops : List Op) : Smoother := ops.foldl apply s

@[simp] theorem run_nil (s : Smoother) : s.run [] = s := rfl

@[simp] theorem run_snoc (s : Smoother) (ops : List Op) (op : Op) :
    s.run (ops ++ [op]) = (s.run ops).apply op := by
  simp [run, List.foldl_append]

theorem smooth_snd (s : Smoother) (dev : Nat) (pose : Mat4) (vel : Velocity) (now : Nat) :
    (s.smooth dev pose vel now).2 = s.store dev ((s.stateOf dev).smooth pose vel now).2 := rfl

@[simp] theorem run_params (s : Smoother) (ops : List Op) :
    (s.run ops).positionParams = s.positionParams ∧
      (s.run ops).rotationParams = s.rotationParams := by
  induction ops using List.reverseRecOn with
  | nil => exact ⟨rfl, rfl⟩
  | append_singleton ops op ih =>
    cases op <;> simp [apply, smooth_snd, reset, ih]

end Smoother

def sinceReset (ops : List Op) : List Op :=
  ops.foldl (fun acc op => match op with
    | .reset => []
    | .smooth dev x => acc ++ [.smooth dev x]) []

def historyOf (dev : Nat) (ops : List Op) : List Sample :=
  (sinceReset ops).filterMap fun
    | .smooth d x => if d = dev then some x else none
    | .reset => none

def passed (ops : List Op) : List Nat :=
  (sinceReset ops).filterMap fun
    | .smooth d _ => some d
    | .reset => none

section Since

variable (ops : List Op) (dev d : Nat) (x : Sample)

@[simp] theorem sinceReset_nil : sinceReset [] = [] := rfl

@[simp] theorem sinceReset_snoc_smooth :
    sinceReset (ops ++ [.smooth d x]) = sinceReset ops ++ [.smooth d x] := by
  simp [sinceReset, List.foldl_append]

@[simp] theorem sinceReset_snoc_reset : sinceReset (ops ++ [.reset]) = [] := by
  simp [sinceReset, List.foldl_append]

@[simp] theorem historyOf_snoc_smooth :
    historyOf dev (ops ++ [.smooth d x]) = historyOf dev ops ++ if d = dev then [x] else [] := by
  by_cases hd : d = dev <;> simp [historyOf, hd]

@[simp] theorem historyOf_snoc_reset : historyOf dev (ops ++ [.reset]) = [] := by
  simp [historyOf]

@[simp] theorem passed_snoc_smooth : passed (ops ++ [.smooth d x]) = passed ops ++ [d] := by
  simp [passed]

@[simp] theorem passed_snoc_reset : passed (ops ++ [.reset]) = [] := by
  simp [passed]

end Since

section Runs

variable (pp rp : Params)

/-- After any calls, a device's state is its own samples since the last reset, run from a fresh
state: calls for other devices leave it alone. -/
theorem stateOf_run (ops : List Op) (dev : Nat) :
    (Smoother.run ⟨pp, rp, []⟩ ops).stateOf dev =
      (DeviceFilter.new pp rp).run (historyOf dev ops) := by
  induction ops using List.reverseRecOn with
  | nil => rfl
  | append_singleton ops op ih =>
    cases op with
    | smooth d x =>
      simp only [Smoother.run_snoc, Smoother.apply, Smoother.smooth_snd, Smoother.stateOf_store,
        historyOf_snoc_smooth]
      -- a call for another device stores its state under another key
      by_cases hd : dev = d
      · subst hd
        simp [ih]
      · simp [hd, Ne.symm hd, ih]
    | reset =>
      simp [Smoother.apply, Smoother.reset, Smoother.stateOf]

/-- The smoother holds one entry for each device passed since the last reset. -/
theorem keys_run (ops : List Op) :
    ((Smoother.run ⟨pp, rp, []⟩ ops).devices.map Prod.fst).Nodup ∧
      ((Smoother.run ⟨pp, rp, []⟩ ops).devices.map Prod.fst).toFinset =
        (passed ops).toFinset := by
  induction ops using List.reverseRecOn with
  | nil => simp [passed, sinceReset]
  | append_singleton ops op ih =>
    cases op with
    | smooth d x =>
      simp only [Smoother.run_snoc, Smoother.apply, Smoother.smooth_snd, Smoother.keys_store,
        passed_snoc_smooth]
      split
      · rename_i hmem
        refine ⟨ih.1, ?_⟩
        rw [ih.2, List.toFinset_append]
        -- `d` was passed already
        have : d ∈ (passed ops).toFinset := ih.2 ▸ List.mem_toFinset.mpr hmem
        simp [Finset.insert_eq_of_mem this]
      · -- a device not seen since the reset gets a new entry at the end
        rename_i hmem
        refine ⟨List.nodup_append.mpr ⟨ih.1, List.nodup_singleton d, ?_⟩, ?_⟩
        · intro a ha b hb hab
          simp only [List.mem_singleton] at hb
          exact hmem (by rw [← hb, ← hab]; exact ha)
        · rw [List.toFinset_append, List.toFinset_append, ih.2]
    | reset => simp [Smoother.apply, Smoother.reset]

end Runs

/-- Pose smoothing over any history of calls and resets from a fresh smoother. The state of a
device is its own samples since the last reset run through the per-device step, and a call for
one device changes nothing for the others. Against the times `ts` given for the device since
the last reset, a call at `now` is refused, changing nothing at all, unless `now` is later than
every one of them. A call that is taken records `now`; while no gap between consecutive taken
times, this one included, exceeds the timer noise, it returns its own pose and leaves the filters
as they were; otherwise it steps the position and rotation filters once each at the rate
`1 / δ` of the latest such gap `δ`. The smoother tracks the distinct devices passed since the
last reset. -/
theorem smoother_history (pp rp : Params) (ops : List Op) (dev : Nat) (pose : Mat4)
    (vel : Velocity) (now : Nat) :
    let s := Smoother.run ⟨pp, rp, []⟩ ops
    let ts := (historyOf dev ops).map Sample.now
    let r := s.smooth dev pose vel now
    s.stateOf dev = (DeviceFilter.new pp rp).run (historyOf dev ops) ∧
    (∀ dev', dev' ≠ dev → r.2.stateOf dev' = s.stateOf dev') ∧
    ((¬ ∀ t ∈ ts, t < now) → r = ((s.stateOf dev).lastOutput.getD pose, s)) ∧
    ((∀ t ∈ ts, t < now) →
      (r.2.stateOf dev).lastSample = some now ∧
      (r.2.stateOf dev).interval = lastLongGap (acceptedTimes (ts ++ [now])) ∧
      (lastLongGap (acceptedTimes (ts ++ [now])) = none →
        r.1 = pose ∧ (r.2.stateOf dev).position = (s.stateOf dev).position ∧
          (r.2.stateOf dev).rotation = (s.stateOf dev).rotation ∧
          (r.2.stateOf dev).lastOutput = (s.stateOf dev).lastOutput) ∧
      ∀ δ, lastLongGap (acceptedTimes (ts ++ [now])) = some δ →
        let position :=
          ((s.stateOf dev).position.setRate (1 / seconds δ)).step pose.decompose.2.2 vel.linear
        let rotation :=
          { (s.stateOf dev).rotation with rate := 1 / seconds δ }.step pose.decompose.2.1
            vel.angular
        r.1 = Mat4.rigid rotation.1 position.1 ∧ (r.2.stateOf dev).position = position.2 ∧
          (r.2.stateOf dev).rotation = rotation.2) ∧
    s.trackedDevices = (passed ops).toFinset.card := by
  intro s ts r
  have hstate := stateOf_run pp rp ops dev
  have htr : DeviceFilter.Tracks (s.stateOf dev) ts :=
    hstate ▸ DeviceFilter.tracks_run pp rp (historyOf dev ops)
  have hkeys := keys_run pp rp ops
  have hr : r = (((s.stateOf dev).smooth pose vel now).1,
      s.store dev ((s.stateOf dev).smooth pose vel now).2) := rfl
  refine ⟨hstate, fun dev' hne => by simp [hr, Smoother.stateOf_store, hne], ?_, ?_, ?_⟩
  · -- refused: the device has a sample, so it has an entry, stored back unchanged
    intro hrej
    rw [hr, htr.smooth_eq, if_neg hrej]
    have hsampled : (s.stateOf dev).lastSample ≠ none := fun hl => hrej (by
      simp [htr.nil_of_unsampled hl])
    rw [Smoother.store_stateOf s dev hkeys.1 (Smoother.lookup_of_sampled s hsampled)]
  · -- taken: the accepted state is stored under `dev`
    intro hall
    rw [hr, htr.smooth_eq, if_pos hall]
    simp only [Smoother.stateOf_store, if_true, DeviceFilter.accept_lastSample,
      DeviceFilter.accept_interval, true_and]
    refine ⟨fun hnone => ?_, fun δ hδ => ?_⟩
    · rw [hnone, DeviceFilter.accept_none]
      exact ⟨rfl, rfl, rfl, rfl⟩
    · rw [hδ, DeviceFilter.accept_some]
      exact ⟨rfl, rfl, rfl⟩
  · -- distinct keys, one per device passed
    rw [Smoother.trackedDevices, ← hkeys.2, List.toFinset_card_of_nodup hkeys.1, List.length_map]

end XrLayer.Smoothing
