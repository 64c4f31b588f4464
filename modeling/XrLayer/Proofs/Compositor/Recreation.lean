import Mathlib
import XrLayer.Proofs.Compositor.Lifetime
/-!
When a submission recreates an eye's swapchain.

The state of an eye's slot says in advance what a submission does to the runtime's swapchains:
nothing when the eye is bound, one creation when it holds none, and the destruction of its
swapchain followed by one creation when it is stale. In a reachable state an eye is bound exactly
when its descriptor is the one built for the texture and colour space, and that descriptor
depends only on the texture's size, mip count and resolved format. Over a run of successful
submissions the creations for an eye are therefore counted by the changes of that key
(`changesFrom`). Main statement: `slotState_predicts_recreation`.
-/
namespace XrLayer.Compositor

variable {W C T : Type}

section Key

variable {src src' : TextureDesc} {cs cs' : ColorSpace}

theorem forSource_eq_iff :
    SwapchainDesc.forSource src cs = .forSource src' cs' ↔
      src.width = src'.width ∧ src.height = src'.height ∧ src.mipLevels = src'.mipLevels ∧
        src.format.resolve cs = src'.format.resolve cs' := by
  simp [SwapchainDesc.forSource, SwapchainDesc.mk.injEq]

/-- A swapchain built for one texture takes another exactly when it would have been built the
same for it. -/
theorem fits_forSource :
    src.fits (.forSource src' cs') cs = true ↔
      SwapchainDesc.forSource src cs = .forSource src' cs' := by
  simp [TextureDesc.fits, SwapchainDesc.forSource, and_assoc]

theorem TextureFormat.resolve_gamma_eq_linear (f : TextureFormat) :
    f.resolve .gamma = f.resolve .linear := by
  simp [TextureFormat.resolve]

theorem TextureFormat.resolve_srgb_twins (cs : ColorSpace) :
    rgba8Srgb.resolve cs = rgba8.resolve cs ∧ bgra8Srgb.resolve cs = bgra8.resolve cs ∧
      bgrx8Srgb.resolve cs = bgrx8.resolve cs := by
  cases cs <;> decide

end Key

namespace Synchronizer

section SlotState

variable {s s' : Synchronizer (Tagged C)} {log : List Call} {e : Eye}
  {src src' : TextureDesc} {cs cs' : ColorSpace}

/-- The slot state reads a texture only through the descriptor built for it. -/
theorem slotState_congr (h : SwapchainDesc.forSource src cs = .forSource src' cs') :
    s.slotState e src cs = s.slotState e src' cs' := by
  obtain ⟨hw, hh, hm, hf⟩ := forSource_eq_iff.mp h
  simp [slotState, TextureDesc.fits, hw, hh, hm, hf]

theorem slotState_of_sameBooks (hb : SameBooks s s') :
    s.slotState e src cs = s'.slotState e src cs := by
  obtain ⟨hheld, hdesc⟩ := hb e
  simp only [held] at hheld
  simp only [slotState, hdesc]
  -- the slot state sees only whether a swapchain is held, which the numbers tell
  rcases (s'.slot e).desc with _ | d <;>
    rcases hc : (s.slot e).chain with _ | h <;> rcases hc' : (s'.slot e).chain with _ | h' <;>
    simp [hc, hc'] at hheld ⊢

/-- In a consistent state the slot state is read off the eye's descriptor alone. -/
theorem Consistent.slotState_eq (hc : Consistent s log) (e : Eye) (src : TextureDesc)
    (cs : ColorSpace) :
    s.slotState e src cs =
      match (s.slot e).desc with
      | none => .uninitialized
      | some d => if d = .forSource src cs then .bound else .stale := by
  rcases hd : (s.slot e).desc with _ | d
  · simp [slotState, hd]
  · obtain ⟨src', cs', rfl⟩ := hc.described e d hd
    -- a descriptor comes with a swapchain
    have hheld : (s.held e).isSome := by rw [hc.paired e, hd]; rfl
    obtain ⟨h, hch⟩ : ∃ h, (s.slot e).chain = some h := by
      simpa [held, Option.isSome_iff_exists] using hheld
    have hfit : src.fits (.forSource src' cs') cs =
        decide (SwapchainDesc.forSource src' cs' = .forSource src cs) := by
      rw [Bool.eq_iff_iff, fits_forSource, decide_eq_true_iff, eq_comm]
    simp [slotState, hch, hd, hfit]

theorem Consistent.bound_iff (hc : Consistent s log) (e : Eye) (src : TextureDesc)
    (cs : ColorSpace) :
    s.slotState e src cs = .bound ↔ (s.slot e).desc = some (.forSource src cs) := by
  rw [hc.slotState_eq]
  rcases (s.slot e).desc with _ | d
  · simp
  · by_cases hd : d = .forSource src cs <;> simp [hd]

theorem slotState_stale_held (h : s.slotState e src cs = .stale) : ∃ n, s.held e = some n := by
  rcases hch : (s.slot e).chain with _ | c
  · simp [slotState, hch] at h
  · exact ⟨c.id, by simp [held, hch]⟩

theorem Consistent.uninitialized_unheld (hc : Consistent s log)
    (h : s.slotState e src cs = .uninitialized) : s.held e = none := by
  rw [hc.slotState_eq] at h
  rcases hd : (s.slot e).desc with _ | d
  · simpa [hd] using hc.paired e
  · rw [hd] at h
    by_cases hk : d = .forSource src cs <;> simp [hk] at h

end SlotState

section Calls

variable (b : Backend (StateM W) C T) (s : Synchronizer (Tagged C)) (log : List Call) (w : W)

theorem retired_slot (e : Eye) :
    retired (s.slot e).chain = ((s.held e).map Call.destroy).toList := by
  rcases hch : (s.slot e).chain with _ | h <;> simp [retired, held, hch]

/-- What `ensure` logs when the eye is not bound: the destruction of what the eye holds, then
one creation. -/
theorem ensure_log_of_ne_bound {e : Eye} {src : TextureDesc} {cs : ColorSpace}
    (h : s.slotState e src cs ≠ .bound) :
    ∃ id, (exec (ensure b.tagged e src cs) s log w).1.2 =
      log ++ ((s.held e).map Call.destroy).toList ++ [.create e (.forSource src cs) id] := by
  obtain ⟨id, hlog⟩ := ensure_log_renew b e src cs s log w h
  exact ⟨id, by rw [hlog, retired_slot]⟩

theorem ensure_slot_of_ne {e e' : Eye} (src : TextureDesc) (cs : ColorSpace) (he : e' ≠ e) :
    (exec (ensure b.tagged e src cs) s log w).1.1.2.slot e' = s.slot e' := by
  by_cases hb : s.slotState e src cs = .bound
  · rw [exec_ensure_bound b e src cs s log w hb]
  · obtain ⟨w', ⟨c, h⟩ | ⟨err, h⟩⟩ := exec_ensure_renew b e src cs s log w hb <;>
      simp [h, slot_modifySlot_of_ne _ _ _ he]

theorem Consistent.ensure_ok_desc {s : Synchronizer (Tagged C)} {log : List Call}
    (hc : Consistent s log) {e : Eye} {src : TextureDesc} {cs : ColorSpace}
    (h : (exec (ensure b.tagged e src cs) s log w).1.1.1 = .ok ()) :
    ((exec (ensure b.tagged e src cs) s log w).1.1.2.slot e).desc = some (.forSource src cs) := by
  by_cases hb : s.slotState e src cs = .bound
  · rw [exec_ensure_bound b e src cs s log w hb]
    exact (hc.bound_iff e src cs).mp hb
  · obtain ⟨w', ⟨c, hok⟩ | ⟨err, herr⟩⟩ := exec_ensure_renew b e src cs s log w hb
    · simp [hok]
    · rw [herr] at h
      cases h

/-- The slot state predicts what a submission logs: one creation when the eye holds nothing,
nothing when it is bound, and when it is stale the destruction of its swapchain followed by one
creation. -/
theorem Consistent.invoke_calls {s : Synchronizer (Tagged C)} {log : List Call}
    (hc : Consistent s log) (e : Eye) (t : T) (cs : ColorSpace) (bnd : Option Bounds) :
    let src := b.describe t
    let log' := (exec (invoke b.tagged e t cs bnd) s log w).1.2
    (s.slotState e src cs = .uninitialized →
      ∃ id, log' = log ++ [.create e (.forSource src cs) id]) ∧
    (s.slotState e src cs = .bound → log' = log) ∧
    (s.slotState e src cs = .stale →
      ∃ n id, s.held e = some n ∧
        log' = log ++ [.destroy n, .create e (.forSource src cs) id]) := by
  intro src log'
  have hlog : log' = (exec (ensure b.tagged e src cs) s log w).1.2 := invoke_log ..
  refine ⟨fun hu => ?_, fun hb => ?_, fun hst => ?_⟩
  · obtain ⟨id, h⟩ := ensure_log_of_ne_bound b s log w (by rw [hu]; decide)
    exact ⟨id, by simpa [hlog, hc.uninitialized_unheld hu] using h⟩
  · rw [hlog, exec_ensure_bound b e src cs s log w hb]
  · obtain ⟨id, h⟩ := ensure_log_of_ne_bound b s log w (by rw [hst]; decide)
    obtain ⟨n, hn⟩ := slotState_stale_held hst
    exact ⟨n, id, hn, by simpa [hlog, hn] using h⟩

/-- A submission on one eye leaves the other eye's slot state as it was. -/
theorem invoke_slotState_of_ne {e e' : Eye} (t : T) (cs : ColorSpace) (bnd : Option Bounds)
    (he : e' ≠ e) (src : TextureDesc) (cs' : ColorSpace) :
    (exec (invoke b.tagged e t cs bnd) s log w).1.1.2.slotState e' src cs' =
      s.slotState e' src cs' := by
  rw [slotState_of_sameBooks (invoke_sameBooks b e t cs bnd s log w)]
  simp only [slotState, ensure_slot_of_ne b s log w _ cs he]

end Calls

section Runs

structure Submission (T : Type) where
  eye : Eye
  texture : T
  cs : ColorSpace
  bounds : Option Bounds

def submitAll {m : Type → Type} [Monad m] (b : Backend m C T) (us : List (Submission T)) :
    Step m C (List EyeLayer) :=
  us.mapM fun u => invoke b u.eye u.texture u.cs u.bounds

theorem submitAll_cons {m : Type → Type} [Monad m] [LawfulMonad m] (b : Backend m C T)
    (u : Submission T) (us : List (Submission T)) :
    submitAll b (u :: us) =
      invoke b u.eye u.texture u.cs u.bounds >>= fun l =>
        submitAll b us >>= fun ls => pure (l :: ls) := by
  simp [submitAll]

def keysFor {m : Type → Type} (b : Backend m C T) (e : Eye) (us : List (Submission T)) :
    List SwapchainDesc :=
  (us.filter (·.eye = e)).map fun u => .forSource (b.describe u.texture) u.cs

/-- The swapchains a run of descriptors needs after one made for `prev`: one for each descriptor
that differs from the one before it. From `none`, this is one for the first descriptor and one
for each later descriptor that differs from its predecessor. -/
def changesFrom : Option SwapchainDesc → List SwapchainDesc → Nat
  | _, [] => 0
  | prev, d :: ds => (if prev = some d then 0 else 1) + changesFrom (some d) ds

def Call.createdFor : Call → Option Eye
  | .create e _ _ => some e
  | .destroy _ => none

def creations (e : Eye) (log : List Call) : Nat := (log.filterMap Call.createdFor).count e

@[simp] theorem creations_append (e : Eye) (log log' : List Call) :
    creations e (log ++ log') = creations e log + creations e log' := by
  simp [creations]

@[simp] theorem creations_nil (e : Eye) : creations e [] = 0 := rfl

@[simp] theorem creations_cons_create (e e' : Eye) (d : SwapchainDesc) (id : Option Nat)
    (log : List Call) :
    creations e (.create e' d id :: log) = (if e' = e then 1 else 0) + creations e log := by
  by_cases he : e' = e <;> simp [creations, Call.createdFor, he]; omega

@[simp] theorem creations_cons_destroy (e : Eye) (n : Nat) (log : List Call) :
    creations e (.destroy n :: log) = creations e log := rfl

variable (b : Backend (StateM W) C T)

theorem ensure_creations (e e' : Eye) (src : TextureDesc) (cs : ColorSpace)
    (s : Synchronizer (Tagged C)) (log : List Call) (w : W) :
    creations e' (exec (ensure b.tagged e src cs) s log w).1.2 =
      creations e' log + if e = e' ∧ s.slotState e src cs ≠ .bound then 1 else 0 := by
  by_cases hb : s.slotState e src cs = .bound
  · simp [exec_ensure_bound b e src cs s log w hb, hb]
  · obtain ⟨id, hlog⟩ := ensure_log_of_ne_bound b s log w hb
    -- retiring the old swapchain logs a destruction, never a creation
    rcases hh : s.held e with _ | n <;> simp [hlog, hh, hb]

/-- One successful submission from a consistent state: it creates a swapchain for eye `e'`
exactly when it is on `e'` and finds a different descriptor there, and it leaves `e'` with the
submission's descriptor if it is on `e'`, with its old one otherwise. -/
theorem Consistent.invoke_ok_step {s : Synchronizer (Tagged C)} {log : List Call}
    (hc : Consistent s log) (u : Submission T) (w : W) {r : EyeLayer}
    (h : (exec (invoke b.tagged u.eye u.texture u.cs u.bounds) s log w).1.1.1 = .ok r) (e' : Eye) :
    let key := SwapchainDesc.forSource (b.describe u.texture) u.cs
    creations e' (exec (invoke b.tagged u.eye u.texture u.cs u.bounds) s log w).1.2 =
        creations e' log + (if u.eye = e' ∧ (s.slot e').desc ≠ some key then 1 else 0) ∧
      ((exec (invoke b.tagged u.eye u.texture u.cs u.bounds) s log w).1.1.2.slot e').desc =
        if u.eye = e' then some key else (s.slot e').desc := by
  intro key
  have hens := ensure_ok_of_invoke_ok b u.eye u.texture u.cs u.bounds s log w h
  have hdesc := (invoke_sameBooks b u.eye u.texture u.cs u.bounds s log w e').2
  -- both the count and the descriptor are `ensure`'s: the rest of a submission keeps them
  rw [invoke_log, ensure_creations, hdesc]
  by_cases he : u.eye = e'
  · subst he
    simp [hc.bound_iff, hc.ensure_ok_desc b w hens, key]
  · simp [he, ensure_slot_of_ne b s log w _ _ (Ne.symm he)]

theorem exec_submitAll_cons_ok (u : Submission T) (us : List (Submission T))
    {s s' : Synchronizer (Tagged C)} {log log' : List Call} {w w' : W} {ls : List EyeLayer}
    (h : exec (submitAll b.tagged (u :: us)) s log w = (((.ok ls, s'), log'), w')) :
    ∃ l ls', (exec (invoke b.tagged u.eye u.texture u.cs u.bounds) s log w).1.1.1 = .ok l ∧
      exec (submitAll b.tagged us)
        (exec (invoke b.tagged u.eye u.texture u.cs u.bounds) s log w).1.1.2
        (exec (invoke b.tagged u.eye u.texture u.cs u.bounds) s log w).1.2
        (exec (invoke b.tagged u.eye u.texture u.cs u.bounds) s log w).2 =
        (((.ok ls', s'), log'), w') := by
  simp only [submitAll_cons, exec_bind] at h
  rcases hI : exec (invoke b.tagged u.eye u.texture u.cs u.bounds) s log w with
    ⟨⟨⟨err | l, s₁⟩, log₁⟩, w₁⟩
  · -- a refused head fails the whole run
    rw [hI] at h
    cases h
  rw [hI] at h
  simp only at h
  rcases hR : exec (submitAll b.tagged us) s₁ log₁ w₁ with ⟨⟨⟨err | ls', s₂⟩, log₂⟩, w₂⟩
  · rw [hR] at h
    cases h
  · rw [hR] at h
    obtain ⟨⟨⟨-, rfl⟩, rfl⟩, rfl⟩ := by simpa using h
    exact ⟨l, ls', rfl, rfl⟩

/-- Over a successful run of submissions from a consistent state, the creations for each eye
are counted by the changes in the descriptors asked of it, starting from the one it holds. -/
theorem Consistent.creations_submitAll (e : Eye) (us : List (Submission T)) :
    ∀ {s s' : Synchronizer (Tagged C)} {log log' : List Call} {w w' : W} {ls : List EyeLayer},
      Consistent s log →
      exec (submitAll b.tagged us) s log w = (((.ok ls, s'), log'), w') →
      creations e log' = creations e log + changesFrom (s.slot e).desc (keysFor b e us) := by
  -- induction on the run; the consistency of each intermediate state carries it
  induction us with
  | nil =>
    intro s s' log log' w w' ls _ h
    obtain ⟨⟨⟨-, -⟩, rfl⟩, -⟩ := by simpa [submitAll] using h
    simp [keysFor, changesFrom]
  | cons u us ih =>
    intro s s' log log' w w' ls hc h
    obtain ⟨l, ls', hok, hrest⟩ := exec_submitAll_cons_ok b u us h
    obtain ⟨hcount, hdesc⟩ := hc.invoke_ok_step b u w hok e
    have hc₁ := consistent_invoke b hc u.eye u.texture u.cs u.bounds w
    rw [ih hc₁ hrest, hcount, hdesc]
    by_cases he : u.eye = e
    · simp [keysFor, he, changesFrom, Nat.add_assoc]
    · simp [keysFor, he]

end Runs

/-- The rules by which a synchronizer on the logged backend `b`, in state `s` with log `log`,
recreates swapchains. -/
structure RecreationRules (b : Backend (StateM W) C T) (s : Synchronizer (Tagged C))
    (log : List Call) : Prop where
  /-- The slot state predicts the calls of the next submission, whatever its bounds. -/
  predicts : ∀ e t cs bnd (w : W),
    let src := b.describe t
    let log' := (exec (invoke b.tagged e t cs bnd) s log w).1.2
    (s.slotState e src cs = .uninitialized →
      ∃ id, log' = log ++ [.create e (.forSource src cs) id]) ∧
    (s.slotState e src cs = .bound → log' = log) ∧
    (s.slotState e src cs = .stale →
      ∃ n id, s.held e = some n ∧ log' = log ++ [.destroy n, .create e (.forSource src cs) id])
  /-- An eye is bound exactly when it holds the descriptor built for the texture. -/
  bound_iff : ∀ e src cs,
    s.slotState e src cs = .bound ↔ (s.slot e).desc = some (.forSource src cs)
  /-- That descriptor is fixed by the width, height, mip count and resolved format. -/
  key_iff : ∀ src cs src' cs', SwapchainDesc.forSource src cs = .forSource src' cs' ↔
    src.width = src'.width ∧ src.height = src'.height ∧ src.mipLevels = src'.mipLevels ∧
      src.format.resolve cs = src'.format.resolve cs'
  /-- Nothing else of the texture matters, its array size included. -/
  key_only : ∀ e src cs src' cs', SwapchainDesc.forSource src cs = .forSource src' cs' →
    s.slotState e src cs = s.slotState e src' cs'
  /-- A submission on one eye changes nothing for the other. -/
  other_eye : ∀ e e' t cs bnd (w : W) src' cs', e' ≠ e →
    (exec (invoke b.tagged e t cs bnd) s log w).1.1.2.slotState e' src' cs' =
      s.slotState e' src' cs'
  /-- Over a successful run, each eye gets one swapchain for each descriptor asked of it that
  differs from the one before, starting from the one it holds. -/
  run_creations : ∀ us (w : W) ls s' log' (w' : W),
    exec (submitAll b.tagged us) s log w = (((.ok ls, s'), log'), w') →
    ∀ e, creations e log' = creations e log + changesFrom (s.slot e).desc (keysFor b e us)
  /-- Gamma and linear textures share swapchains. -/
  gamma_linear : ∀ e src, s.slotState e src .gamma = s.slotState e src .linear
  /-- So do a format and its sRGB twin. -/
  srgb_twins : ∀ e (src : TextureDesc) cs,
    s.slotState e { src with format := .rgba8Srgb } cs =
        s.slotState e { src with format := .rgba8 } cs ∧
      s.slotState e { src with format := .bgra8Srgb } cs =
        s.slotState e { src with format := .bgra8 } cs ∧
      s.slotState e { src with format := .bgrx8Srgb } cs =
        s.slotState e { src with format := .bgrx8 } cs

/-- Every state a synchronizer on the logged backend can reach recreates swapchains by the
rules: its slot states predict each submission's creations and destructions, an eye is bound
exactly when it holds the descriptor built for the texture, and over a successful run the
creations for an eye follow the changes of width, height, mip count and resolved format. -/
theorem slotState_predicts_recreation (b : Backend (StateM W) C T) {s : Synchronizer (Tagged C)}
    {log : List Call} (hr : Reachable b s log) : RecreationRules b s log := by
  have hc := hr.consistent
  refine ⟨fun e t cs bnd w => hc.invoke_calls b w e t cs bnd, hc.bound_iff,
    fun _ _ _ _ => forSource_eq_iff, fun _ _ _ _ _ => slotState_congr,
    fun e e' t cs bnd w src' cs' he => invoke_slotState_of_ne b s log w t cs bnd he src' cs',
    fun us w ls s' log' w' h e => hc.creations_submitAll b e us h, ?_, ?_⟩
  · intro e src
    apply slotState_congr
    rw [forSource_eq_iff]
    exact ⟨rfl, rfl, rfl, TextureFormat.resolve_gamma_eq_linear _⟩
  · intro e src cs
    obtain ⟨hrgba, hbgra, hbgrx⟩ := TextureFormat.resolve_srgb_twins cs
    refine ⟨slotState_congr ?_, slotState_congr ?_, slotState_congr ?_⟩ <;>
      simp [forSource_eq_iff, hrgba, hbgra, hbgrx]

end Synchronizer

/-- The rules hold after a first submission of a 64 × 64 gamma texture for the left eye, on the
simulated runtime and device. -/
theorem recreation_rules_simulated :
    let tex : SimTexture := ⟨1, { width := 64, height := 64 }⟩
    let first := Synchronizer.exec
      (Synchronizer.invoke Simulation.backend.tagged .left tex .gamma none) {} [] {}
    Synchronizer.Reachable Simulation.backend first.1.1.2 first.1.2 ∧
      Synchronizer.RecreationRules Simulation.backend first.1.1.2 first.1.2 := by
  have hr := Synchronizer.Reachable.invoke (b := Simulation.backend) .left
    (⟨1, { width := 64, height := 64 }⟩ : SimTexture) .gamma none ({} : Simulation) .init
  exact ⟨hr, Synchronizer.slotState_predicts_recreation Simulation.backend hr⟩

end XrLayer.Compositor
