import Mathlib
import XrLayer.Proofs.Compositor.Recreation
/-!
Which images a submission acquires and releases.

`Backend.traced` wraps any backend whose effects live in a state monad and logs its image calls
(acquire, image lookup, copy, release) beside the world, each with whether it succeeded; the
other calls pass through. One submission then makes one of four rounds of such calls
(`Round`): none, when it never reaches a swapchain; a refused acquire; an acquire whose image
lookup fails, after which the submission gives up with the image still acquired; or an acquire,
a lookup, a copy and a release, the release made whether the copy failed or not. So an image is
released exactly when both its acquire and its lookup succeeded, and over any run of submissions
the acquires that were never released are exactly the failed lookups (`image_release_rounds`).

On the simulated backend a stranded image blocks its swapchain: the next submission to that eye
is refused at its acquire (`stranded_image_blocks_retry`).
-/
namespace XrLayer.Compositor

/-- A call of the image protocol, with whether the backend accepted it. -/
inductive ImageCall where
  | acquire (ok : Bool)
  | image (ok : Bool)
  | copy (ok : Bool)
  | release (ok : Bool)
deriving DecidableEq

variable {W C T : Type}

/-- The backend `b` with its image calls logged, in order, beside its world. -/
def Backend.traced (b : Backend (StateM W) C T) : Backend (StateM (W × List ImageCall)) C T where
  describe := b.describe
  create eye desc := fun p => ((b.create eye desc).run p.1).map id (·, p.2)
  destroy c := fun p => ((), ((b.destroy c).run p.1).2, p.2)
  acquire c := fun p =>
    ((b.acquire c).run p.1).map id (·, p.2 ++ [.acquire ((b.acquire c).run p.1).1.2.isOk])
  image c i := fun p =>
    ((b.image c i).run p.1).map id (·, p.2 ++ [.image ((b.image c i).run p.1).1.isOk])
  release c := fun p =>
    ((b.release c).run p.1).map id (·, p.2 ++ [.release ((b.release c).run p.1).1.2.isOk])
  copy dst src := fun p =>
    ((b.copy dst src).run p.1).map id (·, p.2 ++ [.copy ((b.copy dst src).run p.1).1.isOk])
  removedReason := fun p => (b.removedReason.run p.1).map id (·, p.2)

section Traced

variable (b : Backend (StateM W) C T) (w : W) (tr : List ImageCall)

@[simp] theorem traced_describe : b.traced.describe = b.describe := rfl

theorem traced_create (e : Eye) (d : SwapchainDesc) :
    (b.traced.create e d).run (w, tr) = (((b.create e d).run w).1, ((b.create e d).run w).2, tr) :=
  rfl

theorem traced_destroy (c : C) :
    (b.traced.destroy c).run (w, tr) = ((), ((b.destroy c).run w).2, tr) := rfl

theorem traced_acquire (c : C) :
    (b.traced.acquire c).run (w, tr) = (((b.acquire c).run w).1, ((b.acquire c).run w).2,
      tr ++ [.acquire ((b.acquire c).run w).1.2.isOk]) := rfl

theorem traced_image (c : C) (i : Nat) :
    (b.traced.image c i).run (w, tr) = (((b.image c i).run w).1, ((b.image c i).run w).2,
      tr ++ [.image ((b.image c i).run w).1.isOk]) := rfl

theorem traced_copy (dst src : T) :
    (b.traced.copy dst src).run (w, tr) = (((b.copy dst src).run w).1,
      ((b.copy dst src).run w).2, tr ++ [.copy ((b.copy dst src).run w).1.isOk]) := rfl

theorem traced_release (c : C) :
    (b.traced.release c).run (w, tr) = (((b.release c).run w).1, ((b.release c).run w).2,
      tr ++ [.release ((b.release c).run w).1.2.isOk]) := rfl

theorem traced_removedReason :
    b.traced.removedReason.run (w, tr) =
      ((b.removedReason.run w).1, (b.removedReason.run w).2, tr) := rfl

end Traced

/-- The image calls one submission can make. -/
inductive Round : List ImageCall → Prop
  /-- No swapchain to acquire from: `ensure` failed. -/
  | idle : Round []
  | refused : Round [.acquire false]
  /-- The image lookup failed and the submission gave up with the image acquired. -/
  | stranded : Round [.acquire true, .image false]
  | complete (copied released : Bool) :
      Round [.acquire true, .image true, .copy copied, .release released]

inductive Rounds : List ImageCall → Prop
  | nil : Rounds []
  | cons {r rest : List ImageCall} : Round r → Rounds rest → Rounds (r ++ rest)

namespace Round

variable {r : List ImageCall}

/-- A round makes a release exactly when its lookup succeeded. -/
theorem releases (h : Round r) :
    r.count (.release true) + r.count (.release false) = r.count (.image true) := by
  cases h with
  | complete copied released => cases released <;> simp
  | _ => simp

/-- A round looks up an image exactly when its acquire succeeded. -/
theorem lookups (h : Round r) :
    r.count (.acquire true) = r.count (.image true) + r.count (.image false) := by
  cases h <;> simp

end Round

namespace Rounds

variable {tr : List ImageCall}

theorem releases (h : Rounds tr) :
    tr.count (.release true) + tr.count (.release false) = tr.count (.image true) := by
  induction h with
  | nil => rfl
  | cons hr _ ih => simp only [List.count_append]; have := hr.releases; omega

theorem lookups (h : Rounds tr) :
    tr.count (.acquire true) = tr.count (.image true) + tr.count (.image false) := by
  induction h with
  | nil => rfl
  | cons hr _ ih => simp only [List.count_append]; have := hr.lookups; omega

end Rounds

namespace Synchronizer

section Trace

variable (b : Backend (StateM W) C T) (s : Synchronizer (Tagged C)) (log : List Call) (w : W)
  (tr : List ImageCall)

/-- Making sure of a swapchain makes no image call. -/
theorem ensure_trace (e : Eye) (src : TextureDesc) (cs : ColorSpace) :
    (exec (ensure b.traced.tagged e src cs) s log (w, tr)).2.2 = tr := by
  by_cases hb : s.slotState e src cs = .bound
  · rw [exec_ensure_bound _ e src cs s log _ hb]
  simp only [ensure, exec_bind, exec_get, beq_iff_eq, hb, if_false]
  -- a held swapchain is destroyed first; neither that nor the creation logs an image call
  rcases hc : (s.slot e).chain with _ | old
  · rcases hcr : (b.create e (.forSource src cs)).run w with ⟨err | c, w'⟩ <;>
      simp [tagged_create, traced_create, hcr]
  · rcases hcr : (b.create e (.forSource src cs)).run ((b.destroy old.chain).run w).2 with
      ⟨err | c, w'⟩ <;> simp [tagged_create, tagged_destroy, traced_create, traced_destroy, hcr]

/-- One submission makes one round of image calls. -/
theorem invoke_round (e : Eye) (t : T) (cs : ColorSpace) (bnd : Option Bounds) :
    ∃ r, Round r ∧ (exec (invoke b.traced.tagged e t cs bnd) s log (w, tr)).2.2 = tr ++ r := by
  have htr := ensure_trace b s log w tr e (b.describe t) cs
  rcases hE : exec (ensure b.traced.tagged e (b.describe t) cs) s log (w, tr) with
    ⟨⟨⟨err | u, s₀⟩, log₀⟩, w₀, tr₀⟩ <;> rw [hE] at htr <;> subst htr
  · rw [exec_invoke_of_ensure_error _ e t cs bnd s log _ (by simpa using hE)]
    exact ⟨[], .idle, by simp⟩
  obtain ⟨hd, hhd⟩ := ensure_ok_holds _ e _ cs s log _ hE
  simp only [invoke, exec_bind, tagged_describe, traced_describe, hE, exec_get, hhd, exec_run,
    tagged_acquire, traced_acquire, keep, exec_modify, exec_call_pure]
  -- from here the calls follow the answers: acquire, then lookup, then copy and release
  rcases ha : (b.acquire hd.chain).run w₀ with ⟨⟨c₁, err | idx⟩, w₁⟩
  · exact ⟨_, .refused, by simp [Except.isOk, Except.toBool]⟩
  simp only [exec_call, tagged_image, traced_image]
  rcases hi : (b.image c₁ idx).run w₁ with ⟨err | img, w₂⟩
  · exact ⟨_, .stranded, by simp [Except.isOk, Except.toBool]⟩
  simp only [tagged_copy, traced_copy, tagged_release, traced_release, modifySlot_modifySlot]
  rcases hcp : (b.copy img t).run w₂ with ⟨copied, w₃⟩
  rcases hrl : (b.release c₁).run w₃ with ⟨⟨c₂, released⟩, w₄⟩
  rcases copied with err | u
  · simp only [exec_bind, exec_run, tagged_removedReason, traced_removedReason, exec_throw]
    exact ⟨_, .complete false released.isOk, by simp [Except.isOk, Except.toBool]⟩
  rcases released with err | u
  · simp only [exec_bind, exec_call_pure]
    exact ⟨_, .complete true false, by simp [Except.isOk, Except.toBool]⟩
  · simp only [exec_bind, exec_call_pure, exec_modify, exec_get, exec_pure]
    exact ⟨_, .complete true true, by simp [Except.isOk, Except.toBool]⟩

/-- A run of submissions makes whole rounds of image calls, one per submission it reaches. -/
theorem submitAll_rounds (us : List (Submission T)) :
    ∀ (s : Synchronizer (Tagged C)) (log : List Call) (w : W) (tr : List ImageCall),
      ∃ new, Rounds new ∧ (exec (submitAll b.traced.tagged us) s log (w, tr)).2.2 = tr ++ new := by
  -- induction on the run: each submission adds its round, and a refused one ends the run
  induction us with
  | nil => exact fun s log w tr => ⟨[], .nil, by simp [submitAll]⟩
  | cons u us ih =>
    intro s log w tr
    obtain ⟨r, hr, hround⟩ := invoke_round b s log w tr u.eye u.texture u.cs u.bounds
    simp only [submitAll_cons, exec_bind]
    rcases hI : exec (invoke b.traced.tagged u.eye u.texture u.cs u.bounds) s log (w, tr) with
      ⟨⟨⟨err | l, s₁⟩, log₁⟩, w₁, tr₁⟩ <;> rw [hI] at hround <;> subst hround
    · exact ⟨r, by simpa using Rounds.cons hr .nil, rfl⟩
    obtain ⟨new, hnew, hrest⟩ := ih s₁ log₁ w₁ (tr ++ r)
    simp only
    rcases hR : exec (submitAll b.traced.tagged us) s₁ log₁ (w₁, tr ++ r) with
      ⟨⟨⟨err | ls, s₂⟩, log₂⟩, w₂, tr₂⟩ <;> rw [hR] at hrest <;> subst hrest <;>
      exact ⟨r ++ new, .cons hr hnew, by simp⟩

end Trace

/-- Images acquired and released by the synchronizer, on any backend and from any state and
world. One submission makes one round of image calls (`Round`): it releases the image it
acquired, once, exactly when the image lookup succeeded, whether the copy or the release then
fails, and never after a refused acquire. Over any run of submissions the releases are the
successful lookups, and every successful acquire is followed by a lookup, so the acquires never
released are exactly the failed lookups. -/
theorem image_release_rounds (b : Backend (StateM W) C T) :
    (∀ (e : Eye) (t : T) (cs : ColorSpace) (bnd : Option Bounds) (s : Synchronizer (Tagged C))
        (log : List Call) (w : W) (tr : List ImageCall),
      ∃ r, Round r ∧ (exec (invoke b.traced.tagged e t cs bnd) s log (w, tr)).2.2 = tr ++ r) ∧
    ∀ (us : List (Submission T)) (s : Synchronizer (Tagged C)) (log : List Call) (w : W)
      (tr : List ImageCall), ∃ new,
      (exec (submitAll b.traced.tagged us) s log (w, tr)).2.2 = tr ++ new ∧
      new.count (.release true) + new.count (.release false) = new.count (.image true) ∧
      new.count (.acquire true) = new.count (.image true) + new.count (.image false) := by
  refine ⟨fun e t cs bnd s log w tr => invoke_round b s log w tr e t cs bnd, ?_⟩
  intro us s log w tr
  obtain ⟨new, hnew, htrace⟩ := submitAll_rounds b us s log w tr
  exact ⟨new, htrace, hnew.releases, hnew.lookups⟩

end Synchronizer

/-- A stranded image blocks its swapchain. On the simulated backend, a first 512 × 512 submission
to the left eye whose image lookup is refused fails with the eye's image still acquired; with
lookups allowed again, the same submission is refused at its acquire. -/
theorem stranded_image_blocks_retry :
    let tex : SimTexture := ⟨1, { width := 512, height := 512 }⟩
    let first := ((Synchronizer.invoke Simulation.backend .left tex .auto none).run.run {}).run
      { knobs := { failImage := some "XR_ERROR_FAIL_IMAGE" } }
    let second := ((Synchronizer.invoke Simulation.backend .left tex .auto none).run.run
      first.1.2).run { first.2 with knobs := {} }
    first.1.1 = .error (.swapchainImage "XR_ERROR_FAIL_IMAGE") ∧
      first.1.2.left.chain.map SimChain.acquired = some true ∧
      second.1.1 = .error (.swapchainImage "image already acquired") :=
  ⟨rfl, rfl, rfl⟩

end XrLayer.Compositor
