import Mathlib
import XrLayer.Proofs.Compositor.Recreation
/-!
The ledger changes nothing the synchronizer does.

A step of the synchronizer on the logged backend `b.tagged`, once the numbers of its swapchains
are forgotten (`Synchronizer.untag`), is the same step on the plain backend `b`: the same result,
the same slots and descriptors and flips, and the same world after it. This holds for `ensure`,
for a whole submission, for closing, and by induction for any run of submissions, so every fact
proved of the logged runs is a fact of the plain ones with numbers attached.
-/
namespace XrLayer.Compositor

variable {W C T : Type}

def Slot.untag (sl : Slot (Tagged C)) : Slot C :=
  ⟨sl.chain.map Tagged.chain, sl.desc, sl.flipped⟩

namespace Synchronizer

def untag (s : Synchronizer (Tagged C)) : Synchronizer C := ⟨s.left.untag, s.right.untag⟩

def plain {α : Type} (x : Step (StateM W) C α) (s : Synchronizer C) (w : W) :
    (Except Error α × Synchronizer C) × W :=
  (x.run.run s).run w

section Plain

variable {α β : Type} (s : Synchronizer C) (w : W)

@[simp] theorem plain_bind (x : Step (StateM W) C α) (f : α → Step (StateM W) C β) :
    plain (x >>= f) s w =
      match plain x s w with
      | ((.ok a, s'), w') => plain (f a) s' w'
      | ((.error e, s'), w') => ((.error e, s'), w') := by
  simp only [plain, ExceptT.run_bind, StateT.run_bind]
  rcases (x.run.run s).run w with ⟨⟨_ | _, _⟩, _⟩ <;> rfl

@[simp] theorem plain_pure (a : α) :
    plain (pure a : Step (StateM W) C α) s w = ((.ok a, s), w) := rfl

@[simp] theorem plain_get : plain (get : Step (StateM W) C _) s w = ((.ok s, s), w) := rfl

@[simp] theorem plain_modify (f : Synchronizer C → Synchronizer C) :
    plain (modify f : Step (StateM W) C PUnit) s w = ((.ok ⟨⟩, f s), w) := rfl

@[simp] theorem plain_throw (e : Error) :
    plain (throw e : Step (StateM W) C α) s w = ((.error e, s), w) := rfl

@[simp] theorem plain_call (x : StateM W (Except Error α)) :
    plain (call x : Step (StateM W) C α) s w = (((x.run w).1, s), (x.run w).2) := rfl

@[simp] theorem plain_call_pure (r : Except Error α) :
    plain (call (pure r) : Step (StateM W) C α) s w = ((r, s), w) := rfl

@[simp] theorem plain_run (x : StateM W α) :
    plain (run x : Step (StateM W) C α) s w = ((.ok (x.run w).1, s), (x.run w).2) := rfl

end Plain

section Untag

variable (s : Synchronizer (Tagged C))

@[simp] theorem untag_slot (e : Eye) : s.untag.slot e = (s.slot e).untag := by
  cases e <;> rfl

theorem untag_modifySlot (e : Eye) (f : Slot (Tagged C) → Slot (Tagged C))
    (g : Slot C → Slot C) (h : ∀ sl, (f sl).untag = g sl.untag) :
    (s.modifySlot e f).untag = s.untag.modifySlot e g := by
  cases e <;> simp [modifySlot, untag, h]

@[simp] theorem slotState_untag (e : Eye) (src : TextureDesc) (cs : ColorSpace) :
    s.untag.slotState e src cs = s.slotState e src cs := by
  simp only [slotState, untag_slot, Slot.untag]
  rcases (s.slot e).chain <;> rcases (s.slot e).desc <;> rfl

end Untag

theorem plain_ensure_untag (b : Backend (StateM W) C T) (e : Eye) (src : TextureDesc)
    (cs : ColorSpace) (s : Synchronizer (Tagged C)) (log : List Call) (w : W) :
    plain (ensure b e src cs) s.untag w =
      (((exec (ensure b.tagged e src cs) s log w).1.1.1,
        (exec (ensure b.tagged e src cs) s log w).1.1.2.untag),
        (exec (ensure b.tagged e src cs) s log w).2) := by
  by_cases hb : s.slotState e src cs = .bound
  · rw [exec_ensure_bound b e src cs s log w hb]
    simp [ensure, hb]
  simp only [ensure, plain_bind, exec_bind, plain_get, exec_get, slotState_untag, beq_iff_eq, hb,
    if_false, untag_slot]
  -- the same calls on both sides: a destruction if the eye held a swapchain, then a creation
  rcases hc : (s.slot e).chain with _ | old
  · rcases hcr : (b.create e (.forSource src cs)).run w with ⟨err | c, w'⟩
    · simp [Slot.untag, hc, tagged_create, hcr]
      exact (untag_modifySlot _ _ _ _ fun _ => rfl).symm
    · simp [Slot.untag, hc, tagged_create, hcr]
      exact (untag_modifySlot _ _ _ _ fun _ => rfl).symm
  · rcases hcr : (b.create e (.forSource src cs)).run ((b.destroy old.chain).run w).2 with
      ⟨err | c, w'⟩
    · simp [Slot.untag, hc, tagged_create, tagged_destroy, hcr]
      exact (untag_modifySlot _ _ _ _ fun _ => rfl).symm
    · simp [Slot.untag, hc, tagged_create, tagged_destroy, hcr]
      exact (untag_modifySlot _ _ _ _ fun _ => rfl).symm

theorem plain_invoke_untag (b : Backend (StateM W) C T) (e : Eye) (t : T) (cs : ColorSpace)
    (bnd : Option Bounds) (s : Synchronizer (Tagged C)) (log : List Call) (w : W) :
    plain (invoke b e t cs bnd) s.untag w =
      (((exec (invoke b.tagged e t cs bnd) s log w).1.1.1,
        (exec (invoke b.tagged e t cs bnd) s log w).1.1.2.untag),
        (exec (invoke b.tagged e t cs bnd) s log w).2) := by
  simp only [invoke, plain_bind, exec_bind, tagged_describe]
  rw [plain_ensure_untag b e _ cs s log w]
  rcases hE : exec (ensure b.tagged e (b.describe t) cs) s log w with
    ⟨⟨⟨err | u, s₀⟩, log₀⟩, w₀⟩
  · rfl
  -- from here both sides make the same calls; the slots differ only in the numbers
  obtain ⟨hd, hhd⟩ := ensure_ok_holds b e _ cs s log w hE
  simp only [plain_bind, exec_bind, plain_get, exec_get, untag_slot, Slot.untag, hhd,
    Option.map_some, plain_run, exec_run, tagged_acquire, keep, plain_modify, exec_modify,
    plain_call_pure, exec_call_pure]
  rcases ha : (b.acquire hd.chain).run w₀ with ⟨⟨c₁, err | idx⟩, w₁⟩
  · simp only [Prod.mk.injEq, and_true, true_and]
    exact (untag_modifySlot _ _ _ _ fun _ => rfl).symm
  simp only [plain_call, exec_call, tagged_image]
  rcases hi : (b.image c₁ idx).run w₁ with ⟨err | img, w₂⟩
  · simp only [Prod.mk.injEq, and_true, true_and]
    exact (untag_modifySlot _ _ _ _ fun _ => rfl).symm
  simp only [tagged_copy, tagged_release, modifySlot_modifySlot]
  rcases hcp : (b.copy img t).run w₂ with ⟨copied, w₃⟩
  rcases hrl : (b.release c₁).run w₃ with ⟨⟨c₂, released⟩, w₄⟩
  rcases copied with err | u
  · simp only [plain_bind, exec_bind, plain_run, exec_run, tagged_removedReason, plain_throw,
      exec_throw, Prod.mk.injEq, and_true, true_and]
    exact (untag_modifySlot _ _ _ _ fun _ => rfl).symm
  rcases released with err | u
  · simp only [plain_bind, exec_bind, plain_call_pure, exec_call_pure, Prod.mk.injEq, and_true,
      true_and]
    exact (untag_modifySlot _ _ _ _ fun _ => rfl).symm
  · simp only [plain_bind, exec_bind, plain_call_pure, exec_call_pure, plain_modify, exec_modify,
      plain_get, exec_get, plain_pure, exec_pure, modifySlot_modifySlot, slot_modifySlot_self,
      Prod.mk.injEq, and_true]
    refine ⟨rfl, (untag_modifySlot _ _ _ _ fun _ => rfl).symm⟩

theorem plain_close_untag (b : Backend (StateM W) C T) (s : Synchronizer (Tagged C))
    (log : List Call) (w : W) :
    ((close b s.untag).run w).2 = (((close b.tagged s).run log).run w).2 := by
  rcases hl : s.left.chain with _ | l <;> rcases hr : s.right.chain with _ | r <;>
    simp only [close, untag, Slot.untag, hl, hr, Option.map_none, Option.map_some] <;> rfl

/-- Forgetting the numbers, a run of submissions on the logged backend is the same run on the
plain backend. -/
theorem plain_submitAll_untag (b : Backend (StateM W) C T) (us : List (Submission T)) :
    ∀ (s : Synchronizer (Tagged C)) (log : List Call) (w : W),
      plain (submitAll b us) s.untag w =
        (((exec (submitAll b.tagged us) s log w).1.1.1,
          (exec (submitAll b.tagged us) s log w).1.1.2.untag),
          (exec (submitAll b.tagged us) s log w).2) := by
  -- induction on the run, one submission at a time
  induction us with
  | nil => intro s log w; rfl
  | cons u us ih =>
    intro s log w
    simp only [submitAll_cons, plain_bind, exec_bind]
    rw [plain_invoke_untag b u.eye u.texture u.cs u.bounds s log w]
    rcases hI : exec (invoke b.tagged u.eye u.texture u.cs u.bounds) s log w with
      ⟨⟨⟨err | l, s₁⟩, log₁⟩, w₁⟩
    · rfl
    simp only
    rw [ih s₁ log₁ w₁]
    rcases hR : exec (submitAll b.tagged us) s₁ log₁ w₁ with
      ⟨⟨⟨err | ls, s₂⟩, log₂⟩, w₂⟩ <;> rfl

end Synchronizer

end XrLayer.Compositor
