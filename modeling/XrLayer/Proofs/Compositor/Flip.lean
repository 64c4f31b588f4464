import Mathlib
import XrLayer.Proofs.Compositor.Faithful
/-!
The orientation of an eye's layer.

Bounds are flipped when their lower `v` edge is above the upper one; `unflipped` orders the two
edges, and the order of 32-bit floats is asymmetric, so unflipped bounds are never flipped and
ordering them twice changes nothing. The viewport of bounds is therefore the viewport of the
ordered bounds.

A submission changes only the slot of its own eye (`KeepsFlip`), and keeps that slot's flip
through every step but the last: `ensure` clears and refills the slot's swapchain and
descriptor, acquire and release replace its swapchain, and only a submission that got through
all of them records the flip of its bounds. So a failed submission leaves the flip as it was,
even after it recreated the swapchain, and a successful one returns the viewport of its bounds on
the texture's own size with the flag of that flip. Main statement: `invoke_orientation`.
-/
namespace XrLayer.Compositor

open Float.Model

theorem unpacked_compare_swap (a b : UnpackedFloat) :
    b.compare a = (a.compare b).map Ordering.swap := by
  rcases a with ⟨_ | _⟩ | _ | ⟨_ | _⟩ | ⟨_ | _, m, e, hm⟩ <;>
  rcases b with ⟨_ | _⟩ | _ | ⟨_ | _⟩ | ⟨_ | _, m', e', hm'⟩ <;>
  simp [UnpackedFloat.compare, Ordering.swap_then, Int.compare_swap, Nat.compare_swap] <;> rfl

theorem float32_lt_asymm {a b : Float32} (h : a < b) : ¬ b < a := by
  -- both are one comparison of the unpacked values, read both ways
  have hab : a.toModel.unpack.compare b.toModel.unpack = some .lt := by
    simpa [LT.lt, Float32.lt, Float32.Model.lt, UnpackedFloat.lt] using h
  intro hba
  have hba' : b.toModel.unpack.compare a.toModel.unpack = some .lt := by
    simpa [LT.lt, Float32.lt, Float32.Model.lt, UnpackedFloat.lt] using hba
  rw [unpacked_compare_swap, hab] at hba'
  cases hba'

namespace Bounds

theorem isFlipped_unflipped (b : Bounds) : b.unflipped.isFlipped = false := by
  unfold unflipped
  split
  · rename_i hflip
    have hlt : b.vMax < b.vMin := by simpa [isFlipped] using hflip
    simpa [isFlipped] using float32_lt_asymm hlt
  · rename_i hflip
    simpa using hflip

theorem unflipped_of_not_flipped {b : Bounds} (h : b.isFlipped = false) : b.unflipped = b := by
  simp [unflipped, h]

theorem unflipped_unflipped (b : Bounds) : b.unflipped.unflipped = b.unflipped :=
  unflipped_of_not_flipped (isFlipped_unflipped b)

end Bounds

/-- The viewport of bounds is the viewport of the same bounds with their `v` edges ordered. -/
theorem viewport_unflipped (bnd : Option Bounds) (w h : Nat) :
    (viewport (bnd.map Bounds.unflipped) w h).1 = (viewport bnd w h).1 := by
  cases bnd with
  | none => rfl
  | some b => simp only [Option.map_some, viewport, Bounds.unflipped_unflipped]

theorem viewport_flipped_iff (bnd : Option Bounds) (w h : Nat) :
    (viewport bnd w h).2 = true ↔ ∃ b, bnd = some b ∧ b.vMin > b.vMax := by
  cases bnd with
  | none => simp [viewport]
  | some b => simp [viewport, Bounds.isFlipped]

namespace Synchronizer

variable {W C T : Type}

/-- `s'` differs from `s` at most in the slot of `e`, and keeps that slot's flip. -/
def KeepsFlip (e : Eye) (s s' : Synchronizer C) : Prop :=
  ∃ f : Slot C → Slot C, (∀ sl, (f sl).flipped = sl.flipped) ∧ s' = s.modifySlot e f

namespace KeepsFlip

variable {e : Eye} {s s' : Synchronizer C}

theorem refl (e : Eye) (s : Synchronizer C) : KeepsFlip e s s :=
  ⟨id, fun _ => rfl, by cases e <;> rfl⟩

theorem modify (h : KeepsFlip e s s') (g : Slot C → Slot C)
    (hg : ∀ sl, (g sl).flipped = sl.flipped) : KeepsFlip e s (s'.modifySlot e g) := by
  obtain ⟨f, hf, rfl⟩ := h
  exact ⟨g ∘ f, fun sl => (hg _).trans (hf sl), modifySlot_modifySlot s e f g⟩

theorem flipped (h : KeepsFlip e s s') : (s'.slot e).flipped = (s.slot e).flipped := by
  obtain ⟨f, hf, rfl⟩ := h
  simp [hf]

theorem slot_of_ne (h : KeepsFlip e s s') {e' : Eye} (he : e' ≠ e) : s'.slot e' = s.slot e' := by
  obtain ⟨f, -, rfl⟩ := h
  exact slot_modifySlot_of_ne s e f he

end KeepsFlip

/-- `ensure` changes only its eye's swapchain and descriptor, whatever the runtime answers. -/
theorem plain_ensure_keepsFlip (b : Backend (StateM W) C T) (e : Eye) (src : TextureDesc)
    (cs : ColorSpace) (s : Synchronizer C) (w : W) :
    KeepsFlip e s (plain (ensure b e src cs) s w).1.2 := by
  by_cases hb : s.slotState e src cs = .bound
  · simp only [ensure, plain_bind, plain_get, hb, beq_self_eq_true, if_true, plain_pure]
    exact KeepsFlip.refl e s
  simp only [ensure, plain_bind, plain_get, beq_iff_eq, hb, if_false]
  -- the slot is cleared, then given the new swapchain when the runtime made one
  have hclear := (KeepsFlip.refl e s).modify (fun sl => { sl with chain := none, desc := none })
    (fun _ => rfl)
  have hfill (c : C) := hclear.modify
    (fun sl => { sl with chain := some c, desc := some (.forSource src cs) }) (fun _ => rfl)
  rcases hc : (s.slot e).chain with _ | old
  · rcases hcr : (b.create e (.forSource src cs)).run w with ⟨err | c, w'⟩
    · simpa [hcr] using hclear
    · simpa [hcr] using hfill c
  · rcases hcr : (b.create e (.forSource src cs)).run ((b.destroy old).run w).2 with
      ⟨err | c, w'⟩
    · simpa [hcr] using hclear
    · simpa [hcr] using hfill c

/-- What a submission does to the slots, whatever the backend answers: it ends in some `s₀` that
changed only the eye's slot and kept its flip, with an error; or it succeeds, with the viewport
of the bounds on the texture's size and the flag of their flip, and records that flip in the
eye's slot of such an `s₀`. -/
theorem plain_invoke_shape (b : Backend (StateM W) C T) (e : Eye) (t : T) (cs : ColorSpace)
    (bnd : Option Bounds) (s : Synchronizer C) (w : W) :
    let vp := viewport bnd (b.describe t).width (b.describe t).height
    ∃ s₀ w', KeepsFlip e s s₀ ∧
      ((∃ err, plain (invoke b e t cs bnd) s w = ((.error err, s₀), w')) ∨
        plain (invoke b e t cs bnd) s w =
          ((.ok ⟨vp.1, ⟨vp.2⟩⟩, s₀.modifySlot e (fun sl => { sl with flipped := vp.2 })), w')) := by
  intro vp
  have hens := plain_ensure_keepsFlip b e (b.describe t) cs s w
  simp only [invoke, plain_bind]
  rcases hE : plain (ensure b e (b.describe t) cs) s w with ⟨⟨err | u, s₀⟩, w₀⟩
  · rw [hE] at hens
    exact ⟨s₀, w₀, hens, Or.inl ⟨err, rfl⟩⟩
  rw [hE] at hens
  rcases hc : (s₀.slot e).chain with _ | c
  · -- no swapchain to copy into
    exact ⟨s₀, w₀, hens,
      Or.inl ⟨.swapchainImage ("no swapchain bound for " ++ e.title), by simp [hc]⟩⟩
  -- acquire and release only replace the eye's swapchain
  have hkeep (s₁ : Synchronizer C) (h₁ : KeepsFlip e s s₁) (c' : C) :
      KeepsFlip e s (s₁.modifySlot e (fun sl => { sl with chain := some c' })) :=
    h₁.modify _ (fun _ => rfl)
  simp only [plain_bind, plain_get, hc, plain_run, keep, plain_modify, plain_call_pure]
  rcases ha : (b.acquire c).run w₀ with ⟨⟨c₁, err | idx⟩, w₁⟩
  · exact ⟨_, _, hkeep s₀ hens c₁, Or.inl ⟨err, rfl⟩⟩
  simp only [plain_call]
  rcases hi : (b.image c₁ idx).run w₁ with ⟨err | img, w₂⟩
  · exact ⟨_, _, hkeep s₀ hens c₁, Or.inl ⟨err, rfl⟩⟩
  simp only [modifySlot_modifySlot]
  rcases hcp : (b.copy img t).run w₂ with ⟨copied, w₃⟩
  rcases hrl : (b.release c₁).run w₃ with ⟨⟨c₂, released⟩, w₄⟩
  rcases copied with err | u
  · simp only [plain_bind, plain_run, plain_throw]
    exact ⟨_, _, hkeep s₀ hens c₂, Or.inl ⟨_, rfl⟩⟩
  rcases released with err | u
  · simp only [plain_bind, plain_call_pure]
    exact ⟨_, _, hkeep s₀ hens c₂, Or.inl ⟨err, rfl⟩⟩
  · -- the whole copy went through: only now is the flip recorded
    simp only [plain_bind, plain_call_pure, plain_modify, plain_get, plain_pure,
      slot_modifySlot_self, Slot.layerFlags]
    exact ⟨_, _, hkeep s₀ hens c₂, Or.inr rfl⟩

/-- A submission for eye `e` on any backend, from any state of the synchronizer. When it
succeeds, the eye's flip is set exactly when there are bounds whose lower `v` edge is above the
upper, the returned flags and the eye's layer flags both carry that flip, and the returned
viewport is that of the bounds with their `v` edges ordered, on the texture's own size (the
whole texture without bounds). When it fails, the eye's flip is as it was, whatever steps ran
before the failure. Either way the other eye's slot (swapchain, descriptor and flip) is
untouched. The submission flags of the caller are no input of a submission: they only pick a
diagnostic, so nothing here depends on them. -/
theorem invoke_orientation (b : Backend (StateM W) C T) (e : Eye) (t : T) (cs : ColorSpace)
    (bnd : Option Bounds) (s : Synchronizer C) (w : W) :
    let r := plain (invoke b e t cs bnd) s w
    (∀ layer, r.1.1 = .ok layer →
      ((r.1.2.slot e).flipped = true ↔ ∃ bd, bnd = some bd ∧ bd.vMin > bd.vMax) ∧
      layer.flags = (r.1.2.slot e).layerFlags ∧
      (r.1.2.slot e).layerFlags.originAtBottomLeft = (r.1.2.slot e).flipped ∧
      layer.viewport =
        (viewport (bnd.map Bounds.unflipped) (b.describe t).width (b.describe t).height).1) ∧
    (∀ err, r.1.1 = .error err → (r.1.2.slot e).flipped = (s.slot e).flipped) ∧
    ∀ e', e' ≠ e → r.1.2.slot e' = s.slot e' := by
  intro r
  obtain ⟨s₀, w', hkeep, ⟨err, hfail⟩ | hok⟩ := plain_invoke_shape b e t cs bnd s w
  · -- failed: the slots are those of `s₀`
    have hr : r = ((.error err, s₀), w') := hfail
    refine ⟨fun layer hl => ?_, fun _ _ => ?_, fun e' he => ?_⟩
    · rw [hr] at hl
      cases hl
    · rw [hr]
      exact hkeep.flipped
    · rw [hr]
      exact hkeep.slot_of_ne he
  · -- succeeded: the flip of the bounds is recorded in the eye's slot only
    have hr : r = _ := hok
    refine ⟨fun layer hl => ?_, fun err he => ?_, fun e' he => ?_⟩
    · rw [hr] at hl ⊢
      cases hl
      refine ⟨?_, by simp [Slot.layerFlags], rfl, (viewport_unflipped bnd _ _).symm⟩
      simpa using viewport_flipped_iff bnd (b.describe t).width (b.describe t).height
    · rw [hr] at he
      cases he
    · rw [hr, slot_modifySlot_of_ne _ e _ he]
      exact hkeep.slot_of_ne he

end Synchronizer

end XrLayer.Compositor
