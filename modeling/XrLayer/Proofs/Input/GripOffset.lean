import Mathlib
import XrLayer.Proofs.Input.LegacyBindings
/-!
The grip correction of a registered profile, with the user's offsets.

The configuration holds, for each hand, a position switch and a shift, and a rotation switch
and Euler angles; and once, a tilt switch and an angle about X. A hand's offset is its own
transform when either of its switches is on, built from the shift and the angles whose switch is
on and zero for the other; only otherwise is it the tilt, when that switch is on; and otherwise
there is none. The correction post-multiplies the family's authored grip transform by the
offset, and is that transform itself when there is no offset. So a hand reads only its own
fields and the tilt, and the tilt not at all once the hand overrides it. Main statement:
`gripToLegacy_offsets`.
-/
namespace XrLayer

open Linear

structure HandAdjust where
  adjustPosition : Bool
  position : Vec3
  adjustRotation : Bool
  rotation : Vec3

namespace HandAdjust

def overrides (o : HandAdjust) : Bool := o.adjustPosition || o.adjustRotation

def transform (o : HandAdjust) : Mat4 :=
  eulerTransform (if o.adjustPosition then o.position else Vec3.zero)
    (if o.adjustRotation then o.rotation else Vec3.zero)

end HandAdjust

namespace ControllerAdjust

def forHand (cfg : ControllerAdjust) : Hand → HandAdjust
  | .left => ⟨cfg.adjustLeftPosition, cfg.leftPosition, cfg.adjustLeftRotation, cfg.leftRotation⟩
  | .right =>
    ⟨cfg.adjustRightPosition, cfg.rightPosition, cfg.adjustRightRotation, cfg.rightRotation⟩

/-- The offset of a hand by precedence: its own, else the tilt, else none. -/
theorem offset_eq (cfg : ControllerAdjust) (h : Hand) :
    cfg.offset h =
      if (cfg.forHand h).overrides then some (cfg.forHand h).transform
      else if cfg.adjustTilt then some (rotationMatrix cfg.tilt 0 0)
      else none := by
  cases h <;> rfl

theorem apply_eq (cfg : ControllerAdjust) (h : Hand) (primary : Mat4) :
    cfg.apply h primary =
      if (cfg.forHand h).overrides then primary * (cfg.forHand h).transform
      else if cfg.adjustTilt then primary * rotationMatrix cfg.tilt 0 0
      else primary := by
  unfold apply
  rw [offset_eq]
  -- the product is taken exactly when some offset is chosen
  by_cases ho : (cfg.forHand h).overrides
  · simp [ho]
  · by_cases ht : cfg.adjustTilt <;> simp [ho, ht]

theorem offset_congr {cfg cfg' : ControllerAdjust} {h : Hand}
    (hh : cfg'.forHand h = cfg.forHand h) (ht : cfg'.adjustTilt = cfg.adjustTilt)
    (hv : cfg'.tilt = cfg.tilt) : cfg'.offset h = cfg.offset h := by
  rw [offset_eq, offset_eq, hh, ht, hv]

/-- A hand with its own offset does not read the tilt at all. -/
theorem offset_congr_of_overrides {cfg cfg' : ControllerAdjust} {h : Hand}
    (hh : cfg'.forHand h = cfg.forHand h) (ho : (cfg.forHand h).overrides = true) :
    cfg'.offset h = cfg.offset h := by
  have ho' : (cfg'.forHand h).overrides = true := hh ▸ ho
  rw [offset_eq, offset_eq, if_pos ho, if_pos ho', hh]

end ControllerAdjust

/-- The grip correction of the profile at `path` for an optional hand, with the offsets of any
configuration, on a runtime that does or does not support Reverb G2 controllers. A path no
registered profile has fails with that path, whatever the hand. On a registered profile, no hand
gets the identity; a hand gets the authored grip transform post-multiplied by its own offset
when either of its switches is on, else by the tilt rotation when the tilt switch is on, and
otherwise the authored transform itself. Another configuration that agrees on this hand's
switches and offsets, and on the tilt unless the hand has its own offset, gives the same
correction. -/
theorem gripToLegacy_offsets (config : Config) (g : Bool) (path : String) (hand : Option Hand) :
    let c := Context.new config g
    let cfg := config.controller
    (path ∉ c.registry.profiles.map Profile.path →
      c.gripToLegacy path hand = .error (.unknownProfile path)) ∧
    ∀ p ∈ c.registry.profiles, p.path = path →
      c.gripToLegacy path none = .ok Mat4.identity ∧
      ∀ h : Hand,
        c.gripToLegacy path (some h) = .ok
          (if (cfg.forHand h).overrides then p.grip h * (cfg.forHand h).transform
           else if cfg.adjustTilt then p.grip h * rotationMatrix cfg.tilt 0 0
           else p.grip h) ∧
        ∀ config' : Config, config'.controller.forHand h = cfg.forHand h →
          ((cfg.forHand h).overrides = true ∨
            (config'.controller.adjustTilt = cfg.adjustTilt ∧ config'.controller.tilt = cfg.tilt)) →
          (Context.new config' g).gripToLegacy path (some h) = c.gripToLegacy path (some h) := by
  intro c cfg
  refine ⟨fun hpath => ?_, fun p hp hpath => ?_⟩
  · have hlook := Registry.byPath_of_not_mem (Registry.build g) hpath
    simp only [c, Context.gripToLegacy, Context.profile, Context.new, hlook]
    rfl
  · -- both contexts look the path up in the same registry and find `p`
    have hlook : ∀ config' : Config, (Context.new config' g).profile path = .ok p := by
      intro config'
      have h := Registry.byPath_of_mem (Registry.build g) (Registry.paths_nodup g) hp
      rw [hpath] at h
      exact h
    have hgrip (config' : Config) (hand' : Option Hand) :
        (Context.new config' g).gripToLegacy path hand' =
          .ok (p.gripToLegacy config'.controller hand') := by
      simp only [Context.gripToLegacy, hlook]
      rfl
    refine ⟨by rw [hgrip]; rfl, fun h => ⟨?_, fun config' hh hrest => ?_⟩⟩
    · rw [hgrip, Profile.gripToLegacy, ControllerAdjust.apply_eq]
    · rw [hgrip, hgrip, Profile.gripToLegacy, Profile.gripToLegacy, ControllerAdjust.apply,
        ControllerAdjust.apply]
      -- the two configurations choose the same offset for this hand
      have hoff : config'.controller.offset h = cfg.offset h := by
        rcases hrest with ho | ⟨ht, hv⟩
        · exact ControllerAdjust.offset_congr_of_overrides hh ho
        · exact ControllerAdjust.offset_congr hh ht hv
      rw [hoff]

end XrLayer
