import XrLayer.Input.Profile
namespace XrLayer.Profile

open Linear

/-- The model-to-grip transform of the mixed reality controllers, given by columns. -/
def mixedRealityCalibration : Mat4 :=
  ⟨⟨1, -0.0, 0, 0⟩, ⟨0, 0.99614, -0.08780, 0⟩, ⟨0, 0.08780, 0.99614, 0⟩,
   ⟨0, -0.00553, 0.09689, 1⟩⟩

def holographic : Profile where
  family := .holographic
  path := "/interaction_profiles/microsoft/motion_controller"
  openvrName := "holographic_controller"
  validPaths := perHand
    ["input/menu/click", "input/squeeze/click", "input/trigger/value", "input/thumbstick/x",
     "input/thumbstick/y", "input/thumbstick/click", "input/thumbstick", "input/trackpad/x",
     "input/trackpad/y", "input/trackpad/click", "input/trackpad/touch", "input/trackpad",
     "input/grip/pose", "input/aim/pose", "output/haptic"]
  synonyms :=
    [("application_menu", "menu"), ("grip", "squeeze"), ("pull", "value"), ("force", "value"),
     ("trigger/click", "trigger/value"), ("joystick", "thumbstick")]
  hmdProperties := [(.manufacturerName, "WindowsMR")]
  controllerProperties :=
    [(.modelNumber, .shared "WindowsMR"), (.controllerType, .shared "holographic_controller")]
  grip := fun _ => mixedRealityCalibration.inverse
  legacy := fun _ => LegacyBindings.ofList
    [(.system, "input/menu/click"), (.stickX, "input/thumbstick/x"),
     (.stickY, "input/thumbstick/y"), (.stickBtn, "input/thumbstick/click"),
     (.trackpadClick, "input/trackpad/click"), (.trackpadX, "input/trackpad/x"),
     (.trackpadY, "input/trackpad/y"), (.trigger, "input/trigger/value"),
     (.triggerClick, "input/trigger/value"), (.triggerTouch, "input/trigger/value"),
     (.grip, "input/squeeze/click"), (.haptic, "output/haptic"),
     (.gripPose, "input/grip/pose"), (.aimPose, "input/aim/pose")]

end XrLayer.Profile
