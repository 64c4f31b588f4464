import XrLayer.Input.Profile
namespace XrLayer.Profile

def viveWand : Profile where
  family := .viveWand
  path := "/interaction_profiles/htc/vive_controller"
  openvrName := "vive_controller"
  renderModel := fun _ => some "vr_controller_vive_1_5"
  validPaths := perHand
    ["input/system/click", "input/squeeze/click", "input/menu/click", "input/trigger/click",
     "input/trigger/value", "input/trackpad/x", "input/trackpad/y", "input/trackpad/click",
     "input/trackpad/touch", "input/trackpad", "input/grip/pose", "input/aim/pose",
     "output/haptic"]
  synonyms :=
    [("grip", "squeeze"), ("application_menu", "menu"), ("pull", "value"),
     ("joystick", "trackpad"), ("thumbstick", "trackpad")]
  hmdProperties := [(.manufacturerName, "HTC")]
  controllerProperties :=
    [(.modelNumber, .shared "Vive. Controller MV"), (.controllerType, .shared "vive_controller")]
  grip := fun _ => inverseCalibration ⟨0, -0.015, 0.097⟩ ⟨-5, 0, 0⟩
  legacy := fun _ => LegacyBindings.ofList
    [(.system, "input/system/click"), (.menu, "input/menu/click"),
     (.trackpadX, "input/trackpad/x"), (.trackpadY, "input/trackpad/y"),
     (.trackpadClick, "input/trackpad/click"), (.trackpadTouch, "input/trackpad/touch"),
     (.trigger, "input/trigger/value"), (.triggerClick, "input/trigger/click"),
     (.grip, "input/squeeze/click"), (.haptic, "output/haptic"),
     (.gripPose, "input/grip/pose"), (.aimPose, "input/aim/pose")]

end XrLayer.Profile
