import XrLayer.Input.Profile
namespace XrLayer.Profile

def indexController : Profile where
  family := .indexController
  path := "/interaction_profiles/valve/index_controller"
  openvrName := "knuckles"
  renderModel := fun
    | .left => some "valve_controller_knu_1_0_left"
    | .right => some "valve_controller_knu_1_0_right"
  validPaths := perHand
    ["input/system/click", "input/system/touch", "input/a/click", "input/a/touch",
     "input/b/click", "input/b/touch", "input/squeeze/value", "input/squeeze/force",
     "input/trigger/click", "input/trigger/value", "input/trigger/touch",
     "input/thumbstick/x", "input/thumbstick/y", "input/thumbstick/click",
     "input/thumbstick/touch", "input/thumbstick", "input/trackpad/x", "input/trackpad/y",
     "input/trackpad/force", "input/trackpad/touch", "input/trackpad", "input/grip/pose",
     "input/aim/pose", "output/haptic"]
  synonyms :=
    [("grip", "squeeze"), ("joystick", "thumbstick"), ("pull", "value"),
     ("trackpad/click", "trackpad/force"), ("application_menu", "b/click")]
  hmdProperties := [(.manufacturerName, "Valve")]
  controllerProperties :=
    [(.modelNumber, .perHand "Knuckles Left" "Knuckles Right"),
     (.controllerType, .shared "knuckles")]
  grip := fun
    | .left => inverseCalibration ⟨0, -0.015, 0.13⟩ ⟨15.392, -2.071, 0.303⟩
    | .right => inverseCalibration ⟨0, -0.015, 0.13⟩ ⟨15.392, 2.071, -0.303⟩
  legacy := fun _ => LegacyBindings.ofList
    [(.system, "input/system/click"), (.menu, "input/b/click"), (.menuTouch, "input/b/touch"),
     (.btnA, "input/a/click"), (.btnATouch, "input/a/touch"),
     (.stickX, "input/thumbstick/x"), (.stickY, "input/thumbstick/y"),
     (.stickBtn, "input/thumbstick/click"), (.stickBtnTouch, "input/thumbstick/touch"),
     (.trackpadX, "input/trackpad/x"), (.trackpadY, "input/trackpad/y"),
     (.trackpadTouch, "input/trackpad/touch"), (.trigger, "input/trigger/value"),
     (.triggerClick, "input/trigger/click"), (.triggerTouch, "input/trigger/touch"),
     (.grip, "input/squeeze/value"), (.haptic, "output/haptic"),
     (.gripPose, "input/grip/pose"), (.aimPose, "input/aim/pose")]

end XrLayer.Profile
