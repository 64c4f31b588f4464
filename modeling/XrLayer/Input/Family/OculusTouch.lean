import XrLayer.Input.Profile
namespace XrLayer.Profile

open Linear

/-- Negate `x` for the left hand: component offsets are authored for the right hand. -/
def mirrorLeft (x : Float32) : Hand → Float32
  | .left => -x
  | .right => x

def oculusTouch : Profile where
  family := .oculusTouch
  path := "/interaction_profiles/oculus/touch_controller"
  openvrName := "oculus_touch"
  renderModel := fun
    | .left => some "oculus_quest2_controller_left"
    | .right => some "oculus_quest2_controller_right"
  validPaths :=
    ["/user/hand/left/input/x/click", "/user/hand/left/input/x/touch",
     "/user/hand/left/input/y/click", "/user/hand/left/input/y/touch",
     "/user/hand/left/input/menu/click",
     "/user/hand/right/input/a/click", "/user/hand/right/input/a/touch",
     "/user/hand/right/input/b/click", "/user/hand/right/input/b/touch"] ++
    perHand ["input/squeeze/value", "input/trigger/value", "input/trigger/touch",
      "input/thumbstick/x", "input/thumbstick/y", "input/thumbstick/click",
      "input/thumbstick/touch", "input/thumbstick", "input/thumbrest/touch",
      "input/grip/pose", "input/aim/pose", "output/haptic"]
  synonyms :=
    [("grip", "squeeze"), ("joystick", "thumbstick"), ("pull", "value"),
     ("grip/click", "squeeze/value"), ("trigger/click", "trigger/value"),
     ("application_menu", "menu")]
  hmdProperties := [(.manufacturerName, "Oculus")]
  controllerProperties :=
    [(.modelNumber, .perHand "Oculus Quest2 (Left Controller)" "Oculus Quest2 (Right Controller)"),
     (.controllerType, .shared "oculus_touch")]
  grip := fun _ => inverseCalibration ⟨0, 0.003, 0.097⟩ ⟨0.037, 0, 0⟩
  components := fun h =>
    [("body", inverseCalibration ⟨0, 0.003, 0.097⟩ ⟨5.037, 0, 0⟩),
     ("base", inverseCalibration ⟨mirrorLeft 0.00554 h, -0.00735, 0.139⟩ ⟨-0.4, -180, 0⟩),
     ("tip", inverseCalibration ⟨mirrorLeft (-0.00629) h, -0.02522, 0.03469⟩ ⟨-39.4, 0, 0⟩)]
  legacy := fun h => LegacyBindings.ofList (
    [(.stickX, "input/thumbstick/x"), (.stickY, "input/thumbstick/y"),
     (.stickBtn, "input/thumbstick/click"), (.stickBtnTouch, "input/thumbstick/touch"),
     (.trigger, "input/trigger/value"), (.triggerClick, "input/trigger/value"),
     (.triggerTouch, "input/trigger/touch"), (.grip, "input/squeeze/value"),
     (.haptic, "output/haptic"), (.gripPose, "input/grip/pose"), (.aimPose, "input/aim/pose")] ++
    match h with
    | .left =>
      [(.menu, "input/y/click"), (.menuTouch, "input/y/touch"), (.btnA, "input/x/click"),
       (.btnATouch, "input/x/touch"), (.system, "input/menu/click")]
    | .right =>
      [(.menu, "input/b/click"), (.menuTouch, "input/b/touch"), (.btnA, "input/a/click"),
       (.btnATouch, "input/a/touch")])

end XrLayer.Profile
