import XrLayer.Input.Family.Holographic
namespace XrLayer.Profile

def reverbG2 : Profile where
  family := .reverbG2
  path := "/interaction_profiles/hp/mixed_reality_controller"
  openvrName := "hpmotioncontroller"
  validPaths :=
    ["/user/hand/left/input/x/click", "/user/hand/left/input/y/click",
     "/user/hand/right/input/a/click", "/user/hand/right/input/b/click"] ++
    perHand ["input/menu/click", "input/squeeze/value", "input/trigger/value",
      "input/thumbstick/x", "input/thumbstick/y", "input/thumbstick/click", "input/thumbstick",
      "input/grip/pose", "input/aim/pose", "output/haptic"]
  synonyms :=
    [("application_menu", "menu"), ("grip", "squeeze"), ("pull", "value"),
     ("squeeze/click", "squeeze/value"), ("trigger/click", "trigger/value"),
     ("joystick", "thumbstick")]
  hmdProperties := [(.manufacturerName, "WindowsMR")]
  controllerProperties :=
    [(.modelNumber, .perHand "HP Reverb G2 Controller (Left)" "HP Reverb G2 Controller (Right)"),
     (.controllerType, .shared "hpmotioncontroller")]
  grip := fun _ => mixedRealityCalibration.inverse
  legacy := fun h => LegacyBindings.ofList (
    [(.system, "input/menu/click"), (.stickX, "input/thumbstick/x"),
     (.stickY, "input/thumbstick/y"), (.stickBtn, "input/thumbstick/click"),
     (.trigger, "input/trigger/value"), (.triggerClick, "input/trigger/value"),
     (.grip, "input/squeeze/value"), (.haptic, "output/haptic"),
     (.gripPose, "input/grip/pose"), (.aimPose, "input/aim/pose")] ++
    match h with
    | .left => [(.menu, "input/y/click"), (.btnA, "input/x/click")]
    | .right => [(.menu, "input/b/click"), (.btnA, "input/a/click")])

end XrLayer.Profile
