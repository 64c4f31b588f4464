import XrLayer.Input.Profile
namespace XrLayer.Profile

def khrSimple : Profile where
  family := .khrSimple
  path := "/interaction_profiles/khr/simple_controller"
  openvrName := "khr_simple_controller"
  validPaths := perHand
    ["input/select/click", "input/menu/click", "input/grip/pose", "input/aim/pose",
     "output/haptic"]
  synonyms :=
    [("trigger/value", "select/click"), ("trigger/click", "select/click"),
     ("application_menu", "menu")]
  controllerProperties := [(.controllerType, .shared "khr_simple_controller")]
  legacy := fun _ => LegacyBindings.ofList
    [(.menu, "input/menu/click"), (.trigger, "input/select/click"),
     (.haptic, "output/haptic"), (.gripPose, "input/grip/pose")]

end XrLayer.Profile
