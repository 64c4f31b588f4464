/-!
The fixed-function controls of the legacy input model, and where a controller family
puts each of them.

The 21 controls have a fixed binding order. A family's table gives, relative to the
hand's user path, the input path of each control the hardware has. Grip-click falls back
to the grip path on hardware without a separate click.
-/
namespace XrLayer

inductive LegacyControl where
  | system
  | menu
  | menuTouch
  | btnA
  | btnATouch
  | stickX
  | stickY
  | trackpadX
  | trackpadY
  | trackpadClick
  | trackpadTouch
  | stickBtn
  | stickBtnTouch
  | trigger
  | triggerTouch
  | triggerClick
  | grip
  | gripClick
  | haptic
  | gripPose
  | aimPose
deriving DecidableEq, Repr

namespace LegacyControl

def all : List LegacyControl :=
  [.system, .menu, .menuTouch, .btnA, .btnATouch, .stickX, .stickY, .trackpadX, .trackpadY,
   .trackpadClick, .trackpadTouch, .stickBtn, .stickBtnTouch, .trigger, .triggerTouch,
   .triggerClick, .grip, .gripClick, .haptic, .gripPose, .aimPose]

def name : LegacyControl → String
  | .system => "system"
  | .menu => "menu"
  | .menuTouch => "menu_touch"
  | .btnA => "btn_a"
  | .btnATouch => "btn_a_touch"
  | .stickX => "stick_x"
  | .stickY => "stick_y"
  | .trackpadX => "trackpad_x"
  | .trackpadY => "trackpad_y"
  | .trackpadClick => "trackpad_click"
  | .trackpadTouch => "trackpad_touch"
  | .stickBtn => "stick_btn"
  | .stickBtnTouch => "stick_btn_touch"
  | .trigger => "trigger"
  | .triggerTouch => "trigger_touch"
  | .triggerClick => "trigger_click"
  | .grip => "grip"
  | .gripClick => "grip_click"
  | .haptic => "haptic"
  | .gripPose => "grip_pose"
  | .aimPose => "aim_pose"

def ofName? (s : String) : Option LegacyControl := all.find? (fun c => c.name == s)

def index (c : LegacyControl) : Nat := (all.findIdx? (· == c)).getD 0

end LegacyControl

/-- Where each legacy control lives on a family, relative to the hand path; `none` when
the hardware has no such control. -/
structure LegacyBindings where
  get : LegacyControl → Option String

namespace LegacyBindings

def ofList (entries : List (LegacyControl × String)) : LegacyBindings :=
  ⟨fun c => entries.lookup c⟩

/-- The path a control binds to: grip-click falls back to the grip path. -/
def resolve (b : LegacyBindings) : LegacyControl → Option String
  | .gripClick => (b.get .gripClick).orElse (fun _ => b.get .grip)
  | c => b.get c

def entries (b : LegacyBindings) : List (LegacyControl × String) :=
  LegacyControl.all.filterMap (fun c => (b.resolve c).map (c, ·))

end LegacyBindings

end XrLayer
