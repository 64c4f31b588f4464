import XrLayer.OpenXr.Runtime
import XrLayer.Input.Binding
/-!
The action set behind the legacy controls: one action per control and hand.

The set is `legacy-inputs` with priority zero. Actions are created left hand first, each
hand's controls in binding order, named by side and control with `-` between words, and
described by the same words with blanks. Sticks, trackpad axes, the trigger and the grip
are float actions, the haptic output vibrates, the two poses are pose actions, and every
other control is a boolean. The first refusal ends the creation.
-/
namespace XrLayer.OpenXr

def actionName (h : Hand) (c : LegacyControl) : String :=
  (h.name ++ "-" ++ c.name).map (fun ch => if ch == '_' then '-' else ch)

def actionDescription (h : Hand) (c : LegacyControl) : String :=
  h.name ++ " " ++ c.name.map (fun ch => if ch == '_' then ' ' else ch)

def actionType : LegacyControl → ActionType
  | .stickX | .stickY | .trackpadX | .trackpadY | .trigger | .grip => .float
  | .haptic => .vibration
  | .gripPose | .aimPose => .pose
  | _ => .boolean

structure LegacyActionSet where
  set : Nat
  handles : List ((Hand × LegacyControl) × Nat)

namespace LegacyActionSet

def slots : List (Hand × LegacyControl) :=
  Hand.both.flatMap (fun h => LegacyControl.all.map (h, ·))

def create {m : Type → Type} [Monad m] (rt : Runtime m) : m (Except Error LegacyActionSet) := do
  match ← rt.createActionSet "legacy-inputs" "Legacy Inputs" 0 with
  | .error code => return .error (.soft ("OpenXR action set: " ++ resultName code))
  | .ok set =>
    let made ← (slots.mapM (fun (h, c) => do
      let created ←
        (rt.createAction set (actionName h c) (actionDescription h c) (actionType c) : m _)
      match created with
      | .error code =>
        throw (Error.soft ("OpenXR action " ++ actionName h c ++ ": " ++ resultName code))
      | .ok handle => pure ((h, c), handle)) : ExceptT Error m _).run
    return made.map (⟨set, ·⟩)

def controllerActions (s : LegacyActionSet) (hand : Hand) : LegacyActions :=
  ⟨hand, fun c => (s.handles.lookup (hand, c)).getD 0⟩

end LegacyActionSet

end XrLayer.OpenXr
