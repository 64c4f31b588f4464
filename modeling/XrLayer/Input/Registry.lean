import XrLayer.Input.Family.OculusTouch
import XrLayer.Input.Family.IndexController
import XrLayer.Input.Family.ViveWand
import XrLayer.Input.Family.ReverbG2
import XrLayer.Input.Family.KhrSimple
import XrLayer.Error
/-!
The fixed list of interaction profiles.

The families always present are listed in a fixed order; the Reverb G2 family heads the
list exactly when the runtime supports its controllers. The list is decided when the
registry is built and never changes. Looking up a path that no family owns is an
internal defect and fatal.
-/
namespace XrLayer

def Family.profile : Family → Profile
  | .oculusTouch => Profile.oculusTouch
  | .indexController => Profile.indexController
  | .viveWand => Profile.viveWand
  | .holographic => Profile.holographic
  | .khrSimple => Profile.khrSimple
  | .reverbG2 => Profile.reverbG2

def baseFamilies : List Family :=
  [.holographic, .indexController, .viveWand, .oculusTouch, .khrSimple]

structure Registry where
  profiles : List Profile

namespace Registry

def build (reverbG2 : Bool) : Registry :=
  ⟨((if reverbG2 then [Family.reverbG2] else []) ++ baseFamilies).map Family.profile⟩

def byPath (r : Registry) (path : String) : Except Error Profile :=
  match r.profiles.find? (fun p => p.path == path) with
  | some p => .ok p
  | none => .error (.unknownProfile path)

def byFamily (r : Registry) (f : Family) : Option Profile :=
  r.profiles.find? (fun p => p.family == f)

end Registry

end XrLayer
