import XrLayer.OpenXr.Actions
import XrLayer.Input.Context
/-!
Suggesting the legacy bindings of every profile to an OpenXR runtime.

Profiles are taken in listing order. A profile's suggestions are its left hand's, then
its right hand's, each path resolved through the runtime; a defect in a profile's table
or a path the runtime refuses is fatal and ends the pass. The profile's own path is then
resolved and the suggestions submitted. A runtime that refuses the profile path or the
suggestion costs only that profile: the failure is soft, and ends the pass only when
soft failures are escalated.
-/
namespace XrLayer.OpenXr

def resolvePath {m : Type → Type} [Monad m] (rt : Runtime m) (path : String) :
    m (Except Error Nat) := do
  return (← rt.stringToPath path).mapError (fun code => .pathResolution path (resultName code))

def suggest {m : Type → Type} [Monad m] (rt : Runtime m) (profilePath : String)
    (bindings : List Suggestion) : m (Except Error Unit) := do
  match ← resolvePath rt profilePath with
  | .error e => return .error e
  | .ok profile =>
    let code ← rt.suggestBindings profile (bindings.map (fun b => (b.action, b.binding)))
    if code < 0 then
      return .error (.soft
        ("OpenXR binding suggestion rejected for " ++ profilePath ++ ": " ++ resultName code))
    else return .ok ()

def bindProfiles {m : Type → Type} [Monad m] (rt : Runtime m) (ctx : Context)
    (actions : LegacyActionSet) : m (Except Error Unit) :=
  (ctx.registry.profiles.forM (fun p => do
    let forHand := fun h => p.legacySuggestions (actions.controllerActions h) (resolvePath rt)
    let left ← ExceptT.mk (forHand .left)
    let right ← ExceptT.mk (forHand .right)
    match ← ExceptT.lift (suggest rt p.path (left ++ right)) with
    | .ok () => pure ()
    | .error e => ExceptT.mk (pure (softAbort e ctx.config.stopOnSoftAbort)))
    : ExceptT Error m Unit).run

end XrLayer.OpenXr
