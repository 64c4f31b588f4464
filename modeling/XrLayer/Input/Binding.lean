import XrLayer.Input.Profile
import XrLayer.Error
/-!
Suggested bindings for the legacy controls of one hand.

For each control the family has, in binding order: the full path must be one the family
exposes, the control's action must have been created (handle zero means not created),
and the runtime must resolve the path to a handle. The first failure ends the pass and
no binding is suggested.
-/
namespace XrLayer

/-- The action handles created for one hand's legacy controls; zero means none. -/
structure LegacyActions where
  hand : Hand
  get : LegacyControl → Nat

def LegacyActions.none (hand : Hand) : LegacyActions := ⟨hand, fun _ => 0⟩

def LegacyActions.numbered (hand : Hand) : LegacyActions := ⟨hand, fun c => c.index + 1⟩

structure Suggestion where
  action : Nat
  binding : Nat

def suggestAll {m : Type → Type} [Monad m] (p : Profile) (actions : LegacyActions)
    (resolve : String → m (Except Error Nat)) :
    List (LegacyControl × String) → m (Except Error (List Suggestion))
  | [] => pure (.ok [])
  | (c, path) :: rest => do
    let full := actions.hand.path ++ "/" ++ path
    if !p.isInputPathValid full then
      return .error (.invalidLegacyPath full p.path)
    let action := actions.get c
    if action == 0 then
      return .error (.nullAction c.name actions.hand.path)
    match ← resolve full with
    | .error e => return .error e
    | .ok binding =>
      match ← suggestAll p actions resolve rest with
      | .error e => return .error e
      | .ok more => return .ok (⟨action, binding⟩ :: more)

def Profile.legacySuggestions {m : Type → Type} [Monad m] (p : Profile) (actions : LegacyActions)
    (resolve : String → m (Except Error Nat)) : m (Except Error (List Suggestion)) :=
  suggestAll p actions resolve (p.legacy actions.hand).entries

end XrLayer
