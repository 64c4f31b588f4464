/-!
Failures of the bridge.

Failures come in two tiers. A soft failure is recoverable: it is logged and otherwise
ignored, unless the configuration asks to escalate soft failures, in which case it
becomes fatal. Every other failure is fatal: an authoring defect in a profile, a lost
device, or a runtime that refused an operation.
-/
namespace XrLayer

inductive Error where
  | unknownProfile (path : String)
  | invalidLegacyPath (path profile : String)
  | nullAction (control handPath : String)
  | pathResolution (path reason : String)
  | swapchainCreation (eye : Nat) (code : Int)
  | swapchainImage (message : String)
  /-- A device-level operation failed; `reason` is the device removal reason. -/
  | deviceLost (operation reason : String)
  | escalated (message : String)
  | soft (message : String)

namespace Error

def message : Error → String
  | .unknownProfile p => "could not find interaction profile '" ++ p ++ "'"
  | .invalidLegacyPath path profile =>
    "found legacy input path " ++ path ++ ", not supported by profile " ++ profile
  | .nullAction control hand =>
    "legacy action '" ++ control ++ "' for " ++ hand ++ " has not been created"
  | .pathResolution path reason => "failed to resolve path " ++ path ++ ": " ++ reason
  | .swapchainCreation eye code =>
    "cannot create swapchain for eye " ++ toString eye ++ ": runtime returned " ++ toString code
  | .swapchainImage m => "swapchain image operation failed: " ++ m
  | .deviceLost op reason => "device operation " ++ op ++ " failed, device removed: " ++ reason
  | .escalated m => "soft abort escalated: " ++ m
  | .soft m => m

def isFatal : Error → Bool
  | .soft _ => false
  | _ => true

end Error

/-- Swallow a soft failure, or escalate it when `stop` is set: the escalated failure
carries the soft failure's description. -/
def softAbort (e : Error) (stop : Bool) : Except Error Unit :=
  if stop then .error (.escalated e.message) else .ok ()

end XrLayer
