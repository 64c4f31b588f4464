import XrLayer.Cli.Commands
import XrLayer.Cli.Volume

open XrLayer.Cli

def readFailure (e : IO.Error) : String :=
  let code? : Option UInt32 := match e with
    | .noFileOrDirectory _ c _ | .permissionDenied _ c _ | .inappropriateType _ c _
    | .invalidArgument _ c _ | .noSuchThing _ c _ | .otherError c _ => some c
    | _ => none
  match code?.bind (fun c => ReadFailure.ofCode? c.toNat) with
  | some f => f.describe
  | none => toString e

def readText (path : String) : IO (Except String String) := do
  try
    let bytes ← IO.FS.readBinFile path
    pure (match String.fromUTF8? bytes with
      | some text => .ok text
      | none => .error ReadFailure.notText.describe)
  catch e => pure (.error (readFailure e))

def main (args : List String) : IO UInt32 := do
  let configured ← IO.getEnv configVariable
  let env := fun v => if v == configVariable then configured else none
  let outcome ← match plan env args with
    | .error o => pure o
    | .ok inv =>
      match inv.config with
      | none => pure (inv.run none)
      | some path =>
        pure (inv.run (some (← readText path)))
  IO.print outcome.stdout
  IO.eprint outcome.stderr
  return UInt32.ofNat outcome.status
