import XrLayer.Cli.Parse
import XrLayer.Config.Read
import XrLayer.Input.Context
import XrLayer.Json.Write
/-!
The bridge's command-line tool: profile listings, legacy binding tables, a check of every
profile's legacy table, and the grip transform of a profile.

Running the tool has two steps, so that the file system stays outside: reading the
command line gives either a finished outcome (a help screen or a refusal, with status 0
or 2) or an invocation; an invocation then runs with the text of its configuration file,
if it names one. A failure while running prints `Error:` and its description on the
error stream and gives status 1.
-/
namespace XrLayer.Cli

open Linear Decimal Json

structure Outcome where
  status : Nat
  stdout : String := ""
  stderr : String := ""

def configVariable : String := "OVRBRIDGE_CONFIG"

def tool : Program :=
  let profile : Opt := { id := "profile", long := some "profile", short := some 'p',
                         value := some "PROFILE", help := "Interaction profile path",
                         required := true }
  let hand : Opt := { id := "hand", long := some "hand", value := some "HAND", required := true,
                      choices := ["left", "right"] }
  { name := "ovrbridge"
    about := "ovrbridge CLI tools"
    opts := [{ id := "config", long := some "config", short := some 'c', value := some "CONFIG",
               help := "Configuration file (JSON). Defaults apply when omitted", nonEmpty := true,
               env := some configVariable, global := true },
             { id := "reverb_g2", long := some "reverb-g2",
               help := "Behave as if the runtime offers HP Reverb G2 controller support",
               global := true }]
    commands := [
      ("profiles", "List interaction profiles in registry order", []),
      ("bindings", "Print the legacy control table of a profile for one hand", [profile, hand]),
      ("validate", "Check every profile's legacy table against its valid input paths", []),
      ("transform", "Print the grip-to-legacy transform for a profile and hand",
        [profile, hand,
         { id := "json", long := some "json", help := "Print as a JSON array of rows" }]),
      ("version", "Show version information", [])] }

inductive Task where
  | profiles
  | bindings (profile : String) (hand : Hand)
  | validate
  | transform (profile : String) (hand : Hand) (json : Bool)
  | version

structure Invocation where
  config : Option String
  reverbG2 : Bool
  task : Task

def valueOf (m : Matches) (id : String) : String :=
  ((m.get? id).bind (·.values.head?)).getD ""

def taskOf (command : String) (m : Matches) : Task :=
  let hand : Hand := if valueOf m "hand" == "left" then .left else .right
  match command with
  | "bindings" => .bindings (valueOf m "profile") hand
  | "validate" => .validate
  | "transform" => .transform (valueOf m "profile") hand (m.has "json")
  | "version" => .version
  | _ => .profiles

def plan (env : String → Option String) (args : List String) : Except Outcome Invocation :=
  match tool.read env args with
  | .help text => .error { status := 0, stdout := text }
  | .refuse text => .error { status := 2, stderr := text }
  | .invoke command m =>
    .ok { config := (m.get? "config").bind (·.values.head?), reverbG2 := m.has "reverb_g2",
          task := taskOf command m }

def failure (message : String) : Outcome := { status := 1, stderr := "Error: " ++ message ++ "\n" }

def lines (ls : List String) : String := String.join (ls.map (· ++ "\n"))

def profileLines (c : Context) : List String :=
  c.registry.profiles.map (fun p =>
    padRight 52 p.path ++ " " ++ padRight 24 p.openvrName ++ " " ++
      padLeft 3 (toString p.validPaths.length) ++ " paths  " ++ (p.renderModel .right).getD "-")

def bindingLines (p : Profile) (hand : Hand) : List String :=
  let b := p.legacy hand
  LegacyControl.all.map (fun k =>
    match b.resolve k with
    | some path => padRight 16 k.name ++ " " ++ hand.path ++ "/" ++ path
    | none => padRight 16 k.name ++ " -")

/-- The check of one profile's legacy table for one hand, with handles numbered from one
for the whole run. -/
def validateLine (c : Context) (p : Profile) (hand : Hand) : StateM Nat (Except String String) := do
  let r ← c.legacyBindingsFor p.path (LegacyActions.numbered hand)
    (fun _ => modifyGet (fun n => (.ok (n + 1), n + 1)))
  return match r with
    | .ok bs =>
      .ok ("ok   " ++ p.path ++ " " ++ hand.path ++ ": " ++ toString bs.length ++ " bindings")
    | .error e => .error ("FAIL " ++ p.path ++ " " ++ hand.path ++ ": " ++ e.message)

def matrixLines (m : Mat4) : List String :=
  m.rows.map (fun r => " ".intercalate (r.toList.map (fun x => padLeft 10 (fixedText 5 x))))

def matrixJson (m : Mat4) : String :=
  (Value.arr (m.rows.map (fun r => .arr (r.toList.map (fun x => .num (.single x)))))).pretty 0

def Task.run (c : Context) : Task → Outcome
  | .profiles => { status := 0, stdout := lines (profileLines c) }
  | .bindings path hand =>
    match c.profile path with
    | .error e => failure e.message
    | .ok p => { status := 0, stdout := lines (bindingLines p hand) }
  | .validate =>
    let checks := (c.registry.profiles.flatMap (fun p => Hand.both.map (fun h => (p, h)))).mapM
      (fun (p, h) => validateLine c p h)
    let results := (checks.run 0).run.1
    let failed := results.filter (fun r => match r with | .error _ => true | .ok _ => false)
    let out := lines (results.map (fun r => match r with | .ok s => s | .error s => s))
    if failed.isEmpty then { status := 0, stdout := out }
    else
      { failure (toString failed.length ++ " legacy table(s) failed validation") with
        stdout := out }
  | .transform path hand json =>
    match c.gripToLegacy path (some hand) with
    | .error e => failure e.message
    | .ok m =>
      { status := 0, stdout := if json then matrixJson m ++ "\n" else lines (matrixLines m) }
  | .version => { status := 0, stdout := "ovrbridge 0.1.0\n" }

def Invocation.run (inv : Invocation) (file : Option (Except String String)) : Outcome :=
  let config : Except Outcome Config := match inv.config, file with
    | some path, some (.error reason) =>
      .error (failure ("reading config " ++ path ++ "\n\nCaused by:\n    " ++ reason))
    | some _, some (.ok text) =>
      (Config.ofJson text).mapError (fun m => failure ("invalid config: " ++ m))
    | _, _ => .ok {}
  match config with
  | .error o => o
  | .ok cfg => inv.task.run (Context.new cfg inv.reverbG2)

end XrLayer.Cli
