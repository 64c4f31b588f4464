import XrLayer.Cli.Grammar
/-!
Help screens, usage lines and error reports of a command line.

A help screen is the level's description, its usage line, its subcommands and its
options, each entry's description aligned two columns after the longest name. Options
are listed by declaration position, options of one position by their short letter
(lower case first) or else their long name, and generated options last. An
option's description is followed by its environment variable with the variable's
current value, and by the values it accepts.

The usage line names the level, `[OPTIONS]` when some option is neither required nor
help, the required options, and `<COMMAND>` for a level with subcommands. An error
caused by particular options names those instead, after the required ones and without
`[OPTIONS]`; once an option of the level's group has a value, the group stands for all of
its options.
-/
namespace XrLayer.Cli

def padRight (width : Nat) (s : String) : String :=
  s ++ String.ofList (List.replicate (width - s.length) ' ')

def dedup (xs : List String) : List String :=
  xs.foldl (fun acc x => if acc.contains x then acc else acc ++ [x]) []

namespace Level

def hasOptional (l : Level) : Bool := l.opts.any (fun o => !o.asksHelp && !o.required)

def commandTag (l : Level) : String := if l.subs.isEmpty then "" else " <COMMAND>"

def usage (l : Level) : String :=
  l.bin ++ (if l.hasOptional then " [OPTIONS]" else "") ++
    String.join (l.required.map (" " ++ ·.display)) ++
    (match l.operands with
     | some (o, _) => " " ++ o
     | none => "") ++ l.commandTag

def groupText (l : Level) : String :=
  "<" ++ "|".intercalate (l.group.filterMap (fun i => (l.find i).map (·.display))) ++ ">"

/-- The usage line of an error caused by the options `used` (by key), and by the level's
group when `grouped`: the required and used options outside the group, then the group. -/
def usageWith (l : Level) (used : List String) (grouped : Bool := false) : String :=
  if used.isEmpty && !grouped then l.usage
  else
    let ids := dedup (l.required.map (·.id) ++ used)
    let ids := if grouped then ids.filter (fun i => !l.group.contains i) else ids
    l.bin ++ String.join (ids.filterMap (fun i => (l.find i).map (" " ++ ·.display))) ++
      (if grouped then " " ++ l.groupText else "") ++ l.commandTag

def notes (o : Opt) (env : String → Option String) : List String :=
  (match o.env with
   | some v => ["[env: " ++ v ++ "=" ++ (env v).getD "" ++ "]"]
   | none => []) ++
  (if o.choices.isEmpty then [] else ["[possible values: " ++ ", ".intercalate o.choices ++ "]"])

def optLine (env : String → Option String) (longest : Nat) (o : Opt) : String :=
  let short := match o.short with
    | some c => "-" ++ c.toString
    | none => if o.long.isSome then "    " else ""
  let long := match o.long with
    | some l => (if o.short.isSome then ", " else "") ++ "--" ++ l
    | none => ""
  let pad := (if o.long.isSome then longest + 2 else longest + 6) - o.display.length
  let text := " ".intercalate ((if o.help.isEmpty then [] else [o.help]) ++ notes o env)
  "  " ++ short ++ long ++ o.suffix ++ String.ofList (List.replicate pad ' ') ++ text

def listingKey (o : Opt) : Nat × String :=
  let name := match o.short, o.long with
    | some c, _ => c.toLower.toString ++ (if c.isLower then "0" else "1")
    | none, some l => l
    | none, none => ""
  (o.position.getD 999, name)

def listsBefore (a b : Opt) : Bool :=
  let (i, x) := listingKey a
  let (j, y) := listingKey b
  i < j || (i == j && decide (x ≤ y))

def helpText (l : Level) (env : String → Option String) : String :=
  let cmds :=
    if l.subs.isEmpty then []
    else
      let longest := l.subs.foldl (fun w (n, _) => max w n.length) 2
      let line := fun ((n, a) : String × String) => "  " ++ padRight (longest + 2) n ++ a
      ["Commands:\n" ++ "\n".intercalate (l.subs.map line)]
  let args := match l.operands with
    | some (o, h) => ["Arguments:\n  " ++ padRight (max 2 o.length + 2) o ++ h]
    | none => []
  let longest := l.opts.foldl (fun w o => max w o.display.length) 2
  let opts := if l.opts.isEmpty then [] else
    ["Options:\n" ++ "\n".intercalate ((l.opts.mergeSort listsBefore).map (optLine env longest))]
  l.about ++ "\n\nUsage: " ++ l.usage ++ "\n\n" ++ "\n\n".intercalate (cmds ++ args ++ opts) ++ "\n"

end Level

structure Diagnostic where
  /-- What is wrong, in one sentence with details on following lines. -/
  message : String
  /-- Words close to a mistyped one: what kind of word, and the candidates. -/
  similar : Option (String × List String) := none
  tips : List String := []
  usage : Option String := none
  pointsToHelp : Bool := true

def Diagnostic.render (d : Diagnostic) : String :=
  let similar := match d.similar with
    | some (kind, [w]) => "\n\n  tip: a similar " ++ kind ++ " exists: '" ++ w ++ "'"
    | some (kind, ws) =>
      "\n\n  tip: some similar " ++ kind ++ "s exist: " ++
        ", ".intercalate (ws.map (fun w => "'" ++ w ++ "'"))
    | none => ""
  let tips := if d.tips.isEmpty then "" else
    (if d.similar.isSome then "" else "\n") ++ String.join (d.tips.map ("\n  tip: " ++ ·))
  let usage := match d.usage with
    | some u => "\n\nUsage: " ++ u
    | none => ""
  let pointer := if d.pointsToHelp then "\n\nFor more information, try '--help'." else ""
  "error: " ++ d.message ++ similar ++ tips ++ usage ++ pointer ++ "\n"

end XrLayer.Cli
