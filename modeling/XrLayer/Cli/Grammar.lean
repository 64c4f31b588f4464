/-!
The shape of a command line: a program with options, and subcommands with options of
their own.

An option has a long name, a short letter or both, and either takes one value or is a
switch. Options marked global are accepted by every subcommand as well, and keep the
position they were declared at on the program's level. Every level answers `-h` and
`--help`, and a program with subcommands also has a `help` subcommand. The options
declared together on a level, globals on the program's level and a subcommand's own on
its level, form that level's group.
-/
namespace XrLayer.Cli

structure Opt where
  id : String
  long : Option String := none
  short : Option Char := none
  value : Option String := none
  help : String := ""
  required : Bool := false
  choices : List String := []
  nonEmpty : Bool := false
  /-- The environment variable that supplies a value the command line does not. -/
  env : Option String := none
  global : Bool := false
  asksHelp : Bool := false
  /-- The position the option was declared at on its level; none for generated options. -/
  position : Option Nat := none
deriving Inhabited

namespace Opt

def helpOpt : Opt :=
  { id := "help", long := some "help", short := some 'h', help := "Print help", asksHelp := true }

def numbered (os : List Opt) : List Opt :=
  (List.range os.length).zipWith (fun i o => { o with position := some i }) os

def takesValue (o : Opt) : Bool := o.value.isSome

def suffix (o : Opt) : String :=
  match o.value with
  | some v => " <" ++ v ++ ">"
  | none => ""

def display (o : Opt) : String :=
  let name := match o.long, o.short with
    | some l, _ => "--" ++ l
    | none, some s => "-" ++ s.toString
    | none, none => ""
  name ++ o.suffix

end Opt

/-- One level of a command line: the program itself or one of its subcommands. -/
structure Level where
  bin : String
  about : String
  /-- Options in listing order, the help option last. -/
  opts : List Opt
  subs : List (String × String) := []
  operands : Option (String × String) := none
  /-- The keys of the options declared together on this level, which usage lines can name
  as one group once one of them has been given a value. -/
  group : List String := []

namespace Level

def findLong (l : Level) (name : String) : Option Opt := l.opts.find? (·.long == some name)

def findShort (l : Level) (c : Char) : Option Opt := l.opts.find? (·.short == some c)

def find (l : Level) (id : String) : Option Opt := l.opts.find? (·.id == id)

def longs (l : Level) : List String := l.opts.filterMap (·.long)

def subNames (l : Level) : List String := l.subs.map (·.1)

def required (l : Level) : List Opt := l.opts.filter (·.required)

def hasHelpOption (l : Level) : Bool := l.opts.any (·.asksHelp)

end Level

/-- A program with subcommands, one of which must be given. -/
structure Program where
  name : String
  about : String
  /-- The program's own options, global ones included, without help. -/
  opts : List Opt
  commands : List (String × String × List Opt)

namespace Program

def helpAbout : String := "Print this message or the help of the given subcommand(s)"

def helpLevel (p : Program) : Level where
  bin := p.name ++ " help"
  about := helpAbout
  opts := []
  operands := some ("[COMMAND]...", "Print help for the subcommand(s)")

def top (p : Program) : Level where
  bin := p.name
  about := p.about
  opts := Opt.numbered p.opts ++ [Opt.helpOpt]
  subs := p.commands.map (fun (n, a, _) => (n, a)) ++ [("help", helpAbout)]
  group := p.opts.map (·.id)

/-- The level of subcommand `name`: its own options, then the global ones, then help. -/
def sub (p : Program) (name : String) : Option Level :=
  (p.commands.find? (·.1 == name)).map (fun (n, a, os) =>
    { bin := p.name ++ " " ++ n, about := a,
      opts := Opt.numbered os ++ (Opt.numbered p.opts).filter (·.global) ++ [Opt.helpOpt],
      group := os.map (·.id) })

end Program

end XrLayer.Cli
