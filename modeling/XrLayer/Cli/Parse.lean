import XrLayer.Cli.Help
import XrLayer.Cli.Similarity
/-!
Reading a command line against a `Program`.

Words are read left to right. A word naming a subcommand hands the rest of the line to
that subcommand, unless an option is waiting for its value; `--` ends option reading,
even for an option waiting for its value, which then stays without one.
`--name=value` and `-xvalue` attach a value; otherwise an option's value is the next
word. A value is checked when the next option is met or the line ends, so an option
left without one, or given twice, or given a value outside its choices, is refused
there. Asking for help stops reading at once. The subcommand's line is read in full
before the program's own options are completed from the environment and checked.

An option given both before and after the subcommand takes the later value, unless the
earlier one came from the command line and the later one only from the environment.
-/
namespace XrLayer.Cli

/-- Where an option's value came from; the command line outranks the environment. -/
inductive Source where
  | environment
  | commandLine
deriving DecidableEq, Repr

def Source.rank : Source → Nat
  | .environment => 0
  | .commandLine => 1

structure Given where
  id : String
  source : Source
  values : List String

abbrev Matches := List Given

def Matches.get? (m : Matches) (id : String) : Option Given := m.find? (·.id == id)

def Matches.has (m : Matches) (id : String) : Bool := (m.get? id).isSome

structure Reader where
  given : Matches := []
  pending : Option (Opt × List String) := none
  awaiting : Bool := false
  trailing : Bool := false
  grouped : Bool := false

inductive Stop where
  | help
  | helpCommand (rest : List String)
  | refused (d : Diagnostic)

def badValue (o : Opt) (v : String) : Stop :=
  let head :=
    if v.isEmpty then "a value is required for '" ++ o.display ++ "' but none was supplied"
    else "invalid value '" ++ v ++ "' for '" ++ o.display ++ "'"
  let choices := if o.choices.isEmpty then ""
    else "\n  [possible values: " ++ ", ".intercalate o.choices ++ "]"
  .refused { message := head ++ choices,
             similar := ((similarTo v o.choices).getLast?).map (fun w => ("value", [w])) }

def checkValue (o : Opt) (v : String) : Except Stop Unit :=
  if (!o.choices.isEmpty && !o.choices.contains v) || (o.nonEmpty && v.isEmpty) then
    .error (badValue o v)
  else .ok ()

def record (l : Level) (st : Reader) (o : Opt) (values : List String) : Except Stop Reader := do
  let st ← match st.pending with
    | none => pure st
    | some (p, vs) => settle l { st with pending := none } p vs
  settle l st o values
where
  settle (l : Level) (st : Reader) (o : Opt) (values : List String) : Except Stop Reader := do
    if o.takesValue && values.isEmpty then throw (badValue o "")
    if o.asksHelp then throw .help
    if st.given.has o.id then
      throw (.refused
        { message := "the argument '" ++ o.display ++ "' cannot be used multiple times",
          usage := some l.usage })
    values.forM (checkValue o)
    return { st with given := st.given ++ [⟨o.id, .commandLine, values⟩],
                     grouped := st.grouped || l.group.contains o.id }

def settlePending (l : Level) (st : Reader) : Except Stop Reader :=
  match st.pending with
  | none => .ok st
  | some (p, vs) => record.settle l { st with pending := none } p vs

/-- The state after settling the pending option with its failure ignored. An option left
without a value is dropped; one given a second time takes its first occurrence with it;
otherwise the option counts as given, and as giving its group a value only when its
values are accepted. -/
def settleQuietly (l : Level) (st : Reader) : Reader :=
  match st.pending with
  | none => st
  | some (p, vs) =>
    let st := { st with pending := none }
    if p.takesValue && vs.isEmpty then st
    else if st.given.has p.id then { st with given := st.given.filter (·.id != p.id) }
    else
      let accepted := (vs.forM (checkValue p)).toBool
      { st with given := st.given ++ [⟨p.id, .commandLine, vs⟩],
                grouped := st.grouped || (accepted && l.group.contains p.id) }

def Reader.used (st : Reader) : List String := st.given.map (·.id)

def unknownLong (l : Level) (subs : List Level) (st : Reader) (name : String)
    (rest : List String) : Stop :=
  let st := settleQuietly l st
  let message := "unexpected argument '--" ++ name ++ "' found"
  match (similarTo name l.longs).getLast? with
  | some cand =>
    let used := match l.findLong cand with
      | some o => if st.given.has o.id then st.used else st.used ++ [o.id]
      | none => st.used
    .refused { message, similar := some ("argument", ["--" ++ cand]),
               usage := some (l.usageWith used st.grouped) }
  | none =>
    let scored := subs.filterMap (fun s =>
      let name' := ((s.bin.splitOn " ").getLast?).getD ""
      match (similarTo name s.longs).getLast?, rest.idxOf? name' with
      | some cand, some i => some (i, name' ++ " --" ++ cand)
      | _, _ => none)
    let best := scored.foldl (fun acc x => match acc with
      | some a => if x.1 < a.1 then some x else some a
      | none => some x) none
    .refused { message, tips := best.toList.map (fun (_, t) => "'" ++ t ++ "' exists"),
               usage := some (l.usageWith st.used st.grouped) }

def strayWord (l : Level) (st : Reader) (w : String) : Stop :=
  if l.subs.isEmpty then
    .refused { message := "unexpected argument '" ++ w ++ "' found", usage := some l.usage }
  else if st.trailing && l.subNames.contains w then
    .refused { message := "unexpected argument '" ++ w ++ "' found",
               tips := ["subcommand '" ++ w ++ "' exists; to use it, remove the '--' before it"],
               usage := some l.usage }
  else
    let similar := similarTo w l.subNames
    .refused { message := "unrecognized subcommand '" ++ w ++ "'",
               similar := if similar.isEmpty then none else some ("subcommand", similar),
               usage := some l.usage }

def readShorts (l : Level) (st : Reader) : List Char → Except Stop Reader
  | [] => .ok st
  | c :: more =>
    match l.findShort c with
    | none =>
      .error (.refused { message := "unexpected argument '-" ++ c.toString ++ "' found",
                         usage := some l.usage })
    | some o =>
      if !o.takesValue then do
        let st ← record l st o []
        readShorts l { st with awaiting := false } more
      else
        let attached := match more with
          | [] => none
          | '=' :: v => some (String.ofList v)
          | v => some (String.ofList v)
        match attached with
        | some v => do
          let st ← record l st o [v]
          return { st with awaiting := false }
        | none => do
          let st ← settlePending l st
          return { st with pending := some (o, []), awaiting := true }

def readWords (l : Level) (subs : List Level) : List String → Reader →
    Except Stop (Reader × Option (String × List String))
  | [], st => .ok (st, none)
  | w :: rest, st =>
    -- a subcommand name counts only before `--` and while no option waits for its value
    if !st.trailing && !st.awaiting && l.subNames.contains w then
      if w == "help" then .error (.helpCommand rest) else .ok (st, some (w, rest))
    else if !st.trailing && w == "--" then
      readWords l subs rest { st with trailing := true, awaiting := false }
    else if !st.trailing && w.startsWith "--" then
      -- `--name=value` carries its value; `--name` alone waits for the next word
      let body := (w.drop 2).toString
      let (name, attached) := match body.splitOn "=" with
        | [n] => (n, none)
        | n :: vs => (n, some ("=".intercalate vs))
        | [] => (body, none)
      match l.findLong name with
      | none => .error (unknownLong l subs st name rest)
      | some o =>
        if o.takesValue then
          match attached with
          | some v => do
            let st ← record l st o [v]
            readWords l subs rest { st with awaiting := false }
          | none => do
            let st ← settlePending l st
            readWords l subs rest { st with pending := some (o, []), awaiting := true }
        else
          match attached with
          | some v =>
            let optional := st.given.filter (fun g => !(l.required.any (·.id == g.id)))
            let used := optional.map (·.id) ++ [o.id]
            .error (.refused { message := "unexpected value '" ++ v ++ "' for '" ++ o.display ++
                                 "' found; no more were expected",
                               usage := some (l.usageWith used st.grouped) })
          | none => do
            let st ← record l st o []
            readWords l subs rest { st with awaiting := false }
    else if !st.trailing && w.startsWith "-" && w.length > 1 then do
      let st ← readShorts l st (w.drop 1).toString.toList
      readWords l subs rest st
    else if !st.trailing && st.awaiting then
      -- the word is the value the pending option waits for
      match st.pending with
      | some (o, vs) =>
        readWords l subs rest { st with pending := some (o, vs ++ [w]), awaiting := false }
      | none => readWords l subs rest { st with awaiting := false }
    else
      -- any other word, and every word after `--`, is refused as stray
      .error (strayWord l (settleQuietly l st) w)

/-- Finish a level: settle the pending option, take values from the environment, and
check that every required option is there. -/
def finish (l : Level) (env : String → Option String) (st : Reader) : Except Stop Matches := do
  let st ← settlePending l st
  let fromEnv := l.opts.filterMap (fun o =>
    match o.env with
    | some v =>
      if st.given.has o.id then none
      else (env v).map (fun x => (⟨o.id, .environment, [x]⟩ : Given))
    | none => none)
  let m := st.given ++ fromEnv
  let missing := l.required.filter (fun o => !m.has o.id)
  if !missing.isEmpty then
    throw (.refused {
      message := "the following required arguments were not provided:" ++
        String.join (missing.map ("\n  " ++ ·.display)),
      usage := some (l.usageWith (m.map (·.id) ++ missing.map (·.id))) })
  return m

inductive Reading where
  | invoke (command : String) (options : Matches)
  | help (text : String)
  | refuse (text : String)

/-- Global options given at both levels: the later wins unless it ranks lower. -/
def merge (top sub : Matches) : Matches :=
  let fromTop := top.filter (fun g =>
    match sub.get? g.id with
    | some s => g.source.rank > s.source.rank
    | none => true)
  fromTop ++ sub.filter (fun s => !fromTop.any (·.id == s.id))

def helpFor (p : Program) (env : String → Option String) : Level → List String → Reading
  | l, [] => .help (l.helpText env)
  | l, w :: rest =>
    let unknown : Diagnostic :=
      { message := "unrecognized subcommand '" ++ w ++ "'", usage := some l.usage,
        pointsToHelp := l.hasHelpOption }
    if l.bin == p.name && w == "help" then helpFor p env p.helpLevel rest
    else if l.bin == p.name then
      match p.sub w with
      | some s => helpFor p env s rest
      | none => .refuse unknown.render
    else .refuse unknown.render

def stopped (p : Program) (env : String → Option String) (l : Level) : Stop → Reading
  | .help => .help (l.helpText env)
  | .helpCommand rest => helpFor p env p.top rest
  | .refused d => .refuse d.render

def Program.read (p : Program) (env : String → Option String) (args : List String) : Reading :=
  let top := p.top
  let subs := p.commands.filterMap (fun (n, _, _) => p.sub n)
  match readWords top subs args {} with
  | .error s => stopped p env top s
  | .ok (st, none) =>
    match finish top env st with
    | .error s => stopped p env top s
    | .ok m =>
      if m.isEmpty then .refuse (top.helpText env)
      else
        let missing : Diagnostic :=
          { message := "'" ++ p.name ++ "' requires a subcommand but one was not provided" ++
              "\n  [subcommands: " ++ ", ".intercalate top.subNames ++ "]",
            usage := some top.usage }
        .refuse missing.render
  | .ok (st, some (name, rest)) =>
    match p.sub name with
    | none => .refuse ""
    | some l =>
      match readWords l [] rest {} with
      | .error s => stopped p env l s
      | .ok (sst, _) =>
        match finish l env sst with
        | .error s => stopped p env l s
        | .ok sm =>
          match finish top env st with
          | .error s => stopped p env top s
          | .ok m => .invoke name (merge m sm)

end XrLayer.Cli
