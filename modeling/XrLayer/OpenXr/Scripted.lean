import XrLayer.OpenXr.Runtime
/-!
A scripted OpenXR runtime for driving the bridge without one.

Paths are interned: each distinct string gets the next number from one when first
resolved. Actions are numbered from 1000 in creation order and spaces from 51. Failures
are scripted: paths whose resolution fails with a given code, an action name and an
action set whose creation fails, profiles whose suggestions are refused, reference
spaces that cannot be created, and the answer to every locate. Created objects, every
suggestion (refused ones too) and every locate are logged.

A scripted code that is not negative is a success code, so the call succeeds without
making anything: it hands back the null handle 0, logs nothing and uses up no number.
-/
namespace XrLayer.OpenXr

inductive Created where
  | actionSet (name localized : String) (priority : Nat)
  | action (name localized : String) (type : ActionType) (handle : Nat)

/-- A path handle as the log shows it: the string it was interned for, or the bare
handle when it names no path (the null handle of a resolution that made nothing). -/
inductive LoggedPath where
  | known (path : String)
  | unknown (handle : Nat)

/-- A logged suggestion: the profile path, pairs of action name and path, and the code
the runtime answered. -/
structure Suggested where
  profile : LoggedPath
  bindings : List (String × LoggedPath)
  result : Int

structure LocateCall where
  space : String
  base : String
  time : Int

structure Script where
  failPaths : List String := []
  pathFailCode : Int := -21
  reject : List (String × Int) := []
  failAction : Option String := none
  failActionCode : Int := -45
  failActionSet : Option Int := none
  failReferenceSpace : List (ReferenceSpace × Int) := []
  /-- The answer to the next locate: a failure code, or the code and the reading. -/
  answer : Int × RawLocation := (0, {})
  paths : List String := []
  actions : List (Nat × String) := []
  spaces : List (Nat × ReferenceSpace) := []
  created : Array Created := #[]
  suggested : Array Suggested := #[]
  calls : Array LocateCall := #[]

namespace Script

def pathOf (s : Script) (h : Nat) : LoggedPath :=
  match h with
  | 0 => .unknown 0
  | i + 1 =>
    match s.paths[i]? with
    | some p => .known p
    | none => .unknown h

def spaceName (s : Script) (h : Nat) : String :=
  match s.spaces.lookup h with
  | some .localSpace => "local"
  | some .stage => "stage"
  | some .view => "view" ++ toString h
  | none => toString h

def runtime : Runtime (StateM Script) where
  createActionSet name localized priority := do
    if let some code := (← get).failActionSet then
      return if code < 0 then .error code else .ok 0
    modify (fun s => { s with created := s.created.push (.actionSet name localized priority) })
    return .ok 1
  createAction _ name localized type := do
    let s ← get
    if s.failAction == some name then
      return if s.failActionCode < 0 then .error s.failActionCode else .ok 0
    let handle := 1000 + s.actions.length
    set { s with actions := s.actions ++ [(handle, name)],
                 created := s.created.push (.action name localized type handle) }
    return .ok handle
  stringToPath path := do
    let s ← get
    if s.failPaths.contains path then
      return if s.pathFailCode < 0 then .error s.pathFailCode else .ok 0
    match s.paths.idxOf? path with
    | some i => return .ok (i + 1)
    | none =>
      set { s with paths := s.paths ++ [path] }
      return .ok (s.paths.length + 1)
  suggestBindings profile pairs := do
    let s ← get
    let path := s.pathOf profile
    let code := match path with
      | .known p => (s.reject.lookup p).getD 0
      | .unknown _ => 0
    let names := pairs.map (fun (a, p) => ((s.actions.lookup a).getD "", s.pathOf p))
    set { s with suggested := s.suggested.push ⟨path, names, code⟩ }
    return code
  createReferenceSpace kind := do
    let s ← get
    if let some code := s.failReferenceSpace.lookup kind then
      return if code < 0 then .error code else .ok 0
    let handle := 51 + s.spaces.length
    set { s with spaces := s.spaces ++ [(handle, kind)] }
    return .ok handle
  locateSpace space base time := do
    let s ← get
    set { s with calls := s.calls.push ⟨s.spaceName space, s.spaceName base, time⟩ }
    let (code, l) := s.answer
    return if code < 0 then .error code else .ok l

end Script

end XrLayer.OpenXr
