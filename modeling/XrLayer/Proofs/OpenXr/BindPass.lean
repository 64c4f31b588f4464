import Mathlib
import XrLayer.OpenXr.Bind
import XrLayer.Proofs.Input.LegacyBindings
import XrLayer.OpenXr.Scripted
/-!
Suggesting the legacy bindings of every registered profile to an OpenXR runtime.

The runtime is any stateful one, `Runtime (StateM σ)`, so every pattern of answers is covered.
Once the action set holds a non-null action for every control of both hands, the pass over the
registry goes profile by profile as `ProfileEnds` says. The runtime resolves the full paths of the
profile's table, left hand first, until it refuses one, and that refusal ends the whole pass. Else
it resolves the profile's own path and takes one suggestion: the actions with the handles just
resolved, in that order. A refused profile path or a suggestion answered with a failure code is a
soft failure: it costs only that profile, unless soft failures are escalated (`PassEnds`). Main
statement: `bindProfiles_pass`.
-/
namespace XrLayer

variable {σ : Type}

section Runs

theorem exceptT_run_bind_state {ε α β : Type} (x : ExceptT ε (StateM σ) α)
    (f : α → ExceptT ε (StateM σ) β) (st : σ) :
    (x >>= f).run.run st =
      match x.run.run st with
      | (.ok a, st') => (f a).run.run st'
      | (.error e, st') => (.error e, st') := by
  simp only [ExceptT.run_bind, run_bind_state]
  rcases x.run.run st with ⟨_ | _, _⟩ <;> rfl

theorem mapM_append_run {α β : Type} (f : α → StateM σ β) (xs ys : List α) (st : σ) :
    ((xs ++ ys).mapM f).run st =
      (((xs.mapM f).run st).1 ++ ((ys.mapM f).run ((xs.mapM f).run st).2).1,
        ((ys.mapM f).run ((xs.mapM f).run st).2).2) := by
  simp only [List.mapM_append, run_bind_state, run_pure_state]

theorem mapM_nil_run {α β : Type} (f : α → StateM σ β) (st : σ) :
    (([] : List α).mapM f).run st = ([], st) := rfl

theorem length_mapM_run {α β : Type} (f : α → StateM σ β) (xs : List α) (st : σ) :
    ((xs.mapM f).run st).1.length = xs.length := by
  induction xs generalizing st with
  | nil => rfl
  | cons x xs ih => rw [mapM_cons_run, List.length_cons, ih, List.length_cons]

theorem mapM_append_of_run {α β : Type} {f : α → StateM σ β} {xs ys : List α}
    {rs₁ rs₂ : List β} {st st₁ st₂ : σ} (h₁ : (xs.mapM f).run st = (rs₁, st₁))
    (h₂ : (ys.mapM f).run st₁ = (rs₂, st₂)) :
    ((xs ++ ys).mapM f).run st = (rs₁ ++ rs₂, st₂) := by
  rw [mapM_append_run, h₁, h₂]

theorem run_liftM_state {ε α : Type} (x : StateM σ α) (st : σ) :
    (liftM x : ExceptT ε (StateM σ) α).run.run st = (.ok (x.run st).1, (x.run st).2) := rfl

theorem run_lift_state {ε α : Type} (x : StateM σ α) (st : σ) :
    (ExceptT.lift x : ExceptT ε (StateM σ) α).run.run st = (.ok (x.run st).1, (x.run st).2) := rfl

theorem forM_cons_run {ε α : Type} (f : α → ExceptT ε (StateM σ) Unit) (x : α) (xs : List α)
    (st : σ) :
    ((x :: xs).forM f).run.run st =
      match (f x).run.run st with
      | (.ok (), st') => (xs.forM f).run.run st'
      | (.error e, st') => (.error e, st') := by
  rw [List.forM_eq_forM, List.forM_cons, exceptT_run_bind_state]
  rcases (f x).run.run st with ⟨_ | ⟨⟩, _⟩ <;> rfl

theorem forM_singleton_run {ε α : Type} (f : α → ExceptT ε (StateM σ) Unit) (x : α) (st : σ) :
    ([x].forM f).run.run st = (f x).run.run st := by
  rw [forM_cons_run]
  rcases (f x).run.run st with ⟨_ | ⟨⟩, _⟩ <;> rfl

end Runs

namespace OpenXr

section Resolve

variable (rt : Runtime (StateM σ))

theorem resolvePath_run (path : String) (st : σ) :
    (resolvePath rt path).run st =
      (((rt.stringToPath path).run st).1.mapError
        (fun code => .pathResolution path (resultName code)), ((rt.stringToPath path).run st).2) :=
  rfl

/-- Resolving paths one after another succeeds with the runtime's handles exactly when the
runtime resolves every one of them. -/
theorem mapM_resolvePath_eq_ok (paths : List String) (hs : List Nat) (st st' : σ) :
    (paths.mapM (resolvePath rt)).run st = (hs.map .ok, st') ↔
      (paths.mapM rt.stringToPath).run st = (hs.map .ok, st') := by
  induction paths generalizing st hs with
  | nil =>
    rw [mapM_nil_run, mapM_nil_run, Prod.ext_iff, Prod.ext_iff]
    cases hs <;> simp
  | cons path rest ih =>
    rw [mapM_cons_run, mapM_cons_run, resolvePath_run]
    rcases (rt.stringToPath path).run st with ⟨r, st₁⟩
    cases hs with
    | nil =>
      rw [Prod.ext_iff, Prod.ext_iff]
      simp
    | cons h hs =>
      -- the head resolves exactly when the runtime resolves it; the rest is the induction
      have hhead : r.mapError (fun code => Error.pathResolution path (resultName code)) = .ok h ↔
          r = .ok h := by
        cases r <;> simp [Except.mapError]
      have hrest := ih hs st₁
      rw [Prod.ext_iff, Prod.ext_iff] at hrest ⊢
      simp only [List.map_cons, List.cons.injEq, and_assoc, hhead] at hrest ⊢
      exact and_congr_right (fun _ => hrest)

theorem resolvePath_eq_error {path : String} {st st' : σ} {err : Error}
    (h : (resolvePath rt path).run st = (.error err, st')) :
    ∃ code, (rt.stringToPath path).run st = (.error code, st') ∧
      err = .pathResolution path (resultName code) := by
  rw [resolvePath_run] at h
  rcases hr : (rt.stringToPath path).run st with ⟨_ | _, _⟩
  · rw [hr] at h
    cases h
    exact ⟨_, rfl, rfl⟩
  · rw [hr] at h
    cases h

theorem suggest_run (path : String) (bindings : List Suggestion) (st : σ) :
    (suggest rt path bindings).run st =
      match (rt.stringToPath path).run st with
      | (.error code, st') => (.error (.pathResolution path (resultName code)), st')
      | (.ok profile, st') =>
        let answer :=
          (rt.suggestBindings profile (bindings.map (fun b => (b.action, b.binding)))).run st'
        (if answer.1 < 0 then
          .error (.soft ("OpenXR binding suggestion rejected for " ++ path ++ ": " ++
            resultName answer.1))
        else .ok (), answer.2) := by
  simp only [suggest, run_bind_state, resolvePath_run]
  rcases (rt.stringToPath path).run st with ⟨_ | _, _⟩
  · rfl
  · simp only [Except.mapError, run_bind_state]
    split_ifs <;> rfl

end Resolve

section Actions

theorem except_map_eq_ok {ε α β : Type} {f : α → β} {x : Except ε α} {b : β}
    (h : x.map f = .ok b) : ∃ a, x = .ok a ∧ f a = b := by
  cases x with
  | error e => cases h
  | ok a => exact ⟨a, rfl, by injection h⟩

/-- A run of `f` over `xs` that stops at the first failure: when every successful call answers
with a pair keyed by its own input, a successful run is keyed by `xs` in order. -/
theorem keys_mapM_run {ε α β : Type} (f : α → ExceptT ε (StateM σ) (α × β))
    (hf : ∀ x st y st', (f x).run.run st = (.ok y, st') → y.1 = x) (xs : List α) (st : σ)
    (ys : List (α × β)) (h : ((xs.mapM f).run.run st).1 = .ok ys) : ys.map Prod.fst = xs := by
  induction xs generalizing st ys with
  | nil =>
    change Except.ok [] = Except.ok ys at h
    cases h
    rfl
  | cons x xs ih =>
    rw [List.mapM_cons, exceptT_run_bind_state] at h
    rcases hx : (f x).run.run st with ⟨_ | y, st₁⟩
    · simp only [hx] at h
      cases h
    · simp only [hx, exceptT_run_bind_state] at h
      rcases hxs : (xs.mapM f).run.run st₁ with ⟨_ | ys', st₂⟩
      · simp only [hxs] at h
        cases h
      · simp only [hxs] at h
        change Except.ok (y :: ys') = Except.ok ys at h
        cases h
        rw [List.map_cons, hf x st y st₁ hx, ih st₁ ys' (by rw [hxs])]

end Actions

namespace LegacyActionSet

variable (rt : Runtime (StateM σ))

/-- A successful creation makes one action for every hand and control, in creation order. -/
theorem create_keys {st₀ st₁ : σ} {a : LegacyActionSet}
    (hmade : (create rt).run st₀ = (.ok a, st₁)) : a.handles.map Prod.fst = slots := by
  simp only [create, run_bind_state] at hmade
  rcases hset : (rt.createActionSet "legacy-inputs" "Legacy Inputs" 0).run st₀ with ⟨_ | set, st'⟩
  · simp only [hset] at hmade
    cases hmade
  · simp only [hset, run_bind_state, run_pure_state] at hmade
    rw [Prod.ext_iff] at hmade
    obtain ⟨handles, hmap, rfl⟩ := except_map_eq_ok hmade.1
    refine keys_mapM_run _ ?_ _ _ _ hmap
    -- each creation that succeeds is filed under its own hand and control
    rintro ⟨h, c⟩ st y st'' hy
    rw [exceptT_run_bind_state, run_liftM_state] at hy
    rcases hc : (rt.createAction set (actionName h c) (actionDescription h c) (actionType c)).run st
      with ⟨_ | handle, st₂⟩
    · simp only [hc] at hy
      cases hy
    · simp only [hc] at hy
      cases hy
      rfl

theorem mem_slots (h : Hand) (c : LegacyControl) : (h, c) ∈ slots := by
  cases h <;> cases c <;> decide

/-- Once every hand and control has its action, the actions of a hand map each control to the
handle made for it. -/
theorem controllerActions_mem {a : LegacyActionSet} (hkeys : a.handles.map Prod.fst = slots)
    (h : Hand) (c : LegacyControl) : ((h, c), (a.controllerActions h).get c) ∈ a.handles := by
  have hslot : (h, c) ∈ a.handles.map Prod.fst := hkeys ▸ mem_slots h c
  obtain ⟨e, he, hkey⟩ := List.mem_map.mp hslot
  have hsome : (a.handles.lookup (h, c)).isSome :=
    List.lookup_isSome_iff.mpr ⟨e, he, by simp [hkey]⟩
  obtain ⟨v, hv⟩ := Option.isSome_iff_exists.mp hsome
  obtain ⟨l₁, l₂, hl, -⟩ := List.lookup_eq_some_iff.mp hv
  have hget : (a.controllerActions h).get c = v := by
    simp [controllerActions, hv]
  rw [hget, hl]
  simp

/-- The bindings the pass asks of profile `p`, left hand first: for each entry of the hand's
table, in binding order, the action of its control on that hand and its full path. -/
def bindingsOf (a : LegacyActionSet) (p : Profile) : List (Nat × String) :=
  Hand.both.flatMap fun h =>
    (p.legacy h).entries.map fun e =>
      ((a.controllerActions h).get e.1, (a.controllerActions h).fullPath e)

theorem bindingsOf_paths (a : LegacyActionSet) (p : Profile) :
    (a.bindingsOf p).map Prod.snd =
      (p.legacy .left).entries.map (a.controllerActions .left).fullPath ++
        (p.legacy .right).entries.map (a.controllerActions .right).fullPath := by
  simp [bindingsOf, Hand.both, Function.comp_def]

theorem bindingsOf_actions (a : LegacyActionSet) (p : Profile) :
    (a.bindingsOf p).map Prod.fst =
      (p.legacy .left).entries.map (fun e => (a.controllerActions .left).get e.1) ++
        (p.legacy .right).entries.map (fun e => (a.controllerActions .right).get e.1) := by
  simp [bindingsOf, Hand.both, Function.comp_def]

end LegacyActionSet

/-- The suggestions a hand's walk binds, as the pairs the runtime is handed, are the entries'
actions beside the resolved handles. -/
theorem zip_actions_eq (A : LegacyActions) (L : List (LegacyControl × String)) (hs : List Nat) :
    (L.map (fun e => A.get e.1)).zip hs =
      (L.zipWith (fun e h => (⟨A.get e.1, h⟩ : Suggestion)) hs).map
        (fun b => (b.action, b.binding)) := by
  simp [List.zip_eq_zipWith, List.map_zipWith, List.zipWith_map_left]

/-- How the pass handles profile `p`, with the bindings `pairs` of action and full path, from
runtime state `st`, and what that ends in. -/
inductive ProfileEnds (rt : Runtime (StateM σ)) (stop : Bool) (p : Profile)
    (pairs : List (Nat × String)) (st : σ) : Except Error Unit × σ → Prop
  /-- The runtime resolves the paths before `path` and refuses `path`: that resolution failure
  ends the pass, and nothing is suggested. -/
  | refused (pre post : List String) (path : String) (hs : List Nat) (code : Int) {st₁ st₂ : σ} :
      pairs.map Prod.snd = pre ++ path :: post →
      (pre.mapM rt.stringToPath).run st = (hs.map .ok, st₁) →
      (rt.stringToPath path).run st₁ = (.error code, st₂) →
      ProfileEnds rt stop p pairs st (.error (.pathResolution path (resultName code)), st₂)
  /-- Every path resolves but the profile's own does not: a soft failure. -/
  | profileRefused (hs : List Nat) (code : Int) {st₁ st₂ : σ} :
      ((pairs.map Prod.snd).mapM rt.stringToPath).run st = (hs.map .ok, st₁) →
      (rt.stringToPath p.path).run st₁ = (.error code, st₂) →
      ProfileEnds rt stop p pairs st
        (softAbort (.pathResolution p.path (resultName code)) stop, st₂)
  /-- Every path resolves and so does the profile's: one suggestion of the actions beside the
  handles, in order. A negative answer is a soft failure. -/
  | suggested (hs : List Nat) (profile : Nat) (code : Int) {st₁ st₂ st₃ : σ} :
      ((pairs.map Prod.snd).mapM rt.stringToPath).run st = (hs.map .ok, st₁) →
      (rt.stringToPath p.path).run st₁ = (.ok profile, st₂) →
      (rt.suggestBindings profile ((pairs.map Prod.fst).zip hs)).run st₂ = (code, st₃) →
      ProfileEnds rt stop p pairs st
        (if code < 0 then
          softAbort (.soft ("OpenXR binding suggestion rejected for " ++ p.path ++ ": " ++
            resultName code)) stop
        else .ok (), st₃)

/-- The pass over the profiles `ps` from runtime state `st` ends in `out`: profile after
profile as `ProfileEnds` says, with the bindings `bindingsOf` asks, until a profile ends in a
failure, which ends the pass; past the last profile the pass succeeds. -/
inductive PassEnds (rt : Runtime (StateM σ)) (stop : Bool) (a : LegacyActionSet) :
    List Profile → σ → Except Error Unit × σ → Prop
  | finished (st : σ) : PassEnds rt stop a [] st (.ok (), st)
  | next {p : Profile} {ps : List Profile} {st st' : σ} {out : Except Error Unit × σ} :
      ProfileEnds rt stop p (a.bindingsOf p) st (.ok (), st') → PassEnds rt stop a ps st' out →
      PassEnds rt stop a (p :: ps) st out
  | failed {p : Profile} {ps : List Profile} {st st' : σ} {e : Error} :
      ProfileEnds rt stop p (a.bindingsOf p) st (.error e, st') →
      PassEnds rt stop a (p :: ps) st (.error e, st')

section Pass

variable (rt : Runtime (StateM σ)) (c : Context) (a : LegacyActionSet)

theorem bindProfiles_nil (st : σ) :
    (bindProfiles rt { c with registry := ⟨[]⟩ } a).run st = (.ok (), st) := rfl

theorem bindProfiles_cons_ok {p : Profile} {ps : List Profile} {st st' : σ}
    (h : (bindProfiles rt { c with registry := ⟨[p]⟩ } a).run st = (.ok (), st')) :
    (bindProfiles rt { c with registry := ⟨p :: ps⟩ } a).run st =
      (bindProfiles rt { c with registry := ⟨ps⟩ } a).run st' := by
  simp only [bindProfiles] at h ⊢
  rw [forM_singleton_run] at h
  rw [forM_cons_run, h]

theorem bindProfiles_cons_error {p : Profile} {ps : List Profile} {st st' : σ} {e : Error}
    (h : (bindProfiles rt { c with registry := ⟨[p]⟩ } a).run st = (.error e, st')) :
    (bindProfiles rt { c with registry := ⟨p :: ps⟩ } a).run st = (.error e, st') := by
  simp only [bindProfiles] at h ⊢
  rw [forM_singleton_run] at h
  rw [forM_cons_run, h]

/-- The pass over one profile: the left hand's suggestions, the right hand's, then one
submission of both, whose failure goes through the soft-failure rule. -/
theorem bindProfiles_single (p : Profile) (st : σ) :
    (bindProfiles rt { c with registry := ⟨[p]⟩ } a).run st =
      match (p.legacySuggestions (a.controllerActions .left) (resolvePath rt)).run st with
      | (.error e, st₁) => (.error e, st₁)
      | (.ok left, st₁) =>
        match (p.legacySuggestions (a.controllerActions .right) (resolvePath rt)).run st₁ with
        | (.error e, st₂) => (.error e, st₂)
        | (.ok right, st₂) =>
          match (suggest rt p.path (left ++ right)).run st₂ with
          | (.ok (), st₃) => (.ok (), st₃)
          | (.error e, st₃) => (softAbort e c.config.stopOnSoftAbort, st₃) := by
  simp only [bindProfiles]
  rw [forM_singleton_run]
  simp only [exceptT_run_bind_state, ExceptT.run_mk, run_lift_state]
  rcases (p.legacySuggestions (a.controllerActions .left) (resolvePath rt)).run st with
    ⟨_ | left, st₁⟩
  · rfl
  dsimp only
  rcases (p.legacySuggestions (a.controllerActions .right) (resolvePath rt)).run st₁ with
    ⟨_ | right, st₂⟩
  · rfl
  dsimp only
  rcases (suggest rt p.path (left ++ right)).run st₂ with ⟨_ | ⟨⟩, st₃⟩ <;> rfl

theorem length_of_walk {A : LegacyActions} {L : List (LegacyControl × String)}
    {hs : List Nat} {st st' : σ}
    (h : ((L.map A.fullPath).mapM (resolvePath rt)).run st = (hs.map .ok, st')) :
    hs.length = L.length := by
  have hlen := length_mapM_run (resolvePath rt) (L.map A.fullPath) st
  rw [h] at hlen
  simpa using hlen

/-- A refusal among a profile's paths ends its pass with the runtime's refusal of that path,
before anything is suggested. -/
theorem profileEnds_refused {p : Profile} {pairs : List (Nat × String)} (stop : Bool)
    {pre post : List String} {path : String} {hs : List Nat} {st st₁ st₂ : σ} {err : Error}
    (hpairs : pairs.map Prod.snd = pre ++ path :: post)
    (hpre : (pre.mapM (resolvePath rt)).run st = (hs.map .ok, st₁))
    (hr : (resolvePath rt path).run st₁ = (.error err, st₂)) :
    ProfileEnds rt stop p pairs st (.error err, st₂) := by
  obtain ⟨code, hcode, rfl⟩ := resolvePath_eq_error rt hr
  exact .refused pre post path hs code hpairs ((mapM_resolvePath_eq_ok rt _ hs st st₁).mp hpre)
    hcode

/-- A hand's table refused at one of its paths, after the paths `done` before the table all
resolved: the pass over the profile ends with that refusal. -/
theorem profileEnds_walk_refused {p : Profile} {pairs : List (Nat × String)} (stop : Bool)
    {A : LegacyActions} {done rest : List String} {pre post : List (LegacyControl × String)}
    {ctl : LegacyControl} {path : String} {hsd hs : List Nat} {st st₁ st₂ st₃ : σ} {err : Error}
    (hpairs : pairs.map Prod.snd = done ++ (pre ++ (ctl, path) :: post).map A.fullPath ++ rest)
    (hdone : (done.mapM (resolvePath rt)).run st = (hsd.map .ok, st₁))
    (hmap : ((pre.map A.fullPath).mapM (resolvePath rt)).run st₁ = (hs.map .ok, st₂))
    (hr : (resolvePath rt (A.fullPath (ctl, path))).run st₂ = (.error err, st₃)) :
    ProfileEnds rt stop p pairs st (.error err, st₃) := by
  have hsplit : pairs.map Prod.snd =
      (done ++ pre.map A.fullPath) ++ A.fullPath (ctl, path) :: (post.map A.fullPath ++ rest) := by
    rw [hpairs]
    simp
  have hpre : ((done ++ pre.map A.fullPath).mapM (resolvePath rt)).run st =
      ((hsd ++ hs).map .ok, st₂) := by
    rw [List.map_append]
    exact mapM_append_of_run hdone hmap
  exact profileEnds_refused rt stop hsplit hpre hr

/-- Once every path of a profile resolved, submitting bindings that pair the actions with the
resolved handles ends the profile as `ProfileEnds` says. -/
theorem profileEnds_submitted {p : Profile} {pairs : List (Nat × String)} (stop : Bool)
    {hs : List Nat} {st st₁ : σ} (bindings : List Suggestion)
    (hall : ((pairs.map Prod.snd).mapM (resolvePath rt)).run st = (hs.map .ok, st₁))
    (hb : bindings.map (fun b => (b.action, b.binding)) = (pairs.map Prod.fst).zip hs) :
    ProfileEnds rt stop p pairs st
      (match (suggest rt p.path bindings).run st₁ with
        | (.ok (), st₃) => (.ok (), st₃)
        | (.error e, st₃) => (softAbort e stop, st₃)) := by
  have hall' := (mapM_resolvePath_eq_ok rt _ hs st st₁).mp hall
  rw [suggest_run, hb]
  rcases hprof : (rt.stringToPath p.path).run st₁ with ⟨_ | profile, st₂⟩
  · exact .profileRefused _ _ hall' hprof
  · dsimp only
    rcases hans : (rt.suggestBindings profile ((pairs.map Prod.fst).zip hs)).run st₂ with
      ⟨code, st₃⟩
    have hend : ProfileEnds rt stop p pairs st _ := .suggested _ profile code hall' hprof hans
    -- the answer's sign decides between a soft failure and success, on both sides alike
    by_cases hneg : code < 0
    · simp only [hneg, ite_true] at hend ⊢
      exact hend
    · simp only [hneg, ite_false] at hend ⊢
      exact hend

/-- The pass over one profile whose table paths are all exposed, with every action created,
ends as `ProfileEnds` says. -/
theorem profileEnds_single (p : Profile)
    (hv : ∀ h : Hand, ∀ e ∈ (p.legacy h).entries,
      p.isInputPathValid ((a.controllerActions h).fullPath e) = true)
    (hnz : ∀ (h : Hand) (ctl : LegacyControl), (a.controllerActions h).get ctl ≠ 0) (st : σ) :
    ProfileEnds rt c.config.stopOnSoftAbort p (a.bindingsOf p) st
      ((bindProfiles rt { c with registry := ⟨[p]⟩ } a).run st) := by
  rw [bindProfiles_single]
  have hpaths := a.bindingsOf_paths p
  -- each hand's walk ends with every entry bound or at a refused path: no action is missing
  rcases suggestAll_walkEnds p (a.controllerActions .left) (resolvePath rt) _ (hv .left) st with
    ⟨hsₗ, st₁, -, hmapₗ, houtₗ⟩ | ⟨-, ctl, -, -, -, -, -, -, -, hnull, -⟩ |
      ⟨pre, ctl, path, post, hs, st₁, err, st₂, hL, -, hmap, -, hr, hout⟩
  · have hleft : (p.legacySuggestions (a.controllerActions .left) (resolvePath rt)).run st =
        _ := houtₗ
    rw [hleft]
    dsimp only
    rcases suggestAll_walkEnds p (a.controllerActions .right) (resolvePath rt) _ (hv .right) st₁
      with ⟨hsᵣ, st₂, -, hmapᵣ, houtᵣ⟩ | ⟨-, ctl, -, -, -, -, -, -, -, hnull, -⟩ |
        ⟨pre, ctl, path, post, hs, st₂, err, st₃, hL, -, hmap, -, hr, hout⟩
    · have hright : (p.legacySuggestions (a.controllerActions .right) (resolvePath rt)).run st₁ =
          _ := houtᵣ
      rw [hright]
      dsimp only
      -- both hands bound: every path resolved, left table first
      have hall : (((a.bindingsOf p).map Prod.snd).mapM (resolvePath rt)).run st =
          ((hsₗ ++ hsᵣ).map .ok, st₂) := by
        rw [hpaths, List.map_append]
        exact mapM_append_of_run hmapₗ hmapᵣ
      refine profileEnds_submitted rt _ _ hall ?_
      -- the submission pairs the bindings' actions with the handles, in order
      rw [a.bindingsOf_actions p,
        List.zip_append (by simpa using (length_of_walk rt hmapₗ).symm), zip_actions_eq,
        zip_actions_eq, List.map_append]
    · exact absurd hnull (hnz .right ctl)
    · -- the right table stops at a refused path, after the whole left table resolved
      have hright : (p.legacySuggestions (a.controllerActions .right) (resolvePath rt)).run st₁ =
          (.error err, st₃) := hout
      rw [hright]
      have hpairs : (a.bindingsOf p).map Prod.snd =
          (p.legacy .left).entries.map (a.controllerActions .left).fullPath ++
            (pre ++ (ctl, path) :: post).map (a.controllerActions .right).fullPath ++ [] := by
        rw [hpaths, hL, List.append_nil]
      exact profileEnds_walk_refused rt _ hpairs hmapₗ hmap hr
  · exact absurd hnull (hnz .left ctl)
  · -- the left table stops at a refused path, before anything resolved
    have hleft : (p.legacySuggestions (a.controllerActions .left) (resolvePath rt)).run st =
        (.error err, st₂) := hout
    rw [hleft]
    have hpairs : (a.bindingsOf p).map Prod.snd =
        [] ++ (pre ++ (ctl, path) :: post).map (a.controllerActions .left).fullPath ++
          (p.legacy .right).entries.map (a.controllerActions .right).fullPath := by
      rw [hpaths, hL, List.nil_append]
    have hnone : (([] : List String).mapM (resolvePath rt)).run st = (([] : List Nat).map .ok, st) :=
      mapM_nil_run _ st
    exact profileEnds_walk_refused rt _ hpairs hnone hmap hr

/-- Over profiles whose tables name only exposed paths, with every action created, the pass
ends as `PassEnds` says. -/
theorem passEnds_bindProfiles
    (hnz : ∀ (h : Hand) (ctl : LegacyControl), (a.controllerActions h).get ctl ≠ 0)
    (ps : List Profile) (hv : ∀ p ∈ ps, ∀ h : Hand, ∀ e ∈ (p.legacy h).entries,
      p.isInputPathValid ((a.controllerActions h).fullPath e) = true) (st : σ) :
    PassEnds rt c.config.stopOnSoftAbort a ps st
      ((bindProfiles rt { c with registry := ⟨ps⟩ } a).run st) := by
  induction ps generalizing st with
  | nil => exact .finished st
  | cons p ps ih =>
    have hstep := profileEnds_single rt c a p (hv p List.mem_cons_self) hnz st
    have hrest := fun st' => ih (fun q hq => hv q (List.mem_cons_of_mem p hq)) st'
    rcases hrun : (bindProfiles rt { c with registry := ⟨[p]⟩ } a).run st with ⟨_ | ⟨⟩, st'⟩
    · rw [hrun] at hstep
      rw [bindProfiles_cons_error rt c a hrun]
      exact .failed hstep
    · rw [hrun] at hstep
      rw [bindProfiles_cons_ok rt c a hrun]
      exact .next hstep (hrest st')

end Pass

/-- Suggesting legacy bindings for every registered profile, on any runtime whose action set
creation made a non-null action for each of the 42 hands and controls. The registry lists the
Reverb G2 profile first exactly when the runtime supports it, then the other families in their
fixed order. Each hand's actions map every control to the handle made for it, never null. The
pass goes through the profiles in that order as `PassEnds` says: the two hands' paths resolved in
turn, left first, a refusal among them ending the pass at once, and otherwise one suggestion of
exactly those bindings for the profile's path, whose failure is soft. -/
theorem bindProfiles_pass (config : Config) (g : Bool) (rt : Runtime (StateM σ))
    (a : LegacyActionSet) {st₀ st₁ : σ} (hmade : (LegacyActionSet.create rt).run st₀ = (.ok a, st₁))
    (hnull : ∀ e ∈ a.handles, e.2 ≠ 0) (st : σ) :
    (Context.new config g).registry.profiles =
        ((if g then [Family.reverbG2] else []) ++ baseFamilies).map Family.profile ∧
      (∀ (h : Hand) (ctl : LegacyControl),
        ((h, ctl), (a.controllerActions h).get ctl) ∈ a.handles ∧
          (a.controllerActions h).get ctl ≠ 0) ∧
      PassEnds rt config.stopOnSoftAbort a (Context.new config g).registry.profiles st
        ((bindProfiles rt (Context.new config g) a).run st) := by
  have hmem := LegacyActionSet.controllerActions_mem (LegacyActionSet.create_keys rt hmade)
  have hnz : ∀ (h : Hand) (ctl : LegacyControl), (a.controllerActions h).get ctl ≠ 0 :=
    fun h ctl => hnull _ (hmem h ctl)
  refine ⟨Registry.profiles_build g, fun h ctl => ⟨hmem h ctl, hnz h ctl⟩, ?_⟩
  exact passEnds_bindProfiles rt (Context.new config g) a hnz _
    (fun p hp h => Registry.entries_exposed hp (a.controllerActions h)) st

/-- The action set the scripted runtime makes from a fresh script: the set is handle 1, and the
actions are numbered from 1000 in creation order. -/
def scriptedActions : LegacyActionSet :=
  ⟨1, LegacyActionSet.slots.mapIdx (fun i s => (s, 1000 + i))⟩

set_option maxRecDepth 20000 in
theorem bindProfiles_pass_scripted :
    (LegacyActionSet.create Script.runtime).run {} =
        (.ok scriptedActions, ((LegacyActionSet.create Script.runtime).run {}).2) ∧
      (∀ e ∈ scriptedActions.handles, e.2 ≠ 0) ∧
      ((Context.new {} true).registry.profiles =
          ((if true then [Family.reverbG2] else []) ++ baseFamilies).map Family.profile ∧
        (∀ (h : Hand) (ctl : LegacyControl),
          ((h, ctl), (scriptedActions.controllerActions h).get ctl) ∈ scriptedActions.handles ∧
            (scriptedActions.controllerActions h).get ctl ≠ 0) ∧
        PassEnds Script.runtime false scriptedActions (Context.new {} true).registry.profiles
          ((LegacyActionSet.create Script.runtime).run {}).2
          ((bindProfiles Script.runtime (Context.new {} true) scriptedActions).run
            ((LegacyActionSet.create Script.runtime).run {}).2)) := by
  have hfst : ((LegacyActionSet.create Script.runtime).run {}).1 = .ok scriptedActions := by
    cbv
  have hmade : (LegacyActionSet.create Script.runtime).run {} =
      (.ok scriptedActions, ((LegacyActionSet.create Script.runtime).run {}).2) := by
    rw [← hfst]
    exact Prod.mk.eta.symm
  have hnull : ∀ e ∈ scriptedActions.handles, e.2 ≠ 0 := by decide
  have hpass := bindProfiles_pass {} true Script.runtime scriptedActions hmade hnull
    ((LegacyActionSet.create Script.runtime).run {}).2
  exact ⟨hmade, hnull, hpass⟩

end OpenXr

end XrLayer
