import Mathlib
import XrLayer.Input.Context
/-!
Suggesting the legacy bindings of one hand on a registered profile.

A resolver is any stateful function from paths to handles, `String → StateM σ _`: its state
may count calls, intern strings or script refusals, so every pattern of answers is one of
them. The walk over a family's table checks, for each entry in binding order, the path, then
the action, then asks the resolver; it stops at the first missing action or the first
refusal. The path check never fails on a registered profile: every entry of the twelve
authored tables names a path its family exposes. Main statement: `legacyBindingsFor_walk`.
-/
namespace XrLayer

variable {σ : Type}

theorem run_bind_state {α β : Type} (x : StateM σ α) (f : α → StateM σ β) (st : σ) :
    (x >>= f).run st = (f (x.run st).1).run (x.run st).2 := rfl

theorem run_pure_state {α : Type} (a : α) (st : σ) : (pure a : StateM σ α).run st = (a, st) :=
  rfl

theorem mapM_cons_run {α β : Type} (f : α → StateM σ β) (a : α) (as : List α) (st : σ) :
    ((a :: as).mapM f).run st =
      (((f a).run st).1 :: ((as.mapM f).run ((f a).run st).2).1,
        ((as.mapM f).run ((f a).run st).2).2) := by
  simp only [List.mapM_cons, run_bind_state, run_pure_state]

def LegacyActions.fullPath (A : LegacyActions) (e : LegacyControl × String) : String :=
  A.hand.path ++ "/" ++ e.2

section Walk

variable (p : Profile) (A : LegacyActions) (R : String → StateM σ (Except Error Nat))

theorem suggestAll_null {c : LegacyControl} {path : String} (rest : List (LegacyControl × String))
    (st : σ) (hv : p.isInputPathValid (A.fullPath (c, path)) = true) (hnull : A.get c = 0) :
    (suggestAll p A R ((c, path) :: rest)).run st =
      (.error (.nullAction c.name A.hand.path), st) := by
  simp only [LegacyActions.fullPath] at hv
  simp only [suggestAll, hv, hnull, Bool.not_true, Bool.false_eq_true, ite_false,
    beq_self_eq_true, ite_true, run_pure_state]

theorem suggestAll_refused {c : LegacyControl} {path : String}
    (rest : List (LegacyControl × String)) {st st' : σ} {err : Error}
    (hv : p.isInputPathValid (A.fullPath (c, path)) = true) (hact : A.get c ≠ 0)
    (hr : (R (A.fullPath (c, path))).run st = (.error err, st')) :
    (suggestAll p A R ((c, path) :: rest)).run st = (.error err, st') := by
  simp only [LegacyActions.fullPath] at hv hr
  have hb : (A.get c == 0) = false := by simpa using hact
  simp only [suggestAll, hv, hb, Bool.not_true, Bool.false_eq_true, ite_false, run_bind_state, hr,
    run_pure_state]

theorem suggestAll_resolved {c : LegacyControl} {path : String}
    (rest : List (LegacyControl × String)) {st st' : σ} {h : Nat}
    (hv : p.isInputPathValid (A.fullPath (c, path)) = true) (hact : A.get c ≠ 0)
    (hr : (R (A.fullPath (c, path))).run st = (.ok h, st')) :
    (suggestAll p A R ((c, path) :: rest)).run st =
      (((suggestAll p A R rest).run st').1.map (⟨A.get c, h⟩ :: ·),
        ((suggestAll p A R rest).run st').2) := by
  simp only [LegacyActions.fullPath] at hv hr
  have hb : (A.get c == 0) = false := by simpa using hact
  simp only [suggestAll, hv, hb, Bool.not_true, Bool.false_eq_true, ite_false, run_bind_state, hr]
  rcases (suggestAll p A R rest).run st' with ⟨_ | _, _⟩ <;> rfl

/-- How a walk over the entries `L` may end, from resolver state `st`: with every entry bound,
one suggestion per entry in order; at the first entry whose action was not created; or at the
first path the resolver refuses, with the resolver's own error. In every case the resolver has
answered exactly the paths of the entries before the stop, in order, and in the last case the
refused path too: the final state is the one those calls, and no others, lead to. -/
def WalkEnds (L : List (LegacyControl × String)) (st : σ)
    (out : Except Error (List Suggestion) × σ) : Prop :=
  (∃ (hs : List Nat) (st' : σ), (∀ e ∈ L, A.get e.1 ≠ 0) ∧
    ((L.map A.fullPath).mapM R).run st = (hs.map .ok, st') ∧
    out = (.ok (L.zipWith (fun e h => ⟨A.get e.1, h⟩) hs), st')) ∨
  (∃ pre c path post, ∃ (hs : List Nat) (st' : σ), L = pre ++ (c, path) :: post ∧
    (∀ e ∈ pre, A.get e.1 ≠ 0) ∧
    ((pre.map A.fullPath).mapM R).run st = (hs.map .ok, st') ∧ A.get c = 0 ∧
    out = (.error (.nullAction c.name A.hand.path), st')) ∨
  (∃ pre c path post, ∃ (hs : List Nat) (st' : σ) (err : Error) (st'' : σ),
    L = pre ++ (c, path) :: post ∧ (∀ e ∈ pre, A.get e.1 ≠ 0) ∧
    ((pre.map A.fullPath).mapM R).run st = (hs.map .ok, st') ∧
    A.get c ≠ 0 ∧ (R (A.fullPath (c, path))).run st' = (.error err, st'') ∧
    out = (.error err, st''))

/-- The walk over a table whose paths are all exposed ends as `WalkEnds` says. -/
theorem suggestAll_walkEnds (L : List (LegacyControl × String))
    (hv : ∀ e ∈ L, p.isInputPathValid (A.fullPath e) = true) (st : σ) :
    WalkEnds A R L st ((suggestAll p A R L).run st) := by
  induction L generalizing st with
  | nil => exact Or.inl ⟨[], st, by simp, rfl, rfl⟩
  | cons e rest ih =>
    obtain ⟨c, path⟩ := e
    have hve := hv (c, path) List.mem_cons_self
    have hvr : ∀ e ∈ rest, p.isInputPathValid (A.fullPath e) = true :=
      fun e he => hv e (List.mem_cons_of_mem _ he)
    -- the walk stops at the first entry when its action is missing or its path is refused
    by_cases hnull : A.get c = 0
    · exact Or.inr (Or.inl ⟨[], c, path, rest, [], st, rfl, by simp, rfl, hnull,
        suggestAll_null p A R rest st hve hnull⟩)
    rcases hr : (R (A.fullPath (c, path))).run st with ⟨_ | h, st'⟩
    · exact Or.inr (Or.inr ⟨[], c, path, rest, [], st, _, st', rfl, by simp, rfl, hnull, hr,
        suggestAll_refused p A R rest hve hnull hr⟩)
    rw [suggestAll_resolved p A R rest hve hnull hr]
    -- the first entry is bound; the rest of the walk ends as the induction says, and the
    -- first entry joins the prefix before wherever it stopped
    have hcons (xs : List (LegacyControl × String)) (hs : List Nat) (st'' : σ)
        (hmap : ((xs.map A.fullPath).mapM R).run st' = (hs.map .ok, st'')) :
        ((((c, path) :: xs).map A.fullPath).mapM R).run st = ((h :: hs).map .ok, st'') := by
      rw [List.map_cons, mapM_cons_run, hr, hmap]
      rfl
    rcases ih hvr st' with ⟨hs, st'', hall, hmap, hout⟩ |
        ⟨pre, c', path', post, hs, st'', hL, hpre, hmap, hnull', hout⟩ |
        ⟨pre, c', path', post, hs, st'', err, st''', hL, hpre, hmap, hact, hr', hout⟩
    · refine Or.inl ⟨h :: hs, st'', List.forall_mem_cons.mpr ⟨hnull, hall⟩,
        hcons rest hs st'' hmap, ?_⟩
      rw [hout]
      rfl
    · exact Or.inr (Or.inl ⟨(c, path) :: pre, c', path', post, h :: hs, st'', by rw [hL]; rfl,
        List.forall_mem_cons.mpr ⟨hnull, hpre⟩, hcons pre hs st'' hmap, hnull', by rw [hout]; rfl⟩)
    · exact Or.inr (Or.inr ⟨(c, path) :: pre, c', path', post, h :: hs, st'', err, st''',
        by rw [hL]; rfl, List.forall_mem_cons.mpr ⟨hnull, hpre⟩, hcons pre hs st'' hmap, hact, hr',
        by rw [hout]; rfl⟩)

end Walk

section Registry

theorem Family.mem_all (f : Family) : f ∈ Family.all := by
  cases f <;> simp [Family.all]

theorem Hand.mem_both (h : Hand) : h ∈ Hand.both := by
  cases h <;> simp [Hand.both]

/-- Every entry of every family's table, on either hand, is a path the family exposes. -/
theorem Family.legacy_paths_exposed :
    ∀ f ∈ Family.all, ∀ h ∈ Hand.both, ∀ e ∈ (f.profile.legacy h).entries,
      f.profile.isInputPathValid (h.path ++ "/" ++ e.2) = true := by
  decide +kernel

theorem Registry.profiles_build (g : Bool) :
    (Registry.build g).profiles =
      ((if g then [Family.reverbG2] else []) ++ baseFamilies).map Family.profile := rfl

theorem Registry.paths_nodup (g : Bool) :
    ((Registry.build g).profiles.map Profile.path).Nodup := by
  cases g <;> decide +kernel

/-- The Reverb G2 path is offered exactly when the runtime reported support for it. -/
theorem Registry.reverbG2_mem_iff (g : Bool) :
    Profile.reverbG2.path ∈ (Registry.build g).profiles.map Profile.path ↔ g = true := by
  cases g <;> decide +kernel

theorem Registry.mem_build {g : Bool} {p : Profile} (hp : p ∈ (Registry.build g).profiles) :
    ∃ f : Family, p = f.profile := by
  rw [Registry.profiles_build, List.mem_map] at hp
  obtain ⟨f, -, rfl⟩ := hp
  exact ⟨f, rfl⟩

theorem Registry.byPath_of_not_mem (r : Registry) {path : String}
    (h : path ∉ r.profiles.map Profile.path) : r.byPath path = .error (.unknownProfile path) := by
  have hn : r.profiles.find? (fun p => p.path == path) = none := by
    rw [List.find?_eq_none]
    intro p hp hpath
    exact h (List.mem_map.mpr ⟨p, hp, by simpa using hpath⟩)
  simp [Registry.byPath, hn]

theorem Registry.byPath_of_mem (r : Registry) (hnd : (r.profiles.map Profile.path).Nodup)
    {p : Profile} (hp : p ∈ r.profiles) : r.byPath p.path = .ok p := by
  have hsome : (r.profiles.find? (fun q => q.path == p.path)).isSome := by
    rw [List.find?_isSome]
    exact ⟨p, hp, by simp⟩
  obtain ⟨q, hq⟩ := Option.isSome_iff_exists.mp hsome
  have hqp : q.path = p.path := by simpa using List.find?_some hq
  have heq : q = p := List.inj_on_of_nodup_map hnd (List.mem_of_find?_eq_some hq) hp hqp
  simp [Registry.byPath, hq, heq]

/-- On a registered profile, every entry of the hand's table passes the path check. -/
theorem Registry.entries_exposed {g : Bool} {p : Profile} (hp : p ∈ (Registry.build g).profiles)
    (A : LegacyActions) :
    ∀ e ∈ (p.legacy A.hand).entries, p.isInputPathValid (A.fullPath e) = true := by
  obtain ⟨f, rfl⟩ := Registry.mem_build hp
  exact Family.legacy_paths_exposed f (Family.mem_all f) A.hand (Hand.mem_both A.hand)

end Registry

/-- Suggesting legacy bindings on the profile at `path`, for the actions `A` of one hand and
any resolver `R`. The Reverb G2 path is registered exactly when the runtime reported support
for it. A path no registered profile has fails with that path and leaves the resolver
untouched. On a registered profile the walk over its table for the hand ends as `WalkEnds`
says: all entries bound, or a missing action, or the resolver's own refusal, with the
resolver asked exactly the paths before the stop, in binding order. -/
theorem legacyBindingsFor_walk (config : Config) (g : Bool) (path : String) (A : LegacyActions)
    (R : String → StateM σ (Except Error Nat)) (st : σ) :
    let c := Context.new config g
    (Profile.reverbG2.path ∈ c.registry.profiles.map Profile.path ↔ g = true) ∧
    (path ∉ c.registry.profiles.map Profile.path →
      (c.legacyBindingsFor path A R).run st = (.error (.unknownProfile path), st)) ∧
    ∀ p ∈ c.registry.profiles, p.path = path →
      WalkEnds A R (p.legacy A.hand).entries st ((c.legacyBindingsFor path A R).run st) := by
  refine ⟨Registry.reverbG2_mem_iff g, fun hpath => ?_, fun p hp hpath => ?_⟩
  · have hlook := Registry.byPath_of_not_mem (Registry.build g) hpath
    simp only [Context.legacyBindingsFor, Context.profile, Context.new, hlook]
    rfl
  · have hlook := Registry.byPath_of_mem (Registry.build g) (Registry.paths_nodup g) hp
    rw [hpath] at hlook
    simp only [Context.legacyBindingsFor, Context.profile, Context.new, hlook,
      Profile.legacySuggestions]
    exact suggestAll_walkEnds p A R _ (Registry.entries_exposed hp A) st

end XrLayer
