import Mathlib
import XrLayer.Proofs.Compositor.Ledger
import XrLayer.Compositor.Simulated
/-!
Swapchain lifetimes over whole runs of the synchronizer.

`Consistent` is the invariant of every reachable state, together with its log: each eye holds
a swapchain exactly when it holds a descriptor, the swapchain it holds was created for that eye
with that very descriptor, the swapchains alive in the log are exactly the ones the eyes hold
(two different ones), and every destruction so far ended a live swapchain. A submission keeps
it whatever the runtime and the device answer; closing then ends every live swapchain, so
each swapchain ever created is destroyed exactly once. Main statement: `swapchain_lifetimes`.
-/
namespace XrLayer.Compositor

variable {W C T : Type}

section Live

variable {log : List Call} {n m : Nat}

theorem mem_live : n ∈ live log ↔ n ∈ createdIds log ∧ n ∉ destroyedIds log := by
  simp [live]

theorem mem_live_destroy : m ∈ live (log ++ [.destroy n]) ↔ m ∈ live log ∧ m ≠ n := by
  simp only [mem_live, createdIds_append, createdIds_destroy, List.append_nil,
    destroyedIds_append, destroyedIds_destroy, List.mem_append, List.mem_singleton, not_or]
  tauto

theorem live_create_none (e : Eye) (d : SwapchainDesc) :
    live (log ++ [.create e d none]) = live log := by
  simp [live]

theorem mem_live_create (e : Eye) (d : SwapchainDesc) (hn : n ∉ destroyedIds log) :
    m ∈ live (log ++ [.create e d (some n)]) ↔ m ∈ live log ∨ m = n := by
  simp only [mem_live, createdIds_append, createdIds_create, Option.toList_some,
    destroyedIds_append, destroyedIds_create, List.append_nil, List.mem_append,
    List.mem_singleton]
  constructor
  · rintro ⟨hc | rfl, hd⟩
    · exact Or.inl ⟨hc, hd⟩
    · exact Or.inr rfl
  · rintro (⟨hc, hd⟩ | rfl)
    · exact ⟨Or.inl hc, hd⟩
    · exact ⟨Or.inr rfl, hn⟩

end Live

namespace DestroysLive

/-- Only created swapchains are ever destroyed. -/
theorem destroyed_created {log : List Call} (h : DestroysLive log) :
    ∀ n ∈ destroyedIds log, n ∈ createdIds log := by
  induction h with
  | nil => simp
  | create e d id _ ih =>
    intro n hn
    simp only [destroyedIds_append, destroyedIds_create, List.append_nil] at hn
    simp [ih n hn]
  | destroy _ hlive ih =>
    intro n hn
    simp only [destroyedIds_append, destroyedIds_destroy, List.mem_append,
      List.mem_singleton] at hn
    rcases hn with hn | rfl
    · simp [ih n hn]
    · simp [(mem_live.mp hlive).1]

/-- No swapchain is destroyed twice. -/
theorem nodup {log : List Call} (h : DestroysLive log) : (destroyedIds log).Nodup := by
  induction h with
  | nil => simp
  | create e d id _ ih => simpa using ih
  | destroy _ hlive ih =>
    simp only [destroyedIds_append, destroyedIds_destroy]
    exact ih.append (List.nodup_singleton _) (by simpa using (mem_live.mp hlive).2)

theorem retired {log : List Call} (h : DestroysLive log) {chain : Option (Tagged C)}
    (hc : ∀ hd, chain = some hd → hd.id ∈ live log) :
    DestroysLive (log ++ Synchronizer.retired chain) := by
  rcases chain with _ | hd
  · simpa [Synchronizer.retired] using h
  · exact h.destroy (hc hd rfl)

end DestroysLive

namespace Synchronizer

/-- What every reachable synchronizer satisfies together with its log. -/
structure Consistent (s : Synchronizer (Tagged C)) (log : List Call) : Prop where
  /-- An eye holds a swapchain exactly when it holds a descriptor. -/
  paired : ∀ e, (s.held e).isSome = (s.slot e).desc.isSome
  /-- The swapchain an eye holds was created for that eye with the descriptor beside it. -/
  made : ∀ e n d, s.held e = some n → (s.slot e).desc = some d →
    Call.create e d (some n) ∈ log
  /-- Every stored descriptor is built for some texture and colour space. -/
  described : ∀ e d, (s.slot e).desc = some d → ∃ src cs, d = SwapchainDesc.forSource src cs
  /-- The swapchains alive in the log are exactly the ones the eyes hold. -/
  alive : ∀ n, n ∈ live log ↔ ∃ e, s.held e = some n
  /-- The two eyes never hold the same swapchain. -/
  apart : ∀ n, s.held .left = some n → s.held .right ≠ some n
  /-- Creations are numbered from zero in order. -/
  numbered : createdIds log = List.range (createdIds log).length
  /-- Every destruction so far ended a live swapchain. -/
  sound : DestroysLive log

theorem consistent_init : Consistent ({} : Synchronizer (Tagged C)) [] where
  paired e := by cases e <;> rfl
  made e n d h := by cases e <;> simp [held, slot] at h
  described e d h := by cases e <;> simp [slot] at h
  alive n := by
    simp only [live, createdIds_nil, List.filter_nil, List.not_mem_nil, false_iff]
    rintro ⟨e, he⟩
    cases e <;> simp [held, slot] at he
  apart n h := by simp [held, slot] at h
  numbered := rfl
  sound := .nil

theorem held_other {s : Synchronizer (Tagged C)}
    (hs : ∀ n, s.held .left = some n → s.held .right ≠ some n)
    {e e' : Eye} (he : e ≠ e') {n : Nat} (h : s.held e = some n) : s.held e' ≠ some n := by
  cases e <;> cases e'
  · exact absurd rfl he
  · exact hs n h
  · exact fun h' => hs n h' h
  · exact absurd rfl he

theorem Consistent.of_sameBooks {s s' : Synchronizer (Tagged C)} {log : List Call}
    (hc : Consistent s log) (hb : SameBooks s' s) : Consistent s' log where
  paired e := by rw [(hb e).1, (hb e).2]; exact hc.paired e
  made e n d := by rw [(hb e).1, (hb e).2]; exact hc.made e n d
  described e d := by rw [(hb e).2]; exact hc.described e d
  alive n := by simp only [fun e => (hb e).1]; exact hc.alive n
  apart n := by rw [(hb .left).1, (hb .right).1]; exact hc.apart n
  numbered := hc.numbered
  sound := hc.sound

@[simp] theorem createdIds_retired (chain : Option (Tagged C)) :
    createdIds (retired chain) = [] := by
  rcases chain with _ | hd <;> rfl

theorem held_modifySlot_of_ne (s : Synchronizer (Tagged C))
    (f : Slot (Tagged C) → Slot (Tagged C)) {e e' : Eye} (he : e' ≠ e) :
    (s.modifySlot e f).held e' = s.held e' := by
  simp [held, slot_modifySlot_of_ne s e f he]

section Preserve

variable {s : Synchronizer (Tagged C)} {log : List Call}

theorem mem_live_retired (e : Eye) {n : Nat} :
    n ∈ live (log ++ retired (s.slot e).chain) ↔ n ∈ live log ∧ s.held e ≠ some n := by
  rcases hch : (s.slot e).chain with _ | hd
  · simp [retired, held, hch]
  · simp only [retired, Option.map_some, Option.toList_some, mem_live_destroy, held, hch]
    simp [eq_comm]

/-- Giving up an eye's swapchain: the slot is emptied and its destruction logged. -/
theorem Consistent.release (hc : Consistent s log) (e : Eye) :
    Consistent (s.modifySlot e (fun sl => { sl with chain := none, desc := none }))
      (log ++ retired (s.slot e).chain) where
  paired e' := by
    by_cases he : e' = e
    · subst he; simp [held]
    · rw [held_modifySlot_of_ne s _ he, slot_modifySlot_of_ne s e _ he]; exact hc.paired e'
  made e' n d h hd := by
    by_cases he : e' = e
    · subst he; simp [held] at h
    · rw [held_modifySlot_of_ne s _ he] at h
      rw [slot_modifySlot_of_ne s e _ he] at hd
      exact List.mem_append_left _ (hc.made e' n d h hd)
  described e' d hd := by
    by_cases he : e' = e
    · subst he; simp at hd
    · rw [slot_modifySlot_of_ne s e _ he] at hd; exact hc.described e' d hd
  alive n := by
    -- a number stays alive exactly when some eye other than `e` holds it
    rw [mem_live_retired, hc.alive n]
    constructor
    · rintro ⟨⟨e', he'⟩, hne⟩
      have hee : e' ≠ e := fun h => hne (h ▸ he')
      exact ⟨e', by rw [held_modifySlot_of_ne s _ hee]; exact he'⟩
    · rintro ⟨e', he'⟩
      have hee : e' ≠ e := by
        rintro rfl
        simp [held] at he'
      rw [held_modifySlot_of_ne s _ hee] at he'
      exact ⟨⟨e', he'⟩, held_other hc.apart hee he'⟩
  apart n h := by
    cases e
    · simp [held] at h
    · simp [held]
  numbered := by simpa using hc.numbered
  sound := hc.sound.retired (fun hd h => (hc.alive hd.id).mpr ⟨e, by simp [held, h]⟩)

/-- A refused creation changes nothing that matters. -/
theorem Consistent.create_none (hc : Consistent s log) (e : Eye) (d : SwapchainDesc) :
    Consistent s (log ++ [.create e d none]) where
  paired := hc.paired
  made e' n d' h hd := List.mem_append_left _ (hc.made e' n d' h hd)
  described := hc.described
  alive n := by rw [live_create_none]; exact hc.alive n
  apart := hc.apart
  numbered := by simpa using hc.numbered
  sound := hc.sound.create e d none

theorem Consistent.lt_next (hc : Consistent s log) {m : Nat} (hm : m ∈ createdIds log) :
    m < (createdIds log).length := by
  rw [hc.numbered] at hm
  simpa using hm

theorem Consistent.next_not_destroyed (hc : Consistent s log) :
    (createdIds log).length ∉ destroyedIds log :=
  fun h => lt_irrefl _ (hc.lt_next (hc.sound.destroyed_created _ h))

/-- A creation for an empty eye: the eye holds the new swapchain, with the next number. -/
theorem Consistent.create_some (hc : Consistent s log) {e : Eye} (hfree : s.held e = none)
    {d : SwapchainDesc} (hd : ∃ src cs, d = SwapchainDesc.forSource src cs) (c : C) :
    Consistent (s.modifySlot e (fun sl => { sl with
        chain := some ⟨(createdIds log).length, c⟩, desc := some d }))
      (log ++ [.create e d (some (createdIds log).length)]) where
  paired e' := by
    by_cases he : e' = e
    · subst he; simp [held]
    · rw [held_modifySlot_of_ne s _ he, slot_modifySlot_of_ne s e _ he]; exact hc.paired e'
  made e' n d' h hd' := by
    by_cases he : e' = e
    · subst he
      simp only [held, slot_modifySlot_self, Option.map_some, Option.some.injEq] at h hd'
      subst h hd'
      simp
    · rw [held_modifySlot_of_ne s _ he] at h
      rw [slot_modifySlot_of_ne s e _ he] at hd'
      exact List.mem_append_left _ (hc.made e' n d' h hd')
  described e' d' hd' := by
    by_cases he : e' = e
    · subst he
      simp only [slot_modifySlot_self, Option.some.injEq] at hd'
      exact hd' ▸ hd
    · rw [slot_modifySlot_of_ne s e _ he] at hd'; exact hc.described e' d' hd'
  alive n := by
    -- the new number joins the live ones, and only the freed eye `e` holds it
    rw [mem_live_create e d hc.next_not_destroyed, hc.alive n]
    constructor
    · rintro (⟨e', he'⟩ | rfl)
      · have hee : e' ≠ e := by rintro rfl; simp [hfree] at he'
        exact ⟨e', by rw [held_modifySlot_of_ne s _ hee]; exact he'⟩
      · exact ⟨e, by simp [held]⟩
    · rintro ⟨e', he'⟩
      by_cases hee : e' = e
      · subst hee
        simp [held] at he'
        exact Or.inr he'.symm
      · rw [held_modifySlot_of_ne s _ hee] at he'
        exact Or.inl ⟨e', he'⟩
  apart n hl hr := by
    -- the other eye holds an older, smaller number
    have hold : ∀ e', ∀ m, s.held e' = some m → m < (createdIds log).length :=
      fun e' m hm => hc.lt_next (mem_live.mp ((hc.alive m).mpr ⟨e', hm⟩)).1
    cases e
    · simp [held] at hl
      rw [held_modifySlot_of_ne s _ (by decide)] at hr
      exact lt_irrefl _ (hl ▸ hold .right n hr)
    · simp [held] at hr
      rw [held_modifySlot_of_ne s _ (by decide)] at hl
      exact lt_irrefl _ (hr ▸ hold .left n hl)
  numbered := by
    simp only [createdIds_append, createdIds_create, Option.toList_some]
    rw [List.length_append, List.length_singleton, List.range_succ, ← hc.numbered]
  sound := hc.sound.create e d _

end Preserve

section Step

variable (b : Backend (StateM W) C T) {s : Synchronizer (Tagged C)} {log : List Call}

/-- Making sure of a swapchain keeps the books consistent, whatever the runtime answers. -/
theorem consistent_ensure (hc : Consistent s log) (e : Eye) (src : TextureDesc)
    (cs : ColorSpace) (w : W) :
    Consistent (exec (ensure b.tagged e src cs) s log w).1.1.2
      (exec (ensure b.tagged e src cs) s log w).1.2 := by
  by_cases hb : s.slotState e src cs = .bound
  · rw [exec_ensure_bound b e src cs s log w hb]
    exact hc
  -- an eye not bound gives up what it holds, then one creation is logged, refused or not
  have hrel := hc.release e
  obtain ⟨w', ⟨c, hok⟩ | ⟨err, herr⟩⟩ := exec_ensure_renew b e src cs s log w hb
  · rw [hok]
    have hnew := hrel.create_some (e := e) (by simp [held])
      ⟨src, cs, rfl⟩ c (d := SwapchainDesc.forSource src cs)
    simpa [Function.comp_def] using hnew
  · rw [herr]
    simpa using hrel.create_none e (SwapchainDesc.forSource src cs)

/-- A whole submission keeps the books consistent, whatever the runtime and the device
answer at each call. -/
theorem consistent_invoke (hc : Consistent s log) (e : Eye) (t : T) (cs : ColorSpace)
    (bnd : Option Bounds) (w : W) :
    Consistent (exec (invoke b.tagged e t cs bnd) s log w).1.1.2
      (exec (invoke b.tagged e t cs bnd) s log w).1.2 := by
  -- the rest of a submission logs nothing and keeps the books `ensure` left
  rw [invoke_log]
  exact (consistent_ensure b hc e (b.describe t) cs w).of_sameBooks
    (invoke_sameBooks b e t cs bnd s log w)

end Step

/-- The states a synchronizer on the logged backend `b` can reach, with their logs: from the
empty synchronizer, by submissions on either eye with any texture, colour space and bounds,
each met by the world in whatever state it is then. -/
inductive Reachable (b : Backend (StateM W) C T) : Synchronizer (Tagged C) → List Call → Prop
  | init : Reachable b {} []
  | invoke {s : Synchronizer (Tagged C)} {log : List Call} (e : Eye) (t : T) (cs : ColorSpace)
      (bnd : Option Bounds) (w : W) : Reachable b s log →
      Reachable b (exec (invoke b.tagged e t cs bnd) s log w).1.1.2
        (exec (invoke b.tagged e t cs bnd) s log w).1.2

section Creations

variable (b : Backend (StateM W) C T) (e : Eye) (cs : ColorSpace)
  (s : Synchronizer (Tagged C)) (log : List Call) (w : W)

/-- The calls a step logs: what it appends to the log, every creation among them for eye `e`
with descriptor `d`. -/
def CreatesOnly (e : Eye) (d : SwapchainDesc) (log log' : List Call) : Prop :=
  ∃ new, log' = log ++ new ∧ ∀ e' d' id, Call.create e' d' id ∈ new → e' = e ∧ d' = d

theorem ensure_createsOnly (src : TextureDesc) :
    CreatesOnly e (.forSource src cs) log (exec (ensure b.tagged e src cs) s log w).1.2 := by
  by_cases hb : s.slotState e src cs = .bound
  · rw [exec_ensure_bound b e src cs s log w hb]
    exact ⟨[], by simp, by simp⟩
  have hretired : ∀ e' d' id, Call.create e' d' id ∉ retired (s.slot e).chain := by
    intro e' d' id h
    rcases hch : (s.slot e).chain with _ | hd <;> simp [retired, hch] at h
  obtain ⟨id, h⟩ := ensure_log_renew b e src cs s log w hb
  rw [h]
  refine ⟨retired (s.slot e).chain ++ [.create e (.forSource src cs) id], by simp, ?_⟩
  intro e' d' id' hmem
  obtain ⟨he, hd, -⟩ := by simpa [hretired] using hmem
  exact ⟨he, hd⟩

/-- Every swapchain a submission creates is for its own eye, with the descriptor built for its
texture and colour space. -/
theorem invoke_createsOnly (t : T) (bnd : Option Bounds) :
    CreatesOnly e (.forSource (b.describe t) cs) log
      (exec (invoke b.tagged e t cs bnd) s log w).1.2 := by
  rw [invoke_log]
  exact ensure_createsOnly b e cs s log w (b.describe t)

end Creations

section Close

variable {s : Synchronizer (Tagged C)} {log : List Call}

theorem Consistent.close_sound (hc : Consistent s log) :
    DestroysLive (log ++ retired s.left.chain ++ retired s.right.chain) := by
  have hl : DestroysLive (log ++ retired (s.slot .left).chain) :=
    hc.sound.retired (fun hd h => (hc.alive hd.id).mpr ⟨.left, by simp [held, h]⟩)
  refine hl.retired (fun hd h => ?_)
  have hright : s.held .right = some hd.id := by simp [held, slot, h]
  exact (mem_live_retired .left).mpr
    ⟨(hc.alive hd.id).mpr ⟨.right, hright⟩, held_other hc.apart (by decide) hright⟩

theorem Consistent.close_live (hc : Consistent s log) :
    live (log ++ retired s.left.chain ++ retired s.right.chain) = [] := by
  apply List.eq_nil_iff_forall_not_mem.mpr
  intro n hn
  rw [show s.right = s.slot .right from rfl, mem_live_retired,
    show s.left = s.slot .left from rfl, mem_live_retired, hc.alive] at hn
  obtain ⟨⟨⟨e, he⟩, hleft⟩, hright⟩ := hn
  cases e
  · exact hleft he
  · exact hright he

/-- After closing, every swapchain ever created has been destroyed exactly once. -/
theorem Consistent.close_once (hc : Consistent s log) :
    ∀ n ∈ createdIds (log ++ retired s.left.chain ++ retired s.right.chain),
      (destroyedIds (log ++ retired s.left.chain ++ retired s.right.chain)).count n = 1 := by
  intro n hn
  -- nothing is left alive, so `n` was destroyed; destructions never repeat a number
  have hdead : n ∉ live (log ++ retired s.left.chain ++ retired s.right.chain) := by
    rw [hc.close_live]
    exact List.not_mem_nil
  have hdestroyed : n ∈ destroyedIds (log ++ retired s.left.chain ++ retired s.right.chain) := by
    by_contra hnot
    exact hdead (mem_live.mpr ⟨hn, hnot⟩)
  exact List.count_eq_one_of_mem hc.close_sound.nodup hdestroyed

end Close

theorem Reachable.consistent {b : Backend (StateM W) C T} {s : Synchronizer (Tagged C)}
    {log : List Call} (h : Reachable b s log) : Consistent s log := by
  induction h with
  | init => exact consistent_init
  | invoke e t cs bnd w _ ih => exact consistent_invoke b ih e t cs bnd w

/-- Swapchain lifetimes, in every state `s` a synchronizer on the logged backend `b` can reach,
with its log. Each eye holds a swapchain exactly when it holds a descriptor, and that swapchain
was created for that eye with that descriptor; the swapchains alive are exactly the two eyes'
(`Consistent`). The next submission creates swapchains only for its own eye, with the
descriptor built for its texture and colour space. A successful `ensure` always leaves the eye
holding a swapchain, so a submission never fails for want of one. Closing destroys only live
swapchains and leaves none alive: every swapchain ever created is destroyed exactly once. -/
theorem swapchain_lifetimes (b : Backend (StateM W) C T) {s : Synchronizer (Tagged C)}
    {log : List Call} (hr : Reachable b s log) :
    Consistent s log ∧
    (∀ e t cs bnd (w : W), CreatesOnly e (.forSource (b.describe t) cs) log
      (exec (invoke b.tagged e t cs bnd) s log w).1.2) ∧
    (∀ e src cs (w : W), (exec (ensure b.tagged e src cs) s log w).1.1.1 = .ok () →
      ((exec (ensure b.tagged e src cs) s log w).1.1.2.slot e).chain.isSome) ∧
    ∀ w : W, DestroysLive (((close b.tagged s).run log).run w).1.2 ∧
      live (((close b.tagged s).run log).run w).1.2 = [] ∧
      ∀ n ∈ createdIds (((close b.tagged s).run log).run w).1.2,
        (destroyedIds (((close b.tagged s).run log).run w).1.2).count n = 1 := by
  have hc := hr.consistent
  refine ⟨hc, fun e t cs bnd w => invoke_createsOnly b e cs s log w t bnd, ?_, fun w => ?_⟩
  · intro e src cs w hok
    rcases hE : exec (ensure b.tagged e src cs) s log w with ⟨⟨⟨r, s₀⟩, log₀⟩, w₀⟩
    rw [hE] at hok
    subst hok
    obtain ⟨hd, hhd⟩ := ensure_ok_holds b e src cs s log w hE
    simp [hhd]
  · obtain ⟨w', hclose⟩ := close_run b s log w
    rw [hclose]
    exact ⟨hc.close_sound, hc.close_live, hc.close_once⟩

end Synchronizer

/-- The lifetimes hold after a first submission of a 64 × 64 gamma texture for the left eye, on
the simulated runtime and device. -/
theorem swapchain_lifetimes_simulated :
    let tex : SimTexture := ⟨1, { width := 64, height := 64 }⟩
    let first := Synchronizer.exec
      (Synchronizer.invoke Simulation.backend.tagged .left tex .gamma none) {} [] {}
    Synchronizer.Reachable Simulation.backend first.1.1.2 first.1.2 ∧
    (Synchronizer.Consistent first.1.1.2 first.1.2 ∧
    (∀ e t cs bnd (w : Simulation),
      Synchronizer.CreatesOnly e (.forSource (Simulation.backend.describe t) cs) first.1.2
        (Synchronizer.exec (Synchronizer.invoke Simulation.backend.tagged e t cs bnd)
          first.1.1.2 first.1.2 w).1.2) ∧
    (∀ e src cs (w : Simulation),
      (Synchronizer.exec (Synchronizer.ensure Simulation.backend.tagged e src cs)
          first.1.1.2 first.1.2 w).1.1.1 = .ok () →
        ((Synchronizer.exec (Synchronizer.ensure Simulation.backend.tagged e src cs)
          first.1.1.2 first.1.2 w).1.1.2.slot e).chain.isSome) ∧
    ∀ w : Simulation,
      DestroysLive
        (((Synchronizer.close Simulation.backend.tagged first.1.1.2).run first.1.2).run w).1.2 ∧
      live (((Synchronizer.close Simulation.backend.tagged first.1.1.2).run first.1.2).run
        w).1.2 = [] ∧
      ∀ n ∈ createdIds
          (((Synchronizer.close Simulation.backend.tagged first.1.1.2).run first.1.2).run w).1.2,
        (destroyedIds (((Synchronizer.close Simulation.backend.tagged first.1.1.2).run
          first.1.2).run w).1.2).count n = 1) := by
  have hr := Synchronizer.Reachable.invoke (b := Simulation.backend) .left
    (⟨1, { width := 64, height := 64 }⟩ : SimTexture) .gamma none ({} : Simulation) .init
  exact ⟨hr, Synchronizer.swapchain_lifetimes Simulation.backend hr⟩

end XrLayer.Compositor
