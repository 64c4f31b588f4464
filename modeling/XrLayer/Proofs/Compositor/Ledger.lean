import Mathlib
import XrLayer.Compositor.Synchronizer
/-!
A ledger of the swapchains a synchronizer makes and ends.

The synchronizer is generic in its backend, so it can run on a backend that keeps books:
`Backend.tagged` wraps any backend whose effects live in a state monad, gives each swapchain
it creates the next number, keeps that number through acquire and release, and logs every
creation (with its eye, its descriptor and its number when it succeeded) and every
destruction. The wrapped backend answers every call exactly as the plain one does: forgetting
the numbers gives back the plain run (`plain_invoke_untag`, `plain_submitAll_untag`).

`exec` runs a step of the synchronizer on that backend, and its lemmas take a step apart
without unfolding the monad. The `exec_ensure_*` and `exec_invoke_*` lemmas then say once what
one submission does to the slots and the log: `ensure` either keeps a bound swapchain or retires
the eye's swapchain and logs one creation, and the rest of a submission logs nothing and keeps
the numbers and descriptors the eyes hold (`SameBooks`).
-/
namespace XrLayer.Compositor

structure Tagged (C : Type) where
  id : Nat
  chain : C

inductive Call where
  | create (eye : Eye) (desc : SwapchainDesc) (id : Option Nat)
  | destroy (id : Nat)
deriving DecidableEq

namespace Call

def created? : Call → Option Nat
  | .create _ _ id => id
  | .destroy _ => none

def destroyed? : Call → Option Nat
  | .create _ _ _ => none
  | .destroy id => some id

end Call

def createdIds (log : List Call) : List Nat := log.filterMap Call.created?

def destroyedIds (log : List Call) : List Nat := log.filterMap Call.destroyed?

@[simp] theorem createdIds_nil : createdIds [] = [] := rfl

@[simp] theorem createdIds_append (l₁ l₂ : List Call) :
    createdIds (l₁ ++ l₂) = createdIds l₁ ++ createdIds l₂ := List.filterMap_append

@[simp] theorem createdIds_create (e : Eye) (d : SwapchainDesc) (id : Option Nat) :
    createdIds [.create e d id] = id.toList := by
  cases id <;> rfl

@[simp] theorem createdIds_destroy (n : Nat) : createdIds [.destroy n] = [] := rfl

@[simp] theorem destroyedIds_nil : destroyedIds [] = [] := rfl

@[simp] theorem destroyedIds_append (l₁ l₂ : List Call) :
    destroyedIds (l₁ ++ l₂) = destroyedIds l₁ ++ destroyedIds l₂ := List.filterMap_append

@[simp] theorem destroyedIds_create (e : Eye) (d : SwapchainDesc) (id : Option Nat) :
    destroyedIds [.create e d id] = [] := rfl

@[simp] theorem destroyedIds_destroy (n : Nat) : destroyedIds [.destroy n] = [n] := rfl

def live (log : List Call) : List Nat := (createdIds log).filter (· ∉ destroyedIds log)

/-- Every destruction in the log ends a swapchain created before it and not destroyed since. -/
inductive DestroysLive : List Call → Prop
  | nil : DestroysLive []
  | create {log : List Call} (e : Eye) (d : SwapchainDesc) (id : Option Nat) :
      DestroysLive log → DestroysLive (log ++ [.create e d id])
  | destroy {log : List Call} {n : Nat} :
      DestroysLive log → n ∈ live log → DestroysLive (log ++ [.destroy n])

abbrev Sim (W : Type) := StateT (List Call) (StateM W)

variable {W C T : Type}

/-- The backend `b` with a ledger: creations are numbered in order and logged, destructions
logged, and every other call passed through, keeping the swapchain's number. -/
def Backend.tagged (b : Backend (StateM W) C T) : Backend (Sim W) (Tagged C) T where
  describe := b.describe
  create eye desc := fun log w =>
    match (b.create eye desc).run w with
    | (.ok c, w') =>
      ((.ok ⟨(createdIds log).length, c⟩,
        log ++ [.create eye desc (some (createdIds log).length)]), w')
    | (.error e, w') => ((.error e, log ++ [.create eye desc none]), w')
  destroy h := fun log w => (((), log ++ [.destroy h.id]), ((b.destroy h.chain).run w).2)
  acquire h := StateT.lift ((fun r => (⟨h.id, r.1⟩, r.2)) <$> b.acquire h.chain)
  image h i := StateT.lift (b.image h.chain i)
  release h := StateT.lift ((fun r => (⟨h.id, r.1⟩, r.2)) <$> b.release h.chain)
  copy dst src := StateT.lift (b.copy dst src)
  removedReason := StateT.lift b.removedReason

namespace Synchronizer

section Slots

variable {C : Type} (s : Synchronizer C) (e : Eye) (f g : Slot C → Slot C)

@[simp] theorem slot_modifySlot_self : (s.modifySlot e f).slot e = f (s.slot e) := by
  cases e <;> rfl

theorem slot_modifySlot_of_ne {e' : Eye} (h : e' ≠ e) :
    (s.modifySlot e f).slot e' = s.slot e' := by
  cases e <;> cases e' <;> first | rfl | exact absurd rfl h

@[simp] theorem modifySlot_modifySlot :
    (s.modifySlot e f).modifySlot e g = s.modifySlot e (g ∘ f) := by
  cases e <;> rfl

end Slots

/-- A step on the logged backend run from a synchronizer, a log and a world: its result, the
synchronizer, the log and the world after it. -/
def exec {α : Type} (x : Step (Sim W) (Tagged C) α) (s : Synchronizer (Tagged C))
    (log : List Call) (w : W) : ((Except Error α × Synchronizer (Tagged C)) × List Call) × W :=
  ((x.run.run s).run log).run w

section Exec

variable {α β : Type} (s : Synchronizer (Tagged C)) (log : List Call) (w : W)

@[simp] theorem exec_bind (x : Step (Sim W) (Tagged C) α) (f : α → Step (Sim W) (Tagged C) β) :
    exec (x >>= f) s log w =
      match exec x s log w with
      | (((.ok a, s'), log'), w') => exec (f a) s' log' w'
      | (((.error e, s'), log'), w') => (((.error e, s'), log'), w') := by
  simp only [exec, ExceptT.run_bind, StateT.run_bind]
  rcases ((x.run.run s).run log).run w with ⟨⟨⟨_ | _, _⟩, _⟩, _⟩ <;> rfl

@[simp] theorem exec_pure (a : α) :
    exec (pure a : Step (Sim W) (Tagged C) α) s log w = (((.ok a, s), log), w) := rfl

@[simp] theorem exec_get :
    exec (get : Step (Sim W) (Tagged C) _) s log w = (((.ok s, s), log), w) := rfl

@[simp] theorem exec_modify (f : Synchronizer (Tagged C) → Synchronizer (Tagged C)) :
    exec (modify f : Step (Sim W) (Tagged C) PUnit) s log w = (((.ok ⟨⟩, f s), log), w) := rfl

@[simp] theorem exec_throw (e : Error) :
    exec (throw e : Step (Sim W) (Tagged C) α) s log w = (((.error e, s), log), w) := rfl

@[simp] theorem exec_call (x : Sim W (Except Error α)) :
    exec (call x : Step (Sim W) (Tagged C) α) s log w =
      (((((x.run log).run w).1.1, s), ((x.run log).run w).1.2), ((x.run log).run w).2) := rfl

@[simp] theorem exec_call_pure (r : Except Error α) :
    exec (call (pure r) : Step (Sim W) (Tagged C) α) s log w = (((r, s), log), w) := rfl

@[simp] theorem exec_run (x : Sim W α) :
    exec (run x : Step (Sim W) (Tagged C) α) s log w =
      (((.ok ((x.run log).run w).1.1, s), ((x.run log).run w).1.2), ((x.run log).run w).2) := rfl

end Exec

section Tagged

variable (b : Backend (StateM W) C T) (log : List Call) (w : W)

@[simp] theorem tagged_describe : b.tagged.describe = b.describe := rfl

theorem tagged_create (e : Eye) (d : SwapchainDesc) :
    ((b.tagged.create e d).run log).run w =
      match (b.create e d).run w with
      | (.ok c, w') =>
        ((.ok ⟨(createdIds log).length, c⟩,
          log ++ [.create e d (some (createdIds log).length)]), w')
      | (.error err, w') => ((.error err, log ++ [.create e d none]), w') := rfl

theorem tagged_destroy (h : Tagged C) :
    ((b.tagged.destroy h).run log).run w =
      (((), log ++ [.destroy h.id]), ((b.destroy h.chain).run w).2) := rfl

theorem tagged_acquire (h : Tagged C) :
    ((b.tagged.acquire h).run log).run w =
      (((⟨h.id, ((b.acquire h.chain).run w).1.1⟩, ((b.acquire h.chain).run w).1.2), log),
        ((b.acquire h.chain).run w).2) := rfl

theorem tagged_release (h : Tagged C) :
    ((b.tagged.release h).run log).run w =
      (((⟨h.id, ((b.release h.chain).run w).1.1⟩, ((b.release h.chain).run w).1.2), log),
        ((b.release h.chain).run w).2) := rfl

theorem tagged_image (h : Tagged C) (i : Nat) :
    ((b.tagged.image h i).run log).run w =
      ((((b.image h.chain i).run w).1, log), ((b.image h.chain i).run w).2) := rfl

theorem tagged_copy (dst src : T) :
    ((b.tagged.copy dst src).run log).run w =
      ((((b.copy dst src).run w).1, log), ((b.copy dst src).run w).2) := rfl

theorem tagged_removedReason :
    ((b.tagged.removedReason).run log).run w =
      (((b.removedReason.run w).1, log), (b.removedReason.run w).2) := rfl

end Tagged

def retired (chain : Option (Tagged C)) : List Call :=
  (chain.map fun h => Call.destroy h.id).toList

section Ensure

variable (b : Backend (StateM W) C T) (e : Eye) (src : TextureDesc) (cs : ColorSpace)
  (s : Synchronizer (Tagged C)) (log : List Call) (w : W)

theorem exec_ensure_bound (h : s.slotState e src cs = .bound) :
    exec (ensure b.tagged e src cs) s log w = (((.ok (), s), log), w) := by
  simp [ensure, h]

/-- An `ensure` that finds the eye not bound retires the swapchain the eye holds and logs one
creation, which gives the eye the new swapchain or, when refused, leaves it empty. -/
theorem exec_ensure_renew (h : s.slotState e src cs ≠ .bound) :
    ∃ w', (∃ c, exec (ensure b.tagged e src cs) s log w =
        (((.ok (), s.modifySlot e (fun sl => { sl with
            chain := some ⟨(createdIds log).length, c⟩, desc := some (.forSource src cs) })),
          log ++ retired (s.slot e).chain ++
            [.create e (.forSource src cs) (some (createdIds log).length)]), w')) ∨
      (∃ err, exec (ensure b.tagged e src cs) s log w =
        (((.error err, s.modifySlot e (fun sl => { sl with chain := none, desc := none })),
          log ++ retired (s.slot e).chain ++ [.create e (.forSource src cs) none]), w')) := by
  simp only [ensure, exec_bind, exec_get, beq_iff_eq, h, if_false]
  -- an empty eye goes straight to the creation; a held swapchain is destroyed first
  rcases hc : (s.slot e).chain with _ | old
  · rcases hcr : (b.create e (.forSource src cs)).run w with ⟨err | c, w'⟩
    · refine ⟨w', Or.inr ⟨err, ?_⟩⟩
      simp [tagged_create, hcr, retired]
    · refine ⟨w', Or.inl ⟨c, ?_⟩⟩
      simp [tagged_create, hcr, retired, Function.comp_def]
  · rcases hcr : (b.create e (.forSource src cs)).run ((b.destroy old.chain).run w).2 with
      ⟨err | c, w'⟩
    · refine ⟨w', Or.inr ⟨err, ?_⟩⟩
      simp [tagged_create, tagged_destroy, hcr, retired]
    · refine ⟨w', Or.inl ⟨c, ?_⟩⟩
      simp [tagged_create, tagged_destroy, hcr, retired, Function.comp_def]

/-- What an `ensure` that finds the eye not bound logs, whatever the runtime answers. -/
theorem ensure_log_renew (h : s.slotState e src cs ≠ .bound) :
    ∃ id, (exec (ensure b.tagged e src cs) s log w).1.2 =
      log ++ retired (s.slot e).chain ++ [.create e (.forSource src cs) id] := by
  obtain ⟨w', ⟨c, hok⟩ | ⟨err, herr⟩⟩ := exec_ensure_renew b e src cs s log w h
  · exact ⟨_, by rw [hok]⟩
  · exact ⟨_, by rw [herr]⟩

theorem ensure_ok_holds {s₀ : Synchronizer (Tagged C)} {log₀ : List Call} {w₀ : W}
    (h : exec (ensure b.tagged e src cs) s log w = (((.ok (), s₀), log₀), w₀)) :
    ∃ hd, (s₀.slot e).chain = some hd := by
  by_cases hb : s.slotState e src cs = .bound
  · rw [exec_ensure_bound b e src cs s log w hb] at h
    obtain ⟨⟨rfl, -⟩, -⟩ := by simpa using h
    -- only a slot holding a swapchain can be bound
    revert hb
    simp only [slotState]
    split
    · exact fun _ => ⟨_, by assumption⟩
    · simp
  · obtain ⟨w', ⟨c, hc⟩ | ⟨err, he⟩⟩ := exec_ensure_renew b e src cs s log w hb
    · rw [hc] at h
      obtain ⟨⟨rfl, -⟩, -⟩ := by simpa using h
      exact ⟨⟨(createdIds log).length, c⟩, by simp⟩
    · rw [he] at h
      simp at h

end Ensure

def held (s : Synchronizer (Tagged C)) (e : Eye) : Option Nat := (s.slot e).chain.map Tagged.id

def SameBooks (s s' : Synchronizer (Tagged C)) : Prop :=
  ∀ e, s.held e = s'.held e ∧ (s.slot e).desc = (s'.slot e).desc

theorem sameBooks_modifySlot (s : Synchronizer (Tagged C)) (e : Eye)
    (f : Slot (Tagged C) → Slot (Tagged C))
    (hch : (f (s.slot e)).chain.map Tagged.id = (s.slot e).chain.map Tagged.id)
    (hd : (f (s.slot e)).desc = (s.slot e).desc) : SameBooks (s.modifySlot e f) s := by
  intro e'
  by_cases he : e' = e
  · subst he
    simp [held, hch, hd]
  · simp [held, slot_modifySlot_of_ne s e f he]

section Invoke

variable (b : Backend (StateM W) C T) (e : Eye) (t : T) (cs : ColorSpace) (bnd : Option Bounds)
  (s : Synchronizer (Tagged C)) (log : List Call) (w : W)

/-- Once `ensure` has given the eye a swapchain, the rest of a submission (acquire, copy,
release, flip) logs nothing and changes neither which swapchain an eye holds nor its
descriptor. -/
theorem exec_invoke_of_ensure_ok {s₀ : Synchronizer (Tagged C)} {log₀ : List Call} {w₀ : W}
    {hd : Tagged C}
    (h : exec (ensure b.tagged e (b.describe t) cs) s log w = (((.ok (), s₀), log₀), w₀))
    (hc : (s₀.slot e).chain = some hd) :
    ∃ r s' w', exec (invoke b.tagged e t cs bnd) s log w = (((r, s'), log₀), w') ∧
      SameBooks s' s₀ := by
  -- every state the submission can end in keeps the eye's number and descriptor
  have hkeep (c : C) (f : Slot (Tagged C) → Slot (Tagged C))
      (hf : ∀ sl, (f sl).chain = some ⟨hd.id, c⟩ ∧ (f sl).desc = sl.desc) :
      SameBooks (s₀.modifySlot e f) s₀ :=
    sameBooks_modifySlot s₀ e f (by simp [(hf _).1, hc]) (hf _).2
  simp only [invoke, exec_bind, tagged_describe, h, exec_get, hc, exec_run, tagged_acquire, keep,
    exec_modify, exec_call_pure]
  rcases ha : (b.acquire hd.chain).run w₀ with ⟨⟨c₁, err | idx⟩, w₁⟩
  · exact ⟨_, _, _, rfl, hkeep c₁ _ (fun _ => ⟨rfl, rfl⟩)⟩
  simp only [exec_call, tagged_image]
  rcases hi : (b.image c₁ idx).run w₁ with ⟨err | img, w₂⟩
  · exact ⟨_, _, _, rfl, hkeep c₁ _ (fun _ => ⟨rfl, rfl⟩)⟩
  simp only [tagged_copy, tagged_release, modifySlot_modifySlot]
  rcases hcp : (b.copy img t).run w₂ with ⟨copied, w₃⟩
  rcases hrl : (b.release c₁).run w₃ with ⟨⟨c₂, released⟩, w₄⟩
  rcases copied with err | u
  · simp only [exec_bind, exec_run, tagged_removedReason, exec_throw]
    exact ⟨_, _, _, rfl, hkeep c₂ _ (fun _ => ⟨rfl, rfl⟩)⟩
  rcases released with err | u
  · simp only [exec_bind, exec_call_pure]
    exact ⟨_, _, _, rfl, hkeep c₂ _ (fun _ => ⟨rfl, rfl⟩)⟩
  · simp only [exec_bind, exec_call_pure, exec_modify, exec_get, exec_pure, modifySlot_modifySlot]
    exact ⟨_, _, _, rfl, hkeep c₂ _ (fun _ => ⟨rfl, rfl⟩)⟩

theorem exec_invoke_of_ensure_error {s₀ : Synchronizer (Tagged C)} {log₀ : List Call} {w₀ : W}
    {err : Error} (h : exec (ensure b.tagged e (b.describe t) cs) s log w =
      (((.error err, s₀), log₀), w₀)) :
    exec (invoke b.tagged e t cs bnd) s log w = (((.error err, s₀), log₀), w₀) := by
  simp only [invoke, exec_bind, tagged_describe, h]

/-- A submission logs exactly what its `ensure` logs. -/
theorem invoke_log :
    (exec (invoke b.tagged e t cs bnd) s log w).1.2 =
      (exec (ensure b.tagged e (b.describe t) cs) s log w).1.2 := by
  rcases hE : exec (ensure b.tagged e (b.describe t) cs) s log w with
    ⟨⟨⟨err | u, s₀⟩, log₀⟩, w₀⟩
  · rw [exec_invoke_of_ensure_error b e t cs bnd s log w hE]
  · obtain ⟨hd, hhd⟩ := ensure_ok_holds b e _ cs s log w hE
    obtain ⟨r, s', w', hinv, -⟩ := exec_invoke_of_ensure_ok b e t cs bnd s log w hE hhd
    rw [hinv]

/-- A submission leaves the books as its `ensure` left them. -/
theorem invoke_sameBooks :
    SameBooks (exec (invoke b.tagged e t cs bnd) s log w).1.1.2
      (exec (ensure b.tagged e (b.describe t) cs) s log w).1.1.2 := by
  rcases hE : exec (ensure b.tagged e (b.describe t) cs) s log w with
    ⟨⟨⟨err | u, s₀⟩, log₀⟩, w₀⟩
  · rw [exec_invoke_of_ensure_error b e t cs bnd s log w hE]
    exact fun _ => ⟨rfl, rfl⟩
  · obtain ⟨hd, hhd⟩ := ensure_ok_holds b e _ cs s log w hE
    obtain ⟨r, s', w', hinv, hbooks⟩ := exec_invoke_of_ensure_ok b e t cs bnd s log w hE hhd
    rw [hinv]
    exact hbooks

/-- A submission succeeds only if its `ensure` did. -/
theorem ensure_ok_of_invoke_ok {r : EyeLayer}
    (h : (exec (invoke b.tagged e t cs bnd) s log w).1.1.1 = .ok r) :
    (exec (ensure b.tagged e (b.describe t) cs) s log w).1.1.1 = .ok () := by
  rcases hE : exec (ensure b.tagged e (b.describe t) cs) s log w with
    ⟨⟨⟨err | u, s₀⟩, log₀⟩, w₀⟩
  · rw [exec_invoke_of_ensure_error b e t cs bnd s log w hE] at h
    cases h
  · rfl

end Invoke

/-- Closing destroys the left eye's swapchain, then the right one's, and nothing else. -/
theorem close_run (b : Backend (StateM W) C T) (s : Synchronizer (Tagged C)) (log : List Call)
    (w : W) : ∃ w', ((close b.tagged s).run log).run w =
      (((), log ++ retired s.left.chain ++ retired s.right.chain), w') := by
  rcases hl : s.left.chain with _ | l <;> rcases hr : s.right.chain with _ | r <;>
    exact ⟨_, by simp only [close, hl, hr, retired, Option.map_none, Option.map_some,
      Option.toList_none, Option.toList_some, List.append_nil]; rfl⟩

end Synchronizer

end XrLayer.Compositor
