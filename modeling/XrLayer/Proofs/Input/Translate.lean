import Mathlib
import XrLayer.Proofs.Input.LegacyBindings
/-!
Translating legacy paths into a family's vocabulary.

A path the family exposes is kept, and so is every path when the family has no table.
Otherwise each entry of the table, in order, replaces the leftmost occurrence of its token in
the path as the earlier entries left it, and leaves the path alone where the token does not
occur (`ReplacesFirst`, `Rewrites`). No token of the six tables begins inside `/user/hand/left/`
or `/user/hand/right/` (`Clear`), so on a path under a hand the rewriting never reaches the
hand prefix: it acts on the rest of the path alone. Main statement: `translate_rewrites`.
-/
namespace XrLayer

/-- `y` is `x` with the leftmost occurrence of `pat` replaced by `rep`, or `x` itself when `pat`
does not occur in `x`. -/
def ReplacesFirst (pat rep x y : List Char) : Prop :=
  (¬ pat <:+: x ∧ y = x) ∨
    ∃ a b, x = a ++ pat ++ b ∧ y = a ++ rep ++ b ∧
      ∀ a' b', x = a' ++ pat ++ b' → a.length ≤ a'.length

/-- `z` is `x` after each entry of a table, in order, has replaced the leftmost occurrence of
its token in what the entries before it left. -/
inductive Rewrites : List (String × String) → List Char → List Char → Prop
  | nil (x : List Char) : Rewrites [] x x
  | cons {e : String × String} {es : List (String × String)} {x y z : List Char} :
      ReplacesFirst e.1.toList e.2.toList x y → Rewrites es y z → Rewrites (e :: es) x z

section ReplaceFirst

variable (pat rep : List Char)

theorem replaceFirst_eq_none_iff (x : List Char) :
    replaceFirst pat rep x = none ↔ ¬ pat <:+: x := by
  induction x with
  | nil => cases pat <;> simp [replaceFirst]
  | cons c cs ih =>
    -- an occurrence either starts the path or lies in its tail
    by_cases hp : pat <+: c :: cs
    · simp [replaceFirst, List.isPrefixOf_iff_prefix.mpr hp, hp.isInfix]
    · have hb : pat.isPrefixOf (c :: cs) = false := by
        simpa [← List.isPrefixOf_iff_prefix] using hp
      simp [replaceFirst, hb, ih, List.infix_cons_iff, hp]

/-- A replacement happens at the leftmost occurrence of the token. -/
theorem replaceFirst_eq_some {x y : List Char} (h : replaceFirst pat rep x = some y) :
    ∃ a b, x = a ++ pat ++ b ∧ y = a ++ rep ++ b ∧
      ∀ a' b', x = a' ++ pat ++ b' → a.length ≤ a'.length := by
  induction x generalizing y with
  | nil =>
    -- only the empty token occurs in the empty path
    cases pat with
    | nil =>
      simp only [replaceFirst, List.isEmpty_nil, if_true, Option.some.injEq] at h
      exact ⟨[], [], rfl, by simp [h], fun _ _ _ => Nat.zero_le _⟩
    | cons => simp [replaceFirst] at h
  | cons c cs ih =>
    unfold replaceFirst at h
    split at h
    · rename_i hp
      -- the token starts the path
      have hx := List.prefix_iff_eq_append.mp (List.isPrefixOf_iff_prefix.mp hp)
      refine ⟨[], (c :: cs).drop pat.length, by simpa using hx.symm, ?_,
        fun _ _ _ => Nat.zero_le _⟩
      simpa using h.symm
    · rename_i hp
      obtain ⟨y', hy', rfl⟩ := Option.map_eq_some_iff.mp h
      obtain ⟨a, b, hx, hy, hmin⟩ := ih hy'
      refine ⟨c :: a, b, by simp [hx], by simp [hy], ?_⟩
      intro a' b' hx'
      cases a' with
      | nil =>
        -- an occurrence at the start would have been taken
        exact absurd (List.isPrefixOf_iff_prefix.mpr ⟨b', by simp [hx']⟩) hp
      | cons c' a'' =>
        simp only [List.cons_append, List.cons.injEq] at hx'
        simpa using hmin a'' b' hx'.2

/-- The step of the translation is replace-first: its result is the only one `ReplacesFirst`
allows. -/
theorem replacesFirst_iff (x y : List Char) :
    ReplacesFirst pat rep x y ↔ y = (replaceFirst pat rep x).getD x := by
  constructor
  · rintro (⟨hx, hy⟩ | ⟨a, b, hx, rfl, hmin⟩)
    · simp [(replaceFirst_eq_none_iff pat rep x).mpr hx, hy]
    · rcases hr : replaceFirst pat rep x with _ | y₀
      · exact absurd ⟨a, b, hx.symm⟩ ((replaceFirst_eq_none_iff pat rep x).mp hr)
      · -- two leftmost occurrences are the same occurrence
        obtain ⟨a₀, b₀, hx₀, rfl, hmin₀⟩ := replaceFirst_eq_some pat rep hr
        have hlen : a.length = a₀.length := le_antisymm (hmin a₀ b₀ hx₀) (hmin₀ a b hx)
        have hsplit : a ++ (pat ++ b) = a₀ ++ (pat ++ b₀) := by
          simpa only [List.append_assoc] using hx.symm.trans hx₀
        obtain ⟨rfl, hb⟩ := List.append_inj hsplit hlen
        rw [List.append_cancel_left hb]
        rfl
  · rintro rfl
    rcases hr : replaceFirst pat rep x with _ | y₀
    · exact Or.inl ⟨(replaceFirst_eq_none_iff pat rep x).mp hr, rfl⟩
    · exact Or.inr (replaceFirst_eq_some pat rep hr)

end ReplaceFirst

namespace Profile

def rewrite (tbl : List (String × String)) (cs : List Char) : List Char :=
  tbl.foldl (fun cs e => (replaceFirst e.1.toList e.2.toList cs).getD cs) cs

theorem translate_eq (p : Profile) (s : String) :
    p.translate s =
      if p.synonyms.isEmpty || p.isInputPathValid s then s
      else String.ofList (rewrite p.synonyms s.toList) := rfl

end Profile

theorem rewrites_iff (tbl : List (String × String)) (x z : List Char) :
    Rewrites tbl x z ↔ z = Profile.rewrite tbl x := by
  induction tbl generalizing x with
  | nil =>
    constructor
    · rintro ⟨⟩
      rfl
    · intro hz
      rw [hz]
      exact .nil x
  | cons e es ih =>
    constructor
    · -- the first entry's step is determined, and the rest of the table runs from it
      rintro (_ | ⟨hstep, hrest⟩)
      rw [replacesFirst_iff] at hstep
      subst hstep
      exact (ih _).mp hrest
    · rintro rfl
      exact .cons ((replacesFirst_iff _ _ _ _).mpr rfl) ((ih _).mpr rfl)

section Prefix

/-- No nonempty tail of `pre` begins an occurrence of `pat` in `pre ++ t`, whatever `t`: the
token lies neither inside `pre` nor across its end. -/
def Clear (pre pat : List Char) : Prop :=
  ∀ u ∈ pre.tails, u ≠ [] → ¬ pat <+: u ∧ ¬ u <+: pat

instance (pre pat : List Char) : Decidable (Clear pre pat) :=
  inferInstanceAs (Decidable (∀ u ∈ pre.tails, u ≠ [] → ¬ pat <+: u ∧ ¬ u <+: pat))

variable {c : Char} {cs pat : List Char}

theorem Clear.tail (h : Clear (c :: cs) pat) : Clear cs pat :=
  fun u hu => h u (by simp [hu])

theorem Clear.not_prefix (h : Clear (c :: cs) pat) (t : List Char) : ¬ pat <+: c :: cs ++ t := by
  intro hp
  obtain ⟨hin, hacross⟩ := h (c :: cs) (by simp) (List.cons_ne_nil c cs)
  -- two prefixes of one list: one is a prefix of the other
  rcases List.prefix_or_prefix_of_prefix hp (List.prefix_append (c :: cs) t) with h' | h'
  · exact hin h'
  · exact hacross h'

theorem replaceFirst_append_of_clear {pre : List Char} (h : Clear pre pat) (rep t : List Char) :
    replaceFirst pat rep (pre ++ t) = (replaceFirst pat rep t).map (pre ++ ·) := by
  induction pre with
  | nil => simp
  | cons c cs ih =>
    have hb : pat.isPrefixOf (c :: (cs ++ t)) = false := by
      rw [Bool.eq_false_iff, Ne, List.isPrefixOf_iff_prefix]
      exact h.not_prefix t
    rw [List.cons_append, replaceFirst, hb, if_neg Bool.false_ne_true, ih h.tail, Option.map_map]
    rfl

/-- Behind a prefix clear of every token, the whole rewriting acts on the rest alone. -/
theorem rewrite_append_of_clear {pre : List Char} {tbl : List (String × String)}
    (h : ∀ e ∈ tbl, Clear pre e.1.toList) (t : List Char) :
    Profile.rewrite tbl (pre ++ t) = pre ++ Profile.rewrite tbl t := by
  induction tbl generalizing t with
  | nil => rfl
  | cons e es ih =>
    have hstep : (replaceFirst e.1.toList e.2.toList (pre ++ t)).getD (pre ++ t) =
        pre ++ (replaceFirst e.1.toList e.2.toList t).getD t := by
      rw [replaceFirst_append_of_clear (h e List.mem_cons_self)]
      cases replaceFirst e.1.toList e.2.toList t <;> rfl
    have ih' := ih (fun e' he' => h e' (List.mem_cons_of_mem e he'))
    simp only [Profile.rewrite, List.foldl_cons] at ih' ⊢
    rw [hstep, ih']

end Prefix

/-- No token of any family's table begins inside a hand's prefix `hand/`. -/
theorem Family.tokens_clear_hands :
    ∀ f ∈ Family.all, ∀ h ∈ Hand.both, ∀ e ∈ f.profile.synonyms,
      Clear (h.path ++ "/").toList e.1.toList := by
  decide +kernel

/-- Translation on every family. A path the family exposes, or any path when the family has no
table, comes back unchanged. Any other path comes back as what `Rewrites` allows and nothing
else: each table entry in order replacing the leftmost occurrence of its token in the path as
the entries before it left it. On a path `hand/t` that the family does not expose, the hand
prefix is kept and the rest is `t` rewritten alone. -/
theorem translate_rewrites (f : Family) :
    let p := f.profile
    (∀ s : String,
      ((p.synonyms = [] ∨ p.isInputPathValid s = true) → p.translate s = s) ∧
      (p.synonyms ≠ [] → p.isInputPathValid s = false →
        ∀ y, Rewrites p.synonyms s.toList y ↔ y = (p.translate s).toList)) ∧
    ∀ (h : Hand) (t : String), p.isInputPathValid (h.path ++ "/" ++ t) = false →
      p.translate (h.path ++ "/" ++ t) =
        h.path ++ "/" ++ String.ofList (Profile.rewrite p.synonyms t.toList) := by
  intro p
  refine ⟨fun s => ⟨fun hkeep => ?_, fun hne hinv y => ?_⟩, fun h t hinv => ?_⟩
  · rcases hkeep with hnil | hv
    · simp [Profile.translate_eq, hnil]
    · simp [Profile.translate_eq, hv]
  · have hskip : (p.synonyms.isEmpty || p.isInputPathValid s) = false := by
      simp [hne, hinv]
    rw [Profile.translate_eq, hskip, if_neg Bool.false_ne_true, String.toList_ofList]
    exact rewrites_iff _ _ _
  · -- the path's characters are the prefix's and then the rest's
    have hclear : ∀ e ∈ p.synonyms, Clear (h.path ++ "/").toList e.1.toList :=
      Family.tokens_clear_hands f (Family.mem_all f) h (Hand.mem_both h)
    rw [Profile.translate_eq, hinv, Bool.or_false]
    by_cases hnil : p.synonyms.isEmpty = true
    · rw [if_pos hnil, List.isEmpty_iff.mp hnil]
      simp [Profile.rewrite]
    · rw [if_neg hnil, String.toList_append, rewrite_append_of_clear hclear, String.ofList_append,
        String.ofList_toList]

end XrLayer
