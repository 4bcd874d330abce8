import EdgeGateway.Lib.Implementation

/-!
# Handles

Threads open handles, use them and close them again. A handle has a state that changes with its use. A call is
proper when the thread that makes it holds the handle in a state that is ready for the call, and when a handle
is opened only while nobody holds it and by a thread that holds no other one. As long as all threads make proper
calls, nothing that one of them does touches what another one holds.
-/

namespace Handles
open CallTree

/-- What a call does to a handle of type `D` with states of type `X`. -/
inductive Effect (D X : Type) where
  | nothing
  | opens (d : D) (x : X)
  | closes (d : D)
  | uses (d : D) (ready : X → Prop) (after : X → X)

/-- Who holds a handle, and its state. -/
abbrev Table (ι D X : Type) :=
  D → Option (ι × X)

variable {ι α D X : Type} [DecidableEq D]

def Table.apply (t : Table ι D X) (i : ι) : Effect D X → Table ι D X
  | .nothing => t
  | .opens d x => Function.update t d (some (i, x))
  | .closes d => Function.update t d none
  | .uses d _ after => Function.update t d ((t d).map (fun h => (h.1, after h.2)))

/-- The handles after some calls. `effect` says what a call of a thread does to them. -/
def table (effect : ι → α → Effect D X) (h : List (ι × α)) : Table ι D X :=
  h.foldl (fun t e => t.apply e.1 (effect e.1 e.2)) (fun _ => none)

/-- A call that respects who holds what. -/
def Proper (effect : ι → α → Effect D X) (before : List (ι × α)) (e : ι × α) : Prop :=
  match effect e.1 e.2 with
  | .nothing => True
  | .opens d _ => table effect before d = none ∧ ∀ c x, table effect before c ≠ some (e.1, x)
  | .closes d => ∃ x, table effect before d = some (e.1, x)
  | .uses d ready _ => ∃ x, table effect before d = some (e.1, x) ∧ ready x

/-- A thread adds a proper call of its own. -/
def Adds (effect : ι → α → Effect D X) (i : ι) (h h' : List (ι × α)) : Prop :=
  ∃ e, Proper effect h (i, e) ∧ h' = h ++ [(i, e)]

/-- What the other threads do. -/
def Others (effect : ι → α → Effect D X) (i : ι) (h h' : List (ι × α)) : Prop :=
  ∃ j, j ≠ i ∧ Adds effect j h h'

/-- Thread `i` holds this handle in this state, and no other one. -/
def Owns (effect : ι → α → Effect D X) (i : ι) (held : Option (D × X)) (h : List (ι × α)) : Prop :=
  ∀ d x, table effect h d = some (i, x) ↔ held = some (d, x)

variable {effect : ι → α → Effect D X} {i : ι} {h h' : List (ι × α)} {e : α}

lemma table_append (e : ι × α) :
    table effect (h ++ [e]) = (table effect h).apply e.1 (effect e.1 e.2) := by
  rw [table, List.foldl_append]
  rfl

lemma Adds.justified (hadds : Adds effect i h h') (hjust : Justified (Proper effect) h) :
    Justified (Proper effect) h' := by
  obtain ⟨e, hproper, rfl⟩ := hadds
  exact hjust.append hproper

/-- What a thread holds is not touched by the proper calls of another one. -/
lemma table_interfere (hothers : Others effect i h h') (d : D) (x : X) :
    table effect h' d = some (i, x) ↔ table effect h d = some (i, x) := by
  obtain ⟨j, hne, e, hproper, rfl⟩ := hothers
  rw [table_append]
  unfold Proper at hproper
  dsimp only at hproper ⊢
  have hother : ∀ y, some (j, y) ≠ some (i, x) := by
    intro y heq
    exact hne (Prod.mk.inj (Option.some.inj heq)).1
  cases heffect : effect j e with
  | nothing => rfl
  | opens c y =>
    rw [heffect] at hproper
    by_cases hcd : d = c
    · subst hcd
      simp only [Table.apply, Function.update_self, hproper.1, hother, reduceCtorEq]
    · rw [Table.apply, Function.update_of_ne hcd]
  | closes c =>
    rw [heffect] at hproper
    by_cases hcd : d = c
    · subst hcd
      obtain ⟨y, hheld⟩ := hproper
      simp only [Table.apply, Function.update_self, hheld, hother, reduceCtorEq]
    · rw [Table.apply, Function.update_of_ne hcd]
  | uses c ready after =>
    rw [heffect] at hproper
    by_cases hcd : d = c
    · subst hcd
      obtain ⟨y, hheld, -⟩ := hproper
      simp only [Table.apply, Function.update_self, hheld, Option.map_some, hother]
    · rw [Table.apply, Function.update_of_ne hcd]

lemma stable_owns (held : Option (D × X)) : Stable (Others effect i) (Owns effect i held) := by
  intro h h' hothers howns d x
  rw [table_interfere hothers]
  exact howns d x

lemma owns_nil (effect : ι → α → Effect D X) (i : ι) : Owns effect i none [] := by
  intro d x
  exact ⟨nofun, nofun⟩

namespace Owns

variable {held : Option (D × X)} {d : D} {x y : X} {ready : X → Prop} {after : X → X}

lemma quiet (howns : Owns effect i held h) (heffect : effect i e = .nothing) :
    Proper effect h (i, e) ∧ Owns effect i held (h ++ [(i, e)]) := by
  constructor
  · rw [Proper, heffect]
    trivial
  · intro c z
    rw [table_append, heffect]
    exact howns c z

lemma opened (howns : Owns effect i none h) (heffect : effect i e = .opens d x)
    (hfree : table effect h d = none) :
    Proper effect h (i, e) ∧ Owns effect i (some (d, x)) (h ++ [(i, e)]) := by
  constructor
  · rw [Proper, heffect]
    exact ⟨hfree, fun c z hheld => nomatch (howns c z).mp hheld⟩
  · intro c z
    rw [table_append, heffect]
    change Function.update (table effect h) d (some (i, x)) c = some (i, z) ↔ some (d, x) = some (c, z)
    by_cases hcd : c = d
    · subst hcd
      rw [Function.update_self]
      simp
    · rw [Function.update_of_ne hcd]
      have hnone := howns c z
      simp only [reduceCtorEq, iff_false] at hnone
      simp only [hnone, Option.some.injEq, Prod.mk.injEq, Ne.symm hcd, false_and]

lemma closed (howns : Owns effect i (some (d, x)) h) (heffect : effect i e = .closes d) :
    Proper effect h (i, e) ∧ Owns effect i none (h ++ [(i, e)]) := by
  constructor
  · rw [Proper, heffect]
    exact ⟨x, (howns d x).mpr rfl⟩
  · intro c z
    rw [table_append, heffect]
    change Function.update (table effect h) d none c = some (i, z) ↔ none = some (c, z)
    by_cases hcd : c = d
    · subst hcd
      rw [Function.update_self]
      simp
    · rw [Function.update_of_ne hcd, howns c z]
      simp only [Option.some.injEq, Prod.mk.injEq, Ne.symm hcd, false_and, reduceCtorEq]

lemma used (howns : Owns effect i (some (d, x)) h) (heffect : effect i e = .uses d ready after) (hready : ready x) :
    Proper effect h (i, e) ∧ Owns effect i (some (d, after x)) (h ++ [(i, e)]) := by
  have hheld : table effect h d = some (i, x) := (howns d x).mpr rfl
  constructor
  · rw [Proper, heffect]
    exact ⟨x, hheld, hready⟩
  · intro c z
    rw [table_append, heffect]
    change Function.update (table effect h) d ((table effect h d).map _) c = some (i, z) ↔ _
    by_cases hcd : c = d
    · subst hcd
      rw [Function.update_self, hheld]
      simp
    · rw [Function.update_of_ne hcd, howns c z]
      simp only [Option.some.injEq, Prod.mk.injEq, Ne.symm hcd, false_and]

end Owns

/-- After proper calls a thread holds one handle at most. -/
lemma exists_owns (hjust : Justified (Proper effect) h) (i : ι) : ∃ held, Owns effect i held h := by
  induction h using List.reverseRecOn with
  | nil => exact ⟨none, owns_nil effect i⟩
  | append_singleton h e ih =>
    obtain ⟨held, howns⟩ := ih hjust.earlier
    have hproper := hjust.last
    obtain ⟨j, e⟩ := e
    by_cases hij : j = i
    · subst hij
      have hcall := hproper
      unfold Proper at hcall
      dsimp only at hcall
      cases heffect : effect j e with
      | nothing => exact ⟨held, (howns.quiet heffect).2⟩
      | opens d x =>
        rw [heffect] at hcall
        have hnone : held = none := by
          cases held with
          | none => rfl
          | some held => exact absurd ((howns held.1 held.2).mpr rfl) (hcall.2 _ _)
        subst hnone
        exact ⟨some (d, x), (howns.opened heffect hcall.1).2⟩
      | closes d =>
        rw [heffect] at hcall
        obtain ⟨x, hheld⟩ := hcall
        rw [(howns d x).mp hheld] at howns
        exact ⟨none, (howns.closed heffect).2⟩
      | uses d ready after =>
        rw [heffect] at hcall
        obtain ⟨x, hheld, hready⟩ := hcall
        rw [(howns d x).mp hheld] at howns
        exact ⟨some (d, after x), (howns.used heffect hready).2⟩
    · exact ⟨held, stable_owns held _ _ ⟨j, hij, e, hproper, rfl⟩ howns⟩

lemma Owns.unique {held : Option (D × X)} {d d' : D} {x x' : X} (howns : Owns effect i held h)
    (hd : table effect h d = some (i, x)) (hd' : table effect h d' = some (i, x')) : d = d' := by
  have hheld := ((howns d x).mp hd).symm.trans ((howns d' x').mp hd')
  exact (Prod.mk.inj (Option.some.inj hheld)).1

end Handles
