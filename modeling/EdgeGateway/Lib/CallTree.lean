import Mathlib.Algebra.BigOperators.Group.Finset.Basic
import Mathlib.Data.Fintype.Basic
import Mathlib.Logic.Relation
import Mathlib.Tactic

/-!
# Programs with external calls

A program is a tree: it returns, or it makes a call and goes on according to the answer. The world
answers: an environment says which answers a call can get and how it changes the world. `wp` is the
weakest precondition of a program in an environment, `always` the same with an invariant that holds
between any two calls. A `Service` runs such programs on request and can crash between two calls. A
`Loop` repeats a body, and in a pool several loops take turns.
-/

namespace CallTree

structure Signature where
  Op : Type
  Ans : Op → Type

inductive Prog (E : Signature) (ρ : Type) : Type where
  | ret (r : ρ)
  | call (o : E.Op) (k : E.Ans o → Prog E ρ)

variable {E : Signature} {ρ σ W : Type}

namespace Prog

def bind : Prog E ρ → (ρ → Prog E σ) → Prog E σ
  | .ret r, f => f r
  | .call o k, f => .call o (fun a => (k a).bind f)

instance : Monad (Prog E) where
  pure := .ret
  bind := Prog.bind

@[simp] lemma pure_eq (r : ρ) : (pure r : Prog E ρ) = .ret r := rfl

@[simp] lemma call_bind (o : E.Op) (k : E.Ans o → Prog E ρ) (f : ρ → Prog E σ) :
    (Prog.call o k >>= f) = .call o (fun a => k a >>= f) := rfl

/-- A single call. -/
def perform (o : E.Op) : Prog E (E.Ans o) :=
  .call o .ret

/-- A program over a part of the calls of `F`. -/
def embed {F : Signature} (op : E.Op → F.Op) (ans : (o : E.Op) → F.Ans (op o) → E.Ans o) :
    Prog E ρ → Prog F ρ
  | .ret r => .ret r
  | .call o k => .call (op o) (fun a => (k (ans o a)).embed op ans)

lemma embed_bind {F : Signature} (op : E.Op → F.Op) (ans : (o : E.Op) → F.Ans (op o) → E.Ans o)
    (p : Prog E ρ) (f : ρ → Prog E σ) :
    (p >>= f).embed op ans = p.embed op ans >>= fun r => (f r).embed op ans := by
  induction p with
  | ret r => rfl
  | call o k ih =>
    rw [call_bind, embed, embed, call_bind]
    congr 1
    funext a
    exact ih _

end Prog

/-- The run of a program in a world with only one answer to each call. -/
def Prog.run (answer : W → (o : E.Op) → E.Ans o × W) : Prog E ρ → W → ρ × W
  | .ret r, w => (r, w)
  | .call o k, w => (k (answer w o).1).run answer (answer w o).2

section

variable (answer : W → (o : E.Op) → E.Ans o × W)

@[simp] lemma Prog.run_ret (r : ρ) (w : W) : (Prog.ret r : Prog E ρ).run answer w = (r, w) := rfl

@[simp] lemma Prog.run_perform (o : E.Op) (w : W) : (Prog.perform o).run answer w = answer w o := rfl

@[simp] lemma Prog.run_bind (p : Prog E ρ) (f : ρ → Prog E σ) (w : W) :
    (p >>= f).run answer w = (f (p.run answer w).1).run answer (p.run answer w).2 := by
  induction p generalizing w with
  | ret r => rfl
  | call o k ih =>
    rw [Prog.call_bind]
    exact ih _ _

end

/-- Which answers a call can get, and what they do to the world. -/
abbrev Env (E : Signature) (W : Type) :=
  W → (o : E.Op) → E.Ans o → W → Prop

/-- A complete run of a program. -/
inductive Exec (R : Env E W) : Prog E ρ → W → ρ → W → Prop where
  | ret {r : ρ} {w : W} : Exec R (.ret r) w r w
  | call {o : E.Op} {k : E.Ans o → Prog E ρ} {a : E.Ans o} {w w' w'' : W} {r : ρ} :
      R w o a w' → Exec R (k a) w' r w'' → Exec R (.call o k) w r w''

/-- Every complete run ends in `Q`. -/
def wp (R : Env E W) : Prog E ρ → (ρ → W → Prop) → W → Prop
  | .ret r, Q, w => Q r w
  | .call o k, Q, w => ∀ a w', R w o a w' → wp R (k a) Q w'

section

variable (R : Env E W)

@[simp] lemma wp_ret (r : ρ) (Q : ρ → W → Prop) (w : W) : wp R (.ret r) Q w ↔ Q r w := Iff.rfl

@[simp] lemma wp_bind (p : Prog E ρ) (f : ρ → Prog E σ) (Q : σ → W → Prop) (w : W) :
    wp R (p >>= f) Q w ↔ wp R p (fun r w' => wp R (f r) Q w') w := by
  induction p generalizing w with
  | ret r => rfl
  | call o k ih =>
    rw [Prog.call_bind]
    simp only [wp]
    exact forall_congr' (fun a => forall_congr' (fun w' => imp_congr_right (fun _ => ih a w')))

lemma wp_mono {p : Prog E ρ} {Q Q' : ρ → W → Prop} {w : W} (h : wp R p Q w)
    (hQ : ∀ r w', Q r w' → Q' r w') : wp R p Q' w := by
  induction p generalizing w with
  | ret r => exact hQ r w h
  | call o k ih => exact fun a w' hr => ih a (h a w' hr)

lemma wp_congr {p : Prog E ρ} {Q Q' : ρ → W → Prop} {w : W} (hQ : ∀ r w', Q r w' ↔ Q' r w') :
    wp R p Q w ↔ wp R p Q' w :=
  ⟨fun h => wp_mono R h (fun r w' => (hQ r w').mp), fun h => wp_mono R h (fun r w' => (hQ r w').mpr)⟩

lemma wp_of_forall {p : Prog E ρ} {Q : ρ → W → Prop} {w : W} (hQ : ∀ r w', Q r w') : wp R p Q w := by
  induction p generalizing w with
  | ret r => exact hQ r w
  | call o k ih => exact fun a w' _ => ih a

lemma wp_and {p : Prog E ρ} {Q Q' : ρ → W → Prop} {w : W} (h : wp R p Q w) (h' : wp R p Q' w) :
    wp R p (fun r w' => Q r w' ∧ Q' r w') w := by
  induction p generalizing w with
  | ret r => exact ⟨h, h'⟩
  | call o k ih => exact fun a w' hr => ih a (h a w' hr) (h' a w' hr)

/-- A part of the calls sees the world through those that answer it. -/
lemma wp_embed {F : Signature} (R : Env F W) (op : E.Op → F.Op) (ans : (o : E.Op) → F.Ans (op o) → E.Ans o)
    (p : Prog E ρ) (Q : ρ → W → Prop) (w : W) :
    wp R (p.embed op ans) Q w ↔
      wp (fun w o a w' => ∃ b, ans o b = a ∧ R w (op o) b w') p Q w := by
  induction p generalizing w with
  | ret r => rfl
  | call o k ih =>
    constructor
    · rintro h a w' ⟨b, rfl, hr⟩
      exact (ih _ w').mp (h b w' hr)
    · intro h b w' hr
      exact (ih _ w').mpr (h _ w' ⟨b, rfl, hr⟩)

theorem wp_iff_exec (p : Prog E ρ) (Q : ρ → W → Prop) (w : W) :
    wp R p Q w ↔ ∀ r w', Exec R p w r w' → Q r w' := by
  constructor
  · intro h r w' hrun
    induction hrun with
    | ret => exact h
    | call hr _ ih => exact ih (h _ _ hr)
  · intro h
    induction p generalizing w with
    | ret r => exact h r w .ret
    | call o k ih => exact fun a w' hr => ih a w' (fun r w'' hrun => h r w'' (.call hr hrun))

variable {R} in
lemma Exec.bind {p : Prog E ρ} {f : ρ → Prog E σ} {r : ρ} {r' : σ} {w w' w'' : W} (h : Exec R p w r w')
    (h' : Exec R (f r) w' r' w'') : Exec R (p >>= f) w r' w'' := by
  induction h with
  | ret => exact h'
  | call hr _ ih => exact .call hr (ih h')

variable {R} in
/-- A world that gives one of the possible answers to each call runs the program to its end. -/
lemma exec_run {answer : W → (o : E.Op) → E.Ans o × W} (h : ∀ w o, R w o (answer w o).1 (answer w o).2)
    (p : Prog E ρ) (w : W) : Exec R p w (p.run answer w).1 (p.run answer w).2 := by
  induction p generalizing w with
  | ret r => exact .ret
  | call o k ih => exact .call (h w o) (ih _ _)

variable {R} in
lemma Exec.embed {F : Signature} {R' : Env F W} (op : E.Op → F.Op) (ans : (o : E.Op) → F.Ans (op o) → E.Ans o)
    (hans : ∀ w o a w', R w o a w' → ∃ b, ans o b = a ∧ R' w (op o) b w')
    {p : Prog E ρ} {r : ρ} {w w' : W} (h : Exec R p w r w') : Exec R' (p.embed op ans) w r w' := by
  induction h with
  | ret => exact .ret
  | call hr _ ih =>
    obtain ⟨b, rfl, hr'⟩ := hans _ _ _ _ hr
    exact .call hr' ih

/-- The run of a program in a world that has at most one answer to each call. -/
def Prog.follow (answer : W → (o : E.Op) → Option (E.Ans o × W)) : Prog E ρ → W → Option (ρ × W)
  | .ret r, w => some (r, w)
  | .call o k, w => (answer w o).bind (fun a => (k a.1).follow answer a.2)

variable {R} in
lemma exec_of_follow {answer : W → (o : E.Op) → Option (E.Ans o × W)}
    (h : ∀ w o a w', answer w o = some (a, w') → R w o a w') {p : Prog E ρ} {r : ρ} {w w' : W}
    (hrun : p.follow answer w = some (r, w')) : Exec R p w r w' := by
  induction p generalizing w with
  | ret r =>
    cases hrun
    exact .ret
  | call o k ih =>
    obtain ⟨⟨a, w''⟩, hanswer, hrest⟩ := Option.bind_eq_some_iff.mp hrun
    exact .call (h w o a w'' hanswer) (ih a hrest)

/-- Whatever it is answered, the program makes none of the calls in `bad`. -/
def Prog.Avoids (bad : E.Op → Prop) : Prog E ρ → Prop
  | .ret _ => True
  | .call o k => ¬bad o ∧ ∀ a, (k a).Avoids bad

lemma Prog.avoids_bind {bad : E.Op → Prop} {p : Prog E ρ} {f : ρ → Prog E σ} (hp : p.Avoids bad)
    (hf : ∀ r, (f r).Avoids bad) : (p >>= f).Avoids bad := by
  induction p with
  | ret r => exact hf r
  | call o k ih => exact ⟨hp.1, fun a => ih a (hp.2 a)⟩

lemma Prog.avoids_embed {F : Signature} {op : E.Op → F.Op} {ans : (o : E.Op) → F.Ans (op o) → E.Ans o}
    {bad : F.Op → Prop} {p : Prog E ρ} (h : p.Avoids (fun o => bad (op o))) :
    (p.embed op ans).Avoids bad := by
  induction p with
  | ret r => trivial
  | call o k ih => exact ⟨h.1, fun a => ih _ (h.2 _)⟩

lemma Prog.avoids_of_forall {bad : E.Op → Prop} (h : ∀ o, ¬bad o) (p : Prog E ρ) : p.Avoids bad := by
  induction p with
  | ret r => trivial
  | call o k ih => exact ⟨h o, ih⟩

variable {R} in
/-- A program whose calls can be answered runs to its end. -/
theorem exists_exec {bad : E.Op → Prop} (hanswer : ∀ w o, ¬bad o → ∃ a w', R w o a w') {p : Prog E ρ}
    (h : p.Avoids bad) (w : W) : ∃ r w', Exec R p w r w' := by
  induction p generalizing w with
  | ret r => exact ⟨r, w, .ret⟩
  | call o k ih =>
    obtain ⟨a, w', hr⟩ := hanswer w o h.1
    obtain ⟨r, w'', hexec⟩ := ih a (h.2 a) w'
    exact ⟨r, w'', .call hr hexec⟩

/-- As `wp`, with `I` holding before the first call, between any two and at the end. -/
def always (I : W → Prop) : Prog E ρ → (ρ → W → Prop) → W → Prop
  | .ret r, Q, w => I w ∧ Q r w
  | .call o k, Q, w => I w ∧ ∀ a w', R w o a w' → always I (k a) Q w'

variable {I : W → Prop}

lemma always_here {p : Prog E ρ} {Q : ρ → W → Prop} {w : W} (h : always R I p Q w) : I w := by
  cases p with
  | ret r => exact h.1
  | call o k => exact h.1

lemma always_mono {p : Prog E ρ} {Q Q' : ρ → W → Prop} {w : W} (h : always R I p Q w)
    (hQ : ∀ r w', Q r w' → Q' r w') : always R I p Q' w := by
  induction p generalizing w with
  | ret r => exact ⟨h.1, hQ r w h.2⟩
  | call o k ih => exact ⟨h.1, fun a w' hr => ih a (h.2 a w' hr)⟩

lemma always_bind {p : Prog E ρ} {f : ρ → Prog E σ} {Q : σ → W → Prop} {w : W}
    (h : always R I p (fun r w' => always R I (f r) Q w') w) : always R I (p >>= f) Q w := by
  induction p generalizing w with
  | ret r => exact h.2
  | call o k ih =>
    rw [Prog.call_bind]
    exact ⟨h.1, fun a w' hr => ih a (h.2 a w' hr)⟩

end

/-- A world in which the program can be interrupted: some of its calls were made, the others are not. -/
inductive Reaches (R : Env E W) : Prog E ρ → W → W → Prop where
  | here {p : Prog E ρ} {w : W} : Reaches R p w w
  | call {o : E.Op} {k : E.Ans o → Prog E ρ} {a : E.Ans o} {w w' w'' : W} :
      R w o a w' → Reaches R (k a) w' w'' → Reaches R (.call o k) w w''

variable {R : Env E W}

lemma Exec.reaches {p : Prog E ρ} {w w' : W} {r : ρ} (h : Exec R p w r w') : Reaches R p w w' := by
  induction h with
  | ret => exact .here
  | call hr _ ih => exact .call hr ih

lemma always_reaches {I : W → Prop} {p : Prog E ρ} {Q : ρ → W → Prop} {w w' : W} (h : always R I p Q w)
    (hreach : Reaches R p w w') : I w' := by
  induction hreach with
  | here => exact always_here R h
  | call hr _ ih => exact ih (h.2 _ _ hr)

lemma always_exec {I : W → Prop} {p : Prog E ρ} {Q : ρ → W → Prop} {w w' : W} {r : ρ} (h : always R I p Q w)
    (hexec : Exec R p w r w') : I w' ∧ Q r w' := by
  induction hexec with
  | ret => exact h
  | call hr _ ih => exact ih (h.2 _ _ hr)

/-! ### Services -/

/-- Programs run on request, one at a time. `returned` is what a return leaves in the world and
`crashed` what a crash can leave of it. -/
structure Service (E : Signature) (W : Type) where
  Request : Type
  Result : Type
  handle : Request → Prog E Result
  env : Env E W
  returned : Request → Result → W → W
  crashed : W → W → Prop

namespace Service

variable (S : Service E W)

inductive State where
  | idle (w : W)
  | busy (q : S.Request) (p : Prog E S.Result) (w : W)

variable {S}

def State.world : S.State → W
  | .idle w => w
  | .busy _ _ w => w

variable (S)

inductive Step : S.State → S.State → Prop where
  | request (q : S.Request) (w : W) : Step (.idle w) (.busy q (S.handle q) w)
  | perform {q : S.Request} {o : E.Op} {k : E.Ans o → Prog E S.Result} {a : E.Ans o} {w w' : W} :
      S.env w o a w' → Step (.busy q (.call o k) w) (.busy q (k a) w')
  | finish {q : S.Request} {r : S.Result} {w : W} :
      Step (.busy q (.ret r) w) (.idle (S.returned q r w))
  | crash {s : S.State} {w' : W} : S.crashed s.world w' → Step s (.idle w')

lemma run_of_busy (q : S.Request) {p : Prog E S.Result} {r : S.Result} {w w' : W} (h : Exec S.env p w r w') :
    Relation.ReflTransGen S.Step (.busy q p w) (.idle (S.returned q r w')) := by
  induction h with
  | ret => exact .single .finish
  | call hr _ ih => exact .head (.perform hr) ih

/-- A request can be served from beginning to end. -/
lemma run_of_exec {q : S.Request} {r : S.Result} {w w' : W} (h : Exec S.env (S.handle q) w r w') :
    Relation.ReflTransGen S.Step (.idle w) (.idle (S.returned q r w')) :=
  .head (.request q w) (S.run_of_busy q h)

/-- `I` holds, and in the middle of a request the rest of it keeps `I`. -/
def Keeps (I : W → Prop) : S.State → Prop
  | .idle w => I w
  | .busy q p w => always S.env I p (fun r w' => I (S.returned q r w')) w

lemma Keeps.world {I : W → Prop} {s : S.State} (h : S.Keeps I s) : I s.world := by
  cases s with
  | idle w => exact h
  | busy q p w => exact always_here _ h

/-- A property of the world that every request keeps between any two of its calls, and every crash
keeps, holds in every state. -/
theorem invariant {I : W → Prop}
    (hrequest : ∀ q w, I w → always S.env I (S.handle q) (fun r w' => I (S.returned q r w')) w)
    (hcrash : ∀ w w', I w → S.crashed w w' → I w')
    {w₀ : W} (h₀ : I w₀) {s : S.State} (hs : Relation.ReflTransGen S.Step (.idle w₀) s) : I s.world := by
  apply Keeps.world
  induction hs with
  | refl => exact h₀
  | tail _ hstep ih =>
    cases hstep with
    | request q w => exact hrequest q w ih
    | perform hr => exact ih.2 _ _ hr
    | finish => exact ih.2
    | crash hc => exact hcrash _ _ ih.world hc

end Service

/-! ### Histories -/

/-- A call and its answer. -/
abbrev Event (E : Signature) :=
  (o : E.Op) × E.Ans o

/-- The environment of an observer: it allows the answers in `ok` and notes each call with its
answer. -/
def observing (ok : W → (o : E.Op) → E.Ans o → Prop) (note : W → Event E → W) : Env E W :=
  fun w o a w' => ok w o a ∧ w' = note w ⟨o, a⟩

/-- The observer that remembers everything. -/
def recording (ok : List (Event E) → (o : E.Op) → E.Ans o → Prop) : Env E (List (Event E)) :=
  observing ok (fun h e => h ++ [e])

section

variable {ok : List (Event E) → (o : E.Op) → E.Ans o → Prop} {ok' : W → (o : E.Op) → E.Ans o → Prop}
  {note : W → Event E → W} {w₀ : W}

/-- What an observer sees can be worked out from what is remembered. -/
lemma Exec.observe (hok : ∀ h o a, ok h o a → ok' (h.foldl note w₀) o a) {p : Prog E ρ} {r : ρ}
    {h h' : List (Event E)} (hexec : Exec (recording ok) p h r h') :
    Exec (observing ok' note) p (h.foldl note w₀) r (h'.foldl note w₀) := by
  induction hexec with
  | ret => exact .ret
  | call hr _ ih =>
    obtain ⟨hans, rfl⟩ := hr
    rw [List.foldl_append] at ih
    exact .call ⟨hok _ _ _ hans, rfl⟩ ih

end

/-- Every entry is allowed by the entries before it. -/
def Justified {α : Type} (allowed : List α → α → Prop) (h : List α) : Prop :=
  ∀ before e after, h = before ++ e :: after → allowed before e

namespace Justified

variable {α : Type} {allowed : List α → α → Prop} {h : List α} {e : α}

lemma nil : Justified allowed [] := by
  intro before e after heq
  simp at heq

lemma append (hjust : Justified allowed h) (he : allowed h e) : Justified allowed (h ++ [e]) := by
  intro before e' after heq
  rcases List.eq_nil_or_concat after with rfl | ⟨after, last, rfl⟩
  · obtain ⟨rfl, hlast⟩ := List.append_inj' heq rfl
    rw [← (List.cons.inj hlast).1]
    exact he
  · rw [List.concat_eq_append, ← List.cons_append, ← List.append_assoc] at heq
    obtain ⟨heq, -⟩ := List.append_inj' heq rfl
    exact hjust before e' after heq

lemma last (hjust : Justified allowed (h ++ [e])) : allowed h e :=
  hjust h e [] rfl

lemma earlier {l : List α} (hjust : Justified allowed (h ++ l)) : Justified allowed h := by
  intro before e after heq
  apply hjust before e (after ++ l)
  rw [heq, List.append_assoc, List.cons_append]

end Justified

/-! ### Loops -/

/-- `Loop R body s w s' w'`: some number of passes of `body` leads from `s` in `w` to `s'` in `w'`. -/
inductive Loop (R : Env E W) (body : σ → Prog E σ) (s : σ) (w : W) : σ → W → Prop where
  | start : Loop R body s w s w
  | pass {s' s'' : σ} {w' w'' : W} :
      Loop R body s w s' w' → Exec R (body s') w' s'' w'' → Loop R body s w s'' w''

theorem Loop.invariant {R : Env E W} {body : σ → Prog E σ} {J : σ → W → Prop}
    (hbody : ∀ s w, J s w → wp R (body s) J w) {s s' : σ} {w w' : W} (h : J s w)
    (hrun : Loop R body s w s' w') : J s' w' := by
  induction hrun with
  | start => exact h
  | pass _ hexec ih => exact (wp_iff_exec R _ _ _).mp (hbody _ _ ih) _ _ hexec

/-- The passes of a loop in a world that has at most one answer to each call. -/
def Loop.follow (answer : W → (o : E.Op) → Option (E.Ans o × W)) (body : σ → Prog E σ) :
    (passes : Nat) → σ → W → Option (σ × W)
  | 0, s, w => some (s, w)
  | n + 1, s, w => (Loop.follow answer body n s w).bind (fun x => (body x.1).follow answer x.2)

lemma loop_of_follow {R : Env E W} {answer : W → (o : E.Op) → Option (E.Ans o × W)}
    (h : ∀ w o a w', answer w o = some (a, w') → R w o a w') {body : σ → Prog E σ} {n : Nat} {s s' : σ} {w w' : W}
    (hrun : Loop.follow answer body n s w = some (s', w')) : Loop R body s w s' w' := by
  induction n generalizing s' w' with
  | zero =>
    cases hrun
    exact .start
  | succ n ih =>
    obtain ⟨⟨s₁, w₁⟩, hearlier, hpass⟩ := Option.bind_eq_some_iff.mp hrun
    exact .pass (ih hearlier) (exec_of_follow h hpass)

lemma Loop.observe {ok : List (Event E) → (o : E.Op) → E.Ans o → Prop}
    {ok' : W → (o : E.Op) → E.Ans o → Prop} {note : W → Event E → W} {w₀ : W}
    (hok : ∀ h o a, ok h o a → ok' (h.foldl note w₀) o a) {body : σ → Prog E σ} {s s' : σ}
    {h h' : List (Event E)} (hrun : Loop (recording ok) body s h s' h') :
    Loop (observing ok' note) body s (h.foldl note w₀) s' (h'.foldl note w₀) := by
  induction hrun with
  | start => exact .start
  | pass _ hexec ih => exact .pass ih (hexec.observe hok)

/-- A loop that counts the passes that `mark` holds of, as seen from their beginning and their end. -/
inductive CountedLoop (R : Env E W) (body : σ → Prog E σ) (mark : σ → W → W → Prop) (s : σ) (w : W) :
    Nat → σ → W → Prop where
  | start : CountedLoop R body mark s w 0 s w
  | pass {n : Nat} {s' s'' : σ} {w' w'' : W} : CountedLoop R body mark s w n s' w' →
      Exec R (body s') w' s'' w'' → ¬mark s' w' w'' → CountedLoop R body mark s w n s'' w''
  | marked {n : Nat} {s' s'' : σ} {w' w'' : W} : CountedLoop R body mark s w n s' w' →
      Exec R (body s') w' s'' w'' → mark s' w' w'' → CountedLoop R body mark s w (n + 1) s'' w''

namespace CountedLoop

variable {R : Env E W} {body : σ → Prog E σ} {mark : σ → W → W → Prop} {s s' : σ} {w w' : W} {n : Nat}

lemma loop (h : CountedLoop R body mark s w n s' w') : Loop R body s w s' w' := by
  induction h with
  | start => exact .start
  | pass _ hexec _ ih => exact .pass ih hexec
  | marked _ hexec _ ih => exact .pass ih hexec

theorem invariant {J : Nat → σ → W → Prop}
    (hbody : ∀ n s w, J n s w →
      wp R (body s) (fun s' w' => (¬mark s w w' → J n s' w') ∧ (mark s w w' → J (n + 1) s' w')) w)
    (h : J 0 s w) (hrun : CountedLoop R body mark s w n s' w') : J n s' w' := by
  induction hrun with
  | start => exact h
  | pass _ hexec hmark ih => exact ((wp_iff_exec R _ _ _).mp (hbody _ _ _ ih) _ _ hexec).1 hmark
  | marked _ hexec hmark ih => exact ((wp_iff_exec R _ _ _).mp (hbody _ _ _ ih) _ _ hexec).2 hmark

end CountedLoop

/-! ### Pools -/

/-- Where a thread that loops stands. -/
inductive Thread (E : Signature) (σ : Type) where
  | between (s : σ)
  | inside (p : Prog E σ)

def Thread.rest? : Thread E σ → Option σ
  | .between s => some s
  | .inside _ => none

lemma Thread.eq_between {t : Thread E σ} {s : σ} (h : t.rest? = some s) : t = .between s := by
  cases t with
  | between s' => exact congrArg Thread.between (Option.some.inj h)
  | inside p => cases h

/-- Threads that loop side by side. The history says who made which call. -/
structure Pool (ι : Type) (E : Signature) (σ : Type) where
  thread : ι → Thread E σ
  history : List (ι × Event E)

namespace Pool

variable {ι : Type} [DecidableEq ι]

/-- The calls of one thread. -/
def own (i : ι) (h : List (ι × Event E)) : List (Event E) :=
  (h.filter (fun e => e.1 = i)).map Prod.snd

lemma own_append_self (i : ι) (h : List (ι × Event E)) (e : Event E) :
    own i (h ++ [(i, e)]) = own i h ++ [e] := by
  simp [own]

lemma own_append_of_ne {i j : ι} (hne : j ≠ i) (h : List (ι × Event E)) (e : Event E) :
    own i (h ++ [(j, e)]) = own i h := by
  simp [own, hne]

/-- An amount spread over the calls is the sum of the threads' shares. -/
lemma sum_own [Fintype ι] (amount : Event E → Nat) (h : List (ι × Event E)) :
    ∑ i, ((own i h).map amount).sum = (h.map (fun e => amount e.2)).sum := by
  induction h using List.reverseRecOn with
  | nil => simp [own]
  | append_singleton h e ih =>
    obtain ⟨j, e⟩ := e
    have hshare : ∀ i, ((own i (h ++ [(j, e)])).map amount).sum =
        ((own i h).map amount).sum + if j = i then amount e else 0 := by
      intro i
      by_cases hij : j = i
      · subst hij
        rw [own_append_self, List.map_append, List.sum_append, if_pos rfl, List.map_singleton,
          List.sum_singleton]
      · rw [own_append_of_ne hij, if_neg hij, Nat.add_zero]
    simp only [hshare, Finset.sum_add_distrib, ih, Finset.sum_ite_eq, Finset.mem_univ, if_true]
    simp

variable (ok : ι → List (Event E) → (o : E.Op) → E.Ans o → Prop) (body : ι → σ → Prog E σ)

inductive Step : Pool ι E σ → Pool ι E σ → Prop where
  | enter {P : Pool ι E σ} (i : ι) {s : σ} : P.thread i = .between s →
      Step P { P with thread := Function.update P.thread i (.inside (body i s)) }
  | perform {P : Pool ι E σ} (i : ι) {o : E.Op} {k : E.Ans o → Prog E σ} (a : E.Ans o) :
      P.thread i = .inside (.call o k) → ok i (own i P.history) o a →
      Step P ⟨Function.update P.thread i (.inside (k a)), P.history ++ [(i, ⟨o, a⟩)]⟩
  | leave {P : Pool ι E σ} (i : ι) {s : σ} : P.thread i = .inside (.ret s) →
      Step P { P with thread := Function.update P.thread i (.between s) }

/-- What a thread has done so far: whole passes, and part of one. -/
def Progress (i : ι) (s₀ : σ) (t : Thread E σ) (h : List (Event E)) : Prop :=
  match t with
  | .between s => Loop (recording (ok i)) (body i) s₀ [] s h
  | .inside p => ∃ s' h', Loop (recording (ok i)) (body i) s₀ [] s' h' ∧
      ∀ s'' h'', Exec (recording (ok i)) p h s'' h'' → Exec (recording (ok i)) (body i s') h' s'' h''

/-- However the threads take turns, each one has run its own loop on its own calls. -/
theorem progress {P₀ P : Pool ι E σ} (s₀ : ι → σ) (hstart : ∀ i, P₀.thread i = .between (s₀ i))
    (hempty : P₀.history = []) (hrun : Relation.ReflTransGen (Step ok body) P₀ P) (i : ι) :
    Progress ok body i (s₀ i) (P.thread i) (own i P.history) := by
  induction hrun with
  | refl =>
    rw [hstart i, hempty]
    exact .start
  | @tail P P' _ hstep ih =>
    cases hstep with
    | @enter j s hj =>
      by_cases hij : j = i
      · subst hij
        simp only [Function.update_self]
        rw [hj] at ih
        exact ⟨s, own j P.history, ih, fun _ _ h => h⟩
      · simpa only [Function.update_of_ne (Ne.symm hij)] using ih
    | @perform j o k a hj hok =>
      by_cases hij : j = i
      · subst hij
        simp only [Function.update_self, own_append_self]
        rw [hj] at ih
        obtain ⟨s', h', hloop, hrest⟩ := ih
        exact ⟨s', h', hloop, fun s'' h'' hexec => hrest s'' h'' (.call ⟨hok, rfl⟩ hexec)⟩
      · simpa only [Function.update_of_ne (Ne.symm hij), own_append_of_ne hij] using ih
    | @leave j s hj =>
      by_cases hij : j = i
      · subst hij
        simp only [Function.update_self]
        rw [hj] at ih
        obtain ⟨s', h', hloop, hrest⟩ := ih
        exact .pass hloop (hrest s _ .ret)
      · simpa only [Function.update_of_ne (Ne.symm hij)] using ih

/-- The next step of a thread, where the calls have at most one answer. -/
def advance (answer : ι → List (Event E) → (o : E.Op) → Option (E.Ans o)) (P : Pool ι E σ) (i : ι) :
    Option (Pool ι E σ) :=
  match P.thread i with
  | .between s => some { P with thread := Function.update P.thread i (.inside (body i s)) }
  | .inside (.ret s) => some { P with thread := Function.update P.thread i (.between s) }
  | .inside (.call o k) => (answer i (own i P.history) o).map (fun a =>
      ⟨Function.update P.thread i (.inside (k a)), P.history ++ [(i, ⟨o, a⟩)]⟩)

/-- The threads take turns as the schedule says. -/
def follow (answer : ι → List (Event E) → (o : E.Op) → Option (E.Ans o)) :
    (schedule : List ι) → Pool ι E σ → Option (Pool ι E σ)
  | [], P => some P
  | i :: schedule, P => (advance body answer P i).bind (follow answer schedule)

variable {ok body} in
lemma run_of_follow {answer : ι → List (Event E) → (o : E.Op) → Option (E.Ans o)}
    (h : ∀ i h o a, answer i h o = some a → ok i h o a) {schedule : List ι} {P P' : Pool ι E σ}
    (hrun : follow body answer schedule P = some P') : Relation.ReflTransGen (Step ok body) P P' := by
  induction schedule generalizing P with
  | nil =>
    cases hrun
    exact .refl
  | cons i schedule ih =>
    obtain ⟨P₁, hnext, hrest⟩ := Option.bind_eq_some_iff.mp hrun
    refine .head ?_ (ih hrest)
    unfold advance at hnext
    split at hnext
    · rename_i s hi
      rw [← Option.some.inj hnext]
      exact .enter i hi
    · rename_i s hi
      rw [← Option.some.inj hnext]
      exact .leave i hi
    · rename_i o k hi
      obtain ⟨a, hanswer, rfl⟩ := Option.map_eq_some_iff.mp hnext
      exact .perform i a hi (h _ _ _ _ hanswer)

end Pool

end CallTree
