import EasyMcp2221.Effect.Protocol
import Mathlib.Logic.Relation

/-!
# Interleaved programs

Threads run programs over a shared state.  Every effect takes two steps: the thread
enters it and later leaves it with a reply, so other threads may move while an
effect is in progress, and a thread that cannot leave is one that waits.  A state is
reachable whatever the scheduler and the environment choose.

`Discipline` is the proof method: each operation follows a protocol, and a global
invariant speaks about the shared state and the protocol state of every thread.  Its
obligations are about one step of one thread; `Discipline.reachable` turns them into
a statement about every reachable configuration, and `Discipline.Holds.run` into one
about every run from such a configuration.
-/

namespace Effect

/-- What an operation does, when it may start, and what its effects mean. -/
structure Machine (E : Type) (R : E → Type) (ε T Op S : Type) where
  prog : S → Op → Prog E R ε Unit
  /-- `canStart s running t op`: the thread `t` may start `op` while the other threads
      execute `running`. -/
  canStart : S → (T → Option Op) → T → Op → Prop
  enter : T → Op → S → E → S
  leave : T → Op → S → (e : E) → R e → S → Prop

/-- A thread is idle, about to perform its next effect, or inside an effect. -/
inductive Thread (E : Type) (R : E → Type) (ε Op : Type) where
  | idle
  | ready (op : Op) (p : Prog E R ε Unit)
  | busy (op : Op) (e : E) (k : R e → Prog E R ε Unit)

namespace Thread

variable {E : Type} {R : E → Type} {ε Op : Type}

/-- The operation that a thread executes. -/
def op? : Thread E R ε Op → Option Op
  | idle => none
  | ready op _ => some op
  | busy op _ _ => some op

/-- The thread will only perform effects that satisfy `Q`. -/
def Keeps (Q : E → Prop) : Thread E R ε Op → Prop
  | idle => True
  | ready _ p => p.Only Q
  | busy _ e k => Q e ∧ ∀ r, (k r).Only Q

end Thread

namespace Machine

variable {E : Type} {R : E → Type} {ε T Op S : Type} [DecidableEq T]

structure Config (M : Machine E R ε T Op S) where
  state : S
  threads : T → Thread E R ε Op

variable {M : Machine E R ε T Op S}

/-- What every thread executes. -/
def Config.running (c : M.Config) (t : T) : Option Op := (c.threads t).op?

/-- One step of one thread. -/
inductive Step (M : Machine E R ε T Op S) : M.Config → M.Config → Prop where
  | start (c : M.Config) (t : T) (op : Op) (hidle : c.threads t = .idle)
      (hcan : M.canStart c.state c.running t op) :
      Step M c ⟨c.state, Function.update c.threads t (.ready op (M.prog c.state op))⟩
  | enter (c : M.Config) (t : T) (op : Op) (e : E) (k : R e → Prog E R ε Unit)
      (hready : c.threads t = .ready op (.vis e k)) :
      Step M c ⟨M.enter t op c.state e, Function.update c.threads t (.busy op e k)⟩
  | leave (c : M.Config) (t : T) (op : Op) (e : E) (k : R e → Prog E R ε Unit) (r : R e) (s' : S)
      (hbusy : c.threads t = .busy op e k) (hleave : M.leave t op c.state e r s') :
      Step M c ⟨s', Function.update c.threads t (.ready op (k r))⟩
  | stop (c : M.Config) (t : T) (op : Op) (out : Except ε Unit)
      (hready : c.threads t = .ready op (Prog.ofExcept out)) :
      Step M c ⟨c.state, Function.update c.threads t .idle⟩

/-- What the machine may reach from the state `s₀`, with every thread idle. -/
inductive Reachable (M : Machine E R ε T Op S) (s₀ : S) : M.Config → Prop where
  | init : Reachable M s₀ ⟨s₀, fun _ => .idle⟩
  | step {c c' : M.Config} : Reachable M s₀ c → M.Step c c' → Reachable M s₀ c'

/-- From one configuration to another in any number of steps. -/
abbrev Steps (M : Machine E R ε T Op S) : M.Config → M.Config → Prop :=
  Relation.ReflTransGen M.Step

theorem Reachable.steps {s₀ : S} {c c' : M.Config} (h : M.Reachable s₀ c) (hsteps : M.Steps c c') :
    M.Reachable s₀ c' := by
  induction hsteps with
  | refl => exact h
  | tail _ hstep ih => exact .step ih hstep

/-- The thread is about to perform the effect or is inside it. -/
def Config.Performs (c : M.Config) (t : T) (op : Op) (e : E) : Prop :=
  ∃ k, c.threads t = .ready op (.vis e k) ∨ c.threads t = .busy op e k

/-- The thread executes nothing, or it has nothing left to do. -/
def Config.Rests (c : M.Config) (t : T) : Prop :=
  c.threads t = .idle ∨ ∃ op out, c.threads t = .ready op (Prog.ofExcept out)

/-! ## The effects of every run -/

/-- The same machine, on which a thread may only start operations that satisfy `P` in the
    state in which they start. -/
def restrict (M : Machine E R ε T Op S) (P : S → Op → Prop) : Machine E R ε T Op S :=
  { M with canStart := fun s running t op => P s op ∧ M.canStart s running t op }

/-- One step keeps every thread to the effects of its operation. -/
theorem Step.keeps {Q : E → Prop} {c c' : M.Config}
    (hprog : ∀ s running t op, M.canStart s running t op → (M.prog s op).Only Q)
    (hstep : M.Step c c') (h : ∀ t, (c.threads t).Keeps Q) (t : T) : (c'.threads t).Keeps Q := by
  have hupdate : ∀ (t₀ : T) (th : Thread E R ε Op), th.Keeps Q →
      (Function.update c.threads t₀ th t).Keeps Q := by
    intro t₀ th hth
    by_cases ht : t = t₀
    · subst ht
      rwa [Function.update_self]
    · rw [Function.update_of_ne ht]
      exact h t
  cases hstep with
  | start t₀ op _ hcan => exact hupdate t₀ _ (hprog _ _ _ op hcan)
  | enter t₀ op e k hready =>
    have hmine := h t₀
    rw [hready] at hmine
    exact hupdate t₀ _ hmine
  | leave t₀ op e k r s' hbusy =>
    have hmine := h t₀
    rw [hbusy] at hmine
    exact hupdate t₀ _ (hmine.2 r)
  | stop t₀ => exact hupdate t₀ _ trivial

/-- **Operations that only perform certain effects perform no others in any run.** -/
theorem Reachable.keeps {Q : E → Prop} {s₀ : S} {c : M.Config}
    (hprog : ∀ s running t op, M.canStart s running t op → (M.prog s op).Only Q)
    (h : M.Reachable s₀ c) (t : T) : (c.threads t).Keeps Q := by
  induction h generalizing t with
  | init => trivial
  | step _ hstep ih => exact hstep.keeps hprog ih t

/-! ## One operation among others -/

/-- The thread `t` has begun `op` at `c₀`, and in a run from there to `c` the effects of it that
    the thread has left are the events `tr`. -/
inductive ExecutesFrom (M : Machine E R ε T Op S) (c₀ : M.Config) (t : T) (op : Op) :
    List (Prog.Event R) → M.Config → Prop where
  | start (hidle : c₀.threads t = .idle) (hcan : M.canStart c₀.state c₀.running t op) :
      ExecutesFrom M c₀ t op []
        ⟨c₀.state, Function.update c₀.threads t (.ready op (M.prog c₀.state op))⟩
  | enter {tr : List (Prog.Event R)} {c : M.Config} {e : E} {k : R e → Prog E R ε Unit}
      (h : ExecutesFrom M c₀ t op tr c) (hready : c.threads t = .ready op (.vis e k)) :
      ExecutesFrom M c₀ t op tr
        ⟨M.enter t op c.state e, Function.update c.threads t (.busy op e k)⟩
  | leave {tr : List (Prog.Event R)} {c : M.Config} {e : E} {k : R e → Prog E R ε Unit} {r : R e}
      {s' : S} (h : ExecutesFrom M c₀ t op tr c) (hbusy : c.threads t = .busy op e k)
      (hleave : M.leave t op c.state e r s') :
      ExecutesFrom M c₀ t op (tr ++ [⟨e, r⟩]) ⟨s', Function.update c.threads t (.ready op (k r))⟩
  | other {tr : List (Prog.Event R)} {c c' : M.Config} (h : ExecutesFrom M c₀ t op tr c)
      (hstep : M.Step c c') (hsame : c'.threads t = c.threads t) : ExecutesFrom M c₀ t op tr c'

/-- In a run to `c` the thread `t` executes `op`, and the effects that it has left so far
    are the events `tr`. -/
def Executes (M : Machine E R ε T Op S) (s₀ : S) (t : T) (op : Op) (tr : List (Prog.Event R))
    (c : M.Config) : Prop :=
  ∃ c₀, M.Reachable s₀ c₀ ∧ M.ExecutesFrom c₀ t op tr c

namespace ExecutesFrom

variable {t : T} {op : Op} {tr : List (Prog.Event R)} {c₀ c : M.Config}

/-- An execution is a part of a run. -/
theorem steps (h : M.ExecutesFrom c₀ t op tr c) : M.Steps c₀ c := by
  induction h with
  | start hidle hcan => exact .single (.start c₀ t op hidle hcan)
  | enter _ hready ih => exact .tail ih (.enter _ t op _ _ hready)
  | leave _ hbusy hleave ih => exact .tail ih (.leave _ t op _ _ _ _ hbusy hleave)
  | other _ hstep _ ih => exact .tail ih hstep

/-- The thread goes on with what its events leave of the program. -/
theorem reaches (h : M.ExecutesFrom c₀ t op tr c) :
    ∃ p, (M.prog c₀.state op).Reaches tr p ∧
      (c.threads t = .ready op p ∨ ∃ e k, p = .vis e k ∧ c.threads t = .busy op e k) := by
  induction h with
  | start => exact ⟨_, .refl _, .inl (Function.update_self ..)⟩
  | enter _ hready ih =>
    obtain ⟨p, hreaches, hp | ⟨_, _, -, hbusy⟩⟩ := ih
    · rw [hready] at hp
      cases hp
      exact ⟨_, hreaches, .inr ⟨_, _, rfl, Function.update_self ..⟩⟩
    · rw [hready] at hbusy
      cases hbusy
  | @leave tr c e k r s' _ hbusy _ ih =>
    obtain ⟨p, hreaches, hp | ⟨_, _, rfl, hp⟩⟩ := ih
    · rw [hbusy] at hp
      cases hp
    · rw [hbusy] at hp
      cases hp
      exact ⟨_, hreaches.snoc r, .inl (Function.update_self ..)⟩
  | other _ _ hsame ih =>
    rw [hsame]
    exact ih

/-- An execution that has ended is a run of its program. -/
theorem runs (h : M.ExecutesFrom c₀ t op tr c) {out : Except ε Unit}
    (hended : c.threads t = .ready op (Prog.ofExcept out)) :
    (M.prog c₀.state op).Runs tr out := by
  rcases h.reaches with ⟨p, hreaches, hp | ⟨_, _, -, hbusy⟩⟩
  · rw [hended] at hp
    cases hp
    have hruns := hreaches.runs (Prog.runs_ofExcept out)
    rwa [List.append_nil] at hruns
  · rw [hended] at hbusy
    cases hbusy

/-- Every effect was left in one step of the execution. -/
theorem left (h : M.ExecutesFrom c₀ t op tr c) {ev : Prog.Event R} (hev : ev ∈ tr) :
    ∃ tr₁ c₁ k s', M.ExecutesFrom c₀ t op tr₁ c₁ ∧ c₁.threads t = .busy op ev.1 k ∧
      M.leave t op c₁.state ev.1 ev.2 s' ∧
        M.Steps ⟨s', Function.update c₁.threads t (.ready op (k ev.2))⟩ c := by
  induction h with
  | start => cases hev
  | enter _ hready ih =>
    rcases ih hev with ⟨tr₁, c₁, k, s', hbefore, hbusy, hleave, hsteps⟩
    exact ⟨tr₁, c₁, k, s', hbefore, hbusy, hleave, .tail hsteps (.enter _ t op _ _ hready)⟩
  | other _ hstep _ ih =>
    rcases ih hev with ⟨tr₁, c₁, k, s', hbefore, hbusy, hleave, hsteps⟩
    exact ⟨tr₁, c₁, k, s', hbefore, hbusy, hleave, .tail hsteps hstep⟩
  | @leave tr c e k r s' hexecutes hbusy hleave ih =>
    rcases List.mem_append.mp hev with hold | hlast
    · rcases ih hold with ⟨tr₁, c₁, k₁, s₁, hbefore, hbusy₁, hleave₁, hsteps⟩
      exact ⟨tr₁, c₁, k₁, s₁, hbefore, hbusy₁, hleave₁,
        .tail hsteps (.leave _ t op _ _ _ _ hbusy hleave)⟩
    · rcases List.mem_singleton.mp hlast with rfl
      exact ⟨tr, c, k, s', hexecutes, hbusy, hleave, .refl⟩

end ExecutesFrom

theorem Reachable.executes {s₀ : S} {t : T} {op : Op} {tr : List (Prog.Event R)} {c₀ c : M.Config}
    (hc₀ : M.Reachable s₀ c₀) (h : M.ExecutesFrom c₀ t op tr c) : M.Executes s₀ t op tr c :=
  ⟨c₀, hc₀, h⟩

/-- An execution that has ended is a run of its program. -/
theorem Executes.runs {s₀ : S} {t : T} {op : Op} {tr : List (Prog.Event R)} {c : M.Config}
    (h : M.Executes s₀ t op tr c) {out : Except ε Unit}
    (hended : c.threads t = .ready op (Prog.ofExcept out)) : ∃ s, (M.prog s op).Runs tr out := by
  rcases h with ⟨c₀, -, h⟩
  exact ⟨c₀.state, h.runs hended⟩

/-! ## One thread alone -/

section Alone

variable {s₀ s s' : S} {t : T} {op : Op}

/-- The state is reachable with every thread idle. -/
def ReachableIdle (M : Machine E R ε T Op S) (s₀ s : S) : Prop :=
  M.Reachable s₀ ⟨s, fun _ => .idle⟩

/-- The state is reachable with one thread at work, which goes on with `p`. -/
def ReachableAlone (M : Machine E R ε T Op S) (s₀ : S) (t : T) (op : Op)
    (p : Prog E R ε Unit) (s : S) : Prop :=
  M.Reachable s₀ ⟨s, Function.update (fun _ => .idle) t (.ready op p)⟩

theorem ReachableIdle.start (h : M.ReachableIdle s₀ s) (t : T) (op : Op)
    (hcan : M.canStart s (fun _ => none) t op) :
    M.ReachableAlone s₀ t op (M.prog s op) s :=
  .step h (.start _ t op rfl hcan)

theorem update_alone (x : Thread E R ε Op) :
    Function.update (fun _ : T => (.idle : Thread E R ε Op)) t x t = x :=
  Function.update_self ..

/-- The thread performs its next effect. -/
theorem steps_alone {e : E} {k : R e → Prog E R ε Unit} (r : R e)
    (hleave : M.leave t op (M.enter t op s e) e r s') :
    M.Steps ⟨s, Function.update (fun _ => .idle) t (.ready op (.vis e k))⟩
      ⟨s', Function.update (fun _ => .idle) t (.ready op (k r))⟩ := by
  have henter := Step.enter (M := M)
    ⟨s, Function.update (fun _ => .idle) t (.ready op (.vis e k))⟩ t op e k (update_alone _)
  have hleft := Step.leave (M := M)
    ⟨M.enter t op s e, Function.update (fun _ => .idle) t (.busy op e k)⟩ t op e k r s'
    (update_alone _) hleave
  rw [Function.update_idem] at henter hleft
  exact .tail (.single henter) hleft

theorem ReachableAlone.perform {e : E} {k : R e → Prog E R ε Unit} (r : R e)
    (h : M.ReachableAlone s₀ t op (.vis e k) s)
    (hleave : M.leave t op (M.enter t op s e) e r s') :
    M.ReachableAlone s₀ t op (k r) s' :=
  Reachable.steps h (steps_alone r hleave)

theorem ReachableAlone.performs {e : E} {k : R e → Prog E R ε Unit}
    (h : M.ReachableAlone s₀ t op (.vis e k) s) :
    ∃ c : M.Config, M.Reachable s₀ c ∧ c.state = s ∧ c.Performs t op e ∧
      ∀ r s', M.leave t op (M.enter t op s e) e r s' → ∃ c', M.Steps c c' ∧ c'.state = s' :=
  ⟨_, h, rfl, ⟨k, .inl (update_alone _)⟩, fun r _ hleave => ⟨_, steps_alone r hleave, rfl⟩⟩

theorem ReachableAlone.stop (out : Except ε Unit)
    (h : M.ReachableAlone s₀ t op (Prog.ofExcept out) s) : M.ReachableIdle s₀ s := by
  have hstopped := Reachable.step h (.stop _ t op out (update_alone _))
  rwa [Function.update_idem, Function.update_eq_self] at hstopped

/-- A run from `c₀` leads to the state, with one thread at work, which goes on with `p`. -/
def StepsAlone (M : Machine E R ε T Op S) (c₀ : M.Config) (t : T) (op : Op)
    (p : Prog E R ε Unit) (s : S) : Prop :=
  M.Steps c₀ ⟨s, Function.update (fun _ => .idle) t (.ready op p)⟩

theorem StepsAlone.refl (M : Machine E R ε T Op S) (t : T) (op : Op) (p : Prog E R ε Unit) (s : S) :
    M.StepsAlone ⟨s, Function.update (fun _ => .idle) t (.ready op p)⟩ t op p s :=
  Relation.ReflTransGen.refl

theorem StepsAlone.perform {c₀ : M.Config} {e : E} {k : R e → Prog E R ε Unit} (r : R e)
    (h : M.StepsAlone c₀ t op (.vis e k) s) (hleave : M.leave t op (M.enter t op s e) e r s') :
    M.StepsAlone c₀ t op (k r) s' :=
  Relation.ReflTransGen.trans h (steps_alone r hleave)

/-- With every other thread idle, the thread executes `op`, which it has begun at `c₀`, and
    goes on with `p`. -/
def ExecutesAlone (M : Machine E R ε T Op S) (c₀ : M.Config) (t : T) (op : Op)
    (tr : List (Prog.Event R)) (p : Prog E R ε Unit) (s : S) : Prop :=
  M.ExecutesFrom c₀ t op tr ⟨s, Function.update (fun _ => .idle) t (.ready op p)⟩

theorem ExecutesAlone.start (M : Machine E R ε T Op S) (s : S) (t : T) (op : Op)
    (hcan : M.canStart s (fun _ => none) t op) :
    M.ExecutesAlone ⟨s, fun _ => .idle⟩ t op [] (M.prog s op) s :=
  ExecutesFrom.start rfl hcan

theorem ExecutesAlone.perform {c₀ : M.Config} {tr : List (Prog.Event R)} {e : E}
    {k : R e → Prog E R ε Unit} (r : R e) (h : M.ExecutesAlone c₀ t op tr (.vis e k) s)
    (hleave : M.leave t op (M.enter t op s e) e r s') :
    M.ExecutesAlone c₀ t op (tr ++ [⟨e, r⟩]) (k r) s' := by
  have hleft :=
    ExecutesFrom.leave (ExecutesFrom.enter h (update_alone _)) (Function.update_self ..) hleave
  rwa [Function.update_idem, Function.update_idem] at hleft

theorem ExecutesAlone.ended {c₀ : M.Config} {tr : List (Prog.Event R)} (out : Except ε Unit)
    (h : M.ExecutesAlone c₀ t op tr (Prog.ofExcept out) s) :
    ∃ c : M.Config, M.ExecutesFrom c₀ t op tr c ∧ c.threads t = .ready op (Prog.ofExcept out) :=
  ⟨_, h, update_alone _⟩

end Alone

end Machine

/-- The abstract position of a thread: its operation and the state of its protocol. -/
inductive Phase (E Op Q : Type) where
  | idle
  | ready (op : Op) (q : Q)
  | busy (op : Op) (q : Q) (e : E)

namespace Phase

variable {E Op Q : Type}

def op? : Phase E Op Q → Option Op
  | idle => none
  | ready op _ => some op
  | busy op _ _ => some op

@[simp] theorem op?_idle : (idle : Phase E Op Q).op? = none := rfl

@[simp] theorem op?_ready (op : Op) (q : Q) : (ready op q : Phase E Op Q).op? = some op := rfl

@[simp] theorem op?_busy (op : Op) (q : Q) (e : E) : (busy op q e).op? = some op := rfl

/-- The operation and the state of its protocol. -/
def local? : Phase E Op Q → Option (Op × Q)
  | idle => none
  | ready op q => some (op, q)
  | busy op q _ => some (op, q)

@[simp] theorem local?_idle : (idle : Phase E Op Q).local? = none := rfl

@[simp] theorem local?_ready (op : Op) (q : Q) :
    (ready op q : Phase E Op Q).local? = some (op, q) := rfl

@[simp] theorem local?_busy (op : Op) (q : Q) (e : E) :
    (busy op q e).local? = some (op, q) := rfl

theorem op?_of_local {x : Phase E Op Q} {op : Op} {q : Q} (h : x.local? = some (op, q)) :
    x.op? = some op := by
  cases x <;> cases h <;> rfl

end Phase

/-- A proof that a machine keeps an invariant: a protocol for each operation, and what
    one step of one thread does to the invariant. -/
structure Discipline {E : Type} {R : E → Type} {ε T Op S : Type} [DecidableEq T]
    (M : Machine E R ε T Op S) (s₀ : S) (Q : Type) where
  protocol : Op → Protocol E R Q
  /-- The state of the protocol of an operation that starts. -/
  initial : S → Op → Q
  /-- What an operation owes to the state of its protocol when it ends. -/
  done : Op → Q → Prop
  Inv : S → (T → Phase E Op Q) → Prop
  init : Inv s₀ fun _ => .idle
  start : ∀ s g t op, Inv s g → g t = .idle → M.canStart s (fun t => (g t).op?) t op →
    (M.prog s op).wp (protocol op) (initial s op) (fun _ q' => done op q') ∧
      Inv s (Function.update g t (.ready op (initial s op)))
  enter : ∀ s g t op q e, Inv s g → g t = .ready op q → (protocol op).allow q e →
    Inv (M.enter t op s e) (Function.update g t (.busy op q e))
  leave : ∀ s g t op q e r s', Inv s g → g t = .busy op q e → (protocol op).allow q e →
    M.leave t op s e r s' → (protocol op).rely q e r ∧
      Inv s' (Function.update g t (.ready op ((protocol op).next q e r)))
  stop : ∀ s g t op q, Inv s g → g t = .ready op q → done op q →
    Inv s (Function.update g t .idle)

namespace Discipline

variable {E : Type} {R : E → Type} {ε T Op S Q : Type} [DecidableEq T]
  {M : Machine E R ε T Op S} {s₀ : S}

/-- The position `x` describes the thread `th`, which will keep to its protocol. -/
def Tracks (D : Discipline M s₀ Q) : Thread E R ε Op → Phase E Op Q → Prop
  | .idle, .idle => True
  | .ready op p, .ready op' q =>
    op' = op ∧ p.wp (D.protocol op) q fun _ q' => D.done op q'
  | .busy op e k, .busy op' q e' =>
    op' = op ∧ e' = e ∧ (Prog.vis e k).wp (D.protocol op) q fun _ q' => D.done op q'
  | _, _ => False

theorem Tracks.op? {D : Discipline M s₀ Q} {th : Thread E R ε Op} {x : Phase E Op Q}
    (h : D.Tracks th x) : x.op? = th.op? := by
  cases th <;> cases x <;> first | rfl | exact congrArg some h.1 | exact h.elim

theorem Tracks.of_idle {D : Discipline M s₀ Q} {x : Phase E Op Q} (h : D.Tracks .idle x) :
    x = .idle := by
  cases x <;> first | rfl | exact h.elim

theorem Tracks.of_ready {D : Discipline M s₀ Q} {op : Op} {p : Prog E R ε Unit}
    {x : Phase E Op Q} (h : D.Tracks (.ready op p) x) :
    ∃ q, x = .ready op q ∧ p.wp (D.protocol op) q fun _ q' => D.done op q' := by
  cases x with
  | ready op' q =>
    obtain ⟨rfl, hwp⟩ := h
    exact ⟨q, rfl, hwp⟩
  | idle | busy => exact h.elim

theorem Tracks.of_busy {D : Discipline M s₀ Q} {op : Op} {e : E} {k : R e → Prog E R ε Unit}
    {x : Phase E Op Q} (h : D.Tracks (.busy op e k) x) :
    ∃ q, x = .busy op q e ∧ (D.protocol op).allow q e ∧
      ∀ r, (D.protocol op).rely q e r →
        (k r).wp (D.protocol op) ((D.protocol op).next q e r) fun _ q' => D.done op q' := by
  cases x with
  | busy op' q e' =>
    obtain ⟨rfl, rfl, hallow, hnext⟩ := h
    exact ⟨q, rfl, hallow, hnext⟩
  | idle | ready => exact h.elim

/-- An update of one thread and of its position keeps the others. -/
theorem tracks_update {D : Discipline M s₀ Q} {threads : T → Thread E R ε Op}
    {g : T → Phase E Op Q} (h : ∀ t, D.Tracks (threads t) (g t)) (t : T)
    {th : Thread E R ε Op} {x : Phase E Op Q} (hnew : D.Tracks th x) (t' : T) :
    D.Tracks (Function.update threads t th t') (Function.update g t x t') := by
  by_cases ht : t' = t
  · subst ht
    rw [Function.update_self, Function.update_self]
    exact hnew
  · rw [Function.update_of_ne ht, Function.update_of_ne ht]
    exact h t'

/-- The invariant holds, with positions that describe the threads. -/
def Holds (D : Discipline M s₀ Q) (c : M.Config) (g : T → Phase E Op Q) : Prop :=
  D.Inv c.state g ∧ ∀ t, D.Tracks (c.threads t) (g t)

/-- One step, as a step of the positions. -/
inductive Moves (D : Discipline M s₀ Q) :
    S → (T → Phase E Op Q) → S → (T → Phase E Op Q) → Prop where
  | start {s : S} {g : T → Phase E Op Q} {t : T} (op : Op) (hidle : g t = .idle) :
      Moves D s g s (Function.update g t (.ready op (D.initial s op)))
  | enter {s : S} {g : T → Phase E Op Q} {t : T} {op : Op} {q : Q} {e : E}
      (hready : g t = .ready op q) (hallow : (D.protocol op).allow q e) :
      Moves D s g (M.enter t op s e) (Function.update g t (.busy op q e))
  | leave {s s' : S} {g : T → Phase E Op Q} {t : T} {op : Op} {q : Q} {e : E} {r : R e}
      (hbusy : g t = .busy op q e) (hallow : (D.protocol op).allow q e)
      (hleave : M.leave t op s e r s') :
      Moves D s g s' (Function.update g t (.ready op ((D.protocol op).next q e r)))
  | stop {s : S} {g : T → Phase E Op Q} {t : T} {op : Op} {q : Q} (hready : g t = .ready op q) :
      Moves D s g s (Function.update g t .idle)

section Step

variable {D : Discipline M s₀ Q} {c : M.Config} {g : T → Phase E Op Q} {t : T} {op : Op}

theorem Holds.start (h : D.Holds c g) (hidle : c.threads t = .idle)
    (hcan : M.canStart c.state c.running t op) :
    g t = .idle ∧
      D.Holds ⟨c.state, Function.update c.threads t (.ready op (M.prog c.state op))⟩
        (Function.update g t (.ready op (D.initial c.state op))) := by
  obtain ⟨hinv, htracks⟩ := h
  have hg : g t = .idle := Tracks.of_idle (hidle ▸ htracks t)
  have hrunning : c.running = fun t => (g t).op? := funext fun t => ((htracks t).op?).symm
  obtain ⟨hwp, hinv'⟩ := D.start _ g t op hinv hg (hrunning ▸ hcan)
  exact ⟨hg, hinv', tracks_update htracks t ⟨rfl, hwp⟩⟩

theorem Holds.enter (h : D.Holds c g) {e : E} {k : R e → Prog E R ε Unit}
    (hready : c.threads t = .ready op (.vis e k)) :
    ∃ q, g t = .ready op q ∧ (D.protocol op).allow q e ∧
      D.Holds ⟨M.enter t op c.state e, Function.update c.threads t (.busy op e k)⟩
        (Function.update g t (.busy op q e)) := by
  obtain ⟨hinv, htracks⟩ := h
  obtain ⟨q, hg, hwp⟩ := Tracks.of_ready (hready ▸ htracks t)
  exact ⟨q, hg, hwp.1, D.enter _ g t op q e hinv hg hwp.1,
    tracks_update htracks t ⟨rfl, rfl, hwp⟩⟩

theorem Holds.leave (h : D.Holds c g) {e : E} {k : R e → Prog E R ε Unit} {r : R e} {s' : S}
    (hbusy : c.threads t = .busy op e k) (hleave : M.leave t op c.state e r s') :
    ∃ q, g t = .busy op q e ∧ (D.protocol op).allow q e ∧
      D.Holds ⟨s', Function.update c.threads t (.ready op (k r))⟩
        (Function.update g t (.ready op ((D.protocol op).next q e r))) := by
  obtain ⟨hinv, htracks⟩ := h
  obtain ⟨q, hg, hallow, hnext⟩ := Tracks.of_busy (hbusy ▸ htracks t)
  obtain ⟨hrely, hinv'⟩ := D.leave _ g t op q e r s' hinv hg hallow hleave
  exact ⟨q, hg, hallow, hinv', tracks_update htracks t ⟨rfl, hnext r hrely⟩⟩

theorem Holds.stop (h : D.Holds c g) {out : Except ε Unit}
    (hready : c.threads t = .ready op (Prog.ofExcept out)) :
    ∃ q, g t = .ready op q ∧
      D.Holds ⟨c.state, Function.update c.threads t .idle⟩ (Function.update g t .idle) := by
  obtain ⟨hinv, htracks⟩ := h
  obtain ⟨q, hg, hwp⟩ := Tracks.of_ready (hready ▸ htracks t)
  exact ⟨q, hg, D.stop _ g t op q hinv hg (Prog.wp_ofExcept.mp hwp),
    tracks_update htracks t trivial⟩

/-- Every step is a step of the positions, and keeps the invariant. -/
theorem Holds.step {c' : M.Config} (h : D.Holds c g) (hstep : M.Step c c') :
    ∃ g', D.Moves c.state g c'.state g' ∧ D.Holds c' g' := by
  cases hstep with
  | start t op hidle hcan =>
    obtain ⟨hg, hholds⟩ := h.start hidle hcan
    exact ⟨_, .start op hg, hholds⟩
  | enter t op e k hready =>
    obtain ⟨q, hg, hallow, hholds⟩ := h.enter hready
    exact ⟨_, .enter hg hallow, hholds⟩
  | leave t op e k r s' hbusy hleave =>
    obtain ⟨q, hg, hallow, hholds⟩ := h.leave hbusy hleave
    exact ⟨_, .leave hg hallow hleave, hholds⟩
  | stop t op out hready =>
    obtain ⟨q, hg, hholds⟩ := h.stop hready
    exact ⟨_, .stop hg, hholds⟩

end Step

/-- **The invariant holds in every reachable configuration.** -/
theorem reachable (D : Discipline M s₀ Q) {c : M.Config} (h : M.Reachable s₀ c) :
    ∃ g, D.Holds c g := by
  induction h with
  | init => exact ⟨fun _ => .idle, D.init, fun _ => trivial⟩
  | step _ hstep ih =>
    obtain ⟨g, hholds⟩ := ih
    obtain ⟨g', -, hholds'⟩ := hholds.step hstep
    exact ⟨g', hholds'⟩

/-- **A run keeps what every step of the positions keeps**, from wherever it starts. -/
theorem Holds.run {D : Discipline M s₀ Q} {J : S → (T → Phase E Op Q) → Prop}
    (hkeep : ∀ s g s' g', D.Inv s g → D.Inv s' g' → D.Moves s g s' g' → J s g → J s' g')
    {c c' : M.Config} {g : T → Phase E Op Q} (h : D.Holds c g) (hJ : J c.state g)
    (hsteps : M.Steps c c') : ∃ g', D.Holds c' g' ∧ J c'.state g' := by
  induction hsteps with
  | refl => exact ⟨g, h, hJ⟩
  | tail _ hstep ih =>
    obtain ⟨g₁, hholds, hJ₁⟩ := ih
    obtain ⟨g₂, hmoves, hholds'⟩ := hholds.step hstep
    exact ⟨g₂, hholds', hkeep _ _ _ _ hholds.1 hholds'.1 hmoves hJ₁⟩

/-- What every step of the positions keeps holds of every reachable configuration. -/
theorem reachable_keeps {D : Discipline M s₀ Q} {J : S → (T → Phase E Op Q) → Prop}
    (hinit : J s₀ fun _ => .idle)
    (hkeep : ∀ s g s' g', D.Inv s g → D.Inv s' g' → D.Moves s g s' g' → J s g → J s' g')
    {c : M.Config} (h : M.Reachable s₀ c) : ∃ g, D.Holds c g ∧ J c.state g := by
  induction h with
  | init => exact ⟨fun _ => .idle, ⟨D.init, fun _ => trivial⟩, hinit⟩
  | step _ hstep ih =>
    obtain ⟨g, hholds, hJ⟩ := ih
    obtain ⟨g', hmoves, hholds'⟩ := hholds.step hstep
    exact ⟨g', hholds', hkeep _ _ _ _ hholds.1 hholds'.1 hmoves hJ⟩

/-! ## A second protocol for one operation -/

/-- A protocol that one operation of one thread keeps besides that of the discipline.
    `Rel` relates its state to the shared state and to the position of the thread. -/
structure Observer (D : Discipline M s₀ Q) (t : T) (op : Op) (Q' : Type) where
  protocol : Protocol E R Q'
  initial : S → Q'
  Rel : S → Q → Q' → Prop
  start : ∀ s g, D.Inv s g → g t = .ready op (D.initial s op) →
    Rel s (D.initial s op) (initial s)
  enter : ∀ s g q q' e, D.Inv s g → g t = .ready op q → (D.protocol op).allow q e →
    Rel s q q' → Rel (M.enter t op s e) q q'
  leave : ∀ s g q q' e r s', D.Inv s g → g t = .busy op q e → (D.protocol op).allow q e →
    M.leave t op s e r s' → Rel s q q' →
    protocol.rely q' e r ∧ Rel s' ((D.protocol op).next q e r) (protocol.next q' e r)
  otherEnter : ∀ s g q q' t' op' p e, t' ≠ t → D.Inv s g → (g t).local? = some (op, q) →
    g t' = .ready op' p → (D.protocol op').allow p e → Rel s q q' →
    Rel (M.enter t' op' s e) q q'
  otherLeave : ∀ s g q q' t' op' p e r s', t' ≠ t → D.Inv s g → (g t).local? = some (op, q) →
    g t' = .busy op' p e → (D.protocol op').allow p e → M.leave t' op' s e r s' → Rel s q q' →
    Rel s' q q'

namespace Observer

variable {D : Discipline M s₀ Q} {t : T} {op : Op} {Q' : Type}

/-- The step of another thread. -/
theorem other (O : Observer D t op Q') {c c' : M.Config} {g : T → Phase E Op Q} {q : Q} {q' : Q'}
    (hholds : D.Holds c g) (hlocal : (g t).local? = some (op, q)) (hrel : O.Rel c.state q q')
    (hstep : M.Step c c') (hsame : c'.threads t = c.threads t) :
    ∃ g', D.Holds c' g' ∧ (g' t).local? = some (op, q) ∧ O.Rel c'.state q q' := by
  have hother : ∀ t' (th : Thread E R ε Op), Function.update c.threads t' th t = c.threads t →
      c.threads t' ≠ th → t' ≠ t := by
    rintro t' th hth hne rfl
    rw [Function.update_self] at hth
    exact hne hth.symm
  have hkeep : ∀ t' (x : Phase E Op Q), t' ≠ t → (Function.update g t' x t).local? = some (op, q) :=
    fun t' x hne => by rw [Function.update_of_ne hne.symm, hlocal]
  cases hstep with
  | start t' op' hidle hcan =>
    have hne : t' ≠ t := hother t' _ hsame (by rw [hidle]; nofun)
    obtain ⟨-, hholds'⟩ := hholds.start hidle hcan
    exact ⟨_, hholds', hkeep t' _ hne, hrel⟩
  | enter t' op' e k hready =>
    have hne : t' ≠ t := hother t' _ hsame (by rw [hready]; nofun)
    obtain ⟨p, hg, hallow, hholds'⟩ := hholds.enter hready
    exact ⟨_, hholds', hkeep t' _ hne,
      O.otherEnter _ g q q' t' op' p e hne hholds.1 hlocal hg hallow hrel⟩
  | leave t' op' e k r s' hbusy hleave =>
    have hne : t' ≠ t := hother t' _ hsame (by rw [hbusy]; nofun)
    obtain ⟨p, hg, hallow, hholds'⟩ := hholds.leave hbusy hleave
    exact ⟨_, hholds', hkeep t' _ hne,
      O.otherLeave _ g q q' t' op' p e r s' hne hholds.1 hlocal hg hallow hleave hrel⟩
  | stop t' op' out hready =>
    have hne : t' ≠ t := hother t' _ hsame (by rw [hready]; nofun)
    obtain ⟨p, -, hholds'⟩ := hholds.stop hready
    exact ⟨_, hholds', hkeep t' _ hne, hrel⟩

/-- **Every execution of the operation keeps the second protocol**, whatever the other
    threads do. -/
theorem executes (O : Observer D t op Q') {tr : List (Prog.Event R)} {c₀ c : M.Config}
    (hc₀ : M.Reachable s₀ c₀) (h : M.ExecutesFrom c₀ t op tr c) :
    ∃ g q, D.Holds c g ∧ (g t).local? = some (op, q) ∧
      O.protocol.Relied (O.initial c₀.state) tr ∧
        O.Rel c.state q (O.protocol.after (O.initial c₀.state) tr) := by
  induction h with
  | start hidle hcan =>
    obtain ⟨g, hholds⟩ := D.reachable hc₀
    obtain ⟨-, hholds'⟩ := hholds.start hidle hcan
    exact ⟨_, _, hholds', by rw [Function.update_self, Phase.local?_ready], trivial,
      O.start _ _ hholds'.1 (Function.update_self ..)⟩
  | enter _ hready ih =>
    obtain ⟨g, q, hholds, hlocal, hrelied, hrel⟩ := ih
    obtain ⟨p, hg, hallow, hholds'⟩ := hholds.enter hready
    rw [hg, Phase.local?_ready] at hlocal
    cases hlocal
    exact ⟨_, q, hholds', by rw [Function.update_self, Phase.local?_busy], hrelied,
      O.enter _ g q _ _ hholds.1 hg hallow hrel⟩
  | leave _ hbusy hleave ih =>
    obtain ⟨g, q, hholds, hlocal, hrelied, hrel⟩ := ih
    obtain ⟨p, hg, hallow, hholds'⟩ := hholds.leave hbusy hleave
    rw [hg, Phase.local?_busy] at hlocal
    cases hlocal
    obtain ⟨hrely, hrel'⟩ := O.leave _ g q _ _ _ _ hholds.1 hg hallow hleave hrel
    refine ⟨_, _, hholds', by rw [Function.update_self, Phase.local?_ready],
      (Protocol.relied_append ..).mpr ⟨hrelied, hrely, trivial⟩, ?_⟩
    rw [Protocol.after_append]
    exact hrel'
  | other _ hstep hsame ih =>
    obtain ⟨g, q, hholds, hlocal, hrelied, hrel⟩ := ih
    obtain ⟨g', hholds', hlocal', hrel'⟩ := O.other hholds hlocal hrel hstep hsame
    exact ⟨g', q, hholds', hlocal', hrelied, hrel'⟩

end Observer

/-- What an operation observes of itself: where it stands. -/
def self (D : Discipline M s₀ Q) (t : T) (op : Op) : Observer D t op Q where
  protocol := D.protocol op
  initial s := D.initial s op
  Rel _ q q' := q = q'
  start _ _ _ _ := rfl
  enter _ _ _ _ _ _ _ _ h := h
  leave s g q q' e r s' hinv hbusy hallow hleave h := by
    subst h
    exact ⟨(D.leave s g t op q e r s' hinv hbusy hallow hleave).1, rfl⟩
  otherEnter _ _ _ _ _ _ _ _ _ _ _ _ _ h := h
  otherLeave _ _ _ _ _ _ _ _ _ _ _ _ _ _ _ _ h := h

end Discipline

end Effect
