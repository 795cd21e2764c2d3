import EasyMcp2221.Effect.Interleaving
import EasyMcp2221.Effect.Refinement

/-!
# Histories

The effects that the threads of a machine have left, in the order in which they left them.
An abstract system follows a machine if it can take a step with each of these labels;
`Abstraction` states the obligations for one step of one thread, and `Abstraction.runs`
turns them into a statement about every history: whatever the threads have done, the
abstract system has done one label after the other.
-/

namespace Effect

namespace Machine

variable {E : Type} {R : E → Type} {ε T Op S : Type} [DecidableEq T]
  {M : Machine E R ε T Op S} {s₀ : S}

/-- An effect that a thread has left. -/
structure Left (R : E → Type) (T Op : Type) where
  thread : T
  op : Op
  event : Prog.Event R

/-- The machine may reach the configuration, and the effects that its threads have left on
    the way are these. -/
inductive History (M : Machine E R ε T Op S) (s₀ : S) : List (Left R T Op) → M.Config → Prop where
  | init : History M s₀ [] ⟨s₀, fun _ => .idle⟩
  | start {hist : List (Left R T Op)} {c : M.Config} (h : History M s₀ hist c) {t : T} {op : Op}
      (hidle : c.threads t = .idle) (hcan : M.canStart c.state c.running t op) :
      History M s₀ hist ⟨c.state, Function.update c.threads t (.ready op (M.prog c.state op))⟩
  | enter {hist : List (Left R T Op)} {c : M.Config} (h : History M s₀ hist c) {t : T} {op : Op}
      {e : E} {k : R e → Prog E R ε Unit} (hready : c.threads t = .ready op (.vis e k)) :
      History M s₀ hist ⟨M.enter t op c.state e, Function.update c.threads t (.busy op e k)⟩
  | leave {hist : List (Left R T Op)} {c : M.Config} (h : History M s₀ hist c) {t : T} {op : Op}
      {e : E} {k : R e → Prog E R ε Unit} {r : R e} {s' : S}
      (hbusy : c.threads t = .busy op e k) (hleave : M.leave t op c.state e r s') :
      History M s₀ (hist ++ [⟨t, op, e, r⟩]) ⟨s', Function.update c.threads t (.ready op (k r))⟩
  | stop {hist : List (Left R T Op)} {c : M.Config} (h : History M s₀ hist c) {t : T} {op : Op}
      {out : Except ε Unit} (hready : c.threads t = .ready op (Prog.ofExcept out)) :
      History M s₀ hist ⟨c.state, Function.update c.threads t .idle⟩

/-- Every reachable configuration has a history. -/
theorem Reachable.history {c : M.Config} (h : M.Reachable s₀ c) :
    ∃ hist, M.History s₀ hist c := by
  induction h with
  | init => exact ⟨[], .init⟩
  | step _ hstep ih =>
    rcases ih with ⟨hist, ih⟩
    cases hstep with
    | start t op hidle hcan => exact ⟨hist, ih.start hidle hcan⟩
    | enter t op e k hready => exact ⟨hist, ih.enter hready⟩
    | leave t op e k r s' hbusy hleave => exact ⟨_, ih.leave hbusy hleave⟩
    | stop t op out hready => exact ⟨hist, ih.stop hready⟩

end Machine

open Machine (Left)

/-- How an abstract system follows a machine: which abstract states match, and that it
    matches every step, with a step of its own when a thread leaves an effect. -/
structure Abstraction {E : Type} {R : E → Type} {ε T Op S Q : Type} [DecidableEq T]
    {M : Machine E R ε T Op S} {s₀ : S} (D : Discipline M s₀ Q) {G : Type}
    (step : G → Left R T Op → G → Prop) (γ₀ : G) where
  Rel : S → (T → Phase E Op Q) → G → Prop
  init : Rel s₀ (fun _ => .idle) γ₀
  start : ∀ s g t op γ, D.Inv s g → g t = .idle → Rel s g γ →
    Rel s (Function.update g t (.ready op (D.initial s op))) γ
  enter : ∀ s g t op q e γ, D.Inv s g → g t = .ready op q → (D.protocol op).allow q e →
    Rel s g γ → Rel (M.enter t op s e) (Function.update g t (.busy op q e)) γ
  leave : ∀ s g t op q e r s' γ, D.Inv s g → g t = .busy op q e → (D.protocol op).allow q e →
    M.leave t op s e r s' → Rel s g γ → ∃ γ', step γ ⟨t, op, e, r⟩ γ' ∧
      Rel s' (Function.update g t (.ready op ((D.protocol op).next q e r))) γ'
  stop : ∀ s g t op q γ, D.Inv s g → g t = .ready op q → Rel s g γ →
    Rel s (Function.update g t .idle) γ

/-- **Every history is a run of the abstract system.** -/
theorem Abstraction.runs {E : Type} {R : E → Type} {ε T Op S Q G : Type} [DecidableEq T]
    {M : Machine E R ε T Op S} {s₀ : S} {D : Discipline M s₀ Q}
    {step : G → Left R T Op → G → Prop} {γ₀ : G} (A : Abstraction D step γ₀)
    {hist : List (Left R T Op)} {c : M.Config} (h : M.History s₀ hist c) :
    ∃ g γ, D.Holds c g ∧ Run step γ₀ hist γ ∧ A.Rel c.state g γ := by
  induction h with
  | init => exact ⟨_, γ₀, ⟨D.init, fun _ => trivial⟩, .nil γ₀, A.init⟩
  | start _ hidle hcan ih =>
    rcases ih with ⟨g, γ, hholds, hrun, hrel⟩
    rcases hholds.start hidle hcan with ⟨hg, hholds'⟩
    exact ⟨_, γ, hholds', hrun, A.start _ g _ _ γ hholds.1 hg hrel⟩
  | enter _ hready ih =>
    rcases ih with ⟨g, γ, hholds, hrun, hrel⟩
    rcases hholds.enter hready with ⟨q, hg, hallow, hholds'⟩
    exact ⟨_, γ, hholds', hrun, A.enter _ g _ _ q _ γ hholds.1 hg hallow hrel⟩
  | leave _ hbusy hleave ih =>
    rcases ih with ⟨g, γ, hholds, hrun, hrel⟩
    rcases hholds.leave hbusy hleave with ⟨q, hg, hallow, hholds'⟩
    rcases A.leave _ g _ _ q _ _ _ γ hholds.1 hg hallow hleave hrel with ⟨γ', hstep, hrel'⟩
    exact ⟨_, γ', hholds', hrun.snoc hstep, hrel'⟩
  | stop _ hready ih =>
    rcases ih with ⟨g, γ, hholds, hrun, hrel⟩
    rcases hholds.stop hready with ⟨q, hg, hholds'⟩
    exact ⟨_, γ, hholds', hrun, A.stop _ g _ _ q γ hholds.1 hg hrel⟩

end Effect
