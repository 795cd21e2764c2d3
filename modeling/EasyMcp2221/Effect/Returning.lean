import EasyMcp2221.Effect.Reentrancy
import Mathlib.Logic.Relation

/-!
# Reentrant calls that return

Calls may be nested to any depth, but a thread that begins no further call has a finite way
back to the bottom of its stack: each of its steps shortens the program of the frame on top,
ends the delivery of a signal, or takes the frame from the stack.

That the frame on top can always take a step is the other half.  It depends on what the
effects wait for, so it is a hypothesis of `Dispatcher.Reachable.returns`.
-/

namespace Effect

namespace Dispatcher

variable {E : Type} {R : E → Type} {Sg ε Op S : Type} {D : Dispatcher E R Sg ε Op S} {s₀ : S}
  {c c' : D.Config}

/-- A step that begins no call. -/
def Continues (D : Dispatcher E R Sg ε Op S) (c c' : D.Config) : Prop :=
  D.Step c c' ∧ c'.next = c.next

/-- Names are given out only to calls. -/
theorem Step.next_le (h : D.Step c c') : c.next ≤ c'.next := by
  cases h with
  | call s fs n log op => exact Nat.le_succ n
  | effect | emit | received | stop => exact Nat.le_refl _

/-! ## The way back -/

/-- The frame is closer to its end. -/
inductive Frame.Shorter : D.Frame → D.Frame → Prop where
  | act (id : Nat) (op : Op) {a : Act E Sg}
      (k : Act.Reply R a → Prog (Act E Sg) (Act.Reply R) ε Unit) (r : Act.Reply R a)
      (delivering : Bool) : Shorter ⟨id, op, k r, delivering⟩ ⟨id, op, .vis a k, false⟩
  | received (id : Nat) (op : Op) (p : Prog (Act E Sg) (Act.Reply R) ε Unit) :
      Shorter ⟨id, op, p, false⟩ ⟨id, op, p, true⟩

/-- What a step that begins no call leaves of the stack. -/
inductive Shrinks : List D.Frame → List D.Frame → Prop where
  | pop (f : D.Frame) (fs : List D.Frame) : Shrinks fs (f :: fs)
  | top {f' f : D.Frame} (h : f'.Shorter f) (fs : List D.Frame) : Shrinks (f' :: fs) (f :: fs)

theorem Continues.shrinks (h : D.Continues c c') : Shrinks c'.stack c.stack := by
  rcases h with ⟨hstep, hnext⟩
  cases hstep with
  | call s fs n log op => exact absurd hnext (Nat.succ_ne_self n)
  | effect s fs n log id op e k r => exact .top (.act (a := .effect e) id op k r false) fs
  | emit s fs n log id op sg k => exact .top (.act (a := .signal sg) id op k () true) fs
  | received s fs n log id op p => exact .top (.received id op p) fs
  | stop s fs => exact .pop _ fs

/-- The end of a delivery comes before anything else of the frame. -/
theorem shorter_acc_delivering {id : Nat} {op : Op}
    {p : Prog (Act E Sg) (Act.Reply R) ε Unit}
    (h : Acc Frame.Shorter (⟨id, op, p, false⟩ : D.Frame)) (delivering : Bool) :
    Acc Frame.Shorter (⟨id, op, p, delivering⟩ : D.Frame) := by
  cases delivering with
  | false => exact h
  | true =>
    constructor
    intro f' hshorter
    cases hshorter with
    | received => exact h

theorem shorter_acc (f : D.Frame) : Acc Frame.Shorter f := by
  rcases f with ⟨id, op, p, delivering⟩
  apply shorter_acc_delivering
  induction p with
  | ret | throw =>
    constructor
    intro f' hshorter
    cases hshorter
  | vis a k ih =>
    constructor
    intro f' hshorter
    cases hshorter with
    | act _ _ _ r delivering => exact shorter_acc_delivering (ih r) delivering

/-- No stack shrinks for ever. -/
theorem shrinks_acc (fs : List D.Frame) : Acc Shrinks fs := by
  induction fs with
  | nil =>
    constructor
    intro fs' hshrinks
    cases hshrinks
  | cons f fs ih =>
    induction shorter_acc f with
    | intro f _ hshorter =>
      constructor
      intro fs' hshrinks
      cases hshrinks with
      | pop => exact ih
      | top h => exact hshorter _ h

theorem continues_acc (c : D.Config) : Acc (fun c' c => D.Continues c c') c :=
  Subrelation.accessible (fun h => h.shrinks) (InvImage.accessible Config.stack (shrinks_acc _))

/-! ## Runs -/

/-- **A run that begins no call ends**: every run without end begins calls again and again. -/
theorem begins (f : Nat → D.Config) (hsteps : ∀ n, D.Step (f n) (f (n + 1))) (n : Nat) :
    ∃ m, n ≤ m ∧ (f m).next < (f (m + 1)).next := by
  by_contra hnone
  have hcontinues : ∀ m, n ≤ m → D.Continues (f m) (f (m + 1)) := by
    intro m hm
    refine ⟨hsteps m, Nat.le_antisymm ?_ (hsteps m).next_le⟩
    exact Nat.le_of_not_lt fun hlt => hnone ⟨m, hm, hlt⟩
  have hend : ∀ c : D.Config, Acc (fun c' c => D.Continues c c') c →
      ∀ m, n ≤ m → f m = c → False := by
    intro c hc
    induction hc with
    | intro c _ ih =>
      rintro m hm rfl
      exact ih _ (hcontinues m hm) (m + 1) (Nat.le_succ_of_le hm) rfl
  exact hend _ (continues_acc _) n (Nat.le_refl n) rfl

/-- **Every call can return.**  If the frame on top can always do something, a reachable
    configuration has a continuation that begins no call and empties the stack. -/
theorem Reachable.returns
    (hlive : ∀ c, D.Reachable s₀ c → c.stack ≠ [] → ∃ c', D.Continues c c')
    (h : D.Reachable s₀ c) :
    ∃ c', Relation.ReflTransGen D.Continues c c' ∧ c'.stack = [] := by
  induction continues_acc c with
  | intro c _ ih =>
    by_cases hempty : c.stack = []
    · exact ⟨c, .refl, hempty⟩
    · rcases hlive c h hempty with ⟨c₁, hcontinues⟩
      rcases ih c₁ hcontinues (h.step hcontinues.1) with ⟨c', hsteps, hempty'⟩
      exact ⟨c', .head hcontinues hsteps, hempty'⟩

end Dispatcher

end Effect
