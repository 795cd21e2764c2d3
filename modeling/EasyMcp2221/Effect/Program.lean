import Mathlib.Logic.Function.Basic

/-!
# Effect programs

A program over a signature of effects is a tree: it returns a value, throws an
exception, or performs one effect and goes on with the reply.  The tree is a
shallow embedding of straight-line imperative code with exceptions, and every
semantics of such code is read off the same tree: the traces of a single run
(`Runs`), the weakest precondition of a protocol (`Effect.Protocol`), and the
interleavings of several threads (`Effect.Interleaving`).

The signature is arbitrary: a type `E` of effects and a family `R` of reply
types.  `cleanup` is the scope exit of an automatic object (the clean-up runs on
the normal and on the exceptional path), `handle` is a catch block.
-/

namespace Effect

/-- A program with effects `E` answered in `R`, exceptions `ε` and results `α`. -/
inductive Prog (E : Type) (R : E → Type) (ε α : Type) : Type where
  | ret (a : α)
  | throw (x : ε)
  | vis (e : E) (k : R e → Prog E R ε α)

namespace Prog

variable {E : Type} {R : E → Type} {ε α β γ : Type}

/-! ## Sequencing, scopes and handlers -/

def bind : Prog E R ε α → (α → Prog E R ε β) → Prog E R ε β
  | .ret a, f => f a
  | .throw x, _ => .throw x
  | .vis e k, f => .vis e fun r => (k r).bind f

instance : Monad (Prog E R ε) where
  pure := .ret
  bind := bind

/-- Perform one effect and return its reply. -/
def perform (e : E) : Prog E R ε (R e) := .vis e .ret

/-- A computation that only returns or throws. -/
def ofExcept : Except ε α → Prog E R ε α
  | .ok a => .ret a
  | .error x => .throw x

instance : MonadLift (Except ε) (Prog E R ε) where
  monadLift := ofExcept

/-- Leave a scope: `c` runs after `p`, whether `p` returned or threw. -/
def cleanup : Prog E R ε α → Prog E R ε Unit → Prog E R ε α
  | .ret a, c => c.bind fun _ => .ret a
  | .throw x, c => c.bind fun _ => .throw x
  | .vis e k, c => .vis e fun r => (k r).cleanup c

/-- A catch block around `p`. -/
def handle : Prog E R ε α → (ε → Prog E R ε α) → Prog E R ε α
  | .ret a, _ => .ret a
  | .throw x, h => h x
  | .vis e k, h => .vis e fun r => (k r).handle h

/-- Forget the result. -/
def void (p : Prog E R ε α) : Prog E R ε Unit := p.bind fun _ => .ret ()

@[simp] theorem pure_eq (a : α) : (pure a : Prog E R ε α) = .ret a := rfl

@[simp] theorem bind_eq (p : Prog E R ε α) (f : α → Prog E R ε β) :
    (p >>= f) = p.bind f := rfl

@[simp] theorem liftM_eq (x : Except ε α) :
    (liftM x : Prog E R ε α) = ofExcept x := rfl

@[simp] theorem monadLift_eq (x : Except ε α) :
    (monadLift x : Prog E R ε α) = ofExcept x := rfl

@[simp] theorem ret_bind (a : α) (f : α → Prog E R ε β) : (ret a).bind f = f a := rfl

@[simp] theorem throw_bind (x : ε) (f : α → Prog E R ε β) :
    (throw x : Prog E R ε α).bind f = .throw x := rfl

@[simp] theorem vis_bind (e : E) (k : R e → Prog E R ε α) (f : α → Prog E R ε β) :
    (vis e k).bind f = .vis e fun r => (k r).bind f := rfl

theorem bind_assoc (p : Prog E R ε α) (f : α → Prog E R ε β) (g : β → Prog E R ε γ) :
    (p.bind f).bind g = p.bind fun a => (f a).bind g := by
  induction p with
  | ret a => rfl
  | throw x => rfl
  | vis e k ih =>
    simp only [vis_bind]
    congr 1
    funext r
    exact ih r

@[simp] theorem bind_ret (p : Prog E R ε α) : p.bind .ret = p := by
  induction p with
  | ret a => rfl
  | throw x => rfl
  | vis e k ih =>
    simp only [vis_bind]
    congr 1
    funext r
    exact ih r

/-! ## Traces -/

/-- One performed effect with the reply it got. -/
abbrev Event (R : E → Type) : Type := (e : E) × R e

/-- `p.Runs tr out`: performing exactly the events `tr`, the program ends with
    the outcome `out`.  The replies in `tr` are arbitrary: quantifying over `tr`
    quantifies over everything the environment may answer. -/
inductive Runs : Prog E R ε α → List (Event R) → Except ε α → Prop where
  | ret (a : α) : Runs (.ret a) [] (.ok a)
  | throw (x : ε) : Runs (.throw x) [] (.error x)
  | vis {e : E} {k : R e → Prog E R ε α} (r : R e) {tr : List (Event R)} {out : Except ε α} :
      Runs (k r) tr out → Runs (.vis e k) (⟨e, r⟩ :: tr) out

/-- A trace determines the outcome. -/
theorem Runs.outcome_unique {p : Prog E R ε α} {tr : List (Event R)} {out out' : Except ε α}
    (h : Runs p tr out) (h' : Runs p tr out') : out = out' := by
  induction h with
  | ret a => cases h'; rfl
  | throw x => cases h'; rfl
  | vis r _ ih =>
    cases h' with
    | vis _ hrest => exact ih hrest

@[simp] theorem runs_ret {a : α} {tr : List (Event R)} {out : Except ε α} :
    Runs (.ret a : Prog E R ε α) tr out ↔ tr = [] ∧ out = .ok a := by
  constructor
  · intro h; cases h; exact ⟨rfl, rfl⟩
  · rintro ⟨rfl, rfl⟩; exact .ret a

@[simp] theorem runs_throw {x : ε} {tr : List (Event R)} {out : Except ε α} :
    Runs (.throw x : Prog E R ε α) tr out ↔ tr = [] ∧ out = .error x := by
  constructor
  · intro h; cases h; exact ⟨rfl, rfl⟩
  · rintro ⟨rfl, rfl⟩; exact .throw x

theorem runs_bind {p : Prog E R ε α} {f : α → Prog E R ε β} {tr : List (Event R)}
    {out : Except ε β} :
    (p.bind f).Runs tr out ↔ (∃ x, p.Runs tr (.error x) ∧ out = .error x) ∨
      ∃ tr₁ tr₂ a, tr = tr₁ ++ tr₂ ∧ p.Runs tr₁ (.ok a) ∧ (f a).Runs tr₂ out := by
  constructor
  · intro h
    induction p generalizing tr with
    | ret a => exact .inr ⟨[], tr, a, rfl, .ret a, h⟩
    | throw x =>
      obtain ⟨rfl, rfl⟩ := runs_throw.mp h
      exact .inl ⟨x, .throw x, rfl⟩
    | vis e k ih =>
      cases h with
      | vis r h =>
        obtain ⟨x, hx, hout⟩ | ⟨tr₁, tr₂, a, rfl, h₁, h₂⟩ := ih r h
        · exact .inl ⟨x, .vis r hx, hout⟩
        · exact .inr ⟨⟨e, r⟩ :: tr₁, tr₂, a, rfl, .vis r h₁, h₂⟩
  · rintro (⟨x, hx, rfl⟩ | ⟨tr₁, tr₂, a, rfl, h₁, h₂⟩)
    · induction p generalizing tr with
      | ret a => cases hx
      | throw y =>
        obtain ⟨htr, hy⟩ := runs_throw.mp hx
        cases hy
        exact runs_throw.mpr ⟨htr, rfl⟩
      | vis e k ih =>
        cases hx with
        | vis r hx => exact .vis r (ih r hx)
    · induction p generalizing tr₁ with
      | ret b =>
        obtain ⟨rfl, hab⟩ := runs_ret.mp h₁
        cases hab
        exact h₂
      | throw y => cases h₁
      | vis e k ih =>
        cases h₁ with
        | vis r h₁ => exact .vis r (ih r _ h₁)

/-- A program runs as before when its value is dropped. -/
theorem runs_void {p : Prog E R ε α} {tr : List (Event R)} {out : Except ε Unit}
    (h : p.void.Runs tr out) : ∃ answer, p.Runs tr answer ∧ out = answer.map fun _ => () := by
  rcases runs_bind.mp h with ⟨x, hx, rfl⟩ | ⟨tr₁, tr₂, a, rfl, ha, hrest⟩
  · exact ⟨.error x, hx, rfl⟩
  · rcases runs_ret.mp hrest with ⟨rfl, rfl⟩
    rw [List.append_nil]
    exact ⟨.ok a, ha, rfl⟩

theorem runs_handle {p : Prog E R ε α} {h : ε → Prog E R ε α} {tr : List (Event R)}
    {out : Except ε α} :
    (p.handle h).Runs tr out ↔ (∃ a, p.Runs tr (.ok a) ∧ out = .ok a) ∨
      ∃ tr₁ tr₂ x, tr = tr₁ ++ tr₂ ∧ p.Runs tr₁ (.error x) ∧ (h x).Runs tr₂ out := by
  constructor
  · intro hruns
    induction p generalizing tr with
    | ret a =>
      obtain ⟨rfl, rfl⟩ := runs_ret.mp hruns
      exact .inl ⟨a, .ret a, rfl⟩
    | throw x => exact .inr ⟨[], tr, x, rfl, .throw x, hruns⟩
    | vis e k ih =>
      cases hruns with
      | vis r hruns =>
        obtain ⟨a, ha, hout⟩ | ⟨tr₁, tr₂, x, rfl, h₁, h₂⟩ := ih r hruns
        · exact .inl ⟨a, .vis r ha, hout⟩
        · exact .inr ⟨⟨e, r⟩ :: tr₁, tr₂, x, rfl, .vis r h₁, h₂⟩
  · rintro (⟨a, ha, rfl⟩ | ⟨tr₁, tr₂, x, rfl, h₁, h₂⟩)
    · induction p generalizing tr with
      | ret b =>
        obtain ⟨rfl, hab⟩ := runs_ret.mp ha
        cases hab
        exact .ret _
      | throw y => cases ha
      | vis e k ih =>
        cases ha with
        | vis r ha => exact .vis r (ih r ha)
    · induction p generalizing tr₁ with
      | ret b => cases h₁
      | throw y =>
        obtain ⟨rfl, hxy⟩ := runs_throw.mp h₁
        cases hxy
        exact h₂
      | vis e k ih =>
        cases h₁ with
        | vis r h₁ => exact .vis r (ih r _ h₁)

/-! ## Partial runs -/

/-- `p.Reaches tr p'`: performing exactly the events `tr`, the program goes on with
    `p'`. -/
inductive Reaches : Prog E R ε α → List (Event R) → Prog E R ε α → Prop where
  | refl (p : Prog E R ε α) : Reaches p [] p
  | vis {e : E} {k : R e → Prog E R ε α} (r : R e) {tr : List (Event R)} {p' : Prog E R ε α} :
      Reaches (k r) tr p' → Reaches (.vis e k) (⟨e, r⟩ :: tr) p'

/-- One more effect. -/
theorem Reaches.snoc {p : Prog E R ε α} {tr : List (Event R)} {e : E} {k : R e → Prog E R ε α}
    (h : p.Reaches tr (.vis e k)) (r : R e) : p.Reaches (tr ++ [⟨e, r⟩]) (k r) := by
  generalize hp' : Prog.vis e k = p' at h
  induction h with
  | refl p =>
    subst hp'
    exact .vis r (.refl _)
  | vis r' _ ih => exact .vis r' (ih hp')

/-- A partial run and a run of what is left. -/
theorem Reaches.runs {p p' : Prog E R ε α} {tr tr' : List (Event R)} {out : Except ε α}
    (h : p.Reaches tr p') (hrest : p'.Runs tr' out) : p.Runs (tr ++ tr') out := by
  induction h with
  | refl => exact hrest
  | vis r _ ih => exact .vis r (ih hrest)

theorem runs_ofExcept (out : Except ε α) : (ofExcept out : Prog E R ε α).Runs [] out := by
  cases out with
  | ok a => exact .ret a
  | error x => exact .throw x

theorem runs_ofExcept_iff {x out : Except ε α} {tr : List (Event R)} :
    (ofExcept x : Prog E R ε α).Runs tr out ↔ tr = [] ∧ out = x := by
  constructor
  · intro h
    cases x with
    | ok a => exact runs_ret.mp h
    | error y => exact runs_throw.mp h
  · rintro ⟨rfl, rfl⟩
    exact runs_ofExcept out

/-- Every partial run is the beginning of a run. -/
theorem Reaches.complete (hreply : ∀ e, Nonempty (R e)) {p p' : Prog E R ε α}
    {tr : List (Event R)} (h : p.Reaches tr p') : ∃ tr' out, p.Runs (tr ++ tr') out := by
  have hrest : ∃ tr' out, p'.Runs tr' out := by
    clear h
    induction p' with
    | ret a => exact ⟨[], _, .ret a⟩
    | throw x => exact ⟨[], _, .throw x⟩
    | vis e k ih =>
      obtain ⟨r⟩ := hreply e
      obtain ⟨tr', out, hruns⟩ := ih r
      exact ⟨_, out, .vis r hruns⟩
  obtain ⟨tr', out, hruns⟩ := hrest
  exact ⟨tr', out, h.runs hruns⟩

/-! ## The effects of a program -/

/-- On every path, every effect of the program satisfies `P`. -/
def Only (P : E → Prop) : Prog E R ε α → Prop
  | .ret _ => True
  | .throw _ => True
  | .vis e k => P e ∧ ∀ r, (k r).Only P

section Only

variable {P : E → Prop}

@[simp] theorem only_ret {a : α} : (ret a : Prog E R ε α).Only P := trivial

@[simp] theorem only_throw {x : ε} : (throw x : Prog E R ε α).Only P := trivial

theorem only_ofExcept {x : Except ε α} : (ofExcept x : Prog E R ε α).Only P := by
  cases x <;> trivial

theorem Only.bind {p : Prog E R ε α} {f : α → Prog E R ε β} (hp : p.Only P)
    (hf : ∀ a, (f a).Only P) : (p.bind f).Only P := by
  induction p with
  | ret a => exact hf a
  | throw x => trivial
  | vis e k ih => exact ⟨hp.1, fun r => ih r (hp.2 r)⟩

theorem Only.cleanup {p : Prog E R ε α} {c : Prog E R ε Unit} (hp : p.Only P) (hc : c.Only P) :
    (p.cleanup c).Only P := by
  induction p with
  | ret a => exact hc.bind fun _ => trivial
  | throw x => exact hc.bind fun _ => trivial
  | vis e k ih => exact ⟨hp.1, fun r => ih r (hp.2 r)⟩

/-- Every event of a run is one of the program's effects. -/
theorem Only.runs {p : Prog E R ε α} (hp : p.Only P) {tr : List (Event R)} {out : Except ε α}
    (h : p.Runs tr out) : ∀ ev ∈ tr, P ev.1 := by
  induction h with
  | ret | throw => exact fun ev hev => absurd hev List.not_mem_nil
  | vis r _ ih =>
    intro ev hev
    rcases List.mem_cons.mp hev with rfl | hmem
    · exact hp.1
    · exact ih (hp.2 r) ev hmem

end Only

/-! ## Running against a handler -/

/-- Run a program against a handler that answers every effect from a state. -/
def exec {σ : Type} (answer : (e : E) → σ → R e × σ) : Prog E R ε α → σ → Except ε α × σ
  | .ret a, s => (.ok a, s)
  | .throw x, s => (.error x, s)
  | .vis e k, s => (k (answer e s).1).exec answer (answer e s).2

@[simp] theorem exec_ret {σ : Type} (answer : (e : E) → σ → R e × σ) (a : α) (s : σ) :
    (ret a : Prog E R ε α).exec answer s = (.ok a, s) := rfl

@[simp] theorem exec_throw {σ : Type} (answer : (e : E) → σ → R e × σ) (x : ε) (s : σ) :
    (throw x : Prog E R ε α).exec answer s = (.error x, s) := rfl

@[simp] theorem exec_vis {σ : Type} (answer : (e : E) → σ → R e × σ) (e : E)
    (k : R e → Prog E R ε α) (s : σ) :
    (vis e k).exec answer s = (k (answer e s).1).exec answer (answer e s).2 := rfl

/-- Every program ends: whatever the handler answers, there is a run. -/
theorem exec_runs {σ : Type} (answer : (e : E) → σ → R e × σ) (p : Prog E R ε α) (s : σ) :
    ∃ tr, p.Runs tr (p.exec answer s).1 := by
  induction p generalizing s with
  | ret a => exact ⟨[], .ret a⟩
  | throw x => exact ⟨[], .throw x⟩
  | vis e k ih =>
    obtain ⟨tr, htr⟩ := ih (answer e s).1 (answer e s).2
    exact ⟨⟨e, (answer e s).1⟩ :: tr, .vis _ htr⟩

end Prog

end Effect
