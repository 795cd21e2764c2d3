import EasyMcp2221.Effect.Program
import Mathlib.Data.List.Forall2

/-!
# Simulation of programs

Two programs over the same effects that proceed in step: they perform related
effects, every reply to one is the counterpart of a reply to the other, and they end
in related outcomes.  Each run of either program then has a counterpart
(`Sim.runs`, `Sim.runs_back`), so what a run shows of one holds of the other up to the
two relations.
-/

namespace Effect

namespace Prog

variable {E : Type} {R : E → Type} {ε α β γ δ : Type}

/-- `p` and `p'` proceed in step, with events related by `Rel` and outcomes by `S`.
    The replies correspond through a surjection. -/
inductive Sim (Rel : Event R → Event R → Prop) (S : Except ε α → Except ε β → Prop) :
    Prog E R ε α → Prog E R ε β → Prop where
  | ret {a : α} {b : β} (h : S (.ok a) (.ok b)) : Sim Rel S (.ret a) (.ret b)
  | throw {x y : ε} (h : S (.error x) (.error y)) : Sim Rel S (.throw x) (.throw y)
  | vis {e e' : E} {k : R e → Prog E R ε α} {k' : R e' → Prog E R ε β} (f : R e → R e')
      (hsurjective : Function.Surjective f) (hrel : ∀ r, Rel ⟨e, r⟩ ⟨e', f r⟩)
      (hk : ∀ r, Sim Rel S (k r) (k' (f r))) : Sim Rel S (.vis e k) (.vis e' k')

namespace Sim

variable {Rel : Event R → Event R → Prop} {S : Except ε α → Except ε β → Prop}

/-! ## Rules -/

/-- The same effect on both sides. -/
theorem same {e : E} {k : R e → Prog E R ε α} {k' : R e → Prog E R ε β}
    (hrel : ∀ r, Rel ⟨e, r⟩ ⟨e, r⟩) (hk : ∀ r, Sim Rel S (k r) (k' r)) :
    Sim Rel S (.vis e k) (.vis e k') :=
  .vis id Function.surjective_id hrel hk

theorem refl {T : Except ε α → Except ε α → Prop} (hrel : ∀ ev, Rel ev ev)
    (hout : ∀ out, T out out) (p : Prog E R ε α) : Sim Rel T p p := by
  induction p with
  | ret a => exact .ret (hout _)
  | throw x => exact .throw (hout _)
  | vis e k ih => exact .same (fun r => hrel ⟨e, r⟩) ih

theorem bind {T : Except ε γ → Except ε δ → Prop} {p : Prog E R ε α} {p' : Prog E R ε β}
    {k : α → Prog E R ε γ} {k' : β → Prog E R ε δ} (hp : Sim Rel S p p')
    (hk : ∀ a b, S (.ok a) (.ok b) → Sim Rel T (k a) (k' b))
    (herror : ∀ x y, S (.error x) (.error y) → T (.error x) (.error y)) :
    Sim Rel T (p.bind k) (p'.bind k') := by
  induction hp with
  | ret h => exact hk _ _ h
  | throw h => exact .throw (herror _ _ h)
  | vis f hsurjective hrel _ ih => exact .vis f hsurjective hrel ih

/-- The same computation comes first on both sides. -/
theorem bind_same {T : Except ε γ → Except ε δ → Prop} (hrel : ∀ ev, Rel ev ev)
    (p : Prog E R ε α) {k : α → Prog E R ε γ} {k' : α → Prog E R ε δ}
    (herror : ∀ x, T (.error x) (.error x)) (hk : ∀ a, Sim Rel T (k a) (k' a)) :
    Sim Rel T (p.bind k) (p.bind k') := by
  refine (refl (T := Eq) hrel (fun _ => rfl) p).bind (fun a b h => ?_) fun x y h => ?_
  · cases h
    exact hk a
  · cases h
    exact herror x

/-- The same clean-up, which cannot throw, at the end of both scopes. -/
theorem cleanup {p : Prog E R ε α} {p' : Prog E R ε β} {c : Prog E R ε Unit}
    (hp : Sim Rel S p p') (hc : Sim Rel (fun out out' => out = .ok () ∧ out' = .ok ()) c c) :
    Sim Rel S (p.cleanup c) (p'.cleanup c) := by
  have hno : ∀ x y : ε, (Except.error x : Except ε Unit) = .ok () ∧
      (Except.error y : Except ε Unit) = .ok () → ∀ {P : Prop}, P :=
    fun x y h => nomatch h.1
  induction hp with
  | ret h => exact hc.bind (fun _ _ _ => .ret h) fun x y hxy => hno x y hxy
  | throw h => exact hc.bind (fun _ _ _ => .throw h) fun x y hxy => hno x y hxy
  | vis f hsurjective hrel _ ih => exact .vis f hsurjective hrel ih

/-! ## Runs -/

/-- A run of the first program has a counterpart in the second. -/
theorem runs {p : Prog E R ε α} {p' : Prog E R ε β} (h : Sim Rel S p p')
    {tr : List (Event R)} {out : Except ε α} (hruns : p.Runs tr out) :
    ∃ tr' out', p'.Runs tr' out' ∧ List.Forall₂ Rel tr tr' ∧ S out out' := by
  induction h generalizing tr out with
  | ret h =>
    obtain ⟨rfl, rfl⟩ := runs_ret.mp hruns
    exact ⟨[], _, .ret _, .nil, h⟩
  | throw h =>
    obtain ⟨rfl, rfl⟩ := runs_throw.mp hruns
    exact ⟨[], _, .throw _, .nil, h⟩
  | vis f _ hrel _ ih =>
    cases hruns with
    | vis r hrest =>
      obtain ⟨tr', out', hruns', htr, hout⟩ := ih r hrest
      exact ⟨_, out', .vis (f r) hruns', .cons (hrel r) htr, hout⟩

/-- A run of the second program has a counterpart in the first. -/
theorem runs_back {p : Prog E R ε α} {p' : Prog E R ε β} (h : Sim Rel S p p')
    {tr' : List (Event R)} {out' : Except ε β} (hruns : p'.Runs tr' out') :
    ∃ tr out, p.Runs tr out ∧ List.Forall₂ Rel tr tr' ∧ S out out' := by
  induction h generalizing tr' out' with
  | ret h =>
    obtain ⟨rfl, rfl⟩ := runs_ret.mp hruns
    exact ⟨[], _, .ret _, .nil, h⟩
  | throw h =>
    obtain ⟨rfl, rfl⟩ := runs_throw.mp hruns
    exact ⟨[], _, .throw _, .nil, h⟩
  | vis f hsurjective hrel _ ih =>
    cases hruns with
    | vis r' hrest =>
      obtain ⟨r, rfl⟩ := hsurjective r'
      obtain ⟨tr, out, hruns, htr, hout⟩ := ih r hrest
      exact ⟨_, out, .vis r hruns, .cons (hrel r) htr, hout⟩

end Sim

end Prog

end Effect
