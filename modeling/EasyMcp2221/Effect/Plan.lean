import EasyMcp2221.Effect.Program

/-!
# Plans

A plan is a list of effects to be performed in order, each of which may fail.  A run
follows its plan when it performs the steps one after the other, stops at the first
one that fails, and ends with what that step throws.
-/

namespace Effect

open Prog

variable {E : Type} {R : E → Type} {ε : Type}

/-- `Follows failure plan tr out`: the trace `tr` performs `plan` up to its first failing
    step, where `failure` says whether an answered step failed, and with what. -/
inductive Follows (failure : Event R → Option ε) :
    List E → List (Event R) → Except ε Unit → Prop where
  | done : Follows failure [] [] (.ok ())
  | failed {ev : Event R} {x : ε} (rest : List E) (h : failure ev = some x) :
      Follows failure (ev.1 :: rest) [ev] (.error x)
  | passed {ev : Event R} {rest : List E} {tr : List (Event R)} {out : Except ε Unit}
      (h : failure ev = none) (hrest : Follows failure rest tr out) :
      Follows failure (ev.1 :: rest) (ev :: tr) out

namespace Follows

variable {failure : Event R → Option ε} {plan : List E} {tr : List (Event R)}
  {out : Except ε Unit}

/-- Nothing is performed but a beginning of the plan. -/
theorem performed (h : Follows failure plan tr out) : tr.map Sigma.fst <+: plan := by
  induction h with
  | done => exact List.prefix_refl _
  | failed => exact ⟨_, rfl⟩
  | passed _ _ ih => exact List.cons_prefix_cons.mpr ⟨rfl, ih⟩

/-- The run succeeds exactly when no step of the trace failed. -/
theorem ok_iff (h : Follows failure plan tr out) :
    out = .ok () ↔ ∀ ev ∈ tr, failure ev = none := by
  induction h with
  | done => simp
  | failed rest h => simp [h]
  | passed h _ ih => simp [ih, h]

/-- A run that succeeds performs the whole plan. -/
theorem whole (h : Follows failure plan tr out) (hok : out = .ok ()) :
    tr.map Sigma.fst = plan := by
  induction h with
  | done => rfl
  | failed => cases hok
  | passed _ _ ih => exact congrArg _ (ih hok)

/-- A run that fails ends with its only failing step, and throws what that step throws. -/
theorem last_of_error (h : Follows failure plan tr out) {x : ε} (herror : out = .error x) :
    ∃ before ev, tr = before ++ [ev] ∧ (∀ e ∈ before, failure e = none) ∧
      failure ev = some x := by
  induction h with
  | done => cases herror
  | @failed ev y rest h =>
    cases herror
    exact ⟨[], ev, rfl, fun e he => absurd he List.not_mem_nil, h⟩
  | @passed ev rest tr out h _ ih =>
    obtain ⟨before, last, rfl, hbefore, hlast⟩ := ih herror
    refine ⟨ev :: before, last, rfl, fun e he => ?_, hlast⟩
    rcases List.mem_cons.mp he with rfl | he
    · exact h
    · exact hbefore e he

end Follows

/-! ## Plans under way -/

/-- The steps of `tr` have passed, and `rest` is what the plan still holds. -/
structure Underway (failure : Event R → Option ε) (plan rest : List E) (tr : List (Event R)) :
    Prop where
  split : plan = tr.map Sigma.fst ++ rest
  passed : ∀ ev ∈ tr, failure ev = none

namespace Underway

variable {failure : Event R → Option ε} {plan rest : List E} {tr : List (Event R)}
  {ev : Event R}

theorem start (plan : List E) : Underway failure plan plan [] :=
  ⟨rfl, fun _ h => absurd h List.not_mem_nil⟩

/-- The next step passes. -/
theorem step (h : Underway failure plan (ev.1 :: rest) tr) (hev : failure ev = none) :
    Underway failure plan rest (tr ++ [ev]) := by
  refine ⟨by simp [h.split], fun e he => ?_⟩
  rcases List.mem_append.mp he with he | he
  · exact h.passed e he
  · rw [List.mem_singleton.mp he]
    exact hev

/-- Steps that have passed lead to whatever the rest of the plan leads to. -/
theorem follows (h : Underway failure plan rest tr) {tr' : List (Event R)}
    {out : Except ε Unit} (hrest : Follows failure rest tr' out) :
    Follows failure plan (tr ++ tr') out := by
  obtain ⟨rfl, hpassed⟩ := h
  induction tr with
  | nil => exact hrest
  | cons e tr ih =>
    exact .passed (hpassed e List.mem_cons_self)
      (ih fun ev hev => hpassed ev (List.mem_cons_of_mem e hev))

/-- The plan is through. -/
theorem done (h : Underway failure plan [] tr) : Follows failure plan tr (.ok ()) :=
  List.append_nil tr ▸ h.follows .done

/-- The next step fails. -/
theorem fail (h : Underway failure plan (ev.1 :: rest) tr) {x : ε} (hev : failure ev = some x) :
    Follows failure plan (tr ++ [ev]) (.error x) :=
  h.follows (.failed rest hev)

end Underway

end Effect
