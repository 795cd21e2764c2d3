import Mathlib.Logic.Basic

/-!
# Labelled runs and refinement

A system is a step relation with labels: the label tells what was asked for, what the
environment did and what was observed.  One system refines another when each of its
steps can be followed with the same label; then each of its runs can (`Run.refines`).
-/

namespace Effect

variable {S S' L : Type}

/-- A run with the labels of its steps. -/
inductive Run (step : S → L → S → Prop) : S → List L → S → Prop where
  | nil (s : S) : Run step s [] s
  | cons {s s₁ s₂ : S} {l : L} {ls : List L} (hstep : step s l s₁) (hrest : Run step s₁ ls s₂) :
      Run step s (l :: ls) s₂

namespace Run

variable {step : S → L → S → Prop} {step' : S' → L → S' → Prop}

/-- **Forward simulation**: if every step can be followed, so can every run. -/
theorem refines {Rel : S → S' → Prop}
    (hsimulate : ∀ s s' l s₁, Rel s s' → step s l s₁ → ∃ s₁', step' s' l s₁' ∧ Rel s₁ s₁')
    {s s₁ : S} {s' : S'} {ls : List L} (hs : Rel s s') (hrun : Run step s ls s₁) :
    ∃ s₁', Run step' s' ls s₁' ∧ Rel s₁ s₁' := by
  induction hrun generalizing s' with
  | nil => exact ⟨s', .nil s', hs⟩
  | cons hstep _ ih =>
    obtain ⟨s₁', hstep', hs₁⟩ := hsimulate _ _ _ _ hs hstep
    obtain ⟨s₂', hrun', hs₂⟩ := ih hs₁
    exact ⟨s₂', .cons hstep' hrun', hs₂⟩

/-- Forward simulation by steps with labels of their own, for the labels of one run. -/
theorem simulate {L' : Type} {step' : S' → L' → S' → Prop} (label : L → L') {Rel : S → S' → Prop}
    {s s₁ : S} {s' : S'} {ls : List L}
    (hsimulate : ∀ s s' l s₁, l ∈ ls → Rel s s' → step s l s₁ →
      ∃ s₁', step' s' (label l) s₁' ∧ Rel s₁ s₁')
    (hs : Rel s s') (hrun : Run step s ls s₁) :
    ∃ s₁', Run step' s' (ls.map label) s₁' ∧ Rel s₁ s₁' := by
  induction hrun generalizing s' with
  | nil => exact ⟨s', .nil s', hs⟩
  | cons hstep _ ih =>
    rcases hsimulate _ _ _ _ (.head _) hs hstep with ⟨s₁', hstep', hs₁⟩
    rcases ih (fun s s' l s₁ hl => hsimulate s s' l s₁ (.tail _ hl)) hs₁ with ⟨s₂', hrun', hs₂⟩
    exact ⟨s₂', .cons hstep' hrun', hs₂⟩

/-- A run with a step after it. -/
theorem snoc {s s₁ s₂ : S} {l : L} {ls : List L} (hrun : Run step s ls s₁) (hstep : step s₁ l s₂) :
    Run step s (ls ++ [l]) s₂ := by
  induction hrun with
  | nil => exact .cons hstep (.nil _)
  | cons hfirst _ ih => exact .cons hfirst (ih hstep)

/-- Two runs, one after the other. -/
theorem append {s s₁ s₂ : S} {ls ls' : List L} (hrun : Run step s ls s₁)
    (hrest : Run step s₁ ls' s₂) : Run step s (ls ++ ls') s₂ := by
  induction hrun with
  | nil => exact hrest
  | cons hfirst _ ih => exact .cons hfirst (ih hrest)

/-- A run stops over wherever its labels are cut. -/
theorem split {s s' : S} {ls ls' : List L} (hrun : Run step s (ls ++ ls') s') :
    ∃ s₁, Run step s ls s₁ ∧ Run step s₁ ls' s' := by
  induction ls generalizing s with
  | nil => exact ⟨s, .nil s, hrun⟩
  | cons l ls ih =>
    rcases hrun with _ | ⟨hfirst, hrest⟩
    rcases ih hrest with ⟨s₁, hbefore, hafter⟩
    exact ⟨s₁, .cons hfirst hbefore, hafter⟩

/-- A run of blocks, each of which is a step of its own. -/
theorem flatMap {A L' : Type} {step₁ : S → L' → S → Prop} {block : A → List L} {label : A → L'}
    (hblock : ∀ x s s', Run step s (block x) s' → step₁ s (label x) s') {s s' : S} {xs : List A}
    (hrun : Run step s (xs.flatMap block) s') : Run step₁ s (xs.map label) s' := by
  induction xs generalizing s with
  | nil =>
    cases hrun
    exact .nil _
  | cons x xs ih =>
    rw [List.flatMap_cons] at hrun
    rcases hrun.split with ⟨s₁, hfirst, hrest⟩
    exact .cons (hblock x s s₁ hfirst) (ih hrest)

/-- A run of the steps that count. -/
theorem filter {step₁ : S → L → S → Prop} (counts : L → Bool)
    (hcounts : ∀ s l s', counts l = true → step s l s' → step₁ s l s')
    (hidle : ∀ s l s', counts l = false → step s l s' → s' = s)
    {s s' : S} {ls : List L} (hrun : Run step s ls s') : Run step₁ s (ls.filter counts) s' := by
  induction hrun with
  | nil => exact .nil _
  | @cons s s₁ s₂ l ls hstep _ ih =>
    cases hl : counts l with
    | true =>
      rw [List.filter_cons_of_pos hl]
      exact .cons (hcounts s l s₁ hl hstep) ih
    | false =>
      rw [List.filter_cons_of_neg (by simp [hl]), ← hidle s l s₁ hl hstep]
      exact ih

/-- Steps that change nothing can be left out of a run. -/
theorem erase (idle : L → Bool) (hidle : ∀ s l s', idle l = true → step s l s' → s' = s)
    {s s' : S} {ls : List L} (hrun : Run step s ls s') :
    Run step s (ls.filter fun l => !idle l) s' :=
  hrun.filter _ (fun _ _ _ _ hstep => hstep) fun s l s' hl => hidle s l s' (by simpa using hl)

end Run

end Effect
