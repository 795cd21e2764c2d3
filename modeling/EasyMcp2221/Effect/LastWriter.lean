import EasyMcp2221.Effect.Refinement

/-!
# Last writers and projections of a run

What a part of the state holds at the end of a run, when every step does to this part
something that depends on the label alone.  Two forms: a part that each step either
replaces or leaves (`Written`, `lastWrite`: the last writer wins), and a part that each
step transforms (`Run.project`: a fold over the labels).
-/

namespace Effect

variable {S L A V T : Type}

/-! ## The last writer -/

/-- What the last of the labels that write wrote. -/
def lastWrite (write : L → Option A) : List L → Option A
  | [] => none
  | l :: ls => (lastWrite write ls).or (write l)

@[simp] theorem lastWrite_nil (write : L → Option A) : lastWrite write [] = none := rfl

@[simp] theorem lastWrite_cons (write : L → Option A) (l : L) (ls : List L) :
    lastWrite write (l :: ls) = (lastWrite write ls).or (write l) := rfl

/-- `new` is what `old` becomes under a write, if there is one; `reads` relates what was
    written to what is then there. -/
structure Written (reads : A → V → Prop) (old new : V) (write : Option A) : Prop where
  kept : write = none → new = old
  written : ∀ a, write = some a → reads a new

theorem Written.refl (reads : A → V → Prop) (v : V) : Written reads v v none :=
  ⟨fun _ => rfl, nofun⟩

/-- A write after another. -/
theorem Written.trans {reads : A → V → Prop} {v v' v'' : V} {write write' : Option A}
    (h : Written reads v v' write) (h' : Written reads v' v'' write') :
    Written reads v v'' (write'.or write) := by
  cases write' with
  | none =>
    rw [h'.kept rfl]
    exact h
  | some a =>
    refine ⟨nofun, fun a' ha' => ?_⟩
    cases ha'
    exact h'.written a rfl

/-- Two histories of the same writes leave the same, if they began with the same or
    anything was written. -/
theorem Written.agree {reads : A → V → Prop} {v v' w w' : V} {write : Option A}
    (hunique : ∀ a x y, reads a x → reads a y → x = y) (h : Written reads v v' write)
    (h' : Written reads w w' write) (hsame : write = none → v = w) : v' = w' := by
  cases write with
  | none => rw [h.kept rfl, h'.kept rfl, hsame rfl]
  | some a => exact hunique a _ _ (h.written a rfl) (h'.written a rfl)

namespace Run

variable {step : S → L → S → Prop}

/-- **The last writer wins.** -/
theorem lastWriter (get : S → V) {write : L → Option A} {reads : A → V → Prop} {s s' : S}
    {ls : List L}
    (hstep : ∀ s l s', l ∈ ls → step s l s' → Written reads (get s) (get s') (write l))
    (hrun : Run step s ls s') : Written reads (get s) (get s') (lastWrite write ls) := by
  induction hrun with
  | nil =>
    rw [lastWrite_nil]
    exact .refl reads _
  | cons hfirst _ ih =>
    rw [lastWrite_cons]
    exact (hstep _ _ _ (.head _) hfirst).trans (ih fun s l s' hl => hstep s l s' (.tail _ hl))

/-! ## Projections -/

/-- A part that every step transforms as its label says is at the end what the labels
    make of it. -/
theorem project (get : S → T) {transform : T → L → T} {s s' : S} {ls : List L}
    (hstep : ∀ s l s', step s l s' → get s' = transform (get s) l) (hrun : Run step s ls s') :
    get s' = ls.foldl transform (get s) := by
  induction hrun with
  | nil => rfl
  | cons hfirst _ ih => rw [ih, hstep _ _ _ hfirst, List.foldl_cons]

/-- For any labels there is a run, if there is always a step. -/
theorem total {Op : Type} (op : L → Op) (hstep : ∀ s o, ∃ l s', op l = o ∧ step s l s')
    (s : S) (os : List Op) : ∃ ls s', ls.map op = os ∧ Run step s ls s' := by
  induction os generalizing s with
  | nil => exact ⟨[], s, rfl, .nil s⟩
  | cons o os ih =>
    obtain ⟨l, s₁, rfl, hfirst⟩ := hstep s o
    obtain ⟨ls, s', rfl, hrest⟩ := ih s₁
    exact ⟨l :: ls, s', rfl, .cons hfirst hrest⟩

end Run

end Effect
