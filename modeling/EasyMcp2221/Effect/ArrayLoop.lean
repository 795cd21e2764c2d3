import Mathlib.Data.Fin.Tuple.Basic

/-!
# Counted loops that may throw

`for (i = 0; i < n; ++i) out[i] = f(i)` where `f` may throw: the entries are
computed in index order and the first exception ends the loop.  Arrays of a fixed
length are functions on `Fin n`, so an index outside the array cannot be written.
-/

namespace Effect

variable {ε α β : Type}

theorem bind_eq_ok {x : Except ε α} {f : α → Except ε β} {b : β} :
    (x >>= f) = .ok b ↔ ∃ a, x = .ok a ∧ f a = .ok b := by
  cases x with
  | ok a => exact ⟨fun h => ⟨a, rfl, h⟩, fun ⟨_, ha, h⟩ => by cases ha; exact h⟩
  | error y => exact ⟨nofun, fun ⟨_, ha, _⟩ => nomatch ha⟩

/-- The loop over the `n` entries of an array. -/
def arrayM : (n : Nat) → (Fin n → Except ε β) → Except ε (Fin n → β)
  | 0, _ => .ok Fin.elim0
  | n + 1, f =>
    match f 0 with
    | .error x => .error x
    | .ok b =>
      match arrayM n fun i => f i.succ with
      | .error x => .error x
      | .ok rest => .ok (Fin.cons b rest)

/-- The loop returns exactly when every entry does, with those entries. -/
theorem arrayM_eq_ok {n : Nat} {f : Fin n → Except ε β} {g : Fin n → β} :
    arrayM n f = .ok g ↔ ∀ i, f i = .ok (g i) := by
  induction n with
  | zero =>
    refine ⟨fun _ i => i.elim0, fun _ => ?_⟩
    simp only [arrayM]
    exact congrArg _ (funext fun i => i.elim0)
  | succ n ih =>
    have hcons : ∀ b rest, (Fin.cons b rest : Fin (n + 1) → β) = g ↔
        b = g 0 ∧ rest = fun i => g i.succ := by
      intro b rest
      constructor
      · rintro rfl
        exact ⟨rfl, rfl⟩
      · rintro ⟨rfl, rfl⟩
        exact Fin.cons_self_tail g
    rw [Fin.forall_fin_succ]
    simp only [arrayM]
    cases h0 : f 0 with
    | error x => simp
    | ok b =>
      cases hrest : arrayM n fun i => f i.succ with
      | error x =>
        have hno : ¬ ∀ i : Fin n, f i.succ = .ok (g i.succ) := by
          intro hall
          rw [ih.mpr hall] at hrest
          cases hrest
        simp [hno]
      | ok rest =>
        have hall := ih.mp hrest
        simp only [Except.ok.injEq, hcons]
        refine and_congr_right fun _ => ?_
        constructor
        · rintro rfl i
          exact hall i
        · intro h
          funext i
          exact Except.ok.inj ((hall i).symm.trans (h i))

/-- The loop throws exactly when some entry does, with the first such exception. -/
theorem arrayM_eq_error {n : Nat} {f : Fin n → Except ε β} {x : ε} :
    arrayM n f = .error x ↔ ∃ i, f i = .error x ∧ ∀ j < i, ∃ b, f j = .ok b := by
  induction n with
  | zero => simp [arrayM]
  | succ n ih =>
    simp only [arrayM]
    cases h0 : f 0 with
    | error y =>
      constructor
      · intro h
        cases h
        exact ⟨0, h0, fun j hj => absurd hj (Fin.not_lt_zero j)⟩
      · rintro ⟨i, hi, hbefore⟩
        rcases Fin.eq_zero_or_eq_succ i with rfl | ⟨i, rfl⟩
        · rw [h0] at hi
          cases hi
          rfl
        · obtain ⟨b, hb⟩ := hbefore 0 (Fin.succ_pos i)
          rw [h0] at hb
          cases hb
    | ok b =>
      have hsucc : (∃ i : Fin (n + 1), f i = .error x ∧ ∀ j < i, ∃ b, f j = .ok b) ↔
          ∃ i : Fin n, f i.succ = .error x ∧ ∀ j < i, ∃ b, f j.succ = .ok b := by
        constructor
        · rintro ⟨i, hi, hbefore⟩
          rcases Fin.eq_zero_or_eq_succ i with rfl | ⟨i, rfl⟩
          · rw [h0] at hi
            cases hi
          · exact ⟨i, hi, fun j hj => hbefore j.succ (Fin.succ_lt_succ_iff.mpr hj)⟩
        · rintro ⟨i, hi, hbefore⟩
          refine ⟨i.succ, hi, fun j hj => ?_⟩
          rcases Fin.eq_zero_or_eq_succ j with rfl | ⟨j, rfl⟩
          · exact ⟨b, h0⟩
          · exact hbefore j (Fin.succ_lt_succ_iff.mp hj)
      rw [hsucc, ← ih]
      cases arrayM n fun i => f i.succ <;> simp

end Effect
