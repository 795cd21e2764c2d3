import EasyMcp2221.Error
import EasyMcp2221.Effect.ArrayLoop

/-!
# Gates

A check that either goes on or throws one kind of `Error`.  Arguments pass gates that
complain with `invalidError`, answers of the C library pass gates that complain with
`protocolError`; the rules follow the way the source composes checks.
-/

namespace EasyMcp2221

open Effect

/-- `x` succeeds exactly when `P` holds, and throws the complaint otherwise. -/
inductive Gate {α : Type} (complain : String → Exn) (P : Prop) (x : Except Exn α) : Prop where
  | accept (h : P) (a : α) (hx : x = .ok a)
  | reject (h : ¬ P) (message : String) (hx : x = .error (complain message))

namespace Gate

variable {complain : String → Exn} {α β : Type} {P Q : Prop}

theorem ok (a : α) : Gate complain True (.ok a) := .accept trivial a rfl

theorem congr {x : Except Exn α} (h : Gate complain P x) (hPQ : P ↔ Q) :
    Gate complain Q x := by
  cases h with
  | accept h a hx => exact .accept (hPQ.mp h) a hx
  | reject h message hx => exact .reject (fun hQ => h (hPQ.mpr hQ)) message hx

theorem bind {x : Except Exn α} {k : α → Except Exn β} (hx : Gate complain P x)
    (hk : ∀ a, Gate complain Q (k a)) : Gate complain (P ∧ Q) (x >>= k) := by
  cases hx with
  | accept h a hx =>
    subst hx
    exact (hk a).congr ⟨fun hQ => ⟨h, hQ⟩, And.right⟩
  | reject h message hx =>
    subst hx
    exact .reject (fun hPQ => h hPQ.1) message rfl

/-- The last check of a sequence. -/
theorem map {x : Except Exn α} {k : α → β} (hx : Gate complain P x) :
    Gate complain P (x >>= fun a => .ok (k a)) :=
  (hx.bind fun a => ok (k a)).congr (and_iff_left trivial)

/-- A loop accepts an array exactly when it accepts every entry. -/
theorem arrayM {n : Nat} {R : Fin n → Prop} {f : Fin n → Except Exn α}
    (h : ∀ i, Gate complain (R i) (f i)) : Gate complain (∀ i, R i) (Effect.arrayM n f) := by
  cases hloop : Effect.arrayM n f with
  | ok g =>
    refine .accept (fun i => ?_) g rfl
    cases h i with
    | accept hi => exact hi
    | reject _ message hx =>
      rw [arrayM_eq_ok.mp hloop i] at hx
      cases hx
  | error y =>
    obtain ⟨i, hi, -⟩ := arrayM_eq_error.mp hloop
    cases h i with
    | accept _ a hx =>
      rw [hi] at hx
      cases hx
    | reject hno message hx =>
      rw [hi] at hx
      cases hx
      exact .reject (fun hall => hno (hall i)) message rfl

variable [NativeApi]

theorem rejectIf {c : Prop} [Decidable c] (message : String) :
    Gate invalidError (¬ c) (EasyMcp2221.rejectIf c message) := by
  unfold EasyMcp2221.rejectIf
  by_cases hc : c
  · rw [if_pos hc]
    exact .reject (fun h => h hc) message rfl
  · rw [if_neg hc]
    exact .accept hc () rfl

/-- A translation that throws only outside of the enumeration. -/
theorem ofEnum {γ : Type} [Enumeration γ] {f : CppEnum γ → Except Exn α} {message : String}
    (hnamed : ∀ a, ∃ b, f (.named a) = .ok b)
    (hunnamed : ∀ raw h, f (.unnamed raw h) = throwInvalid message) (x : CppEnum γ) :
    Gate invalidError x.Known (f x) := by
  cases x with
  | named a =>
    obtain ⟨b, hb⟩ := hnamed a
    exact .accept (CppEnum.known_named a) b hb
  | unnamed raw h => exact .reject (CppEnum.not_known_unnamed raw h) message (hunnamed raw h)

end Gate

end EasyMcp2221
