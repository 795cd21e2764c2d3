import Mathlib.Logic.Function.Basic

/-!
# Owners and what they own

A map `X → Option Y` gives the places `X` pointers to objects `Y`; a place without a
pointer is empty.  An object is owned while some place points to it.  Moving and
copying pointers keeps the set of owned objects, whatever the places, and the drop of
a pointer removes at most its object: so an invariant about what is owned needs no
case for each way in which a pointer can move.
-/

namespace Effect

variable {X Y : Type} {p : X → Option Y} {x x' : X} {y y' : Y}

/-- Some place points to `y`. -/
def Owned (p : X → Option Y) (y : Y) : Prop := ∃ x, p x = some y

/-- No two places point to the same object. -/
def Exclusive (p : X → Option Y) : Prop := ∀ x x' y, p x = some y → p x' = some y → x = x'

variable [DecidableEq X]

/-- The pointer of `x` goes to `x'`. -/
def move (p : X → Option Y) (x x' : X) : X → Option Y :=
  Function.update (Function.update p x' (p x)) x none

/-- The pointer of `x` is dropped. -/
def drop (p : X → Option Y) (x : X) : X → Option Y := Function.update p x none

/-- The pointer of `x` is dropped and `y` keeps an owner. -/
def Shared (p : X → Option Y) (x : X) (y : Y) : Prop := ∃ x', x' ≠ x ∧ p x' = some y

/-! ## Reading a place -/

@[simp] theorem move_source : move p x x' x = none := Function.update_self ..

theorem move_target (hne : x' ≠ x) : move p x x' x' = p x := by
  rw [move, Function.update_of_ne hne, Function.update_self]

theorem move_of_ne {z : X} (hx : z ≠ x) (hx' : z ≠ x') : move p x x' z = p z := by
  rw [move, Function.update_of_ne hx, Function.update_of_ne hx']

@[simp] theorem drop_self : drop p x x = none := Function.update_self ..

theorem drop_of_ne {z : X} (hx : z ≠ x) : drop p x z = p z := Function.update_of_ne hx ..

omit [DecidableEq X] in
theorem not_shared_of_empty (h : ∀ z, z ≠ x → p z = none) : ¬ Shared p x y := by
  rintro ⟨z, hz, hzy⟩
  rw [h z hz] at hzy
  cases hzy

/-! ## What is owned -/

theorem owned_update (hfree : p x = none) :
    Owned (Function.update p x (some y')) y ↔ Owned p y ∨ y = y' := by
  constructor
  · rintro ⟨z, hz⟩
    by_cases hzx : z = x
    · subst hzx
      rw [Function.update_self] at hz
      exact .inr (Option.some.inj hz).symm
    · rw [Function.update_of_ne hzx] at hz
      exact .inl ⟨z, hz⟩
  · rintro (⟨z, hz⟩ | rfl)
    · have hzx : z ≠ x := by
        rintro rfl
        rw [hfree] at hz
        cases hz
      exact ⟨z, by rw [Function.update_of_ne hzx, hz]⟩
    · exact ⟨x, Function.update_self ..⟩

/-- A copy into an empty place. -/
theorem owned_copy (hfree : p x' = none) :
    Owned (Function.update p x' (p x)) y ↔ Owned p y := by
  cases hx : p x with
  | none =>
    rw [← hfree, Function.update_eq_self]
  | some z =>
    rw [owned_update hfree]
    exact or_iff_left_of_imp fun h => h ▸ ⟨x, hx⟩

/-- A place whose object has another owner, or that is empty, can be emptied. -/
theorem owned_drop (h : ∀ z, p x = some z → Shared p x z) : Owned (drop p x) y ↔ Owned p y := by
  constructor
  · rintro ⟨z, hz⟩
    by_cases hzx : z = x
    · subst hzx
      rw [drop_self] at hz
      cases hz
    · rw [drop_of_ne hzx] at hz
      exact ⟨z, hz⟩
  · rintro ⟨z, hz⟩
    by_cases hzx : z = x
    · subst hzx
      obtain ⟨x', hx', hpx'⟩ := h y hz
      exact ⟨x', by rw [drop_of_ne hx', hpx']⟩
    · exact ⟨z, by rw [drop_of_ne hzx, hz]⟩

/-- The last pointer to an object is dropped. -/
theorem owned_drop_last (hx : p x = some y') (hlast : ¬ Shared p x y') :
    Owned (drop p x) y ↔ Owned p y ∧ y ≠ y' := by
  constructor
  · rintro ⟨z, hz⟩
    have hzx : z ≠ x := by
      rintro rfl
      rw [drop_self] at hz
      cases hz
    rw [drop_of_ne hzx] at hz
    refine ⟨⟨z, hz⟩, ?_⟩
    rintro rfl
    exact hlast ⟨z, hzx, hz⟩
  · rintro ⟨⟨z, hz⟩, hne⟩
    have hzx : z ≠ x := by
      rintro rfl
      exact hne (Option.some.inj (hz.symm.trans hx))
    exact ⟨z, by rw [drop_of_ne hzx, hz]⟩

theorem owned_move (hne : x' ≠ x) (hfree : p x' = none) : Owned (move p x x') y ↔ Owned p y := by
  have hcopy : Owned (Function.update p x' (p x)) y ↔ Owned p y := owned_copy hfree
  refine (owned_drop fun z hz => ?_).trans hcopy
  rw [Function.update_of_ne hne.symm] at hz
  exact ⟨x', hne, by rw [Function.update_self, hz]⟩

/-! ## Other owners -/

theorem shared_of_update {z : X} {o : Option Y} (hnew : o = some y → Shared p z y)
    (h : Shared (Function.update p x o) z y) : Shared p z y := by
  obtain ⟨u, hu, huy⟩ := h
  by_cases hux : u = x
  · rw [hux, Function.update_self] at huy
    exact hnew huy
  · rw [Function.update_of_ne hux] at huy
    exact ⟨u, hu, huy⟩

theorem shared_of_drop {z : X} (h : Shared (drop p x) z y) : Shared p z y :=
  shared_of_update (fun hy => by cases hy) h

/-- A pointer that moves away from another place than `z` is no new one beside `z`. -/
theorem shared_of_move {z : X} (hne : x ≠ z) (h : Shared (move p x x') z y) : Shared p z y :=
  shared_of_update (fun hx => ⟨x, hne, hx⟩) (shared_of_drop h)

/-! ## Exclusive owners -/

theorem exclusive_update {o : Option Y} (h : Exclusive p)
    (hnew : ∀ y, o = some y → ¬ Shared p x y) : Exclusive (Function.update p x o) := by
  intro z z' y hz hz'
  by_cases hzx : z = x
  · by_cases hzx' : z' = x
    · rw [hzx, hzx']
    · rw [hzx, Function.update_self] at hz
      rw [Function.update_of_ne hzx'] at hz'
      exact absurd ⟨z', hzx', hz'⟩ (hnew y hz)
  · rw [Function.update_of_ne hzx] at hz
    by_cases hzx' : z' = x
    · rw [hzx', Function.update_self] at hz'
      exact absurd ⟨z, hzx, hz⟩ (hnew y hz')
    · rw [Function.update_of_ne hzx'] at hz'
      exact h z z' y hz hz'

theorem exclusive_drop (h : Exclusive p) : Exclusive (drop p x) :=
  exclusive_update h nofun

theorem exclusive_move (h : Exclusive p) (hne : x' ≠ x) : Exclusive (move p x x') := by
  have hswap : move p x x' = Function.update (drop p x) x' (p x) := by
    rw [move, drop, Function.update_comm hne]
  rw [hswap]
  refine exclusive_update (exclusive_drop h) fun y hy => ?_
  rintro ⟨z, -, hz⟩
  have hzx : z ≠ x := by
    rintro rfl
    rw [drop_self] at hz
    cases hz
  rw [drop_of_ne hzx] at hz
  exact hzx (h z x y hz hy)

/-! ## The objects -/

section Objects

variable {Z : Type} [DecidableEq Y] {objects : Y → Option Z} {z z' : Z}

omit [DecidableEq X] in
/-- What is there once `z` has taken the place of the object `y`. -/
theorem update_some_cases (h : Function.update objects y (some z) y' = some z') :
    y' = y ∧ z' = z ∨ y' ≠ y ∧ objects y' = some z' := by
  by_cases hy : y' = y
  · rw [hy, Function.update_self] at h
    exact .inl ⟨hy, (Option.some.inj h).symm⟩
  · rw [Function.update_of_ne hy] at h
    exact .inr ⟨hy, h⟩

omit [DecidableEq X] in
theorem update_some_eq_none (h : Function.update objects y (some z) y' = none) :
    y' ≠ y ∧ objects y' = none := by
  have hy : y' ≠ y := by
    rintro rfl
    rw [Function.update_self] at h
    cases h
  exact ⟨hy, (Function.update_of_ne hy _ _).symm.trans h⟩

omit [DecidableEq X] in
/-- What is there once the object `y` is gone. -/
theorem update_none_eq_some (h : Function.update objects y none y' = some z) :
    y' ≠ y ∧ objects y' = some z := by
  have hy : y' ≠ y := by
    rintro rfl
    rw [Function.update_self] at h
    cases h
  exact ⟨hy, (Function.update_of_ne hy _ _).symm.trans h⟩

end Objects

end Effect
