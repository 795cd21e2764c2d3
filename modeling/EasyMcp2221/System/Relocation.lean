import EasyMcp2221.System.ChildSteps

/-!
# Moving, copying, closing and destroying wrapper objects

All of these operations begin with one step on the smart pointers.  `Relocates` says
what such a step may do, whatever the operation and the type of the pointers: the same
objects are owned, a wrapper object gets its pointer from one of the same class, and
the pointer that is to be dropped comes from an object of the class that is dropped.
-/

namespace EasyMcp2221

open Effect

variable {T : Type} [DecidableEq T]

/-- What the first step of the operation `op`, resolved as `x`, does to the pointers of
    one type, and to the classes of the wrapper objects. -/
structure Relocates {X : Type} (t : T) (op : Op) (x : PublicOp)
    (wrappers wrappers' : Var → Option WrapperKind) (p p' : Place T X → Option Addr) : Prop where
  member : ∀ y, p' (.member y) = p (.member y)
  temp : ∀ t', t' ≠ t → p' (.temp t') = p (.temp t')
  wrapper : ∀ v, v ∉ op.writes → p' (.wrapper v) = p (.wrapper v)
  owned : ∀ a, Owned p' a ↔ Owned p a
  /-- A wrapper object points to what one of its class pointed to. -/
  same : ∀ v a, p' (.wrapper v) = some a → ∃ u, p (.wrapper u) = some a ∧ wrappers' v = wrappers u
  /-- The pointer to be dropped comes from a wrapper object of the class dropped. -/
  dropped : ∀ a, p' (.temp t) = some a →
    ∃ u kind, p (.wrapper u) = some a ∧ wrappers u = some kind ∧ x.dropping = kind.dropping

section Pointers

variable {X : Type} [DecidableEq X] {t : T} {op : Op} {x : PublicOp}
  {wrappers wrappers' : Var → Option WrapperKind} {p : Place T X → Option Addr} {v src dst : Var}

omit [DecidableEq T] [DecidableEq X] in
theorem wrapper_ne {u w : Var} {writes : List Var} (hu : u ∉ writes) (hw : w ∈ writes) :
    (.wrapper u : Place T X) ≠ .wrapper w := by
  rintro ⟨⟩
  exact hu hw

/-- The pointer of `v` moves to the local pointer. -/
theorem Relocates.take (htemp : p (.temp t) = none) (hwrites : v ∈ op.writes) {kind : WrapperKind}
    (hkind : wrappers v = some kind) (hdropping : x.dropping = kind.dropping)
    (hothers : ∀ u, u ≠ v → wrappers' u = wrappers u) :
    Relocates t op x wrappers wrappers' p (move p (.wrapper v) (.temp t)) where
  member y := move_of_ne (by simp) (by simp)
  temp t' hne := move_of_ne (by simp) (by simpa using hne)
  wrapper u hu := move_of_ne (wrapper_ne hu hwrites) (by simp)
  owned a := owned_move (by simp) htemp
  same u a hu := by
    have hne : u ≠ v := by
      rintro rfl
      rw [move_source] at hu
      cases hu
    exact ⟨u, (move_of_ne (by simpa using hne) (by simp)).symm.trans hu, hothers u hne⟩
  dropped a ha := ⟨v, kind, (move_target (by simp)).symm.trans ha, hkind, hdropping⟩

theorem Relocates.moveConstruct (htemp : p (.temp t) = none) (hdst : p (.wrapper dst) = none)
    (hne : src ≠ dst) (hwrites : src ∈ op.writes ∧ dst ∈ op.writes) :
    Relocates t op x wrappers (Function.update wrappers dst (wrappers src)) p
      (move p (.wrapper src) (.wrapper dst)) where
  member y := move_of_ne (by simp) (by simp)
  temp t' _ := move_of_ne (by simp) (by simp)
  wrapper u hu := move_of_ne (wrapper_ne hu hwrites.1)
    (wrapper_ne hu hwrites.2)
  owned a := owned_move (by simpa using hne.symm) hdst
  same u a hu := by
    by_cases hud : u = dst
    · subst hud
      exact ⟨src, (move_target (by simpa using hne.symm)).symm.trans hu, Function.update_self ..⟩
    · have hus : u ≠ src := by
        rintro rfl
        rw [move_source] at hu
        cases hu
      exact ⟨u, (move_of_ne (by simpa using hus) (by simpa using hud)).symm.trans hu,
        Function.update_of_ne hud _ _⟩
  dropped a ha := by
    rw [move_of_ne (by simp) (by simp), htemp] at ha
    cases ha

theorem Relocates.copyConstruct (htemp : p (.temp t) = none) (hdst : p (.wrapper dst) = none)
    (hwrites : dst ∈ op.writes) :
    Relocates t op x wrappers (Function.update wrappers dst (wrappers src)) p
      (Function.update p (.wrapper dst) (p (.wrapper src))) where
  member y := Function.update_of_ne (by simp) _ _
  temp t' _ := Function.update_of_ne (by simp) _ _
  wrapper u hu := Function.update_of_ne (wrapper_ne hu hwrites) _ _
  owned a := owned_copy hdst
  same u a hu := by
    by_cases hud : u = dst
    · subst hud
      rw [Function.update_self] at hu
      exact ⟨src, hu, Function.update_self ..⟩
    · exact ⟨u, (Function.update_of_ne (by simpa using hud) _ _).symm.trans hu,
        Function.update_of_ne hud _ _⟩
  dropped a ha := by
    rw [Function.update_of_ne (by simp), htemp] at ha
    cases ha

omit [DecidableEq T] [DecidableEq X] in
/-- An assignment to itself changes nothing. -/
theorem Relocates.refl (htemp : p (.temp t) = none) :
    Relocates t op x wrappers wrappers p p where
  member _ := rfl
  temp _ _ := rfl
  wrapper _ _ := rfl
  owned _ := Iff.rfl
  same u _ hu := ⟨u, hu, rfl⟩
  dropped a ha := by
    rw [htemp] at ha
    cases ha

theorem Relocates.moveAssign (htemp : p (.temp t) = none) (hne : src ≠ dst)
    (hwrites : src ∈ op.writes ∧ dst ∈ op.writes) {kind : WrapperKind}
    (hsrc : wrappers src = some kind) (hkind : wrappers dst = some kind)
    (hdropping : x.dropping = kind.dropping) :
    Relocates t op x wrappers wrappers p
      (move (move p (.wrapper dst) (.temp t)) (.wrapper src) (.wrapper dst)) := by
  have htake : Relocates t op x wrappers wrappers p (move p (.wrapper dst) (.temp t)) :=
    .take htemp hwrites.2 hkind hdropping fun _ _ => rfl
  have htemp' : move p (.wrapper dst) (.temp t) (.temp t) = p (.wrapper dst) :=
    move_target (by simp)
  refine
    { member := fun y => (move_of_ne (by simp) (by simp)).trans (htake.member y)
      temp := fun t' hne => (move_of_ne (by simp) (by simp)).trans (htake.temp t' hne)
      wrapper := fun u hu => (move_of_ne (wrapper_ne hu hwrites.1)
        (wrapper_ne hu hwrites.2)).trans (htake.wrapper u hu)
      owned := fun a => (owned_move (by simpa using hne.symm) move_source).trans (htake.owned a)
      same := fun u a hu => ?_
      dropped := fun a ha => ?_ }
  · by_cases hud : u = dst
    · subst hud
      rw [move_target (by simpa using hne.symm), move_of_ne (by simpa using hne) (by simp)] at hu
      exact ⟨src, hu, hkind.trans hsrc.symm⟩
    · have hus : u ≠ src := by
        rintro rfl
        rw [move_source] at hu
        cases hu
      rw [move_of_ne (by simpa using hus) (by simpa using hud)] at hu
      exact htake.same u a hu
  · rw [move_of_ne (by simp) (by simp)] at ha
    exact htake.dropped a ha

theorem Relocates.copyAssign (htemp : p (.temp t) = none) (hwrites : dst ∈ op.writes)
    {kind : WrapperKind} (hsrc : wrappers src = some kind) (hkind : wrappers dst = some kind)
    (hdropping : x.dropping = kind.dropping) :
    Relocates t op x wrappers wrappers p
      (Function.update (Function.update p (.temp t) (p (.wrapper dst))) (.wrapper dst)
        (p (.wrapper src))) := by
  have hkeep : ∀ z, z ≠ .temp t → z ≠ .wrapper dst →
      Function.update (Function.update p (.temp t) (p (.wrapper dst))) (.wrapper dst)
        (p (.wrapper src)) z = p z := fun z hz hz' => by
    rw [Function.update_of_ne hz', Function.update_of_ne hz]
  have hdst : Function.update (Function.update p (.temp t) (p (.wrapper dst))) (.wrapper dst)
      (p (.wrapper src)) (.wrapper dst) = p (.wrapper src) := Function.update_self ..
  have htemp' : Function.update (Function.update p (.temp t) (p (.wrapper dst))) (.wrapper dst)
      (p (.wrapper src)) (.temp t) = p (.wrapper dst) := by
    rw [Function.update_of_ne (by simp), Function.update_self]
  refine
    { member := fun y => hkeep _ (by simp) (by simp)
      temp := fun t' hne => hkeep _ (by simpa using hne) (by simp)
      wrapper := fun u hu => hkeep _ (by simp) (wrapper_ne hu hwrites)
      owned := fun a => ?_
      same := fun u a hu => ?_
      dropped := fun a ha => ⟨dst, kind, htemp'.symm.trans ha, hkind, hdropping⟩ }
  · by_cases hne : src = dst
    · -- the local pointer is a copy of the pointer that stays
      subst hne
      have hself : Function.update (Function.update p (.temp t) (p (.wrapper src))) (.wrapper src)
          (p (.wrapper src)) = Function.update p (.temp t) (p (.wrapper src)) := by
        rw [Function.update_eq_self_iff, Function.update_of_ne (by simp)]
      rw [hself]
      exact owned_copy htemp
    · have hcopy : Function.update (Function.update p (.temp t) (p (.wrapper dst))) (.wrapper dst)
          (p (.wrapper src)) = Function.update (move p (.wrapper dst) (.temp t)) (.wrapper dst)
            (move p (.wrapper dst) (.temp t) (.wrapper src)) := by
        rw [move_of_ne (by simpa using hne) (by simp), move, Function.update_idem]
      rw [hcopy, owned_copy move_source]
      exact owned_move (by simp) htemp
  · by_cases hud : u = dst
    · subst hud
      exact ⟨src, hdst.symm.trans hu, hkind.trans hsrc.symm⟩
    · exact ⟨u, (hkeep _ (by simp) (by simpa using hud)).symm.trans hu, rfl⟩

/-- The local pointer of no thread is copied. -/
theorem shared_of_relocate (o : Own) {t' : T} {a : Addr}
    (h : Shared (relocate o t p) (.temp t') a) : Shared p (.temp t') a := by
  have hwrapper : ∀ w, (.wrapper w : Place T X) ≠ .temp t' := fun w => by simp
  cases o with
  | reset w | destroy w | moveConstruct w => exact shared_of_move (hwrapper w) h
  | copyConstruct src => exact shared_of_update (fun h => ⟨_, hwrapper src, h⟩) h
  | moveAssign src dst =>
    rw [relocate] at h
    split at h
    · exact h
    · exact shared_of_move (hwrapper dst) (shared_of_move (hwrapper src) h)
  | copyAssign src dst =>
    have hold : Shared (Function.update p (.temp t) (p (.wrapper dst))) (.temp t') a →
        Shared p (.temp t') a := shared_of_update fun h => ⟨_, hwrapper dst, h⟩
    refine hold (shared_of_update (fun h => ⟨_, hwrapper src, ?_⟩) h)
    rw [Function.update_of_ne (by simp), h]
  | _ => exact h

end Pointers

/-- **Every operation on wrapper objects only relocates pointers.** -/
theorem relocates {X : Type} [DecidableEq X] {s : Store T} {t : T} {op : Op} {o : Own}
    {p : Place T X → Option Addr} (hop : op.relocation = some o) (htyped : op.Typed s)
    (htemp : p (.temp t) = none) (hempty : ∀ w, s.wrappers w = none → p (.wrapper w) = none) :
    Relocates t op (op.resolve s) s.wrappers (retype o s.wrappers) p (relocate o t p) := by
  have hkindOf : ∀ v, s.wrappers v ≠ none → s.wrappers v = some (s.kindOf v) := by
    intro v hv
    obtain ⟨kind, hkind⟩ := Option.ne_none_iff_exists'.mp hv
    rw [Store.kindOf, hkind, Option.getD_some]
  cases op with
  | close v =>
    cases hop
    exact .take htemp (List.mem_singleton_self v) htyped rfl fun _ _ => rfl
  | destroy v =>
    cases hop
    exact .take htemp (List.mem_singleton_self v) (hkindOf v htyped) rfl
      fun u hu => Function.update_of_ne hu _ _
  | moveConstruct src dst =>
    cases hop
    obtain ⟨hsrc, hdst⟩ := htyped
    exact .moveConstruct htemp (hempty dst hdst) (fun heq => hsrc (heq ▸ hdst))
      ⟨by simp [Op.writes], by simp [Op.writes]⟩
  | copyConstruct src dst =>
    cases hop
    exact .copyConstruct htemp (hempty dst htyped.2) (List.mem_singleton_self dst)
  | moveAssign src dst =>
    cases hop
    obtain ⟨hsrc, hsame⟩ := htyped
    have hdst := hkindOf dst (hsame ▸ hsrc)
    have hrelocate : relocate (.moveAssign src dst) t p = if src = dst then p else
        move (move p (.wrapper dst) (.temp t)) (.wrapper src) (.wrapper dst) := rfl
    rw [hrelocate]
    by_cases hne : src = dst
    · rw [if_pos hne]
      exact .refl htemp
    · rw [if_neg hne]
      exact .moveAssign htemp hne ⟨by simp [Op.writes], by simp [Op.writes]⟩
        (hsame ▸ hdst) hdst rfl
  | copyAssign src dst =>
    cases hop
    obtain ⟨hsrc, hsame⟩ := htyped
    have hdst := hkindOf dst (by obtain h | h := hsrc <;> simp [hsame, h])
    exact .copyAssign htemp (List.mem_singleton_self dst) (hsame ▸ hdst) hdst rfl
  | _ => cases hop

theorem retype_of_not_mem {wrappers : Var → Option WrapperKind} {op : Op} {o : Own}
    (hop : op.relocation = some o) {v : Var} (hv : v ∉ op.writes) :
    retype o wrappers v = wrappers v := by
  cases op <;> cases hop <;> simp only [Op.writes, List.mem_cons, List.not_mem_nil, or_false,
    not_or] at hv <;> first | rfl | exact Function.update_of_ne hv _ _ |
    exact Function.update_of_ne hv.2 _ _

variable [NativeApi] {t : T} {op : Op} {s : Store T} {x : PublicOp}

omit [DecidableEq T] [NativeApi] in
/-- What follows is one of the drops, or nothing. -/
theorem Op.dropping_cases {o : Own} (hop : op.relocation = some o) :
    op.sheds = true ∧ ((op.resolve s).dropping = .droppingDevice ∨
        (op.resolve s).dropping = .droppingChild) ∨
      (op.resolve s).dropping = .done ∧ ∀ s' : Store T, op.resolve s' = op.resolve s := by
  have hkind : ∀ kind : WrapperKind, kind.dropping = .droppingDevice ∨
      kind.dropping = .droppingChild := fun kind => by cases kind <;> simp [WrapperKind.dropping]
  cases op with
  | close => exact .inl ⟨rfl, .inl rfl⟩
  | destroy | moveAssign | copyAssign => exact .inl ⟨rfl, hkind _⟩
  | moveConstruct | copyConstruct => exact .inr ⟨rfl, fun _ => rfl⟩
  | _ => cases hop

omit [DecidableEq T] [NativeApi] in
theorem Op.target_of_relocation {o : Own} (hop : op.relocation = some o) :
    (op.resolve s).target = none := by
  cases op <;> first | rfl | cases hop

omit [DecidableEq T] [NativeApi] in
theorem Op.dropping_rests {o : Own} (hop : op.relocation = some o) :
    (op.resolve s).dropping.dying = none ∧ (op.resolve s).dropping.early = false := by
  obtain ⟨-, hq | hq⟩ | ⟨hq, -⟩ := op.dropping_cases (s := s) hop <;>
    rw [hq] <;> exact ⟨rfl, rfl⟩

section Dropped

variable {wrappers wrappers' : Var → Option WrapperKind} {dev dev' : Place T Addr → Option Addr}
  {child child' : Place T Empty → Option Addr} {children : Addr → Option (Child T)}

omit [DecidableEq T] in
theorem WrappersOk.relocate (h : WrappersOk wrappers dev child children)
    (hd : Relocates t op x wrappers wrappers' dev dev')
    (hc : Relocates t op x wrappers wrappers' child child') :
    WrappersOk wrappers' dev' child' children := by
  refine ⟨fun v a ha => ?_, fun v a ha => ?_⟩
  · obtain ⟨u, hu, hsame⟩ := hd.same v a ha
    exact hsame.trans (h.device u a hu)
  · obtain ⟨u, hu, hsame⟩ := hc.same v a ha
    obtain ⟨c, hc, hkind, hbound⟩ := h.child u a hu
    exact ⟨c, hc, hsame.trans hkind, hbound⟩

omit [DecidableEq T] in
/-- Only the pointer of a `Device` is dropped as one. -/
theorem Relocates.dev_temp (hd : Relocates t op x wrappers wrappers' dev dev')
    (h : WrappersOk wrappers dev child children) (hne : x.dropping ≠ .droppingDevice) :
    dev' (.temp t) = none := by
  refine Option.eq_none_iff_forall_ne_some.mpr fun a ha => ?_
  obtain ⟨u, kind, hu, hkind, hdropping⟩ := hd.dropped a ha
  rw [h.device u a hu] at hkind
  cases hkind
  exact hne hdropping

omit [DecidableEq T] in
/-- Only the pointer of a child is dropped as one. -/
theorem Relocates.child_temp (hc : Relocates t op x wrappers wrappers' child child')
    (h : WrappersOk wrappers dev child children) (hne : x.dropping ≠ .droppingChild) :
    child' (.temp t) = none := by
  refine Option.eq_none_iff_forall_ne_some.mpr fun a ha => ?_
  obtain ⟨u, kind, hu, hkind, hdropping⟩ := hc.dropped a ha
  obtain ⟨c, -, hc', -⟩ := h.child u a hu
  rw [hc'] at hkind
  cases hkind
  exact hne hdropping

end Dropped

theorem relocate_lands (hs : StoreOk s) (h : Attached s t op ⟨x, .working, false⟩ none) {o : Own}
    (hop : op.relocation = some o) :
    Lands t op s
      { s with
        dev := relocate o t s.dev
        child := relocate o t s.child
        wrappers := retype o s.wrappers } ⟨x, x.dropping, false⟩ none := by
  obtain ⟨hdev, hchild⟩ := h.stage
  obtain rfl : op.resolve s = x := h.resolve (.inr rfl)
  have hd : Relocates t op (op.resolve s) s.wrappers (retype o s.wrappers) s.dev
      (relocate o t s.dev) := relocates hop (h.typed rfl) hdev fun w hw => (hs.wrappers.empty hw).1
  have hc : Relocates t op (op.resolve s) s.wrappers (retype o s.wrappers) s.child
      (relocate o t s.child) :=
    relocates hop (h.typed rfl) hchild fun w hw => (hs.wrappers.empty hw).2
  have hcases := op.dropping_cases (s := s) hop
  obtain ⟨hdying, hearly⟩ := op.dropping_rests (s := s) hop
  have hstage : StageOk
      { s with
        dev := relocate o t s.dev
        child := relocate o t s.child
        wrappers := retype o s.wrappers } t op (op.resolve s) (op.resolve s).dropping := by
    obtain ⟨hsheds, hq | hq⟩ | ⟨hq, -⟩ := hcases
    · rw [hq]
      exact ⟨hc.child_temp hs.wrappers (by simp [hq]), .inl hsheds⟩
    · rw [hq]
      exact ⟨hd.dev_temp hs.wrappers (by simp [hq]), .inl ⟨hsheds, op.target_of_relocation hop⟩⟩
    · rw [hq]
      exact ⟨hd.dev_temp hs.wrappers (by simp [hq]), hc.child_temp hs.wrappers (by simp [hq])⟩
  refine
    { store :=
        { devices := hs.devices.congr hd.owned (fun _ => rfl) hs.devices.exclusive
          children :=
            { hs.children.congr hd.member (fun _ _ _ => rfl) (Nat.le_refl _) with
              owned := fun a => (hc.owned a).trans (hs.children.owned a) }
          wrappers := hs.wrappers.relocate hd hc
          log := hs.log }
      own :=
        { own := ⟨h.own.mutex, h.own.handle, fun a c hc => ?_⟩
          resolve := fun hsame => ?_
          typed := fun h => ?_
          stage := hstage }
      frame :=
        { Frame.refl t op s with
          dev_temp := hd.temp
          child_temp := hc.temp
          dev_wrapper := hd.wrapper
          child_wrapper := hc.wrapper
          wrapper := fun v hv => retype_of_not_mem hop hv
          state := fun _ _ _ => rfl
          member := fun a _ _ => hd.member a
          sole := fun _ _ _ _ => shared_of_relocate o } }
  · rw [hdying]
    exact h.own.dying a c hc
  · obtain ⟨hsheds, hq⟩ | ⟨-, hresolve⟩ := hcases
    · obtain hsame | hsame := hsame
      · simp [hsheds] at hsame
      · obtain hq | hq := hq <;> rw [hq] at hsame <;> cases hsame
    · exact hresolve _
  · rw [hearly] at h
    cases h

end EasyMcp2221
