import EasyMcp2221.System.Invariant

/-!
# The steps on device states

Locks, calls, and the life of a `DeviceState`: opened, built, committed, released and
closed.  Each lemma says where a step lands: the store is in order again, the thread
stands at its next position, and nothing that belongs to another thread has changed.
-/

namespace EasyMcp2221

open Effect

variable {T : Type}

/-- What is shown of a step of the thread `t` from `s` to `s'`. -/
structure Lands [NativeApi] (t : T) (op : Op) (s s' : Store T) (q : Position)
    (handle : HandlePtr) : Prop where
  store : StoreOk s'
  own : Attached s' t op q handle
  frame : Frame t op s s'

/-- The device that a factory works on is that of its receiver. -/
theorem Op.receiver {op : Op} {s : Store T} {x : PublicOp} {target : Target} {kind : ChildKind}
    (hkind : op.childKind = some kind) (hresolve : op.resolve s = x)
    (htarget : x.target = some target) :
    ∃ v, op.reads = [v] ∧ s.dev (.wrapper v) = some target.device.addr ∧
      target.device = s.deviceState target.device.addr := by
  have hself : ∀ v, (s.deviceSelf v).map (fun d => (⟨d, none⟩ : Target)) = some target →
      s.dev (.wrapper v) = some target.device.addr ∧
        target.device = s.deviceState target.device.addr := by
    intro v hv
    obtain ⟨d, hd, rfl⟩ := Option.map_eq_some_iff.mp hv
    obtain ⟨a, ha, rfl⟩ := Option.map_eq_some_iff.mp hd
    exact ⟨ha, rfl⟩
  subst hresolve
  cases op with
  | i2cDevice v | smbusDevice v | gpioPoller v => exact ⟨v, rfl, hself v htarget⟩
  | _ => cases hkind

theorem Op.sheds_of_factory {op : Op} (h : op.childKind ≠ none) : op.sheds = false := by
  cases op <;> first | rfl | exact absurd rfl h

/-- A factory whose receiver is untouched resolves as it did. -/
theorem Attached.resolve_factory [NativeApi] {s s' : Store T} {t : T} {op : Op} {q : Position}
    {handle : HandlePtr} (h : Attached s t op q handle) (hkind : op.childKind ≠ none)
    (hself : ∀ v, s'.deviceSelf v = s.deviceSelf v) : op.resolve s' = q.call :=
  (op.resolve_factory hkind fun v _ => hself v).trans (h.resolve (.inl (op.sheds_of_factory hkind)))

variable [NativeApi] {t : T} {op : Op} {s s' : Store T} {q : Position}
  {x : PublicOp} {handle : HandlePtr}

/-! ## Locks and calls -/

theorem Lands.refl (hs : StoreOk s) (h : Attached s t op q handle) : Lands t op s s q handle :=
  ⟨hs, h, Frame.refl t op s⟩

theorem lock_lands (hs : StoreOk s) (h : Attached s t op q handle) {d : DeviceState}
    (hdevice : q.device = some d) (hheld : q.held = false) (hfree : s.mutex d.addr = none) :
    Lands t op s { s with mutex := Function.update s.mutex d.addr (some t) }
      { q with held := true } handle where
  store := ⟨hs.devices, hs.children, hs.wrappers, hs.log⟩
  own :=
    { own :=
        { mutex := fun a => by
            have hnone : q.mutex = none := by simp [Position.mutex, hheld]
            have hnew : ({ q with held := true } : Position).mutex = some d.addr := by
              rw [Position.mutex, if_pos rfl]
              exact congrArg (Option.map DeviceState.addr) hdevice
            rw [hnew]
            by_cases ha : a = d.addr
            · subst ha
              simp
            · have hold := h.own.mutex a
              rw [hnone] at hold
              simp [Function.update_of_ne ha, hold, Ne.symm ha]
          handle := h.own.handle
          dying := h.own.dying }
      resolve := h.resolve
      typed := h.typed
      stage := h.stage }
  frame :=
    { Frame.refl t op s with
      mutex := fun t' hne a => by
        by_cases ha : a = d.addr
        · subst ha
          simp [hfree, Ne.symm hne]
        · simp only [Function.update_of_ne ha] }

theorem unlock_lands (hs : StoreOk s) (h : Attached s t op q handle) {d : DeviceState}
    (hdevice : q.device = some d) (hheld : q.held = true) :
    Lands t op s { s with mutex := Function.update s.mutex d.addr none }
      { q with held := false } handle where
  store := ⟨hs.devices, hs.children, hs.wrappers, hs.log⟩
  own :=
    { own :=
        { mutex := fun a => by
            have hold := h.own.mutex a
            rw [Position.mutex, if_pos hheld, hdevice, Option.map_some] at hold
            have hnew : ({ q with held := false } : Position).mutex = none := if_neg nofun
            rw [hnew]
            by_cases ha : a = d.addr
            · subst ha
              simp
            · simp [Function.update_of_ne ha, hold, Ne.symm ha]
          handle := h.own.handle
          dying := h.own.dying }
      resolve := h.resolve
      typed := h.typed
      stage := h.stage }
  frame :=
    { Frame.refl t op s with
      mutex := fun t' hne a => by
        by_cases ha : a = d.addr
        · subst ha
          have hmine : s.mutex d.addr = some t := by
            rw [h.own.mutex, Position.mutex, if_pos hheld, hdevice, Option.map_some]
          simp [hmine, Ne.symm hne]
        · simp only [Function.update_of_ne ha] }

/-- A step that changes only poll structs. -/
theorem poll_lands (hs : StoreOk s) (h : Attached s t op q handle) (poll : Addr → PollStruct) :
    Lands t op s { s with poll } q handle where
  store := ⟨hs.devices, hs.children, hs.wrappers, hs.log⟩
  own := ⟨⟨h.own.mutex, h.own.handle, h.own.dying⟩, h.resolve, h.typed, h.stage⟩
  frame := { Frame.refl t op s with }

/-- The begin of a call that works with no handle or with an open one. -/
theorem enterCall_lands (hs : StoreOk s) (h : Attached s t op q handle) {c : NativeCall}
    (hopen : ∀ dev, s.accesses c = some dev → ∃ h, dev = some h ∧ Owned s.handles h) :
    Lands t op s { s with log := s.log ++ [.call t op c (s.accesses c)] } q handle where
  store :=
    { devices := hs.devices
      children := hs.children
      wrappers := hs.wrappers
      log :=
        { legal := hs.log.legal.snoc fun dev hdev => by
            obtain ⟨hd, rfl, howned⟩ := hopen dev hdev
            exact ⟨hd, rfl, (hs.log.isOpen hd).mpr howned⟩
          isOpen := fun hd => by
            simpa [IsOpen, opened_append, closed_append] using hs.log.isOpen hd } }
  own := ⟨⟨h.own.mutex, h.own.handle, h.own.dying⟩, h.resolve, h.typed, h.stage⟩
  frame := { Frame.refl t op s with }

/-! ## Handles of a thread -/

variable [DecidableEq T]

omit [NativeApi] in
theorem handle_of_state (t : T) (handles : Holder T → Option Handle) (o : HandlePtr) (a : Addr) :
    Function.update handles (.thread t) o (.state a) = handles (.state a) :=
  Function.update_of_ne (by simp) _ _

omit [NativeApi] in
/-- A step that changes only what the thread holds. -/
theorem Frame.of_thread (o : HandlePtr) (log : List (Entry T)) :
    Frame t op s { s with handles := Function.update s.handles (.thread t) o, log } :=
  { Frame.refl t op s with
    handle := fun t' hne => Function.update_of_ne (by simpa using hne) _ _
    state := fun a _ _ => handle_of_state t s.handles o a
    dead := fun a _ hdead => (handle_of_state t s.handles o a).trans hdead }

/-- `mcp2221_open_scan` has returned a new handle. -/
theorem opened_lands (hs : StoreOk s) (h : Attached s t op ⟨x, .working, false⟩ none)
    {w : Var} {options : DeviceOptions} (hop : op = .construct w options) {hd : Handle}
    (hnew : ∀ t', .opened t' hd ∉ s.log) :
    Lands t op s
      { s with
        handles := Function.update s.handles (.thread t) (some hd)
        log := s.log ++ [.opened t hd] } ⟨x, .scanned hd, false⟩ (some hd) := by
  have hunopened : ¬ Opened s.log hd := fun ⟨t', ht'⟩ => hnew t' ht'
  have hunowned : ¬ Owned s.handles hd := fun howned =>
    hunopened ((hs.log.isOpen hd).mpr howned).1
  have hexclusive : Exclusive (Function.update s.handles (.thread t) (some hd)) :=
    exclusive_update hs.devices.exclusive fun y hy hshared => by
      obtain ⟨z, -, hz⟩ := hshared
      exact hunowned ⟨z, hz.trans hy.symm⟩
  have hlog : LogOk (s.log ++ [.opened t hd])
      (Function.update s.handles (.thread t) (some hd)) := by
    refine ⟨hs.log.legal.snoc hunopened, fun hd' => ?_⟩
    rw [owned_update h.own.handle, ← hs.log.isOpen]
    have hunclosed : ¬ Closed s.log hd := fun hclosed =>
      hunopened (hs.log.legal.opened_of_closed hclosed)
    by_cases heq : hd' = hd
    · subst heq
      simp [IsOpen, opened_append, closed_append, hunclosed]
    · simp [IsOpen, opened_append, closed_append, heq, Ne.symm heq]
  subst hop
  exact
    { store :=
        { devices := hs.devices.congr (fun _ => Iff.rfl) (handle_of_state t s.handles (some hd))
            hexclusive
          children := hs.children.congr (fun _ => rfl)
            (fun _ d _ => handle_of_state t s.handles (some hd) d) (Nat.le_refl _)
          wrappers := hs.wrappers
          log := hlog }
      own :=
        { own := ⟨h.own.mutex, Function.update_self .., h.own.dying⟩
          resolve := fun _ => h.resolve (.inr rfl)
          typed := h.typed
          stage := ⟨h.stage.1, h.stage.2, rfl⟩ }
      frame := Frame.of_thread _ _ }

/-- `mcp2221_close` begins on the handle that the thread holds. -/
theorem closing_lands (hs : StoreOk s) {hd : Handle} (h : Attached s t op q (some hd))
    (hsheds : op.sheds = true) (hstage : q.stage = .scanned hd ∨ ∃ d, q.stage = .closing d) :
    Lands t op s
      { s with
        handles := Function.update s.handles (.thread t) none
        log := s.log ++ [.close t op (some hd)] } q none := by
  have hmine : s.handles (.thread t) = some hd := h.own.handle
  have hlog : LogOk (s.log ++ [.close t op (some hd)])
      (Function.update s.handles (.thread t) none) := by
    have hopen : IsOpen s.log hd := (hs.log.isOpen hd).mpr ⟨_, hmine⟩
    refine ⟨hs.log.legal.snoc ⟨hsheds, hd, rfl, hopen⟩, fun hd' => ?_⟩
    have hlast : ¬ Shared s.handles (.thread t) hd := fun ⟨z, hne, hz⟩ =>
      hne (hs.devices.exclusive z (.thread t) hd hz hmine)
    refine Iff.trans ?_ (owned_drop_last hmine hlast).symm
    rw [← hs.log.isOpen]
    simp [IsOpen, opened_append, closed_append, and_assoc, eq_comm]
  refine
    { store :=
        { devices := hs.devices.congr (fun _ => Iff.rfl) (handle_of_state t s.handles none)
            (exclusive_drop hs.devices.exclusive)
          children := hs.children.congr (fun _ => rfl)
            (fun _ d _ => handle_of_state t s.handles none d) (Nat.le_refl _)
          wrappers := hs.wrappers
          log := hlog }
      own :=
        { own := ⟨h.own.mutex, Function.update_self .., h.own.dying⟩
          resolve := fun hearly =>
            (op.resolve_congr rfl rfl rfl rfl (handle_of_state t s.handles none)).trans
              (h.resolve hearly)
          typed := h.typed
          stage := ?_ }
      frame := Frame.of_thread _ _ }
  have hold := h.stage
  obtain hq | ⟨d, hq⟩ := hstage
  · rw [hq] at hold ⊢
    exact hold
  · rw [hq] at hold ⊢
    obtain ⟨hdev, hchild, hsheds, hhandle, hdead, hlt⟩ := hold
    exact ⟨hdev, hchild, hsheds, hhandle, (handle_of_state t s.handles none _).trans hdead, hlt⟩

omit [DecidableEq T] in
/-- The handle of the thread has been closed. -/
theorem closed_lands (hs : StoreOk s) {d : DeviceState}
    (h : Attached s t op ⟨x, .closing d, false⟩ none) :
    Lands t op s s ⟨x, .deleting d, false⟩ none := by
  obtain ⟨hdev, hchild, hsheds, -, hdead, hlt⟩ := h.stage
  refine ⟨hs, ⟨⟨h.own.mutex, h.own.handle, h.own.dying⟩, fun hearly => ?_, nofun,
    hdev, hchild, hsheds, hdead, hlt⟩, Frame.refl t op s⟩
  simp [hsheds] at hearly

omit [DecidableEq T] in
/-- A thread that owns nothing any more is done. -/
theorem done_lands (hs : StoreOk s) {stage : Stage} (h : Attached s t op ⟨x, stage, false⟩ none)
    (hdying : stage.dying = none) (hdev : s.dev (.temp t) = none)
    (hchild : s.child (.temp t) = none) (hsheds : op.sheds = true) :
    Lands t op s s ⟨x, .done, false⟩ none := by
  have hquiet := h.own.dying
  rw [show (⟨x, stage, false⟩ : Position).stage.dying = none from hdying] at hquiet
  refine ⟨hs, ⟨⟨h.own.mutex, h.own.handle, hquiet⟩, fun hearly => ?_, nofun, hdev, hchild⟩,
    Frame.refl t op s⟩
  simp [hsheds] at hearly

/-! ## A new `DeviceState` -/

theorem makeDeviceState_lands (hs : StoreOk s) {hd : Handle}
    (h : Attached s t op ⟨x, .scanned hd, false⟩ (some hd)) :
    Lands t op s
      { s with
        dev := Function.update s.dev (.temp t) (some s.next)
        handles := Function.update (Function.update s.handles (.state s.next) (some hd))
          (.thread t) none
        next := s.next + 1 } ⟨x, .building ⟨s.next, some hd⟩, false⟩ none := by
  obtain ⟨hdev, hchild, hsheds⟩ := h.stage
  have hmine : s.handles (.thread t) = some hd := h.own.handle
  have hunowned : ¬ Owned s.dev s.next := fun howned =>
    Nat.lt_irrefl _ (hs.devices.fresh _ howned)
  have hfree : s.handles (.state s.next) = none :=
    Option.eq_none_iff_forall_ne_some.mpr fun h' hh =>
      hunowned ((hs.devices.owned _).mpr ⟨h', hh⟩)
  have hmove : Function.update (Function.update s.handles (.state s.next) (some hd))
      (.thread t) none = move s.handles (.thread t) (.state s.next) := by
    rw [move, hmine]
  have hnew : move s.handles (.thread t) (.state s.next) (.state s.next) = some hd := by
    rw [move_target (by simp), hmine]
  have hstate : ∀ a, a ≠ s.next → move s.handles (.thread t) (.state s.next) (.state a) =
      s.handles (.state a) := fun a ha => move_of_ne (by simp) (by simpa using ha)
  have howned : ∀ a, Owned (Function.update s.dev (.temp t) (some s.next)) a ↔
      Owned s.dev a ∨ a = s.next := fun a => owned_update hdev
  have hkeep : ∀ z, z ≠ .temp t → Function.update s.dev (.temp t) (some s.next) z = s.dev z :=
    fun z hz => Function.update_of_ne hz _ _
  have hdevices : DevicesOk (Function.update s.dev (.temp t) (some s.next))
      (move s.handles (.thread t) (.state s.next)) (s.next + 1) := by
    refine ⟨fun a => ?_, exclusive_move hs.devices.exclusive (by simp), fun a ha => ?_⟩
    · rw [howned]
      by_cases ha : a = s.next
      · subst ha
        exact iff_of_true (.inr rfl) ⟨hd, hnew⟩
      · rw [hstate a ha, hs.devices.owned]
        simp [ha]
    · obtain ha | rfl := (howned a).mp ha
      · exact Nat.lt_succ_of_lt (hs.devices.fresh a ha)
      · exact Nat.lt_succ_self _
  rw [hmove]
  exact
    { store :=
        { devices := hdevices
          children := hs.children.congr (fun a => hkeep (.member a) (by simp))
            (fun a d hd => hstate d (Nat.ne_of_lt (hs.devices.fresh d ⟨_, hd⟩))) (Nat.le_succ _)
          wrappers := hs.wrappers.congr (fun v => hkeep (.wrapper v) (by simp)) (fun _ => rfl)
            fun _ _ _ => rfl
          log :=
            { legal := hs.log.legal
              isOpen := fun hd' =>
                (hs.log.isOpen hd').trans (owned_move (by simp) hfree).symm } }
      own :=
        { own := ⟨h.own.mutex, move_source, h.own.dying⟩
          resolve := fun hearly => by simp [hsheds] at hearly
          typed := h.typed
          stage := ⟨Function.update_self .., hchild, hsheds, hnew.symm⟩ }
      frame :=
        { Frame.refl t op s with
          dev_temp := fun t' hne => hkeep (.temp t') (by simpa using hne)
          handle := fun t' hne => move_of_ne (by simpa using hne) (by simp)
          dev_wrapper := fun v _ => hkeep (.wrapper v) (by simp)
          state := fun a ha _ => hstate a (Nat.ne_of_lt (hs.devices.fresh a ha))
          dead := fun a ha hdead => (hstate a (Nat.ne_of_lt ha)).trans hdead
          next := Nat.le_succ _
          member := fun a _ _ => hkeep (.member a) (by simp) } }

omit [DecidableEq T] in
/-- A wrapper object that does not exist holds no pointers. -/
theorem WrappersOk.empty {wrappers : Var → Option WrapperKind} {dev : Place T Addr → Option Addr}
    {child : Place T Empty → Option Addr} {children : Addr → Option (Child T)}
    (h : WrappersOk wrappers dev child children) {w : Var} (hw : wrappers w = none) :
    dev (.wrapper w) = none ∧ child (.wrapper w) = none := by
  constructor
  · refine Option.eq_none_iff_forall_ne_some.mpr fun a ha => ?_
    have hkind := h.device w a ha
    rw [hw] at hkind
    cases hkind
  · refine Option.eq_none_iff_forall_ne_some.mpr fun a ha => ?_
    obtain ⟨c, -, hkind, -⟩ := h.child w a ha
    rw [hw] at hkind
    cases hkind

theorem commitDevice_lands (hs : StoreOk s) {d : DeviceState} {w : Var} {options : DeviceOptions}
    (hop : op = .construct w options) (h : Attached s t op ⟨x, .building d, false⟩ none) :
    Lands t op s
      { s with
        dev := move s.dev (.temp t) (.wrapper w)
        wrappers := Function.update s.wrappers w (some .device) }
      ⟨x, .droppingDevice, false⟩ none := by
  obtain ⟨hdev, hchild, hsheds, -⟩ := h.stage
  have htyped : s.wrappers w = none := by
    have htyped := h.typed rfl
    rw [hop] at htyped
    exact htyped
  obtain ⟨hempty, hempty'⟩ := hs.wrappers.empty htyped
  have hmember : ∀ a, move s.dev (.temp t) (.wrapper w) (.member a) = s.dev (.member a) :=
    fun a => move_of_ne (by simp) (by simp)
  have hwrapper : ∀ v, v ≠ w → move s.dev (.temp t) (.wrapper w) (.wrapper v) =
      s.dev (.wrapper v) := fun v hv => move_of_ne (by simp) (by simpa using hv)
  have hwrappers : WrappersOk (Function.update s.wrappers w (some .device))
      (move s.dev (.temp t) (.wrapper w)) s.child s.children := by
    refine ⟨fun v a ha => ?_, fun v a ha => ?_⟩
    · by_cases hv : v = w
      · rw [hv, Function.update_self]
      · rw [Function.update_of_ne hv]
        exact hs.wrappers.device v a ((hwrapper v hv).symm.trans ha)
    · have hv : v ≠ w := by
        rintro rfl
        rw [hempty'] at ha
        cases ha
      rw [Function.update_of_ne hv]
      exact hs.wrappers.child v a ha
  have hv : ∀ v, v ∉ op.writes → v ≠ w := fun v hv heq => hv (by rw [hop, heq]; simp [Op.writes])
  exact
    { store :=
        { devices := hs.devices.congr (fun a => owned_move (by simp) hempty) (fun _ => rfl)
            hs.devices.exclusive
          children := hs.children.congr hmember (fun _ _ _ => rfl) (Nat.le_refl _)
          wrappers := hwrappers
          log := hs.log }
      own :=
        { own := ⟨h.own.mutex, h.own.handle, h.own.dying⟩
          resolve := fun hearly => by simp [hsheds] at hearly
          typed := fun hearly => absurd hearly Bool.false_ne_true
          stage := ⟨hchild, .inl hsheds⟩ }
      frame :=
        { Frame.refl t op s with
          dev_temp := fun t' hne => move_of_ne (by simpa using hne) (by simp)
          dev_wrapper := fun v hmem => hwrapper v (hv v hmem)
          wrapper := fun v hmem => Function.update_of_ne (hv v hmem) _ _
          state := fun _ _ _ => rfl
          member := fun a _ _ => hmember a } }

/-! ## The release of the local device pointer -/

/-- Why an operation drops a device pointer: it may drop the last one, or it is a factory
    whose receiver still points to the device. -/
def ReleaseCause (s : Store T) (t : T) (op : Op) (x : PublicOp) : Prop :=
  op.sheds = true ∨ op.childKind ≠ none ∧
    ∃ target, x.target = some target ∧ s.dev (.temp t) = some target.device.addr

/-- Another pointer to the device remains. -/
theorem releaseShared_lands (hs : StoreOk s) {stage : Stage}
    (h : Attached s t op ⟨x, stage, false⟩ none) (hdying : stage.dying = none)
    (hchild : s.child (.temp t) = none) (hcause : ReleaseCause s t op x)
    (hshared : ∀ a, s.dev (.temp t) = some a → Shared s.dev (.temp t) a) :
    Lands t op s { s with dev := drop s.dev (.temp t) } ⟨x, .done, false⟩ none := by
  have hquiet := h.own.dying
  rw [show (⟨x, stage, false⟩ : Position).stage.dying = none from hdying] at hquiet
  have hkeep : ∀ z, z ≠ .temp t → drop s.dev (.temp t) z = s.dev z := fun z hz => drop_of_ne hz
  have hresolve : op.sheds = false ∨ Stage.done = .working →
      op.resolve { s with dev := drop s.dev (.temp t) } = x := by
    rintro (hsheds | hdone)
    · have hkind := (hcause.resolve_left (by simp [hsheds])).1
      exact h.resolve_factory hkind fun v =>
        congrArg (Option.map s.deviceState) (hkeep (.wrapper v) (by simp))
    · cases hdone
  exact
    { store :=
        { devices := hs.devices.congr (fun a => owned_drop hshared) (fun _ => rfl)
            hs.devices.exclusive
          children := hs.children.congr (fun a => hkeep (.member a) (by simp)) (fun _ _ _ => rfl)
            (Nat.le_refl _)
          wrappers := hs.wrappers.congr (fun v => hkeep (.wrapper v) (by simp)) (fun _ => rfl)
            fun _ _ _ => rfl
          log := hs.log }
      own :=
        { own := ⟨h.own.mutex, h.own.handle, hquiet⟩
          resolve := hresolve
          typed := nofun
          stage := ⟨drop_self, hchild⟩ }
      frame :=
        { Frame.refl t op s with
          dev_temp := fun t' hne => hkeep (.temp t') (by simpa using hne)
          dev_wrapper := fun v _ => hkeep (.wrapper v) (by simp)
          state := fun _ _ _ => rfl
          member := fun a _ _ => hkeep (.member a) (by simp) } }

/-- The last pointer to the device is gone, and its handle goes to the thread. -/
theorem releaseLast_lands (hs : StoreOk s) {stage : Stage}
    (h : Attached s t op ⟨x, stage, false⟩ none) (hdying : stage.dying = none)
    (hchild : s.child (.temp t) = none) (hcause : ReleaseCause s t op x) {a : Addr}
    (ha : s.dev (.temp t) = some a) (hlast : ¬ Shared s.dev (.temp t) a) :
    ∃ hd, s.handles (.state a) = some hd ∧
      Lands t op s
        { s with
          dev := drop s.dev (.temp t)
          handles := move s.handles (.state a) (.thread t) }
        ⟨x, .closing (s.deviceState a), false⟩ (some hd) := by
  obtain ⟨hd, hhandle⟩ := (hs.devices.owned a).mp ⟨_, ha⟩
  have hquiet := h.own.dying
  rw [show (⟨x, stage, false⟩ : Position).stage.dying = none from hdying] at hquiet
  have hkeep : ∀ z, z ≠ .temp t → drop s.dev (.temp t) z = s.dev z := fun z hz => drop_of_ne hz
  have howned : ∀ b, Owned (drop s.dev (.temp t)) b ↔ Owned s.dev b ∧ b ≠ a :=
    fun b => owned_drop_last ha hlast
  have hstate : ∀ b, b ≠ a → move s.handles (.state a) (.thread t) (.state b) =
      s.handles (.state b) := fun b hb => move_of_ne (by simpa using hb) (by simp)
  have hmine : move s.handles (.state a) (.thread t) (.thread t) = s.handles (.state a) :=
    move_target (by simp)
  have hothers : ∀ t', t' ≠ t → move s.handles (.state a) (.thread t) (.thread t') =
      s.handles (.thread t') := fun t' hne => move_of_ne (by simp) (by simpa using hne)
  -- a factory drops no last pointer: its receiver still has one
  have hsheds : op.sheds = true := by
    obtain hsheds | ⟨hkind, target, htarget, htemp⟩ := hcause
    · exact hsheds
    · cases hsheds : op.sheds with
      | true => rfl
      | false =>
        obtain ⟨kind, hkind⟩ := Option.ne_none_iff_exists'.mp hkind
        obtain ⟨v, -, hv, -⟩ := Op.receiver hkind (h.resolve (.inl hsheds)) htarget
        have haddr : target.device.addr = a := Option.some.inj (htemp.symm.trans ha)
        exact absurd ⟨.wrapper v, by simp, haddr ▸ hv⟩ hlast
  have hdevices : DevicesOk (drop s.dev (.temp t)) (move s.handles (.state a) (.thread t))
      s.next := by
    refine ⟨fun b => ?_, exclusive_move hs.devices.exclusive (by simp), fun b hb => ?_⟩
    · rw [howned]
      by_cases hb : b = a
      · subst hb
        simp
      · rw [hstate b hb, hs.devices.owned]
        simp [hb]
    · exact hs.devices.fresh b ((howned b).mp hb).1
  refine ⟨hd, hhandle,
    { store :=
        { devices := hdevices
          children := hs.children.congr (fun b => hkeep (.member b) (by simp))
            (fun b d hmember => hstate d ?_) (Nat.le_refl _)
          wrappers := hs.wrappers.congr (fun v => hkeep (.wrapper v) (by simp)) (fun _ => rfl)
            fun _ _ _ => rfl
          log :=
            { legal := hs.log.legal
              isOpen := fun hd' =>
                (hs.log.isOpen hd').trans (owned_move (by simp) h.own.handle).symm } }
      own :=
        { own := ⟨h.own.mutex, hmine.trans hhandle, hquiet⟩
          resolve := fun hearly => by simp [hsheds] at hearly
          typed := nofun
          stage := ⟨drop_self, hchild, hsheds, ?_, move_source, hs.devices.fresh a ⟨_, ha⟩⟩ }
      frame :=
        { Frame.refl t op s with
          dev_temp := fun t' hne => hkeep (.temp t') (by simpa using hne)
          handle := hothers
          dev_wrapper := fun v _ => hkeep (.wrapper v) (by simp)
          state := fun b _ hb => hstate b ((howned b).mp hb).2
          dead := fun b _ hdead => ?_
          member := fun b _ _ => hkeep (.member b) (by simp) } }⟩
  · rintro rfl
    exact hlast ⟨.member b, by simp, hmember⟩
  · simp [Store.deviceState, hhandle]
  · have hb : b ≠ a := by
      rintro rfl
      rw [hhandle] at hdead
      cases hdead
    exact (hstate b hb).trans hdead

end EasyMcp2221
