import EasyMcp2221.System.History

/-!
# The invariant of the system

What holds of the store between any two steps (`StoreOk`), what holds of the part of
the store that belongs to one thread (`Attached`), and which part of the store the
step of one thread leaves alone for the others (`Frame`).
-/

namespace EasyMcp2221

open Effect

variable {T : Type}

/-! ## The store -/

/-- A `DeviceState` lives exactly while some pointer points to it, and its handle has
    no other holder. -/
structure DevicesOk (dev : Place T Addr → Option Addr) (handles : Holder T → Option Handle)
    (next : Addr) : Prop where
  owned : ∀ a, Owned dev a ↔ ∃ h, handles (.state a) = some h
  exclusive : Exclusive handles
  fresh : ∀ a, Owned dev a → a < next

/-- A child lives while some pointer points to it or a thread is deleting it; its member
    points to the `DeviceState` with the handle it was created with. -/
structure ChildrenOk (child : Place T Empty → Option Addr) (children : Addr → Option (Child T))
    (dev : Place T Addr → Option Addr) (handles : Holder T → Option Handle) (next : Addr) :
    Prop where
  owned : ∀ a, Owned child a ↔ ∃ c, children a = some c ∧ c.deleter = none
  fresh : ∀ a c, children a = some c → a < next
  member : ∀ a c, children a = some c →
    ∃ d, dev (.member a) = some d ∧ handles (.state d) = c.birth.handle
  orphan : ∀ a, children a = none → dev (.member a) = none
  bus : ∀ a c, children a = some c → c.bus = none ∨ c.bus = c.birth.handle
  address : ∀ a c, children a = some c → c.birth.address ≤ constants.maxI2cAddress

/-- Pointers may move and threads may hold other handles. -/
theorem DevicesOk.congr {dev dev' : Place T Addr → Option Addr}
    {handles handles' : Holder T → Option Handle} {next : Addr} (h : DevicesOk dev handles next)
    (howned : ∀ a, Owned dev' a ↔ Owned dev a)
    (hstate : ∀ a, handles' (.state a) = handles (.state a)) (hexclusive : Exclusive handles') :
    DevicesOk dev' handles' next where
  owned a := by
    rw [howned, hstate]
    exact h.owned a
  exclusive := hexclusive
  fresh a ha := h.fresh a ((howned a).mp ha)

/-- Only the members and the handles of their device states matter to the children. -/
theorem ChildrenOk.congr {child : Place T Empty → Option Addr}
    {children : Addr → Option (Child T)} {dev dev' : Place T Addr → Option Addr}
    {handles handles' : Holder T → Option Handle} {next next' : Addr}
    (h : ChildrenOk child children dev handles next)
    (hmember : ∀ a, dev' (.member a) = dev (.member a))
    (hstate : ∀ a d, dev (.member a) = some d → handles' (.state d) = handles (.state d))
    (hnext : next ≤ next') : ChildrenOk child children dev' handles' next' where
  owned := h.owned
  fresh a c hc := Nat.lt_of_lt_of_le (h.fresh a c hc) hnext
  member a c hc := by
    obtain ⟨d, hd, hhandle⟩ := h.member a c hc
    exact ⟨d, (hmember a).trans hd, (hstate a d hd).trans hhandle⟩
  orphan a ha := (hmember a).trans (h.orphan a ha)
  bus := h.bus
  address := h.address

/-- A wrapper object points to a state object of its class, and a child that a wrapper
    object points to is bound. -/
structure WrappersOk [NativeApi] (wrappers : Var → Option WrapperKind)
    (dev : Place T Addr → Option Addr) (child : Place T Empty → Option Addr)
    (children : Addr → Option (Child T)) : Prop where
  device : ∀ v a, dev (.wrapper v) = some a → wrappers v = some .device
  child : ∀ v a, child (.wrapper v) = some a →
    ∃ c, children a = some c ∧ wrappers v = some (.child c.kind) ∧ c.Bound

/-- What no wrapper object reaches does not matter to it. -/
theorem WrappersOk.congr [NativeApi] {wrappers : Var → Option WrapperKind}
    {dev dev' : Place T Addr → Option Addr} {child child' : Place T Empty → Option Addr}
    {children children' : Addr → Option (Child T)} (h : WrappersOk wrappers dev child children)
    (hdev : ∀ v, dev' (.wrapper v) = dev (.wrapper v))
    (hchild : ∀ v, child' (.wrapper v) = child (.wrapper v))
    (hkeep : ∀ v a, child (.wrapper v) = some a → children' a = children a) :
    WrappersOk wrappers dev' child' children' where
  device v a ha := h.device v a ((hdev v).symm.trans ha)
  child v a ha := by
    have hold := (hchild v).symm.trans ha
    rw [hkeep v a hold]
    exact h.child v a hold

/-- The history is legal, and the open handles are those with a holder. -/
structure LogOk (log : List (Entry T)) (handles : Holder T → Option Handle) : Prop where
  legal : Legal log
  isOpen : ∀ h, IsOpen log h ↔ Owned handles h

structure StoreOk [NativeApi] (s : Store T) : Prop where
  devices : DevicesOk s.dev s.handles s.next
  children : ChildrenOk s.child s.children s.dev s.handles s.next
  wrappers : WrappersOk s.wrappers s.dev s.child s.children
  log : LogOk s.log s.handles

/-! ## One thread -/

/-- The mutex, the handle and the child that belong to the thread. -/
structure Private (s : Store T) (t : T) (mutex : Option Addr) (handle : HandlePtr)
    (dying : Option Addr) : Prop where
  mutex : ∀ a, s.mutex a = some t ↔ mutex = some a
  handle : s.handles (.thread t) = handle
  dying : ∀ a c, s.children a = some c → (c.deleter = some t ↔ dying = some a)

/-- The thread owns nothing. -/
structure Quiet (s : Store T) (t : T) : Prop where
  own : Private s t none none none
  dev : s.dev (.temp t) = none
  child : s.child (.temp t) = none

/-- The local pointers of the thread `t` in each stage, and what they point to. -/
def StageOk [NativeApi] (s : Store T) (t : T) (op : Op) (x : PublicOp) : Stage → Prop
  | .working => s.dev (.temp t) = none ∧ s.child (.temp t) = none
  | .scanned _ =>
    s.dev (.temp t) = none ∧ s.child (.temp t) = none ∧ op.sheds = true
  | .building d =>
    s.dev (.temp t) = some d.addr ∧ s.child (.temp t) = none ∧ op.sheds = true ∧
      d.handle = s.handles (.state d.addr)
  | .making a initialised =>
    s.dev (.temp t) = none ∧ s.child (.temp t) = some a ∧ ¬ Shared s.child (.temp t) a ∧
      ∃ target c, x.target = some target ∧ s.dev (.member a) = some target.device.addr ∧
        s.children a = some c ∧ op.childKind = some c.kind ∧
        c.birth = ⟨target.device.handle, op.address, op.options⟩ ∧
        c.address = op.storedAddress ∧ (initialised = true → c.Bound)
  | .droppingChild =>
    s.dev (.temp t) = none ∧
      (op.sheds = true ∧ x.target = none ∨ op.childKind ≠ none ∧ s.child (.temp t) = none)
  | .ending a kind _ =>
    s.dev (.temp t) = none ∧ s.child (.temp t) = none ∧
      ∃ c, s.children a = some c ∧ c.deleter = some t ∧ c.kind = kind ∧
        (op.sheds = true ∨ op.childKind = some kind ∧
          ∃ target, x.target = some target ∧ s.dev (.member a) = some target.device.addr)
  | .droppingDevice =>
    s.child (.temp t) = none ∧
      (op.sheds = true ∨ op.childKind ≠ none ∧
        ∃ target, x.target = some target ∧ s.dev (.temp t) = some target.device.addr)
  | .closing d =>
    s.dev (.temp t) = none ∧ s.child (.temp t) = none ∧ op.sheds = true ∧
      d.handle ≠ none ∧ s.handles (.state d.addr) = none ∧ d.addr < s.next
  | .deleting d =>
    s.dev (.temp t) = none ∧ s.child (.temp t) = none ∧ op.sheds = true ∧
      s.handles (.state d.addr) = none ∧ d.addr < s.next
  | .done => s.dev (.temp t) = none ∧ s.child (.temp t) = none

/-- The mutex that an operation holds. -/
def Position.mutex (q : Position) : Option Addr :=
  if q.held then q.device.map DeviceState.addr else none

/-- The thread `t` executes `op` and stands at `q`; `handle` is what it will close. -/
structure Attached [NativeApi] (s : Store T) (t : T) (op : Op) (q : Position)
    (handle : HandlePtr) : Prop where
  own : Private s t q.mutex handle q.stage.dying
  /-- The operation resolves as it did at the start, until it moves its own objects. -/
  resolve : op.sheds = false ∨ q.stage = .working → op.resolve s = q.call
  typed : q.stage.early = true → op.Typed s
  stage : StageOk s t op q.call q.stage

/-! ## What a step leaves alone -/

/-- What a step of the thread `t` that executes `op` keeps for the other threads. -/
structure Frame (t : T) (op : Op) (s s' : Store T) : Prop where
  dev_temp : ∀ t', t' ≠ t → s'.dev (.temp t') = s.dev (.temp t')
  child_temp : ∀ t', t' ≠ t → s'.child (.temp t') = s.child (.temp t')
  handle : ∀ t', t' ≠ t → s'.handles (.thread t') = s.handles (.thread t')
  mutex : ∀ t', t' ≠ t → ∀ a, s'.mutex a = some t' ↔ s.mutex a = some t'
  dev_wrapper : ∀ v, v ∉ op.writes → s'.dev (.wrapper v) = s.dev (.wrapper v)
  child_wrapper : ∀ v, v ∉ op.writes → s'.child (.wrapper v) = s.child (.wrapper v)
  wrapper : ∀ v, v ∉ op.writes → s'.wrappers v = s.wrappers v
  /-- A `DeviceState` that is not deleted keeps its handle. -/
  state : ∀ a, Owned s.dev a → Owned s'.dev a → s'.handles (.state a) = s.handles (.state a)
  dead : ∀ a, a < s.next → s.handles (.state a) = none → s'.handles (.state a) = none
  next : s.next ≤ s'.next
  member : ∀ a, s.children a ≠ none → s'.children a ≠ none →
    s'.dev (.member a) = s.dev (.member a)
  /-- A child changes only while no other thread can reach it. -/
  children : ∀ a c, s.children a = some c →
    Shared s.child (.temp t) a ∨ (∃ t', t' ≠ t ∧ c.deleter = some t') → s'.children a = some c
  deleter : ∀ t', t' ≠ t → ∀ a c', s'.children a = some c' → c'.deleter = some t' →
    ∃ c, s.children a = some c ∧ c.deleter = some t'
  /-- The local pointers of the others are not copied. -/
  sole : ∀ t', t' ≠ t → ∀ a, Owned s.child a → Shared s'.child (.temp t') a →
    Shared s.child (.temp t') a

theorem Frame.refl (t : T) (op : Op) (s : Store T) : Frame t op s s where
  dev_temp _ _ := rfl
  child_temp _ _ := rfl
  handle _ _ := rfl
  mutex _ _ _ := Iff.rfl
  dev_wrapper _ _ := rfl
  child_wrapper _ _ := rfl
  wrapper _ _ := rfl
  state _ _ _ := rfl
  dead _ _ h := h
  next := Nat.le_refl _
  member _ _ _ := rfl
  children _ _ h _ := h
  deleter _ _ _ c' h hdeleter := ⟨c', h, hdeleter⟩
  sole _ _ _ _ h := h

namespace Frame

variable [NativeApi] {t t' : T} {op op' : Op} {s s' : Store T}

omit [NativeApi] in
theorem not_mem_writes {v : Var} (hcompat : op.Compatible op')
    (hv : v ∈ op'.writes ∨ v ∈ op'.reads) : v ∉ op.writes := fun hw =>
  hv.elim (hcompat.1 v hw).1 (hcompat.1 v hw).2

/-- A child that a wrapper object of another operation points to stays as it is. -/
theorem child_of_wrapper (hf : Frame t op s s') (hs : StoreOk s) {v : Var} {a : Addr}
    (h : s.child (.wrapper v) = some a) :
    ∃ c, s.children a = some c ∧ s'.children a = some c ∧ s.wrappers v = some (.child c.kind) ∧
      c.Bound := by
  obtain ⟨c, hc, hkind, hbound⟩ := hs.wrappers.child v a h
  exact ⟨c, hc, hf.children a c hc (.inl ⟨.wrapper v, by simp, h⟩), hkind, hbound⟩

omit [NativeApi] in
theorem deviceState_eq (hf : Frame t op s s') {x : Place T Addr} {a : Addr}
    (h : s.dev x = some a) (h' : s'.dev x = some a) : s'.deviceState a = s.deviceState a := by
  rw [Store.deviceState, Store.deviceState, hf.state a ⟨x, h⟩ ⟨x, h'⟩]

omit [NativeApi] in
theorem deviceSelf_eq (hf : Frame t op s s') {v : Var} (hv : v ∉ op.writes) :
    s'.deviceSelf v = s.deviceSelf v := by
  rw [Store.deviceSelf, Store.deviceSelf, hf.dev_wrapper v hv]
  cases h : s.dev (.wrapper v) with
  | none => rfl
  | some a =>
    have h' : s'.dev (.wrapper v) = some a := (hf.dev_wrapper v hv).trans h
    rw [Option.map_some, Option.map_some, hf.deviceState_eq h h']

/-- The `device` member of a child that stays. -/
theorem memberDevice_eq (hf : Frame t op s s') (hs : StoreOk s) {a : Addr} {c : Child T}
    (h : s.children a = some c) (h' : s'.children a = some c) :
    s'.memberDevice a = s.memberDevice a := by
  obtain ⟨d, hd, -⟩ := hs.children.member a c h
  have hmember : s'.dev (.member a) = s.dev (.member a) :=
    hf.member a (by simp [h]) (by simp [h'])
  rw [Store.memberDevice, Store.memberDevice, hmember, hd, Option.map_some, Option.map_some,
    hf.deviceState_eq hd (hmember.trans hd)]

/-- What the `state_` of a child wrapper of another operation points to. -/
theorem childSelf_eq {α : Type} (hf : Frame t op s s') (hs : StoreOk s) {v : Var}
    (hv : v ∉ op.writes) {f : Store T → Addr → α}
    (hfc : ∀ a c, s.children a = some c → s'.children a = some c →
      s'.memberDevice a = s.memberDevice a → f s' a = f s a) :
    (s'.child (.wrapper v)).map (f s') = (s.child (.wrapper v)).map (f s) := by
  rw [hf.child_wrapper v hv]
  cases h : s.child (.wrapper v) with
  | none => rfl
  | some a =>
    obtain ⟨c, hc, hc', -, -⟩ := hf.child_of_wrapper hs h
    rw [Option.map_some, Option.map_some, hfc a c hc hc' (hf.memberDevice_eq hs hc hc')]

/-- The operation of another thread resolves as before. -/
theorem resolve_eq (hf : Frame t op s s') (hs : StoreOk s) (hcompat : op.Compatible op') :
    op'.resolve s' = op'.resolve s := by
  have hnot : ∀ v, v ∈ op'.writes ∨ v ∈ op'.reads → v ∉ op.writes :=
    fun v hv => not_mem_writes hcompat hv
  cases op' with
  | device v | i2cDevice v | smbusDevice v | gpioPoller v =>
    simp only [Op.resolve, hf.deviceSelf_eq (hnot v (.inr (List.mem_singleton_self v)))]
  | i2c v op' =>
    have h : s'.i2cSelf v = s.i2cSelf v :=
      hf.childSelf_eq (f := Store.i2cState) hs (hnot v (.inr (List.mem_singleton_self v)))
        fun a c hc hc' hmember => by rw [Store.i2cState, Store.i2cState, hc, hc', hmember]
    simp only [Op.resolve, h]
  | smbus v op' =>
    have h : s'.smbusSelf v = s.smbusSelf v :=
      hf.childSelf_eq (f := Store.smbusState) hs (hnot v (.inr (List.mem_singleton_self v)))
        fun a c hc hc' hmember => by rw [Store.smbusState, Store.smbusState, hc, hc', hmember]
    simp only [Op.resolve, h]
  | poller v op' =>
    have h : s'.pollerSelf v = s.pollerSelf v :=
      hf.childSelf_eq (f := Store.pollerState) hs (hnot v (.inr (List.mem_singleton_self v)))
        fun a c hc hc' hmember => by rw [Store.pollerState, Store.pollerState, hmember]
    simp only [Op.resolve, h]
  | destroy v =>
    simp only [Op.resolve, Store.kindOf,
      hf.wrapper v (hnot v (.inl (List.mem_singleton_self v)))]
  | moveAssign src dst =>
    simp only [Op.resolve, Store.kindOf,
      hf.wrapper dst (hnot dst (.inl (List.mem_cons_of_mem _ (List.mem_singleton_self dst))))]
  | copyAssign src dst =>
    simp only [Op.resolve, Store.kindOf,
      hf.wrapper dst (hnot dst (.inl (List.mem_singleton_self dst)))]
  | construct | close | moveConstruct | copyConstruct => rfl

omit [NativeApi] in
/-- The wrapper objects of the operation of another thread keep their classes. -/
theorem typed (hf : Frame t op s s') (hcompat : op.Compatible op') (h : op'.Typed s) :
    op'.Typed s' := by
  have hwrapper : ∀ v, v ∈ op'.writes ∨ v ∈ op'.reads → s'.wrappers v = s.wrappers v :=
    fun v hv => hf.wrapper v (not_mem_writes hcompat hv)
  cases op' <;>
    simp only [Op.writes, Op.reads, List.mem_cons, List.not_mem_nil, or_false, false_or,
      forall_eq, forall_eq_or_imp] at hwrapper <;>
    simpa only [Op.Typed, hwrapper] using h

omit [NativeApi] in
theorem own (hf : Frame t op s s') (hne : t' ≠ t) {mutex dying : Option Addr}
    {handle : HandlePtr} (h : Private s t' mutex handle dying)
    (hdying : ∀ a, dying = some a → ∃ c, s.children a = some c) :
    Private s' t' mutex handle dying where
  mutex a := (hf.mutex t' hne a).trans (h.mutex a)
  handle := (hf.handle t' hne).trans h.handle
  dying a c' hc' := by
    constructor
    · intro hdeleter
      obtain ⟨c, hc, hd⟩ := hf.deleter t' hne a c' hc' hdeleter
      exact (h.dying a c hc).mp hd
    · intro ha
      obtain ⟨c, hc⟩ := hdying a ha
      have hd : c.deleter = some t' := (h.dying a c hc).mpr ha
      have hkeep := hf.children a c hc (.inr ⟨t', hne, hd⟩)
      rw [hc'] at hkeep
      rw [Option.some.inj hkeep, hd]

omit [NativeApi] in
theorem quiet (hf : Frame t op s s') (hne : t' ≠ t) (h : Quiet s t') : Quiet s' t' where
  own := hf.own hne h.own nofun
  dev := (hf.dev_temp t' hne).trans h.dev
  child := (hf.child_temp t' hne).trans h.child

theorem stageOk (hf : Frame t op s s') (hne : t' ≠ t) {x : PublicOp}
    {q : Stage} (h : StageOk s t' op' x q) : StageOk s' t' op' x q := by
  have hdev := hf.dev_temp t' hne
  have hchild := hf.child_temp t' hne
  cases q with
  | working | scanned | droppingChild | done =>
    simpa only [StageOk, hdev, hchild] using h
  | droppingDevice => simpa only [StageOk, hdev, hchild] using h
  | building d =>
    obtain ⟨htemp, hnone, hsheds, hhandle⟩ := h
    have htemp' := hdev.trans htemp
    exact ⟨htemp', hchild.trans hnone, hsheds,
      hhandle.trans (hf.state d.addr ⟨_, htemp⟩ ⟨_, htemp'⟩).symm⟩
  | making a initialised =>
    obtain ⟨htemp, hmine, hsole, target, c, htarget, hmember, hc, hrest⟩ := h
    have hc' := hf.children a c hc (.inl ⟨.temp t', by simpa using hne, hmine⟩)
    have hmember' := hf.member a (by simp [hc]) (by simp [hc'])
    exact ⟨hdev.trans htemp, hchild.trans hmine,
      fun hshared => hsole (hf.sole t' hne a ⟨_, hmine⟩ hshared),
      target, c, htarget, hmember'.trans hmember, hc', hrest⟩
  | ending a kind closed =>
    obtain ⟨htemp, hnone, c, hc, hdeleter, hkind, hlast⟩ := h
    have hc' := hf.children a c hc (.inr ⟨t', hne, hdeleter⟩)
    have hmember' := hf.member a (by simp [hc]) (by simp [hc'])
    exact ⟨hdev.trans htemp, hchild.trans hnone, c, hc', hdeleter, hkind, hmember' ▸ hlast⟩
  | closing d =>
    obtain ⟨htemp, hnone, hsheds, hhandle, hdead, hlt⟩ := h
    exact ⟨hdev.trans htemp, hchild.trans hnone, hsheds, hhandle, hf.dead _ hlt hdead,
      Nat.lt_of_lt_of_le hlt hf.next⟩
  | deleting d =>
    obtain ⟨htemp, hnone, hsheds, hdead, hlt⟩ := h
    exact ⟨hdev.trans htemp, hchild.trans hnone, hsheds, hf.dead _ hlt hdead,
      Nat.lt_of_lt_of_le hlt hf.next⟩

/-- **The frame rule**: the step of one thread keeps what is known of the others. -/
theorem attached (hf : Frame t op s s') (hs : StoreOk s) (hne : t' ≠ t)
    (hcompat : op.Compatible op') {q : Position} {handle : HandlePtr}
    (h : Attached s t' op' q handle) : Attached s' t' op' q handle where
  own := by
    refine hf.own hne h.own fun a ha => ?_
    have hstage := h.stage
    cases hq : q.stage with
    | ending b kind closed =>
      rw [hq] at hstage ha
      cases ha
      obtain ⟨-, -, c, hc, -⟩ := hstage
      exact ⟨c, hc⟩
    | _ =>
      rw [hq] at ha
      cases ha
  resolve hearly := (hf.resolve_eq hs hcompat).trans (h.resolve hearly)
  typed hearly := hf.typed hcompat (h.typed hearly)
  stage := hf.stageOk hne h.stage

end Frame

end EasyMcp2221
