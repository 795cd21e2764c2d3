import EasyMcp2221.System.Relocation

/-!
# The invariant holds in every reachable configuration

The steps put together: what a call works with, where each permitted effect lands, and
the discipline that carries the invariant through every interleaving.
-/

namespace EasyMcp2221

open Effect

variable {T : Type} [NativeApi] {t : T} {op : Op} {s s' : Store T} {q : Position}
  {x : PublicOp} {handle : HandlePtr}

/-! ## What an operation works on -/

omit [NativeApi] in
/-- The device that an operation finds through its object lives. -/
theorem Op.target_live {target : Target} (hresolve : op.resolve s = x)
    (htarget : x.target = some target) :
    ∃ a, target.device = s.deviceState a ∧ Owned s.dev a := by
  have hdevice : ∀ v d, s.deviceSelf v = some d → ∃ a, d = s.deviceState a ∧ Owned s.dev a := by
    intro v d hd
    obtain ⟨a, ha, rfl⟩ := Option.map_eq_some_iff.mp hd
    exact ⟨a, rfl, ⟨_, ha⟩⟩
  have hmember : ∀ b d, s.memberDevice b = some d → ∃ a, d = s.deviceState a ∧ Owned s.dev a := by
    intro b d hd
    obtain ⟨a, ha, rfl⟩ := Option.map_eq_some_iff.mp hd
    exact ⟨a, rfl, ⟨_, ha⟩⟩
  subst hresolve
  cases op with
  | device v | i2cDevice v | smbusDevice v | gpioPoller v =>
    obtain ⟨d, hd, rfl⟩ := Option.map_eq_some_iff.mp htarget
    exact hdevice v d hd
  | i2c v | smbus v | poller v =>
    obtain ⟨child, hchild, htarget⟩ := Option.bind_eq_some_iff.mp htarget
    obtain ⟨d, hd, rfl⟩ := Option.map_eq_some_iff.mp htarget
    obtain ⟨b, -, rfl⟩ := Option.map_eq_some_iff.mp hchild
    exact hmember b d hd
  | _ => cases htarget

omit [NativeApi] in
/-- The struct of an operation is the one that its object points to. -/
theorem Op.struct_of_target {y : DataCall} {target : Target} {a : Addr}
    (hresolve : op.resolve s = .data y) (htarget : y.target = some target)
    (hstruct : target.struct = some a) :
    ∃ v, op.childVar = some v ∧ op.reads = [v] ∧ s.child (.wrapper v) = some a ∧
      s.memberDevice a = some target.device := by
  cases op with
  | device v op =>
    cases hresolve
    obtain ⟨d, -, rfl⟩ := Option.map_eq_some_iff.mp htarget
    cases hstruct
  | i2c v | smbus v | poller v =>
    cases hresolve
    obtain ⟨child, hchild, htarget⟩ := Option.bind_eq_some_iff.mp htarget
    obtain ⟨d, hd, rfl⟩ := Option.map_eq_some_iff.mp htarget
    obtain ⟨b, hb, rfl⟩ := Option.map_eq_some_iff.mp hchild
    cases hstruct
    exact ⟨v, rfl, rfl, hb, hd⟩
  | _ => cases hresolve

/-- The device state whose mutex an operation may lock lives, and it has its handle. -/
theorem Attached.device_live (hs : StoreOk s) (h : Attached s t op q handle) {d : DeviceState}
    (hdevice : q.device = some d) :
    d.handle = s.handles (.state d.addr) ∧ ∃ hd, s.handles (.state d.addr) = some hd := by
  have htarget : ∀ stage : Stage, op.sheds = false ∨ stage = .working → q.stage = stage →
      q.call.target.map Target.device = some d →
      d.handle = s.handles (.state d.addr) ∧ ∃ hd, s.handles (.state d.addr) = some hd := by
    rintro stage hsame rfl htarget
    obtain ⟨target, hx, rfl⟩ := Option.map_eq_some_iff.mp htarget
    obtain ⟨a, hd, howned⟩ := op.target_live (h.resolve hsame) hx
    rw [hd]
    exact ⟨rfl, (hs.devices.owned a).mp howned⟩
  have hstage := h.stage
  cases hq : q.stage with
  | working => exact htarget _ (.inr rfl) hq (by rw [Position.device, hq] at hdevice; exact hdevice)
  | building d' =>
    rw [Position.device, hq] at hdevice
    cases hdevice
    rw [hq] at hstage
    obtain ⟨htemp, -, -, hhandle⟩ := hstage
    exact ⟨hhandle, (hs.devices.owned _).mp ⟨_, htemp⟩⟩
  | making a initialised =>
    rw [hq] at hstage
    obtain ⟨-, -, -, -, c, -, -, -, hkind, -⟩ := hstage
    exact htarget _ (.inl (op.sheds_of_factory (by simp [hkind]))) hq
      (by rw [Position.device, hq] at hdevice; exact hdevice)
  | droppingChild =>
    rw [Position.device, hq] at hdevice
    rw [hq] at hstage
    obtain ⟨-, ⟨-, hnone⟩ | ⟨hkind, -⟩⟩ := hstage
    · rw [Stage.device, hnone] at hdevice
      cases hdevice
    · exact htarget _ (.inl (op.sheds_of_factory hkind)) hq hdevice
  | _ =>
    rw [Position.device, hq] at hdevice
    cases hdevice

theorem Op.IsInit.dev {d : DeviceState} {a : Addr} {c : NativeCall} (h : op.IsInit d a c) :
    c.dev? = some d.handle := by
  cases op with
  | i2cDevice =>
    obtain ⟨width, order, -, -, rfl⟩ := h
    rfl
  | smbusDevice =>
    obtain rfl := h
    rfl
  | _ => exact h.elim

/-- The calls of a poller get the handle as an argument. -/
theorem PollerOp.dev_of_request {self : Option GpioPollerState} {op : PollerOp}
    {req : Request op.Ret} {c : NativeCall} (hrequest : (DataCall.poller self op).request = .ok req)
    (heffect : req.effect = .call c) : c.dev? ≠ none := by
  obtain _ | ⟨poll, _ | d⟩ := self
  · cases hrequest
  · cases hrequest
  · cases op <;> cases hrequest <;> cases heffect <;> exact Option.some_ne_none _

/-- The position of a thread that makes a call: it holds the mutex of the device whose
    handle the call works with. -/
theorem Attached.accesses (hs : StoreOk s) (h : Attached s t op q handle) {c : NativeCall}
    (hpermits : q.Permits op (.call c)) {dev : HandlePtr} (hdev : s.accesses c = some dev) :
    ∃ d hd, q.device = some d ∧ q.held = true ∧ dev = some hd ∧
      s.handles (.state d.addr) = some hd := by
  have hlive : ∀ d, q.device = some d → q.held = true → dev = d.handle →
      ∃ d hd, q.device = some d ∧ q.held = true ∧ dev = some hd ∧
        s.handles (.state d.addr) = some hd := by
    rintro d hdevice hheld rfl
    obtain ⟨hhandle, hd, hd'⟩ := h.device_live hs hdevice
    exact ⟨d, hd, hdevice, hheld, hhandle.trans hd', hd'⟩
  cases hpermits with
  | @call y target req c htarget hserves hrequest heffect =>
    have hdevice : (⟨.data y, .working, true⟩ : Position).device = some target.device :=
      congrArg (Option.map Target.device) htarget
    refine hlive target.device hdevice rfl ?_
    obtain ⟨-, hstruct, hserved⟩ := hserves
    cases hc : c.dev? with
    | some dev' =>
      have heq : dev' = target.device.handle := by
        cases hs : target.struct with
        | none =>
          rw [hs, hc] at hserved
          exact Option.some.inj hserved
        | some a =>
          rw [hs, hc] at hserved
          exact Option.some.inj (hserved.resolve_left nofun)
      rw [Store.accesses, hc] at hdev
      exact (Option.some.inj hdev).symm.trans heq
    | none =>
      -- the struct of the child works with the handle that it was bound to
      obtain ⟨a, ha⟩ : ∃ a, target.struct = some a := by
        cases hs : target.struct with
        | none =>
          rw [hs, hc] at hserved
          cases hserved
        | some a => exact ⟨a, rfl⟩
      have hresolve := h.resolve (.inr rfl)
      obtain ⟨v, -, hreads, hv, hmember⟩ := Op.struct_of_target hresolve htarget ha
      obtain ⟨child, hchild, hclass, hbound⟩ := hs.wrappers.child v a hv
      obtain ⟨d, hd, hbirth⟩ := hs.children.member a child hchild
      rw [Store.memberDevice, hd, Option.map_some, Option.some_inj] at hmember
      have hhandle : child.birth.handle = target.device.handle := by
        rw [← hmember]
        exact hbirth.symm
      rw [Store.accesses, hc, hstruct, ha, Option.bind_some, hchild, Option.map_some,
        Option.some_inj] at hdev
      rw [← hdev, ← hhandle]
      cases hkind : child.kind with
      | i2c =>
        rw [Child.Bound, hkind] at hbound
        obtain ⟨width, order, -, -, hslave⟩ := hbound
        rw [Child.boundHandle, hkind]
        simp only [hslave]
      | smbus =>
        rw [Child.Bound, hkind] at hbound
        rw [Child.boundHandle, hkind]
        exact hbound.1
      | poller =>
        have htyped := h.typed rfl
        cases op with
        | poller u =>
          cases hresolve
          exact absurd hc (PollerOp.dev_of_request hrequest heffect)
        | device u | i2c u | smbus u =>
          obtain ⟨rfl⟩ := hreads
          rw [show s.wrappers v = _ from htyped, hkind] at hclass
          cases hclass
        | _ => cases hresolve
  | openScan => cases hdev
  | @setUp _ d c hc hstruct =>
    refine hlive d rfl rfl ?_
    rw [Store.accesses, hc] at hdev
    exact (Option.some.inj hdev).symm
  | @initChild _ target a c htarget hinit =>
    refine hlive target.device (congrArg (Option.map Target.device) htarget) rfl ?_
    rw [Store.accesses, hinit.dev] at hdev
    exact (Option.some.inj hdev).symm

/-! ## Where each effect lands -/

variable [DecidableEq T]

/-- The effect closes a handle. -/
def Eff.closes : Eff → Bool
  | .proc (.close _) => true
  | _ => false

/-- What the thread will still close while it is inside the effect. -/
def Position.handleIn (q : Position) (e : Eff) : HandlePtr :=
  if e.closes then none else q.stage.handle

/-- A call that neither opens nor initialises anything changes poll structs at most. -/
theorem callEnds_poll {c : NativeCall} {reply : c.Reply}
    (htouches : c.dev? ≠ none ∨ c.struct? ≠ none) (hinit : c.initialises = false)
    (hends : s.callEnds t c reply s') : ∃ poll, s' = { s with poll } := by
  cases c with
  | openScan => simp [NativeCall.dev?, NativeCall.struct?] at htouches
  | i2cSlaveInit | smbusInit => cases hinit
  | gpioPoll | gpioPollEvents => exact ⟨_, hends⟩
  | _ => exact ⟨s.poll, hends⟩

theorem enters_lands {e : Eff} (hs : StoreOk s) (h : Attached s t op q q.stage.handle)
    (hpermits : q.Permits op e) :
    Lands t op s (Store.enters t op s e) q (q.handleIn e) := by
  have hcall : ∀ c, q.Permits op (.call c) →
      Lands t op s (Store.enters t op s (.call c)) q q.stage.handle := fun c hc =>
    enterCall_lands hs h fun dev hdev => by
      obtain ⟨d, hd, -, -, rfl, hd'⟩ := h.accesses hs hc hdev
      exact ⟨hd, rfl, _, hd'⟩
  cases hpermits with
  | call htarget hserves hrequest heffect =>
    exact hcall _ (.call htarget hserves hrequest heffect)
  | openScan hop => exact hcall _ (.openScan hop)
  | setUp hdev hstruct => exact hcall _ (.setUp hdev hstruct)
  | initChild htarget hinit => exact hcall _ (.initChild htarget hinit)
  | guardClose =>
    obtain ⟨-, -, hsheds⟩ := h.stage
    exact closing_lands hs h hsheds (.inl rfl)
  | @close x d =>
    obtain ⟨-, -, hsheds, hhandle, -⟩ := h.stage
    obtain ⟨hd, hd'⟩ := Option.ne_none_iff_exists'.mp hhandle
    have hmine : Attached s t op ⟨x, .closing d, false⟩ (some hd) := hd' ▸ h
    have hlands := closing_lands hs hmine hsheds (.inr ⟨d, rfl⟩)
    rw [← hd'] at hlands
    exact hlands
  | smbusClose => exact enterSmbusClose_lands hs h _
  | _ => exact Lands.refl hs h

/-- What a step must show: its reply is one that the operation relies on, and it lands at
    the next position. -/
def LeavesWell (t : T) (op : Op) (s s' : Store T) (q : Position) (e : Eff) (r : e.Reply) : Prop :=
  Position.Relies e r ∧ Lands t op s s' (q.next e r) (q.next e r).stage.handle

/-- The release of the local device pointer. -/
theorem releaseDevice_leaves {stage : Stage} (hs : StoreOk s)
    (h : Attached s t op ⟨x, stage, false⟩ none) (hdying : stage.dying = none)
    (hchild : s.child (.temp t) = none) (hcause : ReleaseCause s t op x)
    (hnext : ∀ last, stage.next x (.own .releaseDevice) last = (last.map Stage.closing).getD .done)
    {last : Option DeviceState} (hleave : s.ownEnds t op .releaseDevice last s') :
    LeavesWell t op s s' ⟨x, stage, false⟩ (.own .releaseDevice) last := by
  have hstep : Position.next ⟨x, stage, false⟩ (.own .releaseDevice) last =
      ⟨x, (last.map Stage.closing).getD .done, false⟩ :=
    congrArg (Position.mk x · false) (hnext last)
  rw [LeavesWell, hstep]
  obtain ⟨rfl, hshared, rfl⟩ | ⟨a, ha, hlast, rfl, rfl⟩ := hleave
  · exact ⟨nofun, releaseShared_lands hs h hdying hchild hcause hshared⟩
  · obtain ⟨hd, hhandle, hlands⟩ := releaseLast_lands hs h hdying hchild hcause ha hlast
    refine ⟨fun d hd' => ?_, ?_⟩
    · cases hd'
      simp [Store.deviceState, hhandle]
    · simp only [Option.map_some, Option.getD_some, Stage.handle, Store.deviceState, hhandle]
      simp only [Store.deviceState, hhandle] at hlands
      exact hlands

/-- The release of the local child pointer. -/
theorem releaseChild_leaves {stage : Stage} (hs : StoreOk s)
    (h : Attached s t op ⟨x, stage, false⟩ none) (hdying : stage.dying = none)
    (hdev : s.dev (.temp t) = none)
    (hcause : op.sheds = true ∨ op.childKind ≠ none)
    (hcause' : ∀ a c, s.child (.temp t) = some a → s.children a = some c →
      op.sheds = true ∨ op.childKind = some c.kind ∧
        ∃ target, x.target = some target ∧ s.dev (.member a) = some target.device.addr)
    (hnext : ∀ last, stage.next x (.own .releaseChild) last =
      (last.map fun c => Stage.ending c.1 c.2 false).getD .done)
    {last : Option (Addr × ChildKind)} (hleave : s.ownEnds t op .releaseChild last s') :
    LeavesWell t op s s' ⟨x, stage, false⟩ (.own .releaseChild) last := by
  have hstep : Position.next ⟨x, stage, false⟩ (.own .releaseChild) last =
      ⟨x, (last.map fun c => Stage.ending c.1 c.2 false).getD .done, false⟩ :=
    congrArg (Position.mk x · false) (hnext last)
  rw [LeavesWell, hstep]
  obtain ⟨rfl, hshared, rfl⟩ | ⟨a, c, ha, hlast, hc, rfl, rfl⟩ := hleave
  · exact ⟨trivial, releaseSharedChild_lands hs h hdying hdev hcause hshared⟩
  · exact ⟨trivial, releaseLastChild_lands hs h hdying hdev ha hlast hc (hcause' a c ha hc)⟩

/-- The end of the call that initialises a child. -/
theorem initChild_leaves {target : Target} {a : Addr} {c : NativeCall} {reply : c.Reply}
    (hs : StoreOk s) (h : Attached s t op ⟨x, .making a false, true⟩ none)
    (htarget : x.target = some target) (hinit : op.IsInit target.device a c)
    (hleave : s.callEnds t c reply s') :
    Lands t op s s' ⟨x, .making a (decide (reply.status = err .ok)), true⟩ none := by
  obtain ⟨-, -, -, target', child, htarget', -, hchild, hkind, hbirth, haddress, -⟩ := h.stage
  obtain rfl : target' = target := Option.some.inj (htarget'.symm.trans htarget)
  cases op with
  | i2cDevice v dst address options =>
    obtain ⟨width, order, hwidth, horder, rfl⟩ := hinit
    obtain ⟨slave, hslave, rfl⟩ := hleave
    have hkind' : child.kind = .i2c := (Option.some.inj hkind).symm
    simp only [Store.setChild, hchild, Option.map_some]
    refine initChild_lands hs h hchild
      (show ({ child with slave } : Child T).kind = child.kind from rfl) rfl rfl rfl
      (hs.children.bus a child hchild) fun hok => ?_
    rw [Child.Bound, hkind']
    refine ⟨width, order, ?_, ?_, (hslave (of_decide_eq_true hok)).trans ?_⟩
    · simp only [hbirth]
      exact hwidth
    · simp only [hbirth]
      exact horder
    · simp only [hbirth]
      rfl
  | smbusDevice v dst address =>
    obtain rfl := hinit
    obtain ⟨bus, hbus, hborrows, rfl⟩ := hleave
    have hkind' : child.kind = .smbus := (Option.some.inj hkind).symm
    simp only [Store.setChild, hchild, Option.map_some]
    refine initChild_lands hs h hchild
      (show ({ child with bus } : Child T).kind = child.kind from rfl) rfl rfl rfl ?_
      fun hok => ?_
    · simp only [hbirth]
      exact hborrows
    · rw [Child.Bound, hkind']
      simp only [hbirth]
      exact ⟨hbus (of_decide_eq_true hok), haddress⟩
  | _ => exact hinit.elim

/-- The first step of an operation on wrapper objects. -/
theorem relocation_ends {o : Own} {r : o.Reply} (hop : op.relocation = some o)
    (hleave : s.ownEnds t op o r s') :
    s' = { s with
      dev := relocate o t s.dev
      child := relocate o t s.child
      wrappers := retype o s.wrappers } ∧ Stage.working.next x (.own o) r = x.dropping := by
  cases op <;> cases hop <;> exact ⟨hleave, rfl⟩

theorem leaves_lands {e : Eff} {r : e.Reply} (hs : StoreOk s)
    (h : Attached s t op q (q.handleIn e)) (hpermits : q.Permits op e)
    (hleave : s.leaves t op e r s') : LeavesWell t op s s' q e r := by
  cases hpermits with
  | alloc =>
    obtain rfl := hleave
    have hsame : q.next .alloc r = q := by
      obtain ⟨call, stage, held⟩ := q
      cases stage <;> rfl
    rw [LeavesWell, hsame]
    exact ⟨trivial, Lands.refl hs h⟩
  | lock hdevice hfree =>
    obtain ⟨hnone, rfl⟩ := hleave
    exact ⟨trivial, lock_lands hs h hdevice hfree hnone⟩
  | unlock hdevice hheld =>
    obtain rfl := hleave
    exact ⟨trivial, unlock_lands hs h hdevice hheld⟩
  | @call y target req c htarget hserves =>
    have hnone := openedHandle_eq_none r hserves.touches
    have hstep : (⟨.data y, .working, true⟩ : Position).next (.call c) r =
        ⟨.data y, .working, true⟩ := by
      simp only [Position.next, Stage.next, hnone]
    rw [LeavesWell, hstep]
    obtain ⟨poll, rfl⟩ := callEnds_poll hserves.touches hserves.1 hleave
    refine ⟨?_, poll_lands hs h poll⟩
    cases c with
    | openScan => exact absurd hserves.touches (by simp [NativeCall.dev?, NativeCall.struct?])
    | _ => trivial
  | setMask =>
    obtain rfl := hleave
    exact ⟨trivial, poll_lands hs h _⟩
  | @openScan x w options vid pid index serial timeout retries debug trace scan hop =>
    by_cases hok : r.status = err .ok
    · obtain ⟨hd, hout, hnew, rfl⟩ := (if_pos hok).mp hleave
      have hstep : (⟨x, .working, false⟩ : Position).next
          (.call (.openScan vid pid index serial timeout retries debug trace scan)) r =
          ⟨x, .scanned hd, false⟩ := by
        simp only [Position.next, Stage.next, Store.openedHandle, if_pos hok, hout]
      rw [LeavesWell, hstep]
      exact ⟨fun _ => by simp [hout], opened_lands hs h hop hnew⟩
    · obtain rfl := (if_neg hok).mp hleave
      have hstep : (⟨x, .working, false⟩ : Position).next
          (.call (.openScan vid pid index serial timeout retries debug trace scan)) r =
          ⟨x, .working, false⟩ := by
        simp only [Position.next, Stage.next, Store.openedHandle, if_neg hok]
      rw [LeavesWell, hstep]
      exact ⟨fun hok' => absurd hok' hok, Lands.refl hs h⟩
  | makeDeviceState =>
    obtain ⟨rfl, rfl⟩ := hleave
    exact ⟨trivial, makeDeviceState_lands hs h⟩
  | guardClose =>
    obtain rfl := hleave
    obtain ⟨hdev, hchild, hsheds⟩ := h.stage
    exact ⟨trivial, done_lands hs h rfl hdev hchild hsheds⟩
  | @setUp x d c hdev hstruct =>
    obtain rfl : s' = s := by
      cases c with
      | openScan => cases hdev
      | i2cSlaveInit | smbusInit | gpioPoll | gpioPollEvents => cases hstruct
      | _ => exact hleave
    refine ⟨?_, Lands.refl hs h⟩
    cases c with
    | openScan => cases hdev
    | _ => trivial
  | commitDevice hop =>
    obtain rfl := hleave
    exact ⟨trivial, commitDevice_lands hs hop h⟩
  | releaseNew =>
    obtain ⟨-, hchild, hsheds, -⟩ := h.stage
    exact releaseDevice_leaves hs h rfl hchild (.inl hsheds) (fun _ => rfl) hleave
  | makeChild hkind htarget haddress =>
    obtain ⟨rfl, rfl⟩ := hleave
    exact ⟨trivial, makeChild_lands hs h hkind htarget haddress⟩
  | @initChild x target a c htarget hinit =>
    refine ⟨?_, initChild_leaves hs h htarget hinit hleave⟩
    cases c with
    | openScan => cases hinit.dev
    | _ => trivial
  | @initPoller x a hkind =>
    obtain rfl := hleave
    obtain ⟨hdev, hmine, hsole, target, c, htarget, hmember, hc, hkind', hrest⟩ := h.stage
    have hbound : c.Bound := by
      have hpoller : c.kind = .poller := Option.some.inj (hkind'.symm.trans hkind)
      rw [Child.Bound, hpoller]
      trivial
    have h' : Attached s t op ⟨x, .making a true, false⟩ none :=
      ⟨⟨h.own.mutex, h.own.handle, h.own.dying⟩,
        fun _ => h.resolve (.inl (op.sheds_of_factory (by simp [hkind]))),
        fun _ => h.typed rfl, hdev, hmine, hsole, target, c, htarget, hmember, hc, hkind',
        hrest.1, hrest.2.1, fun _ => hbound⟩
    obtain ⟨hstore, hown, hframe⟩ := poll_lands hs h' _
    exact ⟨trivial, hstore, hown, hframe⟩
  | commitChild hdst hkind =>
    obtain rfl := hleave
    exact ⟨trivial, commitChild_lands hs hdst hkind h⟩
  | @releaseMade x a initialised =>
    obtain ⟨hdev, hmine, -, target, c, htarget, hmember, hc, hkind, -⟩ := h.stage
    refine releaseChild_leaves hs h rfl hdev (.inr (by simp [hkind])) ?_ (fun _ => rfl) hleave
    intro a' c' ha' hc'
    obtain rfl : a = a' := Option.some.inj (hmine.symm.trans ha')
    obtain rfl : c = c' := Option.some.inj (hc.symm.trans hc')
    exact .inr ⟨hkind, target, htarget, hmember⟩
  | @relocate x o hop =>
    obtain ⟨rfl, hnext⟩ := relocation_ends hop hleave (x := x)
    have hstep : (⟨x, .working, false⟩ : Position).next (.own o) r = ⟨x, x.dropping, false⟩ :=
      congrArg (Position.mk x · false) hnext
    obtain rfl : op.resolve s = x := h.resolve (.inr rfl)
    have hhandle : (op.resolve s).dropping.handle = none := by
      obtain ⟨-, hq | hq⟩ | ⟨hq, -⟩ := op.dropping_cases (s := s) hop <;> rw [hq] <;> rfl
    rw [LeavesWell, hstep, hhandle]
    refine ⟨?_, relocate_lands hs h hop⟩
    cases op <;> cases hop <;> trivial
  | releaseChild =>
    obtain ⟨hdev, hcause⟩ := h.stage
    refine releaseChild_leaves hs h rfl hdev (hcause.imp And.left And.left) ?_ (fun _ => rfl)
      hleave
    intro a c ha hc
    obtain ⟨hsheds, -⟩ | ⟨-, hnone⟩ := hcause
    · exact .inl hsheds
    · rw [hnone] at ha
      cases ha
  | smbusClose =>
    obtain rfl := hleave
    exact ⟨trivial, smbusClosed_lands hs h⟩
  | deleteChild =>
    obtain rfl := hleave
    exact ⟨trivial, deleteChild_lands hs h⟩
  | releaseDevice =>
    obtain ⟨hchild, hcause⟩ := h.stage
    exact releaseDevice_leaves hs h rfl hchild hcause (fun _ => rfl) hleave
  | close =>
    obtain rfl := hleave
    exact ⟨trivial, closed_lands hs h⟩
  | deleteDevice =>
    obtain rfl := hleave
    obtain ⟨hdev, hchild, hsheds, -⟩ := h.stage
    exact ⟨trivial, done_lands hs h rfl hdev hchild hsheds⟩

/-! ## Every interleaving -/

/-- What is known of a thread in each phase. -/
def PhaseOk (s : Store T) (t : T) : Phase Eff Op Position → Prop
  | .idle => Quiet s t
  | .ready op q => Attached s t op q q.stage.handle
  | .busy op q e => Attached s t op q (q.handleIn e)

/-- The invariant of the system. -/
structure SystemOk (s : Store T) (g : T → Phase Eff Op Position) : Prop where
  store : StoreOk s
  phase : ∀ t, PhaseOk s t (g t)
  compatible : ∀ t t' op op', t' ≠ t → (g t).op? = some op → (g t').op? = some op' →
    op.Compatible op'

omit [DecidableEq T] in
theorem StoreOk.empty : StoreOk (Store.empty : Store T) := by
  have hnone : ∀ {X Y : Type} (y : Y), ¬ Owned (fun _ : X => (none : Option Y)) y := by
    rintro X Y y ⟨x, hx⟩
    cases hx
  refine ⟨⟨fun a => ?_, ?_, fun a ha => absurd ha (hnone a)⟩,
    ⟨fun a => ?_, ?_, ?_, fun _ _ => rfl, ?_, ?_⟩, ⟨?_, ?_⟩, ⟨legal_nil, fun h => ?_⟩⟩
  · refine iff_of_false (hnone a) ?_
    rintro ⟨h, hh⟩
    cases hh
  · intro x x' y hx
    cases hx
  · refine iff_of_false (hnone a) ?_
    rintro ⟨c, hc, -⟩
    cases hc
  · intro a c hc
    cases hc
  · intro a c hc
    cases hc
  · intro a c hc
    cases hc
  · intro a c hc
    cases hc
  · intro v a ha
    cases ha
  · intro v a ha
    cases ha
  · refine iff_of_false ?_ (hnone h)
    rintro ⟨⟨t, ht⟩, -⟩
    cases ht

omit [DecidableEq T] in
theorem SystemOk.empty : SystemOk (Store.empty : Store T) fun _ => .idle := by
  refine ⟨StoreOk.empty, fun t => ⟨⟨fun a => ?_, rfl, fun a c hc => ?_⟩, rfl, rfl⟩, ?_⟩
  · exact iff_of_false (fun h => by cases h) fun h => by cases h
  · cases hc
  · intro t t' op op' _ hop
    cases hop

/-- A step of one thread that lands keeps the invariant. -/
theorem SystemOk.step {g : T → Phase Eff Op Position} (h : SystemOk s g)
    (hop : (g t).op? = some op) {ph : Phase Eff Op Position} (hop' : ph.op? = some op)
    (hstore : StoreOk s') (hphase : PhaseOk s' t ph) (hframe : Frame t op s s') :
    SystemOk s' (Function.update g t ph) where
  store := hstore
  phase t' := by
    by_cases ht : t' = t
    · subst ht
      rw [Function.update_self]
      exact hphase
    · rw [Function.update_of_ne ht]
      have hother := h.phase t'
      cases hg : g t' with
      | idle =>
        rw [hg] at hother
        exact hframe.quiet ht hother
      | ready op' q =>
        rw [hg] at hother
        exact hframe.attached h.store ht
          (h.compatible t t' op op' ht hop (by rw [hg, Phase.op?_ready])) hother
      | busy op' q e =>
        rw [hg] at hother
        exact hframe.attached h.store ht
          (h.compatible t t' op op' ht hop (by rw [hg, Phase.op?_busy])) hother
  compatible t₁ t₂ op₁ op₂ hne h₁ h₂ := by
    have hsame : ∀ u, (Function.update g t ph u).op? = (g u).op? := by
      intro u
      by_cases hu : u = t
      · rw [hu, Function.update_self, hop, hop']
      · rw [Function.update_of_ne hu]
    rw [hsame] at h₁ h₂
    exact h.compatible t₁ t₂ op₁ op₂ hne h₁ h₂

omit [DecidableEq T] in
/-- An idle thread may take up an operation on objects of the right classes. -/
theorem Quiet.attached (h : Quiet s t) (htyped : op.Typed s) :
    Attached s t op ⟨op.resolve s, .working, false⟩ none :=
  ⟨h.own, fun _ => rfl, fun _ => htyped, h.dev, h.child⟩

omit [DecidableEq T] in
/-- A thread that has ended its operation owns nothing. -/
theorem Attached.quiet (h : Attached s t op q q.stage.handle) (hfinal : q.Final) : Quiet s t := by
  obtain ⟨call, stage, held⟩ := q
  obtain ⟨hstage, rfl⟩ := hfinal
  cases stage with
  | working => exact ⟨h.own, h.stage.1, h.stage.2⟩
  | done => exact ⟨h.own, h.stage.1, h.stage.2⟩
  | _ => cases hstage

/-- The discipline that every operation keeps to, and the invariant it carries. -/
def systemDiscipline (T : Type) [DecidableEq T] :
    Discipline (system T) (Store.empty : Store T) Position where
  protocol := session
  initial s op := ⟨op.resolve s, .working, false⟩
  done _ q := q.Final
  Inv := SystemOk
  init := .empty
  start s g t op h hidle hcan := by
    obtain ⟨htyped, hcompat⟩ := hcan
    have hquiet := h.phase t
    rw [hidle] at hquiet
    refine ⟨op.prog_session s, h.store, fun t' => ?_,
      fun t₁ t₂ op₁ op₂ hne h₁ h₂ => ?_⟩
    · by_cases ht : t' = t
      · subst ht
        rw [Function.update_self]
        exact hquiet.attached htyped
      · rw [Function.update_of_ne ht]
        exact h.phase t'
    · by_cases ht₁ : t₁ = t
      · subst ht₁
        rw [Function.update_self, Phase.op?_ready, Option.some_inj] at h₁
        rw [Function.update_of_ne hne] at h₂
        exact h₁ ▸ hcompat t₂ op₂ hne h₂
      · rw [Function.update_of_ne ht₁] at h₁
        by_cases ht₂ : t₂ = t
        · subst ht₂
          rw [Function.update_self, Phase.op?_ready, Option.some_inj] at h₂
          exact h₂ ▸ (hcompat t₁ op₁ ht₁ h₁).symm
        · rw [Function.update_of_ne ht₂] at h₂
          exact h.compatible t₁ t₂ op₁ op₂ hne h₁ h₂
  enter s g t op q e h hready hallow := by
    have hmine := h.phase t
    rw [hready] at hmine
    obtain ⟨hstore, hown, hframe⟩ := enters_lands h.store hmine hallow
    exact h.step (by rw [hready, Phase.op?_ready]) (Phase.op?_busy op q e) hstore hown hframe
  leave s g t op q e r s' h hbusy hallow hleave := by
    have hmine := h.phase t
    rw [hbusy] at hmine
    obtain ⟨hrelies, hstore, hown, hframe⟩ := leaves_lands h.store hmine hallow hleave
    exact ⟨hrelies, h.step (by rw [hbusy, Phase.op?_busy]) (Phase.op?_ready op _) hstore hown
      hframe⟩
  stop s g t op q h hready hfinal := by
    have hmine := h.phase t
    rw [hready] at hmine
    refine ⟨h.store, fun t' => ?_, fun t₁ t₂ op₁ op₂ hne h₁ h₂ => ?_⟩
    · by_cases ht : t' = t
      · subst ht
        rw [Function.update_self]
        exact hmine.quiet hfinal
      · rw [Function.update_of_ne ht]
        exact h.phase t'
    · have hbusy : ∀ u op', (Function.update g t .idle u).op? = some op' →
          (g u).op? = some op' := by
        intro u op' hu
        by_cases hut : u = t
        · rw [hut, Function.update_self, Phase.op?_idle] at hu
          cases hu
        · rw [Function.update_of_ne hut] at hu
          exact hu
      exact h.compatible t₁ t₂ op₁ op₂ hne (hbusy t₁ op₁ h₁) (hbusy t₂ op₂ h₂)

/-- **Every reachable configuration is in order**, and every thread stands where its
    position says. -/
theorem system_reachable {c : (system T).Config} (h : (system T).Reachable Store.empty c) :
    ∃ g, SystemOk c.state g ∧ ∀ t, (systemDiscipline T).Tracks (c.threads t) (g t) :=
  (systemDiscipline T).reachable h

end EasyMcp2221
