import EasyMcp2221.System.Machine
import EasyMcp2221.Domain
import EasyMcp2221.Audit

/-!
# The discipline of one operation

Where an operation stands, what it may do there, and that the program of every
operation keeps to it.  `Position` holds the operation as it was resolved when it
started, its stage, and whether it holds the mutex; `Permits` lists the effects of
each stage, with the arguments they must have; `session` is the protocol of both.
-/

namespace EasyMcp2221

open Effect

/-! ## Stages -/

/-- How far an operation has got. -/
inductive Stage where
  /-- At work on the objects it found; it owns nothing. -/
  | working
  /-- The constructor has opened the handle, which `handleGuard` owns. -/
  | scanned (h : Handle)
  /-- The constructor works on the new `DeviceState`, which only `state` points to. -/
  | building (d : DeviceState)
  /-- A factory works on the new child, which only `child` points to. -/
  | making (child : Addr) (initialised : Bool)
  /-- The local child pointer is to be dropped. -/
  | droppingChild
  /-- The last pointer to a child is gone; `closed` tells whether its destructor body
      has run. -/
  | ending (child : Addr) (kind : ChildKind) (closed : Bool)
  /-- The local device pointer is to be dropped. -/
  | droppingDevice
  /-- The last pointer to a `DeviceState` is gone, and its handle is to be closed. -/
  | closing (d : DeviceState)
  | deleting (d : DeviceState)
  | done

/-- The device state and the struct that an operation works on. -/
def PublicOp.target : PublicOp → Option Target
  | .data x => x.target
  | .i2cDevice self _ _ _ => self.map fun d => ⟨d, none⟩
  | .smbusDevice self _ _ => self.map fun d => ⟨d, none⟩
  | .gpioPoller self _ => self.map fun d => ⟨d, none⟩
  | _ => none

/-- The stage in which the pointer that a wrapper object left behind is dropped. -/
def WrapperKind.dropping : WrapperKind → Stage
  | .device => .droppingDevice
  | .child _ => .droppingChild

/-- What follows the pointer operation with which an operation begins. -/
def PublicOp.dropping : PublicOp → Stage
  | .close _ => .droppingDevice
  | .destroy kind _ => kind.dropping
  | .moveAssign kind _ _ => kind.dropping
  | .copyAssign kind _ _ => kind.dropping
  | _ => .done

/-- The operations that may drop the last pointer to a `DeviceState`. -/
def Op.sheds : Op → Bool
  | .construct .. => true
  | .close _ => true
  | .destroy _ => true
  | .moveAssign .. => true
  | .copyAssign .. => true
  | _ => false

namespace Stage

/-- The `DeviceState` whose mutex the operation may lock. -/
def device (x : PublicOp) : Stage → Option DeviceState
  | working => x.target.map Target.device
  | building d => some d
  | making .. => x.target.map Target.device
  | droppingChild => x.target.map Target.device
  | _ => none

/-- The handle that the operation will close itself. -/
def handle : Stage → HandlePtr
  | scanned h => some h
  | closing d => d.handle
  | _ => none

/-- The child that the operation deletes. -/
def dying : Stage → Option Addr
  | ending child _ _ => some child
  | _ => none

/-- The operation has created no wrapper object yet and moved none. -/
def early : Stage → Bool
  | working => true
  | scanned _ => true
  | building _ => true
  | making .. => true
  | _ => false

/-- The stages in which an operation may end. -/
def final : Stage → Bool
  | working => true
  | done => true
  | _ => false

variable [NativeApi]

def next (x : PublicOp) : Stage → (e : Eff) → e.Reply → Stage
  | working, .call c, reply =>
    match Store.openedHandle c reply with
    | some h => scanned h
    | none => working
  | working, .own (.makeChild ..), a => making a false
  | working, .own _, _ => x.dropping
  | scanned h, .own (.makeDeviceState _), a => building ⟨a, some h⟩
  | scanned _, .proc _, _ => done
  | building _, .own (.commitDevice _), _ => droppingDevice
  | building _, .own .releaseDevice, last => (last.map closing).getD done
  | making a _, .call _, reply => making a (decide (reply.status = err .ok))
  | making a _, .proc _, _ => making a true
  | making _ _, .own (.commitChild ..), _ => droppingChild
  | making _ _, .own .releaseChild, last => (last.map fun c => ending c.1 c.2 false).getD done
  | droppingChild, .own .releaseChild, last => (last.map fun c => ending c.1 c.2 false).getD done
  | ending child kind _, .proc _, _ => ending child kind true
  | ending .., .own _, _ => droppingDevice
  | droppingDevice, .own .releaseDevice, last => (last.map closing).getD done
  | closing d, .proc _, _ => deleting d
  | deleting _, .own _, _ => done
  | q, _, _ => q

end Stage

/-! ## The protocol -/

/-- Where an operation stands. -/
structure Position where
  /-- The operation as it was resolved. -/
  call : PublicOp
  stage : Stage := .working
  /-- It holds the mutex of the device state of its stage. -/
  held : Bool := false

namespace Position

/-- The device state whose mutex the operation may lock. -/
def device (q : Position) : Option DeviceState := q.stage.device q.call

variable [NativeApi]

def next (q : Position) : (e : Eff) → e.Reply → Position
  | .lock _, _ => { q with held := true }
  | .unlock _, _ => { q with held := false }
  | e, r => { q with stage := q.stage.next q.call e r }

/-- The effects that an operation may perform. -/
inductive Permits (op : Op) : Position → Eff → Prop where
  | alloc (q : Position) : Permits op q .alloc
  | lock {q : Position} {d : DeviceState} (hdevice : q.device = some d) (hfree : q.held = false) :
      Permits op q (.lock d.addr)
  | unlock {q : Position} {d : DeviceState} (hdevice : q.device = some d) (hheld : q.held = true) :
      Permits op q (.unlock d.addr)
  -- data operations
  | call {x : DataCall} {target : Target} {req : Request x.Ret} {c : NativeCall}
      (htarget : x.target = some target) (hserves : c.Serves target)
      (hrequest : x.request = .ok req) (heffect : req.effect = .call c) :
      Permits op ⟨.data x, .working, true⟩ (.call c)
  | setMask {x : DataCall} {d : DeviceState} {a : Addr} {mask : UInt16}
      (htarget : x.target = some ⟨d, some a⟩) :
      Permits op ⟨.data x, .working, true⟩ (.proc (.gpioPollSetFilterMask a mask))
  -- the constructor
  | openScan {x : PublicOp} {w : Var} {options : DeviceOptions} {vendorId productId : UInt16}
      {deviceIndex : Int} {serial : Option String}
      {timeout retries debug trace scan : Int} (hop : op = .construct w options) :
      Permits op ⟨x, .working, false⟩
        (.call (.openScan vendorId productId deviceIndex serial timeout retries debug trace scan))
  | makeDeviceState {x : PublicOp} {h : Handle} :
      Permits op ⟨x, .scanned h, false⟩ (.own (.makeDeviceState (some h)))
  | guardClose {x : PublicOp} {h : Handle} :
      Permits op ⟨x, .scanned h, false⟩ (.proc (.close (some h)))
  | setUp {x : PublicOp} {d : DeviceState} {c : NativeCall} (hdev : c.dev? = some d.handle)
      (hstruct : c.struct? = none) : Permits op ⟨x, .building d, true⟩ (.call c)
  | commitDevice {x : PublicOp} {d : DeviceState} {w : Var} {options : DeviceOptions}
      (hop : op = .construct w options) :
      Permits op ⟨x, .building d, false⟩ (.own (.commitDevice w))
  | releaseNew {x : PublicOp} {d : DeviceState} :
      Permits op ⟨x, .building d, false⟩ (.own .releaseDevice)
  -- factories
  | makeChild {x : PublicOp} {target : Target} {kind : ChildKind} (hkind : op.childKind = some kind)
      (htarget : x.target = some target) (haddress : op.address ≤ constants.maxI2cAddress) :
      Permits op ⟨x, .working, false⟩ (.own (.makeChild kind target.device op.storedAddress))
  | initChild {x : PublicOp} {target : Target} {a : Addr} {c : NativeCall}
      (htarget : x.target = some target) (hinit : op.IsInit target.device a c) :
      Permits op ⟨x, .making a false, true⟩ (.call c)
  | initPoller {x : PublicOp} {a : Addr} (hkind : op.childKind = some .poller) :
      Permits op ⟨x, .making a false, false⟩ (.proc (.gpioPollInit a))
  | commitChild {x : PublicOp} {a : Addr} {held : Bool} {w : Var} {kind : ChildKind}
      (hdst : op.dst = some w) (hkind : op.childKind = some kind) :
      Permits op ⟨x, .making a true, held⟩ (.own (.commitChild w kind))
  | releaseMade {x : PublicOp} {a : Addr} {initialised : Bool} :
      Permits op ⟨x, .making a initialised, false⟩ (.own .releaseChild)
  -- pointers
  | relocate {x : PublicOp} {o : Own} (hop : op.relocation = some o) :
      Permits op ⟨x, .working, false⟩ (.own o)
  | releaseChild {x : PublicOp} : Permits op ⟨x, .droppingChild, false⟩ (.own .releaseChild)
  | smbusClose {x : PublicOp} {a : Addr} :
      Permits op ⟨x, .ending a .smbus false, false⟩ (.proc (.smbusClose a))
  | deleteChild {x : PublicOp} {a : Addr} {kind : ChildKind} {closed : Bool}
      (hclosed : kind = .smbus → closed = true) :
      Permits op ⟨x, .ending a kind closed, false⟩ (.own (.deleteChild a))
  | releaseDevice {x : PublicOp} : Permits op ⟨x, .droppingDevice, false⟩ (.own .releaseDevice)
  | close {x : PublicOp} {d : DeviceState} :
      Permits op ⟨x, .closing d, false⟩ (.proc (.close d.handle))
  | deleteDevice {x : PublicOp} {d : DeviceState} :
      Permits op ⟨x, .deleting d, false⟩ (.own (.deleteDevice d))

/-- What an operation relies on: an open that succeeds returns a handle, and a
    `DeviceState` has one. -/
def Relies : (e : Eff) → e.Reply → Prop
  | .call (.openScan ..), reply => reply.status = err .ok → reply.out ≠ none
  | .own .releaseDevice, last => ∀ d, last = some d → d.handle ≠ none
  | _, _ => True

end Position

variable [NativeApi]

def session (op : Op) : Protocol Eff Eff.Reply Position where
  allow q e := q.Permits op e
  rely _ e r := Position.Relies e r
  next := Position.next

theorem Position.call_next (q : Position) (e : Eff) (r : e.Reply) : (q.next e r).call = q.call := by
  cases e with
  | lock | unlock | alloc | call | proc | own => rfl

/-- An operation stays what it was resolved to. -/
theorem Position.call_after (op : Op) (q : Position) (tr : Trace) :
    ((session op).after q tr).call = q.call := by
  induction tr generalizing q with
  | nil => rfl
  | cons ev tr ih => exact (ih (q.next ev.1 ev.2)).trans (q.call_next ev.1 ev.2)

/-- An operation ends where it owns nothing and holds no mutex. -/
def Position.Final (q : Position) : Prop := q.stage.final = true ∧ q.held = false

/-! ## Data operations -/

/-- The protocol of a data operation, together with the call that it may make. -/
def errand {α : Type} (target : Target) (request : Except Exn (Request α)) :
    Protocol Eff Eff.Reply Audit :=
  { audit target with
    allow := fun q e => (audit target).allow q e ∧
      ∀ c, e = .call c → ∃ req, request = .ok req ∧ req.effect = .call c }

/-- An operation that meets its request calls nothing else on the way. -/
theorem errand_of_audit {α : Type} {target : Target} {request : Except Exn (Request α)}
    {p : M α} {q : Audit} (h : p.wp (audit target) q (Request.Post false request)) :
    p.wp (errand target request) q (Request.Post false request) := by
  induction p generalizing q with
  | ret a => exact h
  | throw x => exact h
  | vis e k ih =>
    refine ⟨⟨h.1, ?_⟩, fun r hr => ih r (h.2 r hr)⟩
    rintro c rfl
    -- some run goes on from here, and its record of native events contains `c`
    obtain ⟨reply⟩ := Eff.reply_nonempty (.call c)
    obtain ⟨tr, hruns⟩ := Prog.exec_runs
      (fun e (_ : Unit) => (Classical.choice (Eff.reply_nonempty e), ())) (k reply) ()
    obtain ⟨-, -, hpost⟩ := Prog.wp_runs (h.2 reply trivial) hruns (audit_relied target _ tr)
    rw [audit_native] at hpost
    obtain ⟨-, hnative, -⟩ | hpost := hpost
    · simp [audit] at hnative
    · cases request with
      | error x => simp [audit] at hpost
      | ok req =>
        obtain ⟨reply', hnative, -⟩ := hpost
        simp only [audit, List.append_assoc, List.singleton_append] at hnative
        obtain ⟨-, hhead⟩ : q.native = [] ∧ (⟨.call c, reply⟩ : Prog.Event Eff.Reply) =
            ⟨req.effect, reply'⟩ := by
          cases hq : q.native with
          | nil =>
            rw [hq] at hnative
            exact ⟨rfl, (List.cons.inj hnative).1⟩
          | cons ev rest =>
            rw [hq] at hnative
            simp at hnative
        exact ⟨req, rfl, (congrArg Sigma.fst hhead).symm⟩

omit [NativeApi] in
/-- An open gets neither a handle nor a struct. -/
theorem openedHandle_eq_none [NativeApi] {c : NativeCall} (reply : c.Reply)
    (h : c.dev? ≠ none ∨ c.struct? ≠ none) : Store.openedHandle c reply = none := by
  cases c <;> first | rfl | exact absurd h (by simp [NativeCall.dev?, NativeCall.struct?])

omit [NativeApi] in
theorem NativeCall.Serves.touches {c : NativeCall} {target : Target} (h : c.Serves target) :
    c.dev? ≠ none ∨ c.struct? ≠ none := by
  obtain ⟨-, hstruct, hdev⟩ := h
  cases hs : target.struct with
  | none =>
    rw [hs] at hdev
    exact .inl (by rw [hdev]; exact Option.some_ne_none _)
  | some a => exact .inr (by rw [hstruct, hs]; exact Option.some_ne_none _)

theorem DataCall.session (op : Op) (x : DataCall) :
    x.prog.wp (session op) ⟨.data x, .working, false⟩ fun _ q => q.Final := by
  cases htarget : x.target with
  | none =>
    rw [DataCall.prog_noState htarget]
    exact ⟨rfl, rfl⟩
  | some target =>
    have hdevice : ∀ held, (⟨.data x, .working, held⟩ : Position).device = some target.device :=
      fun _ => congrArg (Option.map Target.device) htarget
    refine Prog.wp_mono (Prog.wp_transport (P := errand target x.request)
      (fun a q => q = ⟨.data x, .working, a.held⟩) ?_ (fun _ _ _ _ _ _ => trivial) ?_ rfl
      (errand_of_audit (DataCall.prog_meets htarget))) ?_
    · rintro a q e rfl ⟨hallow, hcall⟩
      cases e with
      | alloc => exact .alloc _
      | lock mutex =>
        obtain ⟨rfl, hfree⟩ := hallow
        exact .lock (hdevice _) hfree
      | unlock mutex =>
        obtain ⟨rfl, hheld⟩ := hallow
        exact .unlock (hdevice _) hheld
      | call c =>
        obtain ⟨hheld, hserves⟩ := hallow
        obtain ⟨req, hrequest, heffect⟩ := hcall c rfl
        rw [hheld]
        exact .call htarget hserves hrequest heffect
      | proc p =>
        obtain ⟨hheld, a', mask, rfl, hstruct⟩ := hallow
        rw [hheld]
        exact .setMask (d := target.device) (by rw [htarget, ← hstruct])
      | own o => exact hallow.elim
    · rintro a q e r rfl ⟨hallow, -⟩ -
      cases e with
      | call c =>
        have hnone := openedHandle_eq_none r hallow.2.touches
        simp only [EasyMcp2221.session, Position.next, Stage.next, hnone]
        rfl
      | alloc | lock | unlock | proc => rfl
      | own o => exact hallow.elim
    · rintro out q ⟨a, rfl, hheld, -⟩
      exact ⟨rfl, hheld⟩

/-! ## Dropping the local pointers -/

section Rules

variable {op : Op} {x : PublicOp} {α : Type}

/-- Dropping the local device pointer, from a stage in which it may be released. -/
theorem dropDevice_session {q : Stage}
    (hallow : Position.Permits op ⟨x, q, false⟩ (.own .releaseDevice))
    (hnext : ∀ last, q.next x (.own .releaseDevice) last = (last.map Stage.closing).getD .done) :
    dropDevice.wp (session op) ⟨x, q, false⟩ fun out q' => out = .ok () ∧ q'.Final := by
  refine ⟨hallow, fun last hrely => ?_⟩
  have hstep : (session op).next ⟨x, q, false⟩ (.own .releaseDevice) last =
      ⟨x, (last.map Stage.closing).getD .done, false⟩ :=
    congrArg (Position.mk x · false) (hnext last)
  rw [hstep]
  cases last with
  | none => exact ⟨rfl, rfl, rfl⟩
  | some d =>
    have hhandle : d.handle ≠ none := hrely d rfl
    simp only [Prog.ret_bind, if_pos hhandle]
    exact ⟨.close, fun _ _ => ⟨.deleteDevice, fun _ _ => ⟨rfl, rfl, rfl⟩⟩⟩

/-- Dropping the local child pointer, and what the child pointed to. -/
theorem dropChild_session {q : Stage}
    (hallow : Position.Permits op ⟨x, q, false⟩ (.own .releaseChild))
    (hnext : ∀ last, q.next x (.own .releaseChild) last =
      (last.map fun c => Stage.ending c.1 c.2 false).getD .done) :
    dropChild.wp (session op) ⟨x, q, false⟩ fun out q' => out = .ok () ∧ q'.Final := by
  refine ⟨hallow, fun last _ => ?_⟩
  have hstep : (session op).next ⟨x, q, false⟩ (.own .releaseChild) last =
      ⟨x, (last.map fun c => Stage.ending c.1 c.2 false).getD .done, false⟩ :=
    congrArg (Position.mk x · false) (hnext last)
  rw [hstep]
  have hrest : ∀ a kind closed, (kind = .smbus → closed = true) →
      ((own (.deleteChild a)).bind fun _ => dropDevice).wp (session op)
        ⟨x, .ending a kind closed, false⟩ fun out q' => out = .ok () ∧ q'.Final :=
    fun a kind closed hclosed =>
      ⟨.deleteChild hclosed, fun _ _ => dropDevice_session .releaseDevice fun _ => rfl⟩
  obtain _ | ⟨a, kind⟩ := last
  · exact ⟨rfl, rfl, rfl⟩
  · cases kind with
    | smbus => exact ⟨.smbusClose, fun _ _ => hrest a .smbus true fun _ => rfl⟩
    | i2c => exact hrest a .i2c false nofun
    | poller => exact hrest a .poller false nofun

/-- A scope that ends with the drop of the local device pointer. -/
theorem wp_dropDevice_exit {body : M α} {q : Position}
    (h : body.wp (session op) q fun _ q' =>
      q'.held = false ∧ (q'.stage = .droppingDevice ∨ ∃ d, q'.stage = .building d)) :
    (body.cleanup dropDevice).wp (session op) q fun _ q' => q'.Final := by
  refine Prog.wp_cleanup.mpr (Prog.wp_mono h ?_)
  rintro out ⟨call, stage, held⟩ ⟨rfl, rfl | ⟨d, rfl⟩⟩
  · refine Prog.wp_mono (dropDevice_session .releaseDevice fun _ => rfl) ?_
    rintro out' q'' ⟨rfl, hfinal⟩
    exact hfinal
  · refine Prog.wp_mono (dropDevice_session .releaseNew fun _ => rfl) ?_
    rintro out' q'' ⟨rfl, hfinal⟩
    exact hfinal

/-- A scope that ends with the drop of the local child pointer. -/
theorem wp_dropChild_exit {body : M α} {q : Position}
    (h : body.wp (session op) q fun _ q' =>
      q'.held = false ∧
        (q'.stage = .droppingChild ∨ ∃ a initialised, q'.stage = .making a initialised)) :
    (body.cleanup dropChild).wp (session op) q fun _ q' => q'.Final := by
  refine Prog.wp_cleanup.mpr (Prog.wp_mono h ?_)
  rintro out ⟨call, stage, held⟩ ⟨rfl, rfl | ⟨a, initialised, rfl⟩⟩
  · refine Prog.wp_mono (dropChild_session .releaseChild fun _ => rfl) ?_
    rintro out' q'' ⟨rfl, hfinal⟩
    exact hfinal
  · refine Prog.wp_mono (dropChild_session .releaseMade fun _ => rfl) ?_
    rintro out' q'' ⟨rfl, hfinal⟩
    exact hfinal

/-- A `lock_guard` scope that keeps the device of its stage. -/
theorem wp_withLock_session {d : DeviceState} {q : Stage} {body : M α}
    {Φ : Prog.Post Exn α Position} (hdevice : q.device x = some d)
    (h : body.wp (session op) ⟨x, q, true⟩ fun out q' =>
      q'.device = some d ∧ q'.held = true ∧ Φ out { q' with held := false }) :
    (withLock d body).wp (session op) ⟨x, q, false⟩ Φ := by
  refine ⟨.lock hdevice rfl, fun _ _ => Prog.wp_cleanup.mpr (Prog.wp_mono h ?_)⟩
  rintro out q' ⟨hdevice', hheld, hout⟩
  exact ⟨.unlock hdevice' hheld, fun _ _ => hout⟩

/-- A native call with its status check. -/
theorem wp_nativeCall_session {c : NativeCall} {operation : String} {q : Position}
    {Φ : Prog.Post Exn c.Out Position} (hallow : q.Permits op (.call c))
    (hok : ∀ reply : c.Reply, reply.status = err .ok → Position.Relies (.call c) reply →
      Φ (.ok reply.out) (q.next (.call c) reply))
    (herror : ∀ reply : c.Reply, reply.status ≠ err .ok →
      Φ (.error (statusError reply.status operation)) (q.next (.call c) reply)) :
    (nativeCall c operation).wp (session op) q Φ := by
  refine ⟨hallow, fun reply hrely => ?_⟩
  by_cases hstatus : reply.status = err .ok
  · have hcheck : checkError reply.status operation = .ok () := if_pos hstatus
    simp only [Prog.ret_bind, hcheck]
    exact hok reply hstatus hrely
  · have hcheck : checkError reply.status operation =
        .error (statusError reply.status operation) := if_neg hstatus
    simp only [Prog.ret_bind, hcheck]
    exact herror reply hstatus

/-- A check before anything else. -/
theorem wp_check_session {β : Type} {y : Except Exn β} {k : β → M α} {q : Position}
    {Φ : Prog.Post Exn α Position} (herror : ∀ e, y = .error e → Φ (.error e) q)
    (hok : ∀ b, y = .ok b → (k b).wp (session op) q Φ) :
    ((Prog.ofExcept y).bind k).wp (session op) q Φ := by
  cases y with
  | error e => exact herror e rfl
  | ok b => exact hok b rfl

end Rules

/-! ## The constructor -/

/-- The scope of `state` after the hand-over from `handleGuard`. -/
theorem initialise_session {w : Var} {options : DeviceOptions} (x : PublicOp) (d : DeviceState) :
    ((withLock d (initialiseI2c d options.i2cSpeedHz)).bind fun _ =>
      own (.commitDevice w)).wp (session (.construct w options)) ⟨x, .building d, false⟩
      fun _ q => q.held = false ∧ (q.stage = .droppingDevice ∨ ∃ d, q.stage = .building d) := by
  have hset : ∀ (hz : UInt32) (operation : String),
      (nativeCall (.i2cSetSpeed d.handle hz) operation).wp (session (.construct w options))
        ⟨x, .building d, true⟩ fun _ q => q = ⟨x, .building d, true⟩ := fun hz operation =>
    wp_nativeCall_session (.setUp rfl rfl) (fun _ _ _ => rfl) fun _ _ => rfl
  have hcommit : (own (.commitDevice w)).wp (session (.construct w options))
      ⟨x, .building d, false⟩ fun _ q =>
        q.held = false ∧ (q.stage = .droppingDevice ∨ ∃ d, q.stage = .building d) :=
    ⟨.commitDevice rfl, fun _ _ => ⟨rfl, .inl rfl⟩⟩
  refine Prog.wp_bind.mpr (wp_withLock_session rfl ⟨.setUp rfl rfl, fun _ _ => ?_⟩)
  show ((nativeCall _ _).bind _).wp _ _ _
  refine Prog.wp_bind.mpr (Prog.wp_mono (hset _ _) ?_)
  rintro (e | _) q rfl
  · exact ⟨rfl, rfl, rfl, .inr ⟨d, rfl⟩⟩
  · rw [Prog.andThen_ok]
    split
    · refine Prog.wp_mono (hset _ _) ?_
      rintro (e | _) q rfl
      · exact ⟨rfl, rfl, rfl, .inr ⟨d, rfl⟩⟩
      · exact ⟨rfl, rfl, hcommit⟩
    · exact ⟨rfl, rfl, hcommit⟩

theorem construct_session (w : Var) (options : DeviceOptions) (x : PublicOp) :
    (Device.construct w options).wp (session (.construct w options)) ⟨x, .working, false⟩
      fun _ q => q.Final := by
  refine wp_check_session (fun _ _ => ⟨rfl, rfl⟩) fun _ _ => ?_
  refine Prog.wp_bind.mpr (wp_nativeCall_session (.openScan rfl) (fun reply hstatus hrely => ?_)
    fun reply hstatus => ?_)
  · have hhandle : reply.out ≠ none := hrely hstatus
    obtain ⟨h, hh⟩ := Option.ne_none_iff_exists'.mp hhandle
    have hopened : (Position.next ⟨x, .working, false⟩ (.call _) reply) =
        ⟨x, .scanned h, false⟩ := by
      simp only [Position.next, Stage.next, Store.openedHandle, if_pos hstatus, hh]
    rw [hopened, Prog.andThen_ok, hh]
    refine ⟨.alloc _, fun ok _ => ?_⟩
    cases ok with
    | false =>
      -- `handleGuard` closes the handle
      exact ⟨.guardClose, fun _ _ => ⟨rfl, rfl⟩⟩
    | true =>
      refine ⟨.makeDeviceState, fun a _ => wp_dropDevice_exit ?_⟩
      exact initialise_session x ⟨a, some h⟩
  · have hnone : (Position.next ⟨x, .working, false⟩ (.call _) reply) =
        ⟨x, .working, false⟩ := by
      simp only [Position.next, Stage.next, Store.openedHandle, if_neg hstatus]
    rw [hnone]
    exact ⟨rfl, rfl⟩

/-! ## The factories -/

omit [NativeApi] in
theorem ok_of_gate {β : Type} {complain : String → Exn} {P : Prop} {y : Except Exn β} {b : β}
    (hgate : Gate complain P y) (hy : y = .ok b) : P := by
  cases hgate with
  | accept h => exact h
  | reject _ _ hx =>
    rw [hx] at hy
    cases hy

/-- The call that initialises a child, and the wrapper object around it. -/
theorem initialiseChild_session (target : Target) {op : Op} {x : PublicOp} {a : Addr}
    {c : NativeCall} {operation : String} {w : Var} {kind : ChildKind}
    (htarget : x.target = some target) (hinit : op.IsInit target.device a c)
    (hdst : op.dst = some w) (hkind : op.childKind = some kind) :
    ((nativeCall c operation).bind fun _ => own (.commitChild w kind)).wp (session op)
      ⟨x, .making a false, true⟩ fun _ q => q.device = some target.device ∧ q.held = true ∧
        (q.stage = .droppingChild ∨ ∃ a initialised, q.stage = .making a initialised) := by
  have hdevice : x.target.map Target.device = some target.device := congrArg _ htarget
  refine Prog.wp_bind.mpr (wp_nativeCall_session (.initChild htarget hinit)
    (fun reply hstatus _ => ?_) fun reply _ => ⟨hdevice, rfl, .inr ⟨_, _, rfl⟩⟩)
  have hnext : Position.next ⟨x, .making a false, true⟩ (.call c) reply =
      ⟨x, .making a true, true⟩ := by
    simp only [Position.next, Stage.next, hstatus, decide_true]
  rw [hnext]
  exact ⟨.commitChild hdst hkind, fun _ _ => ⟨hdevice, rfl, .inl rfl⟩⟩

/-- A factory makes its child on the device of its receiver. -/
theorem permits_makeChild {op : Op} {x : PublicOp} {d : DeviceState} {kind : ChildKind}
    (hkind : op.childKind = some kind) (htarget : x.target = some ⟨d, none⟩)
    (haddress : op.address ≤ constants.maxI2cAddress) :
    Position.Permits op ⟨x, .working, false⟩ (.own (.makeChild kind d op.storedAddress)) :=
  .makeChild hkind htarget haddress

theorem i2cDevice_session (v dst : Var) (address : UInt8) (options : I2cDeviceOptions)
    (self : Option DeviceState) :
    (Device.i2cDevice self dst address options).wp (session (.i2cDevice v dst address options))
      ⟨.i2cDevice self dst address options, .working, false⟩ fun _ q => q.Final := by
  cases self with
  | none => exact ⟨rfl, rfl⟩
  | some d =>
    show ((Prog.ofExcept (validateI2cAddress address)).bind _).wp _ _ _
    refine wp_check_session (fun _ _ => ⟨rfl, rfl⟩) fun _ haddress => ?_
    refine wp_check_session (fun _ _ => ⟨rfl, rfl⟩) fun _ _ => ⟨.alloc _, fun ok _ => ?_⟩
    cases ok with
    | false => exact ⟨rfl, rfl⟩
    | true =>
      refine ⟨permits_makeChild rfl rfl
        (ok_of_gate (gate_validateI2cAddress address) haddress), fun a _ => wp_dropChild_exit ?_⟩
      refine wp_withLock_session rfl ?_
      refine wp_check_session (fun _ _ => ⟨rfl, rfl, rfl, .inr ⟨_, _, rfl⟩⟩) fun order horder => ?_
      refine wp_check_session (fun _ _ => ⟨rfl, rfl, rfl, .inr ⟨_, _, rfl⟩⟩) fun width hwidth => ?_
      refine Prog.wp_mono (initialiseChild_session ⟨d, none⟩ rfl
        ⟨width, order, hwidth, horder, rfl⟩ rfl rfl) ?_
      rintro out q ⟨hdevice, hheld, hstage⟩
      exact ⟨hdevice, hheld, rfl, hstage⟩

theorem smbusDevice_session (v dst : Var) (address : UInt8) (self : Option DeviceState) :
    (Device.smbusDevice self dst address).wp (session (.smbusDevice v dst address))
      ⟨.smbusDevice self dst address, .working, false⟩ fun _ q => q.Final := by
  cases self with
  | none => exact ⟨rfl, rfl⟩
  | some d =>
    show ((Prog.ofExcept (validateI2cAddress address)).bind _).wp _ _ _
    refine wp_check_session (fun _ _ => ⟨rfl, rfl⟩) fun _ haddress => ⟨.alloc _, fun ok _ => ?_⟩
    cases ok with
    | false => exact ⟨rfl, rfl⟩
    | true =>
      refine ⟨permits_makeChild rfl rfl
        (ok_of_gate (gate_validateI2cAddress address) haddress), fun a _ => wp_dropChild_exit ?_⟩
      refine wp_withLock_session rfl ?_
      refine Prog.wp_mono (initialiseChild_session ⟨d, none⟩ rfl rfl rfl rfl) ?_
      rintro out q ⟨hdevice, hheld, hstage⟩
      exact ⟨hdevice, hheld, rfl, hstage⟩

theorem gpioPoller_session (v dst : Var) (self : Option DeviceState) :
    (Device.gpioPoller self dst).wp (session (.gpioPoller v dst))
      ⟨.gpioPoller self dst, .working, false⟩ fun _ q => q.Final := by
  cases self with
  | none => exact ⟨rfl, rfl⟩
  | some d =>
    refine ⟨.alloc _, fun ok _ => ?_⟩
    cases ok with
    | false => exact ⟨rfl, rfl⟩
    | true =>
      refine ⟨permits_makeChild rfl rfl (UInt8.zero_le), fun a _ =>
        wp_dropChild_exit ?_⟩
      exact ⟨.initPoller rfl, fun _ _ => ⟨.commitChild rfl rfl, fun _ _ => ⟨rfl, .inl rfl⟩⟩⟩

/-! ## The operations on wrapper objects -/

/-- An operation that drops what its pointer operation has displaced. -/
theorem drop_session (kind : WrapperKind) {op : Op} {x : PublicOp} {o : Own}
    {k : o.Reply → M Unit} (hop : op.relocation = some o)
    (hnext : ∀ r, Stage.working.next x (.own o) r = kind.dropping) (hk : ∀ r, k r = kind.drop) :
    ((own o).bind k).wp (session op) ⟨x, .working, false⟩ fun _ q => q.Final := by
  refine ⟨.relocate hop, fun r _ => ?_⟩
  have hstep : (session op).next ⟨x, .working, false⟩ (.own o) r = ⟨x, kind.dropping, false⟩ :=
    congrArg (Position.mk x · false) (hnext r)
  show (k r).wp _ _ _
  rw [hstep, hk r]
  cases kind with
  | device =>
    exact Prog.wp_mono (dropDevice_session .releaseDevice fun _ => rfl) fun _ _ hout => hout.2
  | child =>
    exact Prog.wp_mono (dropChild_session .releaseChild fun _ => rfl) fun _ _ hout => hout.2

/-- **Every operation keeps to the protocol**, whatever the store it starts from. -/
theorem Op.prog_session {T : Type} (s : Store T) (op : Op) :
    (op.resolve s).prog.void.wp (session op) ⟨op.resolve s, .working, false⟩
      fun _ q => q.Final := by
  have hvoid : ∀ {α : Type} {p : M α},
      (p.wp (session op) ⟨op.resolve s, .working, false⟩ fun _ q => q.Final) →
      p.void.wp (session op) ⟨op.resolve s, .working, false⟩ fun _ q => q.Final := by
    intro α p h
    exact Prog.wp_void.mpr (Prog.wp_mono h fun out q hq => by cases out <;> exact hq)
  refine hvoid ?_
  cases op with
  | device v op => exact DataCall.session _ (.device (s.deviceSelf v) op)
  | i2c v op => exact DataCall.session _ (.i2c (s.i2cSelf v) op)
  | smbus v op => exact DataCall.session _ (.smbus (s.smbusSelf v) op)
  | poller v op => exact DataCall.session _ (.poller (s.pollerSelf v) op)
  | construct w options => exact construct_session w options _
  | i2cDevice v dst address options =>
    exact i2cDevice_session v dst address options (s.deviceSelf v)
  | smbusDevice v dst address => exact smbusDevice_session v dst address (s.deviceSelf v)
  | gpioPoller v dst => exact gpioPoller_session v dst (s.deviceSelf v)
  | close v => exact drop_session .device rfl (fun _ => rfl) fun _ => rfl
  | destroy v => exact drop_session (s.kindOf v) rfl (fun _ => rfl) fun _ => rfl
  | moveConstruct src dst => exact ⟨.relocate rfl, fun _ _ => ⟨rfl, rfl⟩⟩
  | copyConstruct src dst => exact ⟨.relocate rfl, fun _ _ => ⟨rfl, rfl⟩⟩
  | moveAssign src dst => exact drop_session (s.kindOf dst) rfl (fun _ => rfl) fun _ => rfl
  | copyAssign src dst => exact drop_session (s.kindOf dst) rfl (fun _ => rfl) fun _ => rfl

end EasyMcp2221
