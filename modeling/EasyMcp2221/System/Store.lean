import EasyMcp2221.Operation
import EasyMcp2221.Effect.Ownership

/-!
# The shared store

Everything that the public operations of several threads share: the wrapper objects,
the smart pointers and where they live, the state objects behind them, the mutexes
and the open handles, and a log of the native calls.

The identity of a state object is its allocation number, so it is never given out
twice, and a handle is the identity of one successful open.  A handle that is open
has one holder: the `DeviceState` that will close it, or the thread that has just
opened it or is just destroying its `DeviceState`.
-/

namespace EasyMcp2221

open Effect

/-! ## Operations on the store -/

/-- A public operation on wrapper objects. -/
inductive Op where
  | device (v : Var) (op : DeviceOp)
  | i2c (v : Var) (op : I2cOp)
  | smbus (v : Var) (op : SmbusOp)
  | poller (v : Var) (op : PollerOp)
  | construct (w : Var) (options : DeviceOptions)
  | i2cDevice (v dst : Var) (address : UInt8) (options : I2cDeviceOptions)
  | smbusDevice (v dst : Var) (address : UInt8)
  | gpioPoller (v dst : Var)
  | close (v : Var)
  | destroy (v : Var)
  | moveConstruct (src dst : Var)
  | copyConstruct (src dst : Var)
  | moveAssign (src dst : Var)
  | copyAssign (src dst : Var)

namespace Op

/-- The wrapper objects that the operation creates, moves, assigns, closes or destroys. -/
def writes : Op → List Var
  | device .. => []
  | i2c .. => []
  | smbus .. => []
  | poller .. => []
  | construct w _ => [w]
  | i2cDevice _ dst _ _ => [dst]
  | smbusDevice _ dst _ => [dst]
  | gpioPoller _ dst => [dst]
  | close v => [v]
  | destroy v => [v]
  | moveConstruct src dst => [src, dst]
  | copyConstruct _ dst => [dst]
  | moveAssign src dst => [src, dst]
  | copyAssign _ dst => [dst]

/-- The wrapper objects that the operation uses and leaves alone. -/
def reads : Op → List Var
  | device v _ => [v]
  | i2c v _ => [v]
  | smbus v _ => [v]
  | poller v _ => [v]
  | i2cDevice v _ _ _ => [v]
  | smbusDevice v _ _ => [v]
  | gpioPoller v _ => [v]
  | copyConstruct src _ => [src]
  | copyAssign src _ => [src]
  | _ => []

/-- Two operations that may run at the same time: neither writes a wrapper object that
    the other one uses. -/
def Compatible (op op' : Op) : Prop :=
  (∀ v ∈ op.writes, v ∉ op'.writes ∧ v ∉ op'.reads) ∧ ∀ v ∈ op.reads, v ∉ op'.writes

theorem Compatible.symm {op op' : Op} (h : op.Compatible op') : op'.Compatible op :=
  ⟨fun v hv => ⟨fun hv' => (h.1 v hv').1 hv, fun hv' => h.2 v hv' hv⟩,
    fun v hv hv' => (h.1 v hv').2 hv⟩

/-- The native call that initialises the struct of a child, made for a child `a` of the
    device `d`. -/
def IsInit [NativeApi] (op : Op) (d : DeviceState) (a : Addr) (c : NativeCall) : Prop :=
  match op with
  | i2cDevice _ _ address options =>
    ∃ width order, toNativeRegisterWidth options.registerWidth = .ok width ∧
      toNativeByteOrder options.byteOrder = .ok order ∧
      c = .i2cSlaveInit a d.handle address (flag options.force) options.speedHz width order
  | smbusDevice _ _ _ => c = .smbusInit a d.handle 0 0 0 none 0
  | _ => False

/-- The class of the child that a factory creates. -/
def childKind : Op → Option ChildKind
  | i2cDevice .. => some .i2c
  | smbusDevice .. => some .smbus
  | gpioPoller .. => some .poller
  | _ => none

/-- The wrapper object of an operation on a child. -/
def childVar : Op → Option Var
  | i2c v _ => some v
  | smbus v _ => some v
  | poller v _ => some v
  | _ => none

/-- The wrapper object that a factory creates. -/
def dst : Op → Option Var
  | i2cDevice _ dst _ _ => some dst
  | smbusDevice _ dst _ => some dst
  | gpioPoller _ dst => some dst
  | _ => none

/-- The address that a factory is called with. -/
def address : Op → UInt8
  | i2cDevice _ _ address _ => address
  | smbusDevice _ _ address => address
  | _ => 0

/-- The `address` field of the state of a new child. -/
def storedAddress : Op → UInt8
  | smbusDevice _ _ address => address
  | _ => 0

/-- The options that a factory is called with. -/
def options : Op → I2cDeviceOptions
  | i2cDevice _ _ _ options => options
  | _ => {}

/-- The pointer operation with which an operation on wrapper objects begins. -/
def relocation : Op → Option Own
  | close v => some (.reset v)
  | destroy v => some (.destroy v)
  | moveConstruct src dst => some (.moveConstruct src dst)
  | copyConstruct src dst => some (.copyConstruct src dst)
  | moveAssign src dst => some (.moveAssign src dst)
  | copyAssign src dst => some (.copyAssign src dst)
  | _ => none

end Op

/-! ## Places, holders and children -/

/-- Where a smart pointer lives: in a wrapper object, in a local variable of a thread,
    or in a member of another state object. -/
inductive Place (T X : Type) where
  | wrapper (v : Var)
  | temp (t : T)
  | member (x : X)
deriving DecidableEq

/-- Who will close a handle. -/
inductive Holder (T : Type) where
  | state (a : Addr)
  | thread (t : T)
deriving DecidableEq

/-- What a child was created with. -/
structure Birth where
  handle : HandlePtr
  address : UInt8
  options : I2cDeviceOptions

/-- A child state with its native `slave` or `bus`, and what it was created with. -/
structure Child (T : Type) where
  kind : ChildKind
  birth : Birth
  slave : NativeSlave := {}
  bus : HandlePtr := none
  address : UInt8 := 0
  /-- The thread that has dropped the last pointer to it. -/
  deleter : Option T := none

/-- What a `mcp2221_gpio_poll_state_t` depends on: its filter mask and the polls so far
    with their answers. -/
structure PollStruct where
  mask : UInt16 := 0
  polls : List ((c : NativeCall) × c.Reply) := []

/-- The child that a factory makes on a device with this handle. -/
def Op.newChild {T : Type} (op : Op) (kind : ChildKind) (handle : HandlePtr) (address : UInt8) :
    Child T :=
  { kind, address, birth := ⟨handle, op.address, op.options⟩ }

/-- The child is bound to what it was created with: its struct is initialised with the
    handle, the address and the translated layout. -/
def Child.Bound [NativeApi] {T : Type} (child : Child T) : Prop :=
  match child.kind with
  | .i2c =>
    ∃ width order, toNativeRegisterWidth child.birth.options.registerWidth = .ok width ∧
      toNativeByteOrder child.birth.options.byteOrder = .ok order ∧
      child.slave = ⟨child.birth.handle, child.birth.address, width, order⟩
  | .smbus => child.bus = child.birth.handle ∧ child.address = child.birth.address
  | .poller => True

/-- The handle that a call on the struct of the child works with. -/
def Child.boundHandle {T : Type} (child : Child T) : HandlePtr :=
  match child.kind with
  | .i2c => child.slave.mcp
  | .smbus => child.bus
  | .poller => none

/-- The history of native calls. -/
inductive Entry (T : Type) where
  /-- `mcp2221_open_scan` returned the handle. -/
  | opened (t : T) (h : Handle)
  /-- A call began that works with the handle `accessed`, if with any. -/
  | call (t : T) (op : Op) (c : NativeCall) (accessed : Option HandlePtr)
  /-- `mcp2221_close` began. -/
  | close (t : T) (op : Op) (dev : HandlePtr)
  /-- `mcp2221_smbus_close` began on a bus that borrows `borrowed`. -/
  | smbusClose (t : T) (bus : Addr) (borrowed : HandlePtr)

structure Store (T : Type) where
  wrappers : Var → Option WrapperKind
  dev : Place T Addr → Option Addr
  child : Place T Empty → Option Addr
  handles : Holder T → Option Handle
  children : Addr → Option (Child T)
  poll : Addr → PollStruct
  mutex : Addr → Option T
  /-- The next allocation number. -/
  next : Addr
  log : List (Entry T)

namespace Store

variable {T : Type}

def empty : Store T where
  wrappers _ := none
  dev _ := none
  child _ := none
  handles _ := none
  children _ := none
  poll _ := {}
  mutex _ := none
  next := 0
  log := []

/-! ## What an operation sees -/

def deviceState (s : Store T) (a : Addr) : DeviceState := ⟨a, s.handles (.state a)⟩

/-- `state_` of a `Device`. -/
def deviceSelf (s : Store T) (v : Var) : Option DeviceState :=
  (s.dev (.wrapper v)).map s.deviceState

/-- The `device` member of a child state. -/
def memberDevice (s : Store T) (a : Addr) : Option DeviceState :=
  (s.dev (.member a)).map s.deviceState

/-- The child state at an address, as an `I2cDeviceState`. -/
def i2cState (s : Store T) (a : Addr) : I2cDeviceState :=
  ⟨a, s.memberDevice a, ((s.children a).map Child.slave).getD {}⟩

def smbusState (s : Store T) (a : Addr) : SmbusDeviceState :=
  ⟨a, s.memberDevice a, ((s.children a).map Child.address).getD 0⟩

def pollerState (s : Store T) (a : Addr) : GpioPollerState := ⟨a, s.memberDevice a⟩

/-- `state_` of an `I2cDevice`. -/
def i2cSelf (s : Store T) (v : Var) : Option I2cDeviceState :=
  (s.child (.wrapper v)).map s.i2cState

/-- `state_` of an `SmbusDevice`. -/
def smbusSelf (s : Store T) (v : Var) : Option SmbusDeviceState :=
  (s.child (.wrapper v)).map s.smbusState

/-- `state_` of a `GpioPoller`. -/
def pollerSelf (s : Store T) (v : Var) : Option GpioPollerState :=
  (s.child (.wrapper v)).map s.pollerState

/-- The class of a wrapper object. -/
def kindOf (s : Store T) (v : Var) : WrapperKind := (s.wrappers v).getD .device

/-- The handle that a native call works with, if with any. -/
def accesses (s : Store T) (c : NativeCall) : Option HandlePtr :=
  match c.dev? with
  | some dev => some dev
  | none => c.struct?.bind fun a => (s.children a).map Child.boundHandle

end Store

/-- The operation on state pointers that an operation on wrapper objects stands for. -/
def Op.resolve {T : Type} (s : Store T) : Op → PublicOp
  | .device v op => .data (.device (s.deviceSelf v) op)
  | .i2c v op => .data (.i2c (s.i2cSelf v) op)
  | .smbus v op => .data (.smbus (s.smbusSelf v) op)
  | .poller v op => .data (.poller (s.pollerSelf v) op)
  | .construct w options => .construct w options
  | .i2cDevice v dst address options => .i2cDevice (s.deviceSelf v) dst address options
  | .smbusDevice v dst address => .smbusDevice (s.deviceSelf v) dst address
  | .gpioPoller v dst => .gpioPoller (s.deviceSelf v) dst
  | .close v => .close v
  | .destroy v => .destroy (s.kindOf v) v
  | .moveConstruct src dst => .moveConstruct src dst
  | .copyConstruct src dst => .copyConstruct src dst
  | .moveAssign src dst => .moveAssign (s.kindOf dst) src dst
  | .copyAssign src dst => .copyAssign (s.kindOf dst) src dst

/-- The wrapper objects of the operation exist, or are still to be created, and have the
    right class; only `I2cDevice` and `SmbusDevice` can be copied. -/
def Op.Typed {T : Type} (s : Store T) : Op → Prop
  | .device v _ => s.wrappers v = some .device
  | .i2c v _ => s.wrappers v = some (.child .i2c)
  | .smbus v _ => s.wrappers v = some (.child .smbus)
  | .poller v _ => s.wrappers v = some (.child .poller)
  | .construct w _ => s.wrappers w = none
  | .i2cDevice v dst _ _ => s.wrappers v = some .device ∧ s.wrappers dst = none
  | .smbusDevice v dst _ => s.wrappers v = some .device ∧ s.wrappers dst = none
  | .gpioPoller v dst => s.wrappers v = some .device ∧ s.wrappers dst = none
  | .close v => s.wrappers v = some .device
  | .destroy v => s.wrappers v ≠ none
  | .moveConstruct src dst => s.wrappers src ≠ none ∧ s.wrappers dst = none
  | .copyConstruct src dst =>
    (s.wrappers src = some (.child .i2c) ∨ s.wrappers src = some (.child .smbus)) ∧
      s.wrappers dst = none
  | .moveAssign src dst => s.wrappers src ≠ none ∧ s.wrappers dst = s.wrappers src
  | .copyAssign src dst =>
    (s.wrappers src = some (.child .i2c) ∨ s.wrappers src = some (.child .smbus)) ∧
      s.wrappers dst = s.wrappers src

/-- An operation resolves alike in stores that differ only in what the threads hold. -/
theorem Op.resolve_congr {T : Type} {s s' : Store T} (hwrappers : s'.wrappers = s.wrappers)
    (hdev : s'.dev = s.dev) (hchild : s'.child = s.child) (hchildren : s'.children = s.children)
    (hstate : ∀ a, s'.handles (.state a) = s.handles (.state a)) (op : Op) :
    op.resolve s' = op.resolve s := by
  have hdeviceState : s'.deviceState = s.deviceState :=
    funext fun a => congrArg (DeviceState.mk a) (hstate a)
  have hmember : s'.memberDevice = s.memberDevice :=
    funext fun a => by rw [Store.memberDevice, Store.memberDevice, hdev, hdeviceState]
  cases op <;>
    simp only [resolve, Store.deviceSelf, Store.i2cSelf, Store.smbusSelf, Store.pollerSelf,
      Store.kindOf, hwrappers, hdev, hchild, hdeviceState,
      show s'.i2cState = s.i2cState from
        funext fun a => by rw [Store.i2cState, Store.i2cState, hmember, hchildren],
      show s'.smbusState = s.smbusState from
        funext fun a => by rw [Store.smbusState, Store.smbusState, hmember, hchildren],
      show s'.pollerState = s.pollerState from
        funext fun a => by rw [Store.pollerState, Store.pollerState, hmember]]

/-- A factory resolves alike where its receiver is the same. -/
theorem Op.resolve_factory {T : Type} {s s' : Store T} {op : Op} (hkind : op.childKind ≠ none)
    (h : ∀ v ∈ op.reads, s'.deviceSelf v = s.deviceSelf v) : op.resolve s' = op.resolve s := by
  cases op with
  | i2cDevice v | smbusDevice v | gpioPoller v =>
    simp only [resolve, h v (List.mem_singleton_self v)]
  | _ => exact absurd rfl hkind

/-! ## Moving pointers -/

section Relocate

variable {T X : Type} [DecidableEq T] [DecidableEq X]

/-- What the operations on wrapper objects do to the smart pointers of one type. -/
def relocate (o : Own) (t : T) (p : Place T X → Option Addr) : Place T X → Option Addr :=
  match o with
  | .reset w | .destroy w => move p (.wrapper w) (.temp t)
  | .moveConstruct src dst => move p (.wrapper src) (.wrapper dst)
  | .copyConstruct src dst => Function.update p (.wrapper dst) (p (.wrapper src))
  | .moveAssign src dst =>
    if src = dst then p
    else move (move p (.wrapper dst) (.temp t)) (.wrapper src) (.wrapper dst)
  | .copyAssign src dst =>
    Function.update (Function.update p (.temp t) (p (.wrapper dst))) (.wrapper dst)
      (p (.wrapper src))
  | _ => p

/-- What they do to the wrapper objects themselves. -/
def retype (o : Own) (wrappers : Var → Option WrapperKind) : Var → Option WrapperKind :=
  match o with
  | .destroy w => Function.update wrappers w none
  | .moveConstruct src dst => Function.update wrappers dst (wrappers src)
  | .copyConstruct src dst => Function.update wrappers dst (wrappers src)
  | _ => wrappers

end Relocate

end EasyMcp2221
