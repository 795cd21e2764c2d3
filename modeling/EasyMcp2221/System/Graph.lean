import EasyMcp2221.System.Store

/-!
# Wrapper objects, as a client sees them

What the public classes promise about `Device`, `I2cDevice`, `SmbusDevice` and `GpioPoller`
objects, without threads, effects, local pointers and reference counts: a graph of wrapper
objects and of what they share, which every operation changes in one step or not at all.
-/

namespace EasyMcp2221

open Effect

/-- What the `state_` of a child wrapper stands for: the identity of the child, its device,
    and what it was created with. -/
structure ChildRef where
  state : Addr
  device : Option DeviceState
  birth : Option Birth

structure Graph where
  wrappers : Var → Option WrapperKind
  device : Var → Option DeviceState
  child : Var → Option ChildRef

namespace Graph

def empty : Graph where
  wrappers _ := none
  device _ := none
  child _ := none

/-- The device that a wrapper object shares: its own or that of its child. -/
def shares (γ : Graph) (v : Var) : Option DeviceState :=
  (γ.device v).or ((γ.child v).bind ChildRef.device)

/-- No wrapper object shares the device, and none shares another one with its handle. -/
def Fresh (γ : Graph) (d : DeviceState) : Prop :=
  ∀ v d', γ.shares v = some d' → d'.addr ≠ d.addr ∧ d'.handle ≠ d.handle

/-- What an operation on existing wrapper objects does to what they point to. -/
def rewire {α : Type} (op : Op) (p : Var → Option α) : Var → Option α :=
  match op with
  | .close v => Function.update p v none
  | .destroy v => Function.update p v none
  | .moveConstruct src dst => move p src dst
  | .copyConstruct src dst => Function.update p dst (p src)
  | .moveAssign src dst => if src = dst then p else move p src dst
  | .copyAssign src dst => Function.update p dst (p src)
  | _ => p

/-- What it does to the wrapper objects themselves. -/
def reclass (op : Op) (wrappers : Var → Option WrapperKind) : Var → Option WrapperKind :=
  match op with
  | .destroy v => Function.update wrappers v none
  | .moveConstruct src dst => Function.update wrappers dst (wrappers src)
  | .copyConstruct src dst => Function.update wrappers dst (wrappers src)
  | _ => wrappers

/-- The effect of an operation that takes place. -/
inductive Step : Graph → Op → Graph → Prop where
  /-- The constructor opens a device that nobody shares. -/
  | construct {γ : Graph} {w : Var} {options : DeviceOptions} {d : DeviceState}
      (hfresh : γ.Fresh d) (hopen : d.handle ≠ none) :
      Step γ (.construct w options)
        { γ with
          wrappers := Function.update γ.wrappers w (some .device)
          device := Function.update γ.device w (some d) }
  /-- A factory makes a new child of the device of its receiver. -/
  | create {γ : Graph} {op : Op} {v dst : Var} {kind : ChildKind} {d : DeviceState} {a : Addr}
      (hkind : op.childKind = some kind) (hdst : op.dst = some dst) (hreads : op.reads = [v])
      (hdevice : γ.device v = some d) (hnew : ∀ u r, γ.child u = some r → r.state ≠ a) :
      Step γ op
        { γ with
          wrappers := Function.update γ.wrappers dst (some (.child kind))
          child := Function.update γ.child dst
            (some ⟨a, some d, some ⟨d.handle, op.address, op.options⟩⟩) }
  /-- Close, move, copy, assign and destroy. -/
  | relocate {γ : Graph} {op : Op} {o : Own} (hop : op.relocation = some o) :
      Step γ op ⟨reclass op γ.wrappers, rewire op γ.device, rewire op γ.child⟩

end Graph

/-! ## The step at which an operation takes place -/

/-- The pointer operation makes the change of its public operation visible. -/
def Own.commits : Own → Bool
  | .commitDevice _ => true
  | .commitChild .. => true
  | .reset _ => true
  | .destroy _ => true
  | .moveConstruct .. => true
  | .copyConstruct .. => true
  | .moveAssign .. => true
  | .copyAssign .. => true
  | _ => false

def Eff.commits : Eff → Bool
  | .own o => o.commits
  | _ => false

/-- The operation creates, moves, assigns, closes or destroys wrapper objects. -/
def Op.changesGraph : Op → Bool
  | .device .. => false
  | .i2c .. => false
  | .smbus .. => false
  | .poller .. => false
  | _ => true

end EasyMcp2221
