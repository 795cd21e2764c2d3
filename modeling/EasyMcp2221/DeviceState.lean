import EasyMcp2221.Native
import EasyMcp2221.Effect.Protocol

/-!
# Shared device state and the effects of an operation

`detail/DeviceState.h` and `detail/DeviceState.cpp`.  A public operation is an
effect program: it allocates, locks and unlocks the mutex of a `DeviceState`,
calls the C library, and creates, moves, copies and drops the smart pointers
through which wrapper objects share their state.

A wrapper object is a variable (`Var`); `state_` of a `Device` points to a
`DeviceState`, `state_` of a child to a child state whose `device` member points
to the `DeviceState` again.  While an operation runs it may hold one local pointer
of each kind (`state` or `child` in the source, or the temporary of a move
assignment); the `own` effects move pointers between these places.
-/

namespace EasyMcp2221

open Effect

/-! ## State objects, as an operation sees them through `state_` -/

/-- `detail::DeviceState`: its address, which also identifies its mutex, and
    `handle_`. -/
structure DeviceState where
  addr : Addr
  handle : HandlePtr
deriving DecidableEq, Repr

/-- The fields of `mcp2221_i2c_slave_t` that the wrapper depends on. -/
structure NativeSlave where
  mcp : HandlePtr := none
  addr : UInt8 := 0
  regBytes : Int := 0
  regByteOrder : NativeByteOrder := .default
deriving DecidableEq, Repr

/-- `detail::I2cDeviceState`; `addr` is its address, and so that of `slave`. -/
structure I2cDeviceState where
  addr : Addr
  device : Option DeviceState
  slave : NativeSlave
deriving DecidableEq, Repr

/-- `detail::SmbusDeviceState`; `addr` is its address, and so that of `bus`. -/
structure SmbusDeviceState where
  addr : Addr
  device : Option DeviceState
  address : UInt8
deriving DecidableEq, Repr

/-- `detail::GpioPollerState`; `addr` is its address, and so that of `poll`. -/
structure GpioPollerState where
  addr : Addr
  device : Option DeviceState
deriving DecidableEq, Repr

/-! ## Effects -/

/-- A wrapper object. -/
abbrev Var : Type := Nat

inductive ChildKind where
  | i2c | smbus | poller
deriving DecidableEq, Repr

/-- Operations on smart pointers.  The local pointers are those of the running
    operation. -/
inductive Own where
  /-- `state = std::make_shared<DeviceState>(handle)`. -/
  | makeDeviceState (handle : HandlePtr)
  /-- `state_ = std::move(state)`, and the `Device` `w` is constructed. -/
  | commitDevice (w : Var)
  /-- `child = std::make_shared<...>()`, `child->device = state_` and, for SMBus,
      `child->address = address`. -/
  | makeChild (kind : ChildKind) (device : DeviceState) (address : UInt8)
  /-- The wrapper `w` is constructed from `std::move(child)`. -/
  | commitChild (w : Var) (kind : ChildKind)
  /-- `state_` of `w` moves to the local pointer; `w` stays, empty. -/
  | reset (w : Var)
  /-- `w` ends its life; its `state_` moves to the local pointer. -/
  | destroy (w : Var)
  | moveConstruct (src dst : Var)
  | copyConstruct (src dst : Var)
  /-- `dst = std::move(src)`; the old `state_` of `dst` moves to the local pointer. -/
  | moveAssign (src dst : Var)
  /-- `dst = src`; the old `state_` of `dst` moves to the local pointer. -/
  | copyAssign (src dst : Var)
  /-- The local device pointer is dropped; the reply is the state it owned, if it was
      its last owner. -/
  | releaseDevice
  /-- The local child pointer is dropped; the reply is the child it owned, if it was
      its last owner. -/
  | releaseChild
  /-- The `DeviceState` is deleted, and its mutex with it. -/
  | deleteDevice (device : DeviceState)
  /-- The child state is deleted; its `device` member moves to the local pointer. -/
  | deleteChild (child : Addr)
deriving DecidableEq

/-- Replies of the pointer operations. -/
@[reducible] def Own.Reply : Own → Type
  | .makeDeviceState _ => Addr
  | .makeChild .. => Addr
  | .releaseDevice => Option DeviceState
  | .releaseChild => Option (Addr × ChildKind)
  | _ => Unit

/-- The effects of a public operation. -/
inductive Eff where
  /-- A heap allocation; the reply tells whether it succeeded. -/
  | alloc
  | lock (mutex : Addr)
  | unlock (mutex : Addr)
  | call (c : NativeCall)
  | proc (p : NativeProc)
  | own (o : Own)

@[reducible] def Eff.Reply : Eff → Type
  | .alloc => Bool
  | .lock _ => Unit
  | .unlock _ => Unit
  | .call c => c.Reply
  | .proc _ => Unit
  | .own o => o.Reply

/-- A public operation. -/
abbrev M (α : Type) : Type := Prog Eff Eff.Reply Exn α

/-- What an operation did, with the replies it got. -/
abbrev Trace : Type := List (Prog.Event Eff.Reply)

/-- A run that starts with the effect `e`, answered by `r`. -/
theorem runs_vis {α : Type} (e : Eff) (r : e.Reply) {k : e.Reply → M α} {tr : Trace}
    {out : Except Exn α} (h : (k r).Runs tr out) : (Prog.vis e k).Runs (⟨e, r⟩ :: tr) out :=
  .vis r h

/-- Every call can answer. -/
theorem NativeCall.out_nonempty (c : NativeCall) : Nonempty c.Out := by
  cases c <;> exact ⟨default⟩

theorem Eff.reply_nonempty (e : Eff) : Nonempty e.Reply := by
  cases e with
  | alloc => exact ⟨true⟩
  | lock | unlock | proc => exact ⟨()⟩
  | call c =>
    obtain ⟨out⟩ := c.out_nonempty
    exact ⟨⟨0, out, by decide⟩⟩
  | own o => cases o <;> exact ⟨default⟩

/-- When a protocol relies on the replies of native calls alone, and each of these can be
    as it relies on, so can every reply. -/
theorem Eff.live {Q : Type} {P : Protocol Eff Eff.Reply Q}
    (hcall : ∀ q c, ∃ reply, P.rely q (.call c) reply)
    (hother : ∀ q e r, (∀ c, e ≠ .call c) → P.rely q e r) (q : Q) (e : Eff) :
    ∃ r, P.rely q e r := by
  cases e with
  | call c => exact hcall q c
  | alloc | lock | unlock | proc | own =>
    obtain ⟨r⟩ := Eff.reply_nonempty _
    exact ⟨r, hother q _ r fun c h => by cases h⟩

/-! ## Building blocks -/

def own (o : Own) : M o.Reply := Prog.perform (E := Eff) (.own o)

def proc (p : NativeProc) : M Unit := Prog.perform (E := Eff) (.proc p)

def unlock (mutex : Addr) : M Unit := Prog.perform (E := Eff) (.unlock mutex)

/-- `std::lock_guard<std::mutex> lock(state->mutex())` around `body`. -/
def withLock {α : Type} (state : DeviceState) (body : M α) : M α :=
  .vis (.lock state.addr) fun _ => body.cleanup (unlock state.addr)

theorem only_withLock {α : Type} {P : Eff → Prop} {state : DeviceState} {body : M α}
    (hlock : P (.lock state.addr)) (hunlock : P (.unlock state.addr)) (h : body.Only P) :
    (withLock state body).Only P :=
  ⟨hlock, fun _ => h.cleanup ⟨hunlock, fun _ => trivial⟩⟩

/-- The protocol does not mind which mutexes are locked. -/
def Lockless {Q : Type} (P : Protocol Eff Eff.Reply Q) : Prop :=
  ∀ q mutex, (P.allow q (.lock mutex) ∧ P.next q (.lock mutex) () = q) ∧
    P.allow q (.unlock mutex) ∧ P.next q (.unlock mutex) () = q

theorem Lockless.wp_withLock {α Q : Type} {P : Protocol Eff Eff.Reply Q} (hP : Lockless P)
    {state : DeviceState} {body : M α} {q : Q} {Φ : Prog.Post Exn α Q} (h : body.wp P q Φ) :
    (withLock state body).wp P q Φ := by
  obtain ⟨hlock, hlocked⟩ := (hP q state.addr).1
  refine ⟨hlock, fun _ _ => ?_⟩
  rw [hlocked]
  refine Prog.wp_cleanup.mpr (Prog.wp_mono h fun out q' hout => ?_)
  obtain ⟨-, hunlock, hunlocked⟩ := hP q' state.addr
  refine ⟨hunlock, fun _ _ => ?_⟩
  show Φ out (P.next q' (.unlock state.addr) ())
  rw [hunlocked]
  exact hout

/-- An allocation that throws `std::bad_alloc` on failure. -/
def allocate : M Unit := .vis .alloc fun ok => if ok then .ret () else .throw .badAlloc

/-- `std::vector<...>(size)`: no memory is needed for an empty vector. -/
def allocateVector (size : Nat) : M Unit := if size = 0 then .ret () else allocate

/-- The events of an allocation that succeeds. -/
def vectorMemory (size : Nat) : Trace := if size = 0 then [] else [⟨.alloc, true⟩]

theorem runs_allocateVector {size : Nat} {tr : Trace} {out : Except Exn Unit} :
    (allocateVector size).Runs tr out ↔ (tr = vectorMemory size ∧ out = .ok ()) ∨
      (size ≠ 0 ∧ tr = [⟨.alloc, false⟩] ∧ out = .error .badAlloc) := by
  unfold allocateVector vectorMemory
  split_ifs with hsize
  · simp [hsize]
  · constructor
    · rintro (_ | _ | ⟨_ | _, hrest⟩)
      · obtain ⟨rfl, rfl⟩ := Prog.runs_throw.mp hrest
        exact .inr ⟨hsize, rfl, rfl⟩
      · obtain ⟨rfl, rfl⟩ := Prog.runs_ret.mp hrest
        exact .inl ⟨rfl, rfl⟩
    · rintro (⟨rfl, rfl⟩ | ⟨-, rfl, rfl⟩)
      · exact runs_vis .alloc true (.ret ())
      · exact runs_vis .alloc false (.throw _)

/-! ## Destruction -/

/-- Drop the local device pointer.  The last owner runs `~DeviceState`, which closes
    the handle, and deletes the object. -/
def dropDevice : M Unit := do
  match ← own .releaseDevice with
  | none => pure ()
  | some state => do
    if state.handle ≠ none then
      proc (.close state.handle)
    own (.deleteDevice state)

/-- Drop the local child pointer.  The last owner destroys the child state: the body
    of `~SmbusDeviceState` first, then the members, the `device` pointer among them. -/
def dropChild : M Unit := do
  match ← own .releaseChild with
  | none => pure ()
  | some (child, kind) => do
    if kind = .smbus then
      proc (.smbusClose child)
    own (.deleteChild child)
    dropDevice

section Only

variable {P : Eff → Prop} (hown : ∀ o, P (.own o)) (hproc : ∀ f, P (.proc f))

include hown hproc

theorem only_dropDevice : dropDevice.Only P := by
  refine Prog.Only.bind ⟨hown _, fun _ => trivial⟩ fun last => ?_
  cases last with
  | none => trivial
  | some state =>
    dsimp only
    split
    · exact Prog.Only.bind ⟨hproc _, fun _ => trivial⟩ fun _ => ⟨hown _, fun _ => trivial⟩
    · exact ⟨hown _, fun _ => trivial⟩

theorem only_dropChild : dropChild.Only P := by
  have hdelete : ∀ child, (do own (.deleteChild child); dropDevice).Only P := fun child =>
    Prog.Only.bind ⟨hown _, fun _ => trivial⟩ fun _ => only_dropDevice hown hproc
  refine Prog.Only.bind ⟨hown _, fun _ => trivial⟩ fun last => ?_
  obtain _ | ⟨child, kind⟩ := last
  · trivial
  · dsimp only
    split
    · exact Prog.Only.bind ⟨hproc _, fun _ => trivial⟩ fun _ => hdelete child
    · exact hdelete child

end Only

end EasyMcp2221
