import EasyMcp2221.System.Store
import EasyMcp2221.Effect.Interleaving

/-!
# The system

Threads execute public operations over the shared store.  An effect is entered and
left in two steps; a lock can be left only when the mutex is free, and a reference
count drops in one step.

What the C library answers is arbitrary, up to what its documentation promises: a
successful open gives a new handle, a successful initialisation stores its arguments
in the struct, a failed `mcp2221_smbus_init` leaves a bus that borrows nothing or the
given handle, and no other call changes a slave or a bus.
-/

namespace EasyMcp2221

open Effect

namespace Store

variable {T : Type} [DecidableEq T]

/-! ## Native calls -/

/-- The handle that a call returns. -/
def openedHandle [NativeApi] : (c : NativeCall) → c.Reply → HandlePtr
  | .openScan .., reply => if reply.status = err .ok then reply.out else none
  | _, _ => none

def setChild (s : Store T) (a : Addr) (f : Child T → Child T) : Store T :=
  { s with children := Function.update s.children a ((s.children a).map f) }

def recordPoll (s : Store T) (a : Addr) (c : NativeCall) (reply : c.Reply) : Store T :=
  { s with
    poll := Function.update s.poll a { s.poll a with polls := (s.poll a).polls ++ [⟨c, reply⟩] } }

/-- The end of a native call. -/
def callEnds [NativeApi] (s : Store T) (t : T) : (c : NativeCall) → c.Reply → Store T → Prop
  | .openScan .., reply, s' =>
    if reply.status = err .ok then
      ∃ h, reply.out = some h ∧ (∀ t', .opened t' h ∉ s.log) ∧
        s' = { s with
          handles := Function.update s.handles (.thread t) (some h)
          log := s.log ++ [.opened t h] }
    else s' = s
  | .i2cSlaveInit a dev address _ _ regBytes byteOrder, reply, s' =>
    ∃ slave : NativeSlave, (reply.status = err .ok → slave = ⟨dev, address, regBytes, byteOrder⟩) ∧
      s' = s.setChild a fun child => { child with slave }
  | .smbusInit a existing .., reply, s' =>
    ∃ bus : HandlePtr, (reply.status = err .ok → bus = existing) ∧
      (bus = none ∨ bus = existing) ∧ s' = s.setChild a fun child => { child with bus }
  | .gpioPoll dev a, reply, s' => s' = s.recordPoll a (.gpioPoll dev a) reply
  | .gpioPollEvents dev a hasBuffer capacity, reply, s' =>
    s' = s.recordPoll a (.gpioPollEvents dev a hasBuffer capacity) reply
  | _, _, s' => s' = s

/-- A successful open may return any handle that is new. -/
theorem openScan_ends [NativeApi] {s : Store T} {t : T} {vendorId productId : UInt16}
    {deviceIndex : Int} {serial : Option String} {timeout retries debug trace scan : Int}
    {reply : NativeCall.Reply (.openScan vendorId productId deviceIndex serial timeout retries
      debug trace scan)} {h : Handle} (hok : reply.status = err .ok) (hout : reply.out = some h)
    (hnew : ∀ t', .opened t' h ∉ s.log) :
    s.callEnds t _ reply { s with
      handles := Function.update s.handles (.thread t) (some h)
      log := s.log ++ [.opened t h] } :=
  (if_pos hok).mpr ⟨h, hout, hnew, rfl⟩

/-- The end of a `void` function. -/
def procEnds (s : Store T) : NativeProc → Store T
  | .gpioPollInit a => { s with poll := Function.update s.poll a {} }
  | .gpioPollSetFilterMask a mask =>
    { s with poll := Function.update s.poll a { s.poll a with mask } }
  | _ => s

/-! ## Smart pointers -/

/-- An operation on smart pointers.  A new state object gets the next allocation
    number; the last pointer to an object is dropped by the thread that will delete
    it. -/
def ownEnds (s : Store T) (t : T) (op : Op) : (o : Own) → o.Reply → Store T → Prop
  | .makeDeviceState handle, a, s' =>
    a = s.next ∧
      s' = { s with
        dev := Function.update s.dev (.temp t) (some a)
        handles := Function.update (Function.update s.handles (.state a) handle) (.thread t) none
        next := s.next + 1 }
  | .commitDevice w, _, s' =>
    s' = { s with
      dev := move s.dev (.temp t) (.wrapper w)
      wrappers := Function.update s.wrappers w (some .device) }
  | .makeChild kind device address, a, s' =>
    a = s.next ∧
      s' = { s with
        child := Function.update s.child (.temp t) (some a)
        dev := Function.update s.dev (.member a) (some device.addr)
        children := Function.update s.children a
          (some (op.newChild kind device.handle address))
        next := s.next + 1 }
  | .commitChild w kind, _, s' =>
    s' = { s with
      child := move s.child (.temp t) (.wrapper w)
      wrappers := Function.update s.wrappers w (some (.child kind)) }
  | .releaseDevice, last, s' =>
    (last = none ∧ (∀ a, s.dev (.temp t) = some a → Shared s.dev (.temp t) a) ∧
        s' = { s with dev := drop s.dev (.temp t) }) ∨
      ∃ a, s.dev (.temp t) = some a ∧ ¬ Shared s.dev (.temp t) a ∧
        last = some (s.deviceState a) ∧
        s' = { s with
          dev := drop s.dev (.temp t)
          handles := move s.handles (.state a) (.thread t) }
  | .releaseChild, last, s' =>
    (last = none ∧ (∀ a, s.child (.temp t) = some a → Shared s.child (.temp t) a) ∧
        s' = { s with child := drop s.child (.temp t) }) ∨
      ∃ a child, s.child (.temp t) = some a ∧ ¬ Shared s.child (.temp t) a ∧
        s.children a = some child ∧ last = some (a, child.kind) ∧
        s' = { s with
          child := drop s.child (.temp t)
          children := Function.update s.children a (some { child with deleter := some t }) }
  | .deleteDevice _, _, s' => s' = s
  | .deleteChild a, _, s' =>
    s' = { s with
      dev := move s.dev (.member a) (.temp t)
      children := Function.update s.children a none }
  | o, _, s' =>
    s' = { s with
      dev := relocate o t s.dev
      child := relocate o t s.child
      wrappers := retype o s.wrappers }

/-! ## Effects -/

/-- The thread `t` enters an effect. -/
def enters (t : T) (op : Op) (s : Store T) : Eff → Store T
  | .call c => { s with log := s.log ++ [.call t op c (s.accesses c)] }
  | .proc (.close dev) =>
    { s with
      handles := Function.update s.handles (.thread t) none
      log := s.log ++ [.close t op dev] }
  | .proc (.smbusClose a) =>
    { s with log := s.log ++ [.smbusClose t a ((s.children a).bind Child.bus)] }
  | _ => s

/-- The thread `t` leaves an effect. -/
def leaves [NativeApi] (t : T) (op : Op) (s : Store T) : (e : Eff) → e.Reply → Store T → Prop
  | .alloc, _, s' => s' = s
  | .lock a, _, s' =>
    s.mutex a = none ∧ s' = { s with mutex := Function.update s.mutex a (some t) }
  | .unlock a, _, s' => s' = { s with mutex := Function.update s.mutex a none }
  | .call c, reply, s' => s.callEnds t c reply s'
  | .proc p, _, s' => s' = s.procEnds p
  | .own o, reply, s' => s.ownEnds t op o reply s'

end Store

/-! ## The machine -/

/-- The public operations of several threads.  A thread may start an operation on
    objects of the right classes that nobody else is writing, and it may write an object
    that nobody else is using. -/
def system [NativeApi] (T : Type) [DecidableEq T] :
    Machine Eff Eff.Reply Exn T Op (Store T) where
  prog s op := (op.resolve s).prog.void
  canStart s running t op :=
    op.Typed s ∧ ∀ t' op', t' ≠ t → running t' = some op' → op.Compatible op'
  enter := Store.enters
  leave := Store.leaves

end EasyMcp2221
