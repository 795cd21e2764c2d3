import EasyMcp2221.Acceptance

/-!
# Configuration requests

`configurePins`, `setPinFunction`, `configureSram`, the analog, clock and interrupt
selections, the flash sections and the USB current.  Their arguments are translated
entry by entry while the native request is built, some before and some after the
lock.  An operation is one transaction all the same: either every engaged entry is
valid and the whole request goes out in one native call, or nothing happens.
-/

namespace EasyMcp2221

open Effect

def DeviceOp.IsConfiguration : DeviceOp → Prop
  | .configurePins _ => True
  | .setPinFunction .. => True
  | .configureSram _ => True
  | .configureAdc _ => True
  | .configureDac _ => True
  | .configureDacOutput .. => True
  | .writeDacRaw _ => True
  | .configureClock .. => True
  | .configureInterrupt _ => True
  | .readFlash _ => True
  | .writeFlash .. => True
  | .stageUsbRequestedCurrent _ => True
  | _ => False

section

variable [NativeApi]

/-! ## No memory is needed -/

/-- The effect is not an allocation. -/
def Eff.Frugal (e : Eff) : Prop := e ≠ .alloc

omit [NativeApi] in
theorem frugal_withLock {α : Type} {state : DeviceState} {body : M α}
    (h : body.Only Eff.Frugal) : (withLock state body).Only Eff.Frugal :=
  only_withLock nofun nofun h

theorem frugal_nativeCall {c : NativeCall} {operation : String} :
    (nativeCall c operation).Only Eff.Frugal :=
  only_nativeCall nofun

omit [NativeApi] in
/-- A check, a translation or a loop of them. -/
theorem only_check {α β : Type} {P : Eff → Prop} {x : Except Exn β} {k : β → M α}
    (h : ∀ b, (k b).Only P) : ((Prog.ofExcept x).bind k).Only P :=
  Prog.only_ofExcept.bind h

theorem DeviceOp.configuration_frugal (d : DeviceState) {op : DeviceOp}
    (hop : op.IsConfiguration) : (op.prog (some d)).Only Eff.Frugal := by
  cases op with
  | configurePins | configureSram | writeDacRaw | stageUsbRequestedCurrent =>
    exact only_check fun _ => only_check fun _ => frugal_withLock frugal_nativeCall
  | configureAdc | configureDac | configureInterrupt | readFlash | writeFlash =>
    exact only_check fun _ => frugal_withLock (only_check fun _ => frugal_nativeCall)
  | setPinFunction | configureClock =>
    exact only_check fun _ =>
      frugal_withLock (only_check fun _ => only_check fun _ => frugal_nativeCall)
  | configureDacOutput =>
    exact only_check fun _ => only_check fun _ =>
      frugal_withLock (only_check fun _ => frugal_nativeCall)
  | _ => exact hop.elim

/-! ## The request of a configuration -/

/-- The request is one call with a checked status, whose answer is the result. -/
def Request.IsPlain {α : Type} (req : Request α) : Prop :=
  ∃ (c : NativeCall) (operation : String) (value : c.Out → α),
    req = .call c operation fun out => .ok (value out)

omit [NativeApi] in
theorem isPlain_call {α : Type} {c : NativeCall} {operation : String} {value : c.Out → α} :
    (Request.call c operation fun out => .ok (value out)).IsPlain :=
  ⟨c, operation, value, rfl⟩

theorem DeviceOp.configuration_plain (d : DeviceState) {op : DeviceOp} (hop : op.IsConfiguration)
    {req : Request op.Ret} (hreq : op.request d = .ok req) : req.IsPlain := by
  cases op with
  | configurePins | configureSram | writeDacRaw | stageUsbRequestedCurrent | configureAdc
  | configureDac | configureInterrupt | readFlash | writeFlash =>
    obtain ⟨native, -, hlast⟩ := bind_eq_ok.mp hreq
    cases hlast
    exact isPlain_call
  | setPinFunction | configureClock | configureDacOutput =>
    obtain ⟨_, -, hrest⟩ := bind_eq_ok.mp hreq
    obtain ⟨_, -, hlast⟩ := bind_eq_ok.mp hrest
    cases hlast
    exact isPlain_call
  | _ => exact hop.elim

/-! ## The gate -/

/-- The operation threw `Error(Invalid)` and never called the C library. -/
def Rejected {α : Type} (tr : Trace) (out : Except Exn α) : Prop :=
  nativeEvents tr = [] ∧ ∃ message, out = .error (.error .invalid (err .invalid) message)

/-- An operation that needs no memory is rejected outside of its domain, and inside of it
    ends as its one native call does. -/
theorem DataCall.Outcome.decided {x : DataCall} {target : Target}
    (htarget : x.target = some target) {tr : Trace} {out : Except Exn x.Ret}
    (hmemory : ¬ OutOfMemory tr) (houtcome : x.Outcome tr out) :
    (¬ x.InDomain → Rejected tr out) ∧
      (x.InDomain → ∃ req reply, x.request = .ok req ∧
        nativeEvents tr = [⟨req.effect, reply⟩] ∧ out = req.result reply) := by
  have hgate := x.request_gate htarget
  cases houtcome with
  | outOfMemory _ hmem => exact absurd hmem hmemory
  | noRoom _ _ _ _ _ _ hmem => exact absurd hmem hmemory
  | rejected y hrequest hnative =>
    cases hgate with
    | accept _ _ hx => cases hrequest.symm.trans hx
    | reject hno message hx =>
      cases hrequest.symm.trans hx
      exact ⟨fun _ => ⟨hnative, message, rfl⟩, fun hdomain => absurd hdomain hno⟩
  | answered req reply hrequest hnative =>
    cases hgate with
    | accept hdomain => exact ⟨fun hno => absurd hdomain hno,
        fun _ => ⟨req, reply, hrequest, hnative, rfl⟩⟩
    | reject _ message hx => cases hrequest.symm.trans hx

/-- The whole request went out in one native call, and the operation ends as its status
    says. -/
def DeviceOp.Issued (d : DeviceState) (op : DeviceOp) (tr : Trace) (out : Except Exn op.Ret) :
    Prop :=
  ∃ (c : NativeCall) (operation : String) (value : c.Out → op.Ret) (reply : c.Reply),
    op.request d = .ok (.call c operation fun out => .ok (value out)) ∧
      nativeEvents tr = [⟨.call c, reply⟩] ∧
      out = if reply.status = err .ok then .ok (value reply.out)
        else .error (statusError reply.status operation)

/-- **Configuration requests are rejected as a whole or issued as a whole.**  On an open
    device, a configuration with any invalid entry throws `Error(Invalid)` without a
    native call; one whose entries are all valid is issued, whole, in exactly one native
    call.  Either way the mutex is free again and no shared state is touched. -/
theorem configuration_gate (d : DeviceState) (op : DeviceOp) (hop : op.IsConfiguration)
    (tr : Trace) (out : Except Exn op.Ret) (hruns : (op.prog (some d)).Runs tr out) :
    (¬ op.InDomain → Rejected tr out) ∧ (op.InDomain → op.Issued d tr out) ∧
      lockedAfter [] tr = [] ∧ KeepsState tr := by
  have htarget : (DataCall.device (some d) op).target = some ⟨d, none⟩ := rfl
  obtain ⟨hkeeps, hfree, houtcome⟩ := DataCall.run htarget hruns
  have hmemory : ¬ OutOfMemory tr := fun hmem =>
    (DeviceOp.configuration_frugal d hop).runs hruns _ hmem rfl
  obtain ⟨hrejected, hissued⟩ := houtcome.decided htarget hmemory
  refine ⟨hrejected, fun hdomain => ?_, hfree, hkeeps⟩
  obtain ⟨req, reply, hrequest, hnative, hout⟩ := hissued hdomain
  obtain ⟨c, operation, value, rfl⟩ := DeviceOp.configuration_plain d hop hrequest
  exact ⟨c, operation, value, reply, hrequest, hnative, hout⟩

end

section

attribute [local instance] NativeApi.reference

/-- A high level on the last pin, after three valid entries. -/
def lateInvalid : PinConfigurations := fun i =>
  if i = 3 then { function := none, outputValue := true }
  else { function := some (.named .gpioOutput), outputValue := true }

/-- The entry that is met last rejects the request. -/
theorem configuration_gate_late :
    let op : DeviceOp := .configurePins lateInvalid
    let out : Except Exn Unit :=
      .error (invalidError "outputValue must be false when a pin function is preserved")
    (¬ op.InDomain → Rejected [] out) ∧ (op.InDomain → op.Issued ⟨0, some 7⟩ [] out) ∧
      lockedAfter [] [] = [] ∧ KeepsState [] :=
  configuration_gate ⟨0, some 7⟩ (.configurePins lateInvalid) trivial []
    (.error (invalidError "outputValue must be false when a pin function is preserved"))
    (.throw _)

end

end EasyMcp2221
