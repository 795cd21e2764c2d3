import EasyMcp2221.Transparency

/-!
# Acceptance and rejection

What a run shows of the domain of its operation: outside of it there is no native
call, inside of it there is exactly one, with the arguments of the request.
-/

namespace EasyMcp2221

open Effect

section

variable [NativeApi]

/-- The gate in terms of a run: rejection with `Error(Invalid)` and without a native event, or
    one native event.  Only running out of memory can take the place of either. -/
structure DataCall.Gated (x : DataCall) (tr : Trace) (out : Except Exn x.Ret) : Prop where
  rejected : ¬ x.InDomain → nativeEvents tr = [] ∧
    ((∃ message, out = .error (.error .invalid (err .invalid) message)) ∨
      OutOfMemory tr ∧ out = .error .badAlloc)
  accepted : x.InDomain →
    (∃ req reply, x.request = .ok req ∧ nativeEvents tr = [⟨req.effect, reply⟩]) ∨
      (nativeEvents tr = [] ∧ OutOfMemory tr ∧ out = .error .badAlloc)

theorem DataCall.Outcome.gated {x : DataCall} {target : Target} (htarget : x.target = some target)
    {tr : Trace} {out : Except Exn x.Ret} (houtcome : x.Outcome tr out) : x.Gated tr out := by
  have hgate := x.request_gate htarget
  cases houtcome with
  | outOfMemory hnative hmemory =>
    exact ⟨fun _ => ⟨hnative, .inr ⟨hmemory, rfl⟩⟩, fun _ => .inr ⟨hnative, hmemory, rfl⟩⟩
  | rejected y hrequest hnative =>
    cases hgate with
    | accept _ _ hx => cases hrequest.symm.trans hx
    | reject hno message hx =>
      cases hrequest.symm.trans hx
      exact ⟨fun _ => ⟨hnative, .inl ⟨message, rfl⟩⟩, fun hdomain => absurd hdomain hno⟩
  | answered req reply hrequest hnative | noRoom req reply a hrequest hnative =>
    cases hgate with
    | accept hdomain _ _ =>
      exact ⟨fun hno => absurd hdomain hno, fun _ => .inl ⟨req, reply, hrequest, hnative⟩⟩
    | reject _ message hx => cases hrequest.symm.trans hx

/-! ## Transfers -/

def DeviceOp.IsTransfer : DeviceOp → Prop
  | .i2cWrite .. => True
  | .i2cWriteVector .. => True
  | .i2cRead .. => True
  | .rawCommand .. => True
  | .writeFlashVector .. => True
  | _ => False

def I2cOp.IsTransfer : I2cOp → Prop
  | .isPresent => False
  | _ => True

def SmbusOp.IsTransfer : SmbusOp → Prop
  | .writeBlockData .. => True
  | .blockProcessCall .. => True
  | .readI2cBlockData .. => True
  | .writeI2cBlockData .. => True
  | _ => False

/-- The operations with a payload, a buffer or a size. -/
def DataCall.IsTransfer : DataCall → Prop
  | .device _ op => op.IsTransfer
  | .i2c _ op => op.IsTransfer
  | .smbus _ op => op.IsTransfer
  | .poller .. => False

/-- **The transfer gate.**  A transfer on an object without device state throws
    `std::logic_error` and does nothing else.  Otherwise it is accepted exactly in its
    domain: a rejected one throws `Error(Invalid)` without a native call, an accepted one
    makes exactly the native call of its request.  Every mutex it took is free again and
    it touches no shared state. -/
theorem transfer_gate (x : DataCall) (_hx : x.IsTransfer) (tr : Trace) (out : Except Exn x.Ret)
    (hruns : x.prog.Runs tr out) :
    (x.target = none → tr = [] ∧ ∃ what, out = .error (.logicError what)) ∧
      (x.target ≠ none → x.Gated tr out) ∧ lockedAfter [] tr = [] ∧ KeepsState tr := by
  cases htarget : x.target with
  | none =>
    rw [DataCall.prog_noState htarget] at hruns
    obtain ⟨rfl, rfl⟩ := Prog.runs_throw.mp hruns
    obtain ⟨what, hwhat⟩ := x.noState_eq
    exact ⟨fun _ => ⟨rfl, what, by rw [hwhat]⟩, fun h => absurd rfl h, rfl,
      fun ev hev => absurd hev List.not_mem_nil⟩
  | some target =>
    obtain ⟨hkeeps, hfree, houtcome⟩ := DataCall.run htarget hruns
    exact ⟨nofun, fun _ => houtcome.gated htarget, hfree, hkeeps⟩

end

section

attribute [local instance] NativeApi.reference

/-- A null buffer is rejected before the lock. -/
theorem transfer_gate_null :
    let x : DataCall := .device (some ⟨0, some 7⟩) (.i2cWrite 0x20 none 3 (.named .normal))
    (x.target = none → ([] : Trace) = [] ∧
      ∃ what, (.error (invalidError "I2C data pointer must not be null") : Except Exn Unit) =
        .error (.logicError what)) ∧
      (x.target ≠ none →
        x.Gated [] (.error (invalidError "I2C data pointer must not be null"))) ∧
      lockedAfter [] [] = [] ∧ KeepsState [] :=
  transfer_gate (.device (some ⟨0, some 7⟩) (.i2cWrite 0x20 none 3 (.named .normal))) trivial []
    (.error (invalidError "I2C data pointer must not be null")) (.throw _)

end

end EasyMcp2221
