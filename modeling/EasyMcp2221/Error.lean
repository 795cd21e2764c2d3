import EasyMcp2221.DeviceState

/-!
# Error translation

`Error.cpp` and `detail/CheckError.h`.
-/

namespace EasyMcp2221

open Effect

variable [NativeApi]

/-- `detail::toErrorCode`. -/
def toErrorCode (code : Int) : ErrorCode :=
  if code = err .usb then .usb
  else if code = err .timeout then .timeout
  else if code = err .notAck then .notAcknowledged
  else if code = err .lowScl then .lowScl
  else if code = err .lowSda then .lowSda
  else if code = err .invalid then .invalid
  else if code = err .i2c then .i2c
  else if code = err .flashWrite then .flashWrite
  else if code = err .flashPasswd then .flashPassword
  else if code = err .gpioMode then .gpioMode
  else if code = err .i2cShortRead then .i2cShortRead
  else if code = err .flashRead then .flashRead
  else if code = err .notFound then .notFound
  else if code = err .noMemory then .noMemory
  else if code = err .access then .access
  else if code = err .busy then .busy
  else if code = err .usbInit then .usbInit
  else if code = err .usbEnum then .usbEnumeration
  else if code = err .usbOpen then .usbOpen
  else if code = err .usbClaim then .usbClaim
  else if code = err .commandFailed then .commandFailed
  else if code = err .protocol then .protocol
  else .generic

/-- The `Error` that a native status becomes. -/
def statusError (code : Int) (operation : String) : Exn :=
  .error (toErrorCode code) code
    ((if operation = "" then "" else operation ++ ": ") ++ NativeApi.errorCodeToString code)

/-- `detail::checkError`. -/
def checkError (code : Int) (operation : String) : Except Exn Unit :=
  if code = err .ok then .ok () else .error (statusError code operation)

/-- The `Error` of a C++-side validation failure. -/
def invalidError (message : String) : Exn := .error .invalid (err .invalid) message

/-- The `Error` of a malformed answer of the C library. -/
def protocolError (message : String) : Exn := .error .protocol (err .protocol) message

/-- `detail::throwInvalid`. -/
def throwInvalid {α : Type} (message : String) : Except Exn α := .error (invalidError message)

/-- `if (c) { detail::throwInvalid(message); }`. -/
def rejectIf (c : Prop) [Decidable c] (message : String) : Except Exn Unit :=
  if c then throwInvalid message else .ok ()

/-- Call the C library and check the status. -/
def nativeCall (c : NativeCall) (operation : String) : M c.Out := do
  let reply ← Prog.perform (E := Eff) (.call c)
  checkError reply.status operation
  pure reply.out

theorem only_nativeCall {P : Eff → Prop} {c : NativeCall} {operation : String}
    (h : P (.call c)) : (nativeCall c operation).Only P :=
  ⟨h, fun _ => Prog.only_ofExcept.bind fun _ => trivial⟩

/-- A native call, under any protocol. -/
theorem wp_nativeCall {Q : Type} {P : Protocol Eff Eff.Reply Q} {c : NativeCall}
    {operation : String} {q : Q} {Φ : Prog.Post Exn c.Out Q} (hallow : P.allow q (.call c))
    (h : ∀ reply : c.Reply, P.rely q (.call c) reply →
      Φ (if reply.status = err .ok then .ok reply.out
        else .error (statusError reply.status operation)) (P.next q (.call c) reply)) :
    (nativeCall c operation).wp P q Φ := by
  refine Prog.wp_bind.mpr ⟨hallow, fun reply hreply => ?_⟩
  have hpost := h reply hreply
  refine Prog.wp_bind.mpr (Prog.wp_ofExcept.mpr ?_)
  unfold checkError
  split_ifs at hpost ⊢ with hstatus
  · exact hpost
  · exact hpost

/-! ## The translation table -/

/-- The `ErrorCode` that `toErrorCode` has for each enumerator it names. -/
def NativeError.toErrorCode : NativeError → ErrorCode
  | .ok => .generic
  | .usb => .usb
  | .timeout => .timeout
  | .notAck => .notAcknowledged
  | .lowScl => .lowScl
  | .lowSda => .lowSda
  | .invalid => .invalid
  | .i2c => .i2c
  | .flashWrite => .flashWrite
  | .flashPasswd => .flashPassword
  | .gpioMode => .gpioMode
  | .i2cShortRead => .i2cShortRead
  | .flashRead => .flashRead
  | .notFound => .notFound
  | .noMemory => .noMemory
  | .access => .access
  | .busy => .busy
  | .usbInit => .usbInit
  | .usbEnum => .usbEnumeration
  | .usbOpen => .usbOpen
  | .usbClaim => .usbClaim
  | .commandFailed => .commandFailed
  | .protocol => .protocol
  | .generic => .generic

@[simp] theorem err_inj (e e' : NativeError) : err e = err e' ↔ e = e' :=
  ⟨NativeApi.err_injective e e', congrArg err⟩

theorem toErrorCode_err (e : NativeError) : toErrorCode (err e) = e.toErrorCode := by
  cases e <;> simp [toErrorCode, NativeError.toErrorCode]

/-- A validation failure has the code and the status that a native `MCP2221_ERR_INVALID` has. -/
theorem invalidError_eq (message : String) :
    invalidError message = .error (toErrorCode (err .invalid)) (err .invalid) message := by
  rw [toErrorCode_err]
  rfl

theorem toErrorCode_unlisted {code : Int} (h : ∀ e, code ≠ err e) :
    toErrorCode code = .generic := by
  simp [toErrorCode, h]

omit [NativeApi] in
/-- No two error enumerators share an `ErrorCode`. -/
theorem NativeError.toErrorCode_injective {e e' : NativeError} (he : e ≠ .ok) (he' : e' ≠ .ok)
    (h : e.toErrorCode = e'.toErrorCode) : e = e' := by
  revert he he' h
  cases e <;> cases e' <;> simp [NativeError.toErrorCode]

@[simp] theorem checkError_ok (operation : String) : checkError (err .ok) operation = .ok () := by
  simp [checkError]

theorem checkError_of_ne {code : Int} (h : code ≠ err .ok) (operation : String) :
    checkError code operation = .error (statusError code operation) := by
  simp [checkError, h]

theorem err_ne_ok_of_neg {code : Int} (h : code < 0) : code ≠ err .ok := by
  rw [NativeApi.err_ok]
  omega

end EasyMcp2221
