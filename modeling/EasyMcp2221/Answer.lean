import EasyMcp2221.Domain

/-!
# Answers of the C library

Which replies of a native call report success, and which of these are malformed: an
integer that is no GPIO value, a count above the capacity, an unknown pin or edge, a
block longer than any SMBus block.  Every decoder of the C++ layer accepts exactly
the answers that are not malformed (`DataCall.request_answers`).
-/

namespace EasyMcp2221

open Effect

variable [NativeApi]

/-! ## Success and malformation -/

/-- `mcp2221_gpio_poll_events` returns a count or an error. -/
def NativeCall.countsEvents : NativeCall → Bool
  | .gpioPollEvents .. => true
  | _ => false

/-- The reply reports success. -/
def NativeCall.Succeeded (c : NativeCall) (reply : c.Reply) : Prop :=
  if c.countsEvents then 0 ≤ reply.status else reply.status = err .ok

/-- A level that a GPIO poll may report; -1 stands for a pin that is no GPIO. -/
def IsGpioValue (value : Int) : Prop := value = -1 ∨ value = 0 ∨ value = 1

/-- An event with one of the four pins and a known edge. -/
def NativeGpioEvent.WellFormed (event : NativeGpioEvent) : Prop :=
  event.gpio ≤ 3 ∧
    (event.type = NativeApi.gpioEventRise ∨ event.type = NativeApi.gpioEventFall)

/-- The data that a successful call wrote back cannot be decoded. -/
def NativeCall.Malformed : (c : NativeCall) → c.Reply → Prop
  | .gpioReadMask _, reply =>
    ∃ i : Fin 4, reply.out.2.toNat.testBit i = true ∧ reply.out.1 i ≠ 0 ∧ reply.out.1 i ≠ 1
  | .gpioPoll _ _, reply =>
    ∃ i, ¬ IsGpioValue (reply.out i).oldValue ∨ ¬ IsGpioValue (reply.out i).newValue
  | .gpioPollEvents _ _ _ capacity, reply =>
    reply.status > capacity ∨ ∃ i : Fin 4, (i : Int) < reply.status ∧ ¬ (reply.out i).WellFormed
  | .smbusReadBlockData .., reply => reply.out.2 > 255
  | .smbusBlockProcessCall .., reply => reply.out.2 > 255
  | _, _ => False

/-- The two calls whose answer is a block of variable length. -/
def NativeCall.readsBlock : NativeCall → Bool
  | .smbusReadBlockData .. => true
  | .smbusBlockProcessCall .. => true
  | _ => false

/-- The exception with which the C++ layer answers a malformed answer. -/
def NativeCall.complain (c : NativeCall) : String → Exn :=
  if c.readsBlock then invalidError else protocolError

/-- The request decodes exactly the answers that are not malformed. -/
def Request.Answers {α : Type} : Request α → Prop
  | .call c _ decode =>
    c.countsEvents = false ∧
      ∀ reply : c.Reply, Gate c.complain (¬ c.Malformed reply) (decode reply.out)
  | .count c _ decode =>
    c.countsEvents = true ∧ ∀ reply : c.Reply, 0 ≤ reply.status →
      Gate c.complain (¬ c.Malformed reply) (decode reply.status reply.out)
  | .proc .. => True

/-! ## The decoders -/

theorem gate_toGpioPinState (validMask : UInt8) (nativeState : Fin 4 → Int) (i : Fin 4) :
    Gate protocolError
      (validMask.toNat.testBit i = true → nativeState i = 0 ∨ nativeState i = 1)
      (toGpioPinState validMask nativeState i) := by
  unfold toGpioPinState
  split_ifs with hmask hlow hhigh
  · exact .accept (fun hvalid => by simp [hmask] at hvalid) _ rfl
  · exact .accept (fun _ => .inl hlow) _ rfl
  · exact .accept (fun _ => .inr hhigh) _ rfl
  · exact .reject (fun h => (h (by simpa using hmask)).elim hlow hhigh) _ rfl

theorem gate_toGpioState (dev : HandlePtr) (reply : (NativeCall.gpioReadMask dev).Reply) :
    Gate protocolError (¬ NativeCall.Malformed _ reply) (toGpioState reply.out) := by
  refine Gate.congr (Gate.arrayM fun i => gate_toGpioPinState reply.out.2 reply.out.1 i).map ?_
  simp [NativeCall.Malformed, or_iff_not_imp_left]

theorem GpioPoller.gate_toOptionalGpioValue (value : Int) (operation : String) :
    Gate protocolError (IsGpioValue value) (toOptionalGpioValue value operation) := by
  unfold toOptionalGpioValue
  split_ifs with hnone hlow hhigh
  · exact .accept (.inl hnone) _ rfl
  · exact .accept (.inr (.inl hlow)) _ rfl
  · exact .accept (.inr (.inr hhigh)) _ rfl
  · exact .reject (by rintro (h | h | h) <;> contradiction) _ rfl

theorem gate_decodeChanges (dev : HandlePtr) (poll : Addr)
    (reply : (NativeCall.gpioPoll dev poll).Reply) :
    Gate protocolError (¬ NativeCall.Malformed _ reply)
      (PollerOp.decodeChanges reply.out) := by
  refine Gate.congr (Gate.arrayM fun i =>
    (GpioPoller.gate_toOptionalGpioValue (reply.out i).oldValue _).bind fun _ =>
      (GpioPoller.gate_toOptionalGpioValue (reply.out i).newValue _).map) ?_
  simp [NativeCall.Malformed]

theorem GpioPoller.gate_toPin (gpio : UInt8) : Gate protocolError (gpio ≤ 3) (toPin gpio) := by
  unfold toPin
  split_ifs with h0 h1 h2 h3
  · exact .accept (by rw [h0]; decide) _ rfl
  · exact .accept (by rw [h1]; decide) _ rfl
  · exact .accept (by rw [h2]; decide) _ rfl
  · exact .accept (by rw [h3]; decide) _ rfl
  · refine .reject (fun hle => ?_) _ rfl
    rw [UInt8.le_iff_toNat_le] at hle
    rw [← UInt8.toNat_inj] at h0 h1 h2 h3
    have hnat : (3 : UInt8).toNat = 3 := rfl
    simp only [UInt8.toNat_ofNat, Nat.reducePow, Nat.reduceMod] at *
    omega

theorem GpioPoller.gate_toEdge (type : Int) :
    Gate protocolError (type = NativeApi.gpioEventRise ∨ type = NativeApi.gpioEventFall)
      (toEdge type) := by
  unfold toEdge
  split_ifs with hrise hfall
  · exact .accept (.inl hrise) _ rfl
  · exact .accept (.inr hfall) _ rfl
  · exact .reject (by rintro (h | h) <;> contradiction) _ rfl

theorem GpioPoller.gate_toGpioEvent (event : NativeGpioEvent) :
    Gate protocolError event.WellFormed (toGpioEvent event) :=
  (gate_toPin event.gpio).bind fun _ => (gate_toEdge event.type).map

/-- The count is compared as a `size_t`; for a count that is not negative this is the
    comparison of the integers. -/
theorem gate_toGpioEvents (dev : HandlePtr) (poll : Addr) (hasBuffer : Bool) (capacity : Nat)
    (hcapacity : capacity ≤ 4)
    (reply : (NativeCall.gpioPollEvents dev poll hasBuffer capacity).Reply)
    (hcount : 0 ≤ reply.status) :
    Gate protocolError (¬ NativeCall.Malformed _ reply)
      (GpioPoller.toGpioEvents capacity hcapacity reply.status reply.out) := by
  have hsize : (toSize reply.status : Int) = reply.status := by
    have hint := reply.isInt.2
    rw [toSize_of_nonneg hcount (by omega)]
    omega
  unfold GpioPoller.toGpioEvents
  split_ifs with htoo
  · refine .reject (fun hok => hok (.inl ?_)) _ rfl
    omega
  · refine Gate.congr (Gate.arrayM fun i => GpioPoller.gate_toGpioEvent _).map ?_
    simp only [NativeCall.Malformed, not_or, not_exists, not_and, not_not]
    constructor
    · refine fun hall => ⟨by omega, fun i hi => ?_⟩
      exact hall ⟨i.val, by omega⟩
    · intro hall i
      exact hall.2 ⟨i.val, by omega⟩ (by simp only; omega)

theorem gate_decodeBlock (answer : Vector UInt8 smbusBlockMax × Nat) :
    Gate invalidError (¬ answer.2 > 255) (SmbusOp.decodeBlock answer) := by
  unfold SmbusOp.decodeBlock smbusBlockMax
  split_ifs with hlong
  · exact .reject (fun hok => hok hlong) _ rfl
  · exact .accept hlong _ rfl

/-! ## Every request -/

/-- Every request that `x` may yield is one. -/
def Yields {α : Type} (x : Except Exn (Request α)) : Prop := ∀ req, x = .ok req → req.Answers

theorem Yields.ok {α : Type} {req : Request α} (h : req.Answers) : Yields (.ok req) := by
  rintro _ ⟨⟩
  exact h

/-- The checks before a request do not matter to it. -/
theorem Yields.bind {α β : Type} {x : Except Exn β} {k : β → Except Exn (Request α)}
    (h : ∀ b, Yields (k b)) : Yields (x >>= k) := by
  intro req hreq
  cases x with
  | error y => cases hreq
  | ok b => exact h b req hreq

/-- A call whose answer needs no check. -/
theorem answers_total {α : Type} {c : NativeCall} {operation : String} {f : c.Out → α}
    (hstatus : c.countsEvents = false) (hwell : ∀ reply : c.Reply, ¬ c.Malformed reply) :
    (Request.call c operation fun out => .ok (f out)).Answers :=
  ⟨hstatus, fun reply => .accept (hwell reply) _ rfl⟩

theorem DeviceOp.request_answers (d : DeviceState) (op : DeviceOp) : Yields (op.request d) := by
  cases op with
  | setI2cSpeed | i2cStatus | releaseI2c | writeGpio | setVdd | vdd | readAdcRaw
  | readAdcNormalized | readAdcVolts | writeDacNormalized | writeDacVolts | interruptFlag
  | clearInterruptFlag | sendFlashPassword | flashInfo | flashSettings
  | saveConfigurationToFlash | stageUsbRemoteWakeup | usbRemoteWakeup | stageUsbSelfPowered
  | usbSelfPowered | usbRequestedCurrent =>
    exact .ok (answers_total rfl fun _ => id)
  | configurePins | configureAdc | configureDac | writeDacRaw | configureInterrupt | configureSram
  | readFlash | writeFlash | stageUsbRequestedCurrent =>
    exact .bind fun _ => .ok (answers_total rfl fun _ => id)
  | setPinFunction | configureDacOutput | configureClock | writeFlashVector | rawCommand =>
    exact .bind fun _ => .bind fun _ => .ok (answers_total rfl fun _ => id)
  | i2cWrite | i2cWriteVector | i2cRead =>
    exact .bind fun _ => .bind fun _ => .bind fun _ => .ok (answers_total rfl fun _ => id)
  | readGpio => exact .ok ⟨rfl, fun reply => gate_toGpioState d.handle reply⟩

theorem I2cOp.request_answers (slave : Addr) (op : I2cOp) : Yields (op.request slave) := by
  cases op with
  | isPresent => exact .ok (answers_total rfl fun _ => id)
  | read | readRegister => exact .bind fun _ => .ok (answers_total rfl fun _ => id)
  | write | writeVector | writeRegister | writeRegisterVector =>
    exact .bind fun _ => .bind fun _ => .ok (answers_total rfl fun _ => id)
  | readRegisterLayout =>
    exact .bind fun _ => .bind fun _ => .bind fun _ => .ok (answers_total rfl fun _ => id)
  | writeRegisterLayout =>
    exact .bind fun _ => .bind fun _ => .bind fun _ => .bind fun _ =>
      .ok (answers_total rfl fun _ => id)

theorem SmbusOp.request_answers (s : SmbusDeviceState) (op : SmbusOp) : Yields (op.request s) := by
  cases op with
  | readByte | writeByte | readByteData | writeByteData | readWordData | writeWordData
  | processCall =>
    exact .ok (answers_total rfl fun _ => id)
  | writeBlockData | readI2cBlockData | writeI2cBlockData =>
    exact .bind fun _ => .ok (answers_total rfl fun _ => id)
  | readBlockData => exact .ok ⟨rfl, fun reply => gate_decodeBlock reply.out⟩
  | blockProcessCall => exact .bind fun _ => .ok ⟨rfl, fun reply => gate_decodeBlock reply.out⟩

theorem PollerOp.request_answers (d : DeviceState) (poll : Addr) (op : PollerOp) :
    Yields (op.request d poll) := by
  cases op with
  | setFilter | clearFilter => exact .ok trivial
  | poll => exact .ok ⟨rfl, fun reply => gate_decodeChanges d.handle poll reply⟩
  | pollEvents maxEvents =>
    exact .ok ⟨rfl, fun reply hcount => gate_toGpioEvents _ _ _ _ _ reply hcount⟩

theorem DataCall.request_answers (x : DataCall) : Yields x.request := by
  have hrejected : ∀ {α : Type} {y : Exn}, Yields (.error y : Except Exn (Request α)) := by
    intro α y req hreq
    cases hreq
  cases x with
  | device self op =>
    obtain _ | d := self
    · exact hrejected
    · exact op.request_answers d
  | i2c self op =>
    obtain _ | ⟨slave, _ | d, native⟩ := self
    · exact hrejected
    · exact hrejected
    · exact op.request_answers slave
  | smbus self op =>
    obtain _ | ⟨bus, _ | d, address⟩ := self
    · exact hrejected
    · exact hrejected
    · exact op.request_answers ⟨bus, some d, address⟩
  | poller self op =>
    obtain _ | ⟨poll, _ | d⟩ := self
    · exact hrejected
    · exact hrejected
    · exact op.request_answers d poll

end EasyMcp2221
