import EasyMcp2221.Request
import EasyMcp2221.Gate

/-!
# The domain of an operation

`DataCall.InDomain` states, in terms of the arguments alone, what the C++ layer
accepts: sizes, pointers, 7-bit addresses, known enumerators.  Whatever the order in
which an operation checks its arguments, its request exists exactly in the domain,
and outside of it the rejection is an `Error` with code `Invalid`
(`DataCall.request_gate`).
-/

namespace EasyMcp2221

open Effect

/-! ## Domains -/

namespace PinConfiguration

/-- A preserved pin has no output value, and only an output may be high. -/
def Valid (entry : PinConfiguration) : Prop :=
  (∀ function ∈ entry.function, function.Known) ∧
    (entry.outputValue = true → entry.function = some (.named .gpioOutput))

end PinConfiguration

/-- Every engaged field of a runtime configuration is valid. -/
structure SramConfig.Valid (configuration : SramConfig) : Prop where
  direction : ∀ i, ∀ x ∈ (configuration.gpio i).direction, x.Known
  function : ∀ i, ∀ x ∈ (configuration.gpio i).function, x.Known
  adcReference : ∀ x ∈ configuration.adc.reference, x.Known
  dacReference : ∀ x ∈ configuration.dac.reference, x.Known
  dacValue : ∀ x ∈ configuration.dac.value, x ≤ 31
  frequency : ∀ x ∈ configuration.clock.frequency, x.Known
  dutyCycle : ∀ x ∈ configuration.clock.dutyCycle, x.Known

def DeviceOp.InDomain : DeviceOp → Prop
  | .i2cWrite address data size transfer =>
    address ≤ 0x7F ∧ data ≠ none ∧ (1 ≤ size ∧ size ≤ 65535) ∧ transfer.Known
  | .i2cWriteVector address data transfer =>
    address ≤ 0x7F ∧ (1 ≤ data.length ∧ data.length ≤ 65535) ∧ transfer.Known
  | .i2cRead address size transfer =>
    address ≤ 0x7F ∧ (1 ≤ size ∧ size ≤ 65535) ∧ transfer.Known ∧ transfer ≠ .named .noStop
  | .setPinFunction pin function => pin.Known ∧ function.Known
  | .configurePins configuration => ∀ i, (configuration i).Valid
  | .configureAdc reference => reference.Known
  | .configureDac reference => reference.Known
  | .configureDacOutput reference outputCode => outputCode ≤ 31 ∧ reference.Known
  | .writeDacRaw code => code ≤ 31
  | .configureClock duty frequency => duty.Known ∧ frequency.Known
  | .configureInterrupt edge => edge.Known
  | .configureSram configuration => configuration.Valid
  | .readFlash flashSection => flashSection.Known
  | .writeFlash flashSection _ => flashSection.Known
  | .writeFlashVector flashSection data =>
    (1 ≤ data.length ∧ data.length ≤ 62) ∧ flashSection.Known
  | .stageUsbRequestedCurrent milliamps => milliamps ≤ 500 ∧ milliamps % 2 = 0
  | .rawCommand command size => command ≠ none ∧ 1 ≤ size ∧ size ≤ 64
  | _ => True

def I2cOp.InDomain : I2cOp → Prop
  | .isPresent => True
  | .read size => 1 ≤ size ∧ size ≤ 256
  | .write data size => data ≠ none ∧ 1 ≤ size ∧ size ≤ 256
  | .writeVector data => 1 ≤ data.length ∧ data.length ≤ 256
  | .readRegister _ size => 1 ≤ size ∧ size ≤ 256
  | .readRegisterLayout _ size registerWidth byteOrder =>
    (1 ≤ size ∧ size ≤ 256) ∧ registerWidth.Known ∧ byteOrder.Known
  | .writeRegister _ data size => (data = none → size = 0) ∧ size ≤ 256
  | .writeRegisterLayout _ data size registerWidth byteOrder =>
    (data = none → size = 0) ∧ size ≤ 256 ∧ registerWidth.Known ∧ byteOrder.Known
  | .writeRegisterVector _ data => data.length ≤ 256

def SmbusOp.InDomain : SmbusOp → Prop
  | .writeBlockData _ data => data.length ≤ 255
  | .blockProcessCall _ data => data.length ≤ 255
  | .readI2cBlockData _ size => 1 ≤ size ∧ size ≤ 255
  | .writeI2cBlockData _ data => data.length ≤ 255
  | _ => True

/-- The arguments of a call are in the domain of its operation. -/
def DataCall.InDomain : DataCall → Prop
  | .device _ op => op.InDomain
  | .i2c _ op => op.InDomain
  | .smbus _ op => op.InDomain
  | .poller _ _ => True

/-- The clock of the constructor and of a target is from 1 through 400000 Hz. -/
def PublicOp.InDomain : PublicOp → Prop
  | .data x => x.InDomain
  | .construct _ options => 1 ≤ options.i2cSpeedHz ∧ options.i2cSpeedHz ≤ 400000
  | .i2cDevice _ _ address options =>
    address ≤ 0x7F ∧ (1 ≤ options.speedHz ∧ options.speedHz ≤ 400000) ∧
      options.byteOrder.Known ∧ options.registerWidth.Known
  | .smbusDevice _ _ address => address ≤ 0x7F
  | _ => True

/-- The object of an operation has the state it needs. -/
def PublicOp.HasState : PublicOp → Prop
  | .data x => x.target ≠ none
  | .i2cDevice self .. => self ≠ none
  | .smbusDevice self .. => self ≠ none
  | .gpioPoller self _ => self ≠ none
  | _ => True

variable [NativeApi]

/-! ## The translations -/

theorem gate_toNativeByteOrder (x : CppEnum ByteOrder) :
    Gate invalidError x.Known (toNativeByteOrder x) :=
  .ofEnum (by rintro (_ | _) <;> exact ⟨_, rfl⟩) (fun _ _ => rfl) x

theorem gate_toNativeRegisterWidth (x : CppEnum RegisterWidth) :
    Gate invalidError x.Known (toNativeRegisterWidth x) :=
  .ofEnum (by rintro (_ | _ | _ | _) <;> exact ⟨_, rfl⟩) (fun _ _ => rfl) x

theorem I2cDevice.gate_toNativeByteOrder (x : CppEnum ByteOrder) :
    Gate invalidError x.Known (I2cDevice.toNativeByteOrder x) :=
  .ofEnum (by rintro (_ | _) <;> exact ⟨_, rfl⟩) (fun _ _ => rfl) x

theorem I2cDevice.gate_toNativeRegisterWidth (x : CppEnum RegisterWidth) :
    Gate invalidError x.Known (I2cDevice.toNativeRegisterWidth x) :=
  .ofEnum (by rintro (_ | _ | _ | _) <;> exact ⟨_, rfl⟩) (fun _ _ => rfl) x

theorem gate_toNativePin (x : CppEnum Pin) :
    Gate invalidError x.Known (toNativePin x) :=
  .ofEnum (by rintro (_ | _ | _ | _) <;> exact ⟨_, rfl⟩) (fun _ _ => rfl) x

theorem gate_toNativePinFunction (x : CppEnum PinFunction) :
    Gate invalidError x.Known (toNativePinFunction x) :=
  .ofEnum (by rintro (_ | _ | _ | _ | _ | _) <;> exact ⟨_, rfl⟩) (fun _ _ => rfl) x

theorem gate_toNativeSramDirection (x : CppEnum GpioDirection) :
    Gate invalidError x.Known (toNativeSramDirection x) :=
  .ofEnum (by rintro (_ | _) <;> exact ⟨_, rfl⟩) (fun _ _ => rfl) x

theorem gate_toNativeSramPinFunction (x : CppEnum SramPinFunction) :
    Gate invalidError x.Known (toNativeSramPinFunction x) :=
  .ofEnum (by rintro (_ | _ | _ | _ | _) <;> exact ⟨_, rfl⟩) (fun _ _ => rfl) x

theorem gate_applyAdcReference (x : CppEnum VoltageReference) :
    Gate invalidError x.Known (applyAdcReference x) :=
  .ofEnum (by rintro (_ | _ | _ | _ | _) <;> exact ⟨_, rfl⟩) (fun _ _ => rfl) x

theorem gate_applyDacReference (x : CppEnum VoltageReference) :
    Gate invalidError x.Known (applyDacReference x) :=
  .ofEnum (by rintro (_ | _ | _ | _ | _) <;> exact ⟨_, rfl⟩) (fun _ _ => rfl) x

theorem gate_toNativeClockFrequency (x : CppEnum ClockFrequency) :
    Gate invalidError x.Known (toNativeClockFrequency x) :=
  .ofEnum (by rintro (_ | _ | _ | _ | _ | _ | _) <;> exact ⟨_, rfl⟩) (fun _ _ => rfl) x

theorem gate_toNativeClockDuty (x : CppEnum ClockDutyCycle) :
    Gate invalidError x.Known (toNativeClockDuty x) :=
  .ofEnum (by rintro (_ | _ | _ | _) <;> exact ⟨_, rfl⟩) (fun _ _ => rfl) x

theorem gate_toReferenceString (x : CppEnum VoltageReference) :
    Gate invalidError x.Known (toReferenceString x) :=
  .ofEnum (by rintro (_ | _ | _ | _ | _) <;> exact ⟨_, rfl⟩) (fun _ _ => rfl) x

theorem gate_toClockFrequencyString (x : CppEnum ClockFrequency) :
    Gate invalidError x.Known (toClockFrequencyString x) :=
  .ofEnum (by rintro (_ | _ | _ | _ | _ | _ | _) <;> exact ⟨_, rfl⟩) (fun _ _ => rfl) x

theorem gate_toDutyPercent (x : CppEnum ClockDutyCycle) :
    Gate invalidError x.Known (toDutyPercent x) :=
  .ofEnum (by rintro (_ | _ | _ | _) <;> exact ⟨_, rfl⟩) (fun _ _ => rfl) x

theorem gate_toInterruptEdgeString (x : CppEnum InterruptEdge) :
    Gate invalidError x.Known (toInterruptEdgeString x) :=
  .ofEnum (by rintro (_ | _ | _ | _) <;> exact ⟨_, rfl⟩) (fun _ _ => rfl) x

theorem gate_toNativeFlashSection (x : CppEnum FlashSection) :
    Gate invalidError x.Known (toNativeFlashSection x) :=
  .ofEnum (by rintro (_ | _ | _ | _ | _ | _) <;> exact ⟨_, rfl⟩) (fun _ _ => rfl) x

/-! ## What they give -/

omit [NativeApi] in
/-- A translation of enumerators by a table. -/
theorem eq_ok_iff_mem {γ β : Type} [Enumeration γ] {f : CppEnum γ → Except Exn β}
    {table : List (γ × β)} (hnamed : ∀ a b, f (.named a) = .ok b ↔ (a, b) ∈ table)
    (hunnamed : ∀ raw h b, f (.unnamed raw h) ≠ .ok b) {x : CppEnum γ} {b : β} :
    f x = .ok b ↔ ∃ a, x = .named a ∧ (a, b) ∈ table := by
  cases x with
  | named a =>
    rw [hnamed]
    constructor
    · intro h
      exact ⟨a, rfl, h⟩
    · rintro ⟨a', hsame, h⟩
      cases hsame
      exact h
  | unnamed raw h =>
    constructor
    · intro hok
      exact absurd hok (hunnamed raw h b)
    · rintro ⟨a, hsame, -⟩
      cases hsame

/-- The constants of a raw transfer, `NoStop` for writes only. -/
theorem toNativeTransfer_eq_ok {transfer : CppEnum I2cTransfer} {writing : Bool}
    {native : NativeTransfer} : toNativeTransfer transfer writing = .ok native ↔
      (transfer = .named .normal ∧ native = .normal) ∨
      (transfer = .named .repeatedStart ∧ native = .repeatedStart) ∨
      (transfer = .named .noStop ∧ native = .noStop ∧ writing = true) := by
  cases transfer with
  | unnamed raw h => simp [toNativeTransfer, throwInvalid]
  | named kind =>
    cases kind with
    | normal | repeatedStart => simp [toNativeTransfer, eq_comm]
    | noStop => cases writing <;> simp [toNativeTransfer, throwInvalid, eq_comm]

theorem toNativeFlashSection_eq_ok {flashSection : CppEnum FlashSection}
    {native : NativeFlashSection} : toNativeFlashSection flashSection = .ok native ↔
      ∃ name, flashSection = .named name ∧ (name, native) ∈
        [(.chipSettings, .chipSettings), (.gpSettings, .gpSettings),
          (.usbManufacturer, .usbManufacturer), (.usbProduct, .usbProduct),
          (.usbSerial, .usbSerialNum), (.chipSerial, .chipSerialNum)] := by
  apply eq_ok_iff_mem
  · intro name native
    cases name <;> simp [toNativeFlashSection, eq_comm]
  · intro raw h given hok
    cases hok

/-- The texts of the voltage references. -/
theorem toReferenceString_eq_ok {reference : CppEnum VoltageReference} {text : String} :
    toReferenceString reference = .ok text ↔
      ∃ name, reference = .named name ∧ (name, text) ∈
        [(.off, "OFF"), (.vdd, "VDD"), (.internal1V024, "1.024V"), (.internal2V048, "2.048V"),
          (.internal4V096, "4.096V")] := by
  apply eq_ok_iff_mem
  · intro name text
    cases name <;> simp [toReferenceString, eq_comm]
  · intro raw h given hok
    cases hok

theorem toClockFrequencyString_eq_ok {frequency : CppEnum ClockFrequency} {text : String} :
    toClockFrequencyString frequency = .ok text ↔
      ∃ name, frequency = .named name ∧ (name, text) ∈
        [(.khz375, "375kHz"), (.khz750, "750kHz"), (.mhz1_5, "1.5MHz"), (.mhz3, "3MHz"),
          (.mhz6, "6MHz"), (.mhz12, "12MHz"), (.mhz24, "24MHz")] := by
  apply eq_ok_iff_mem
  · intro name text
    cases name <;> simp [toClockFrequencyString, eq_comm]
  · intro raw h given hok
    cases hok

theorem toDutyPercent_eq_ok {duty : CppEnum ClockDutyCycle} {percent : Int} :
    toDutyPercent duty = .ok percent ↔
      ∃ name, duty = .named name ∧ (name, percent) ∈
        [(.percent0, 0), (.percent25, 25), (.percent50, 50), (.percent75, 75)] := by
  apply eq_ok_iff_mem
  · intro name percent
    cases name <;> simp [toDutyPercent, eq_comm]
  · intro raw h given hok
    cases hok

theorem toInterruptEdgeString_eq_ok {edge : CppEnum InterruptEdge} {text : String} :
    toInterruptEdgeString edge = .ok text ↔
      ∃ name, edge = .named name ∧ (name, text) ∈
        [(.none, "none"), (.rising, "rising"), (.falling, "falling"), (.both, "both")] := by
  apply eq_ok_iff_mem
  · intro name text
    cases name <;> simp [toInterruptEdgeString, eq_comm]
  · intro raw h given hok
    cases hok

/-- Behind the payload pointer, which is never null, the C library finds the payload in the
    `data.length` bytes that it reads there. -/
theorem SmbusDevice.payloadPointer_reads (data : Bytes) :
    ∃ bytes, SmbusDevice.payloadPointer data = some bytes ∧ bytes.take data.length = data ∧
      bytes ≠ [] := by
  unfold SmbusDevice.payloadPointer
  by_cases hempty : data = []
  · rw [if_pos hempty, hempty]
    exact ⟨[0], rfl, rfl, List.cons_ne_nil _ _⟩
  · rw [if_neg hempty, vectorData, if_neg hempty]
    exact ⟨data, rfl, List.take_length, hempty⟩

/-! ## Sizes, clocks, addresses and pins -/

/-- A size from 1 through `bound`. -/
theorem gate_size (size bound : Nat) (message : String) :
    Gate invalidError (1 ≤ size ∧ size ≤ bound) (rejectIf (size = 0 ∨ size > bound) message) :=
  (Gate.rejectIf message).congr (by omega)

/-- A clock from 1 through 400000 Hz. -/
theorem gate_speed (hz : UInt32) (message : String) :
    Gate invalidError (1 ≤ hz ∧ hz ≤ 400000)
      (rejectIf (hz = 0 ∨ hz > constants.maxI2cSpeedHz) message) := by
  refine (Gate.rejectIf message).congr ?_
  simp only [constants.maxI2cSpeedHz, not_or, gt_iff_lt, UInt32.not_lt]
  refine and_congr_left fun _ => ?_
  rw [UInt32.le_iff_toNat_le, ← UInt32.toNat_inj]
  have hone : (1 : UInt32).toNat = 1 := rfl
  have hzero : (0 : UInt32).toNat = 0 := rfl
  omega

/-- The pointer of a vector that is not empty is not null. -/
theorem vectorData_ne_none {data : Bytes} (h : 1 ≤ data.length) : vectorData data ≠ none := by
  have hne : data ≠ [] := by
    rintro rfl
    simp at h
  simp [vectorData, hne]

/-- `NoStop` is for writes only. -/
theorem gate_toNativeTransfer (transfer : CppEnum I2cTransfer) (writing : Bool) :
    Gate invalidError (transfer.Known ∧ (transfer = .named .noStop → writing = true))
      (toNativeTransfer transfer writing) := by
  cases transfer with
  | unnamed raw h =>
    exact .reject (fun hknown => CppEnum.not_known_unnamed raw h hknown.1) _ rfl
  | named kind =>
    cases kind with
    | normal => exact .accept ⟨⟨_, rfl⟩, by simp⟩ _ rfl
    | repeatedStart => exact .accept ⟨⟨_, rfl⟩, by simp⟩ _ rfl
    | noStop =>
      cases writing with
      | true => exact .accept ⟨⟨_, rfl⟩, fun _ => rfl⟩ _ rfl
      | false => exact .reject (fun h => nomatch h.2 rfl) _ rfl

theorem gate_validateI2cAddress (address : UInt8) :
    Gate invalidError (address ≤ 0x7F) (validateI2cAddress address) :=
  (Gate.rejectIf _).congr UInt8.not_lt

theorem gate_validateI2cTransferBuffer (data : BytePtr) (size : Nat) :
    Gate invalidError (data ≠ none ∧ 1 ≤ size ∧ size ≤ 65535)
      (validateI2cTransferBuffer data size) := by
  unfold validateI2cTransferBuffer constants.maxI2cTransfer
  by_cases hnull : data = none
  · rw [if_pos hnull]
    exact .reject (fun h => h.1 hnull) _ rfl
  · rw [if_neg hnull]
    exact (Gate.rejectIf _).congr (by constructor <;> intro h <;> [exact ⟨hnull, by omega⟩; omega])

theorem gate_toNativePinConfiguration (entry : PinConfiguration) :
    Gate invalidError entry.Valid (toNativePinConfiguration entry) := by
  obtain ⟨function, outputValue⟩ := entry
  cases function with
  | none =>
    cases outputValue with
    | false => exact .accept ⟨by simp, by simp⟩ _ rfl
    | true => exact .reject (fun h => nomatch h.2 rfl) _ rfl
  | some function =>
    cases function with
    | unnamed raw h =>
      exact .reject (fun hvalid => CppEnum.not_known_unnamed raw h (hvalid.1 _ rfl)) _ rfl
    | named function =>
      have hknown : ∀ x ∈ some (CppEnum.named function), x.Known := by simp
      cases outputValue with
      | false => cases function <;> exact .accept ⟨hknown, by simp⟩ _ rfl
      | true =>
        cases function with
        | gpioOutput => exact .accept ⟨hknown, fun _ => rfl⟩ _ rfl
        | dedicated | alt0 | alt1 | alt2 | gpioInput =>
          exact .reject (fun h => nomatch h.2 rfl) _ rfl

theorem gate_toNativePinFunctions (configuration : PinConfigurations) :
    Gate invalidError (∀ i, (configuration i).Valid) (toNativePinFunctions configuration) :=
  (Gate.arrayM fun i => gate_toNativePinConfiguration (configuration i)).map

/-- A disengaged field is always accepted. -/
theorem gate_keepOr {α : Type} {P : α → Prop} {translate : α → Except Exn Int}
    (h : ∀ a, Gate invalidError (P a) (translate a)) (field : Option α) :
    Gate invalidError (∀ a ∈ field, P a) (keepOr translate field) := by
  cases field with
  | none => exact .accept (by simp) _ rfl
  | some a => exact (h a).congr (by simp)

theorem gate_keepReferenceOr {apply : CppEnum VoltageReference → Except Exn NativeSramReference}
    (h : ∀ x, Gate invalidError x.Known (apply x)) (field : Option (CppEnum VoltageReference)) :
    Gate invalidError (∀ x ∈ field, x.Known) (keepReferenceOr apply field) := by
  cases field with
  | none => exact .accept (by simp) _ rfl
  | some x => exact (h x).congr (by simp)

theorem gate_toNativeSramDacValue (value : UInt8) :
    Gate invalidError (value ≤ 31) (toNativeSramDacValue value) := by
  unfold toNativeSramDacValue
  by_cases hlarge : value > 31
  · rw [if_pos hlarge]
    exact .reject (UInt8.not_le.mpr hlarge) _ rfl
  · rw [if_neg hlarge]
    exact .accept (UInt8.not_lt.mp hlarge) _ rfl

theorem gate_flag (field : Option Bool) : Gate invalidError True (keepOr toNativeFlag field) :=
  (gate_keepOr (fun _ => .ok _) field).congr (by simp)

theorem gate_toNativeSramPin (pin : SramPinConfig) :
    Gate invalidError ((∀ x ∈ pin.direction, x.Known) ∧ ∀ x ∈ pin.function, x.Known)
      (toNativeSramPin pin) := by
  refine Gate.congr ((gate_flag _).bind fun _ => ?_) (iff_of_eq (true_and _))
  refine (gate_keepOr gate_toNativeSramDirection _).bind fun _ => ?_
  exact (gate_keepOr gate_toNativeSramPinFunction _).map

theorem gate_toNativeSramConfig (configuration : SramConfig) :
    Gate invalidError configuration.Valid (toNativeSramConfig configuration) := by
  refine Gate.congr
    (((Gate.arrayM fun i => gate_toNativeSramPin (configuration.gpio i)).bind fun _ =>
      (gate_flag _).bind fun _ => (gate_flag _).bind fun _ => (gate_flag _).bind fun _ =>
      (gate_keepReferenceOr gate_applyAdcReference _).bind fun _ =>
      (gate_keepReferenceOr gate_applyDacReference _).bind fun _ =>
      (gate_keepOr gate_toNativeSramDacValue _).bind fun _ =>
      (gate_keepOr gate_toNativeClockFrequency _).bind fun _ =>
      (gate_keepOr gate_toNativeClockDuty _).map)) ?_
  constructor
  · rintro ⟨hgpio, -, -, -, hadc, hdac, hvalue, hfrequency, hduty⟩
    exact ⟨fun i => (hgpio i).1, fun i => (hgpio i).2, hadc, hdac, hvalue, hfrequency, hduty⟩
  · rintro ⟨hdirection, hfunction, hadc, hdac, hvalue, hfrequency, hduty⟩
    exact ⟨fun i => ⟨hdirection i, hfunction i⟩, trivial, trivial, trivial, hadc, hdac, hvalue,
      hfrequency, hduty⟩

/-! ## Requests exist exactly in the domain -/

theorem DeviceOp.request_gate (d : DeviceState) (op : DeviceOp) :
    Gate invalidError op.InDomain (op.request d) := by
  cases op with
  | setI2cSpeed | i2cStatus | releaseI2c | readGpio | writeGpio | setVdd | vdd | readAdcRaw
  | readAdcNormalized | readAdcVolts | writeDacNormalized | writeDacVolts | interruptFlag
  | clearInterruptFlag | sendFlashPassword | flashInfo | flashSettings
  | saveConfigurationToFlash | stageUsbRemoteWakeup | usbRemoteWakeup | stageUsbSelfPowered
  | usbSelfPowered | usbRequestedCurrent =>
    exact .accept trivial _ rfl
  | i2cWrite address data size transfer =>
    refine Gate.congr
      ((gate_validateI2cAddress address).bind fun _ =>
        (gate_validateI2cTransferBuffer data size).bind fun _ =>
        (gate_toNativeTransfer transfer true).map) ?_
    simp [InDomain, and_assoc]
  | i2cWriteVector address data transfer =>
    refine Gate.congr
      ((gate_validateI2cAddress address).bind fun _ =>
        (gate_validateI2cTransferBuffer (vectorData data) data.length).bind fun _ =>
        (gate_toNativeTransfer transfer true).map) ?_
    constructor
    · rintro ⟨haddress, ⟨-, hsize⟩, hknown, -⟩
      exact ⟨haddress, hsize, hknown⟩
    · rintro ⟨haddress, hsize, hknown⟩
      exact ⟨haddress, ⟨vectorData_ne_none hsize.1, hsize⟩, hknown, fun _ => rfl⟩
  | i2cRead address size transfer =>
    refine Gate.congr
      ((gate_validateI2cAddress address).bind fun _ =>
        (gate_size size constants.maxI2cTransfer _).bind fun _ =>
        (gate_toNativeTransfer transfer false).map) ?_
    simp [InDomain, constants.maxI2cTransfer]
  | setPinFunction pin function =>
    exact (gate_toNativePin pin).bind fun _ => (gate_toNativePinFunction function).map
  | configurePins configuration => exact (gate_toNativePinFunctions configuration).map
  | configureAdc reference => exact (gate_toReferenceString reference).map
  | configureDac reference => exact (gate_toReferenceString reference).map
  | configureDacOutput reference outputCode =>
    exact ((Gate.rejectIf _).congr UInt8.not_lt).bind fun _ =>
      (gate_toReferenceString reference).map
  | writeDacRaw code => exact ((Gate.rejectIf _).congr UInt8.not_lt).map
  | configureClock duty frequency =>
    exact (gate_toDutyPercent duty).bind fun _ => (gate_toClockFrequencyString frequency).map
  | configureInterrupt edge => exact (gate_toInterruptEdgeString edge).map
  | configureSram configuration => exact (gate_toNativeSramConfig configuration).map
  | readFlash flashSection => exact (gate_toNativeFlashSection flashSection).map
  | writeFlash flashSection data => exact (gate_toNativeFlashSection flashSection).map
  | writeFlashVector flashSection data =>
    refine Gate.congr
      ((Gate.rejectIf _).bind fun _ => (gate_toNativeFlashSection flashSection).map) ?_
    refine and_congr_left fun _ => ?_
    rw [← List.length_eq_zero_iff]
    omega
  | stageUsbRequestedCurrent milliamps =>
    refine Gate.congr (Gate.rejectIf _).map ?_
    simp [InDomain, constants.maxUsbCurrentMa]
  | rawCommand command size =>
    exact (Gate.rejectIf _).bind fun _ => (gate_size size constants.packetSize _).map

theorem I2cOp.request_gate (slave : Addr) (op : I2cOp) :
    Gate invalidError op.InDomain (op.request slave) := by
  cases op with
  | isPresent => exact .accept trivial _ rfl
  | read size => exact (gate_size size 256 _).map
  | write data size => exact (Gate.rejectIf _).bind fun _ => (gate_size size 256 _).map
  | writeVector data =>
    refine Gate.congr ((Gate.rejectIf _).bind fun _ => (gate_size data.length 256 _).map) ?_
    exact ⟨And.right, fun hsize => ⟨vectorData_ne_none hsize.1, hsize⟩⟩
  | readRegister reg size => exact (gate_size size 256 _).map
  | readRegisterLayout reg size registerWidth byteOrder =>
    exact (gate_size size 256 _).bind fun _ =>
      (I2cDevice.gate_toNativeRegisterWidth registerWidth).bind fun _ =>
      (I2cDevice.gate_toNativeByteOrder byteOrder).map
  | writeRegister reg data size =>
    refine Gate.congr ((Gate.rejectIf _).bind fun _ => (Gate.rejectIf _).map) ?_
    simp [InDomain]
  | writeRegisterLayout reg data size registerWidth byteOrder =>
    refine Gate.congr
      ((Gate.rejectIf _).bind fun _ => (Gate.rejectIf _).bind fun _ =>
        (I2cDevice.gate_toNativeRegisterWidth registerWidth).bind fun _ =>
        (I2cDevice.gate_toNativeByteOrder byteOrder).map) ?_
    simp [InDomain]
  | writeRegisterVector reg data =>
    have hpointer : ¬ (vectorData data = none ∧ data.length ≠ 0) := by
      rintro ⟨hnull, hlength⟩
      exact vectorData_ne_none (by omega) hnull
    refine Gate.congr ((Gate.rejectIf _).bind fun _ => (Gate.rejectIf _).map) ?_
    exact ⟨fun h => Nat.not_lt.mp h.2, fun h => ⟨hpointer, Nat.not_lt.mpr h⟩⟩

theorem gate_validateWriteBuffer (data : Bytes) :
    Gate invalidError (data.length ≤ 255) (SmbusDevice.validateWriteBuffer data) :=
  (Gate.rejectIf (c := data.length > 255) _).congr Nat.not_lt

theorem SmbusOp.request_gate (s : SmbusDeviceState) (op : SmbusOp) :
    Gate invalidError op.InDomain (op.request s) := by
  cases op with
  | readByte | writeByte | readByteData | writeByteData | readWordData | writeWordData
  | processCall | readBlockData =>
    exact .accept trivial _ rfl
  | writeBlockData command data => exact (gate_validateWriteBuffer data).map
  | blockProcessCall command data => exact (gate_validateWriteBuffer data).map
  | readI2cBlockData command size => exact (gate_size size 255 _).map
  | writeI2cBlockData command data => exact (gate_validateWriteBuffer data).map

/-- The gate of every operation on an object that reaches a device. -/
theorem DataCall.request_gate {x : DataCall} {target : Target} (htarget : x.target = some target) :
    Gate invalidError x.InDomain x.request := by
  cases x with
  | device self op =>
    obtain _ | d := self
    · cases htarget
    · exact op.request_gate d
  | i2c self op =>
    obtain _ | ⟨slave, _ | d, native⟩ := self
    · cases htarget
    · cases htarget
    · exact op.request_gate slave
  | smbus self op =>
    obtain _ | ⟨bus, _ | d, address⟩ := self
    · cases htarget
    · cases htarget
    · exact op.request_gate ⟨bus, some d, address⟩
  | poller self op =>
    obtain _ | ⟨poll, _ | d⟩ := self
    · cases htarget
    · cases htarget
    · cases op <;> exact .accept trivial _ rfl

end EasyMcp2221
