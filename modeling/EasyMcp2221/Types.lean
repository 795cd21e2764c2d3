import Mathlib.Data.Fintype.Basic
import Mathlib.Data.Fintype.Pi

/-!
# Value types of the public API

`Types.h`, `Constants.h`, `DeviceOptions.h`, the options of `I2cDevice.h` and the
exception type of `Error.h`.  Arrays of length four are functions on `Fin 4`,
`std::optional` is `Option`, and a `double` is its bit pattern: the library only
passes doubles through.

A C++ enumeration variable may hold any value of its underlying type, so the API
takes a `CppEnum`: one of the enumerators, or a value that names none of them.
-/

namespace EasyMcp2221

/-- The index of a pin may be written as a numeral. -/
instance neZero_pins : @NeZero Nat Zero.ofOfNat0 4 := ⟨by decide⟩

/-! ## Enumerations -/

/-- The underlying values of the enumerators of a C++ enumeration. -/
class Enumeration (α : Type) where
  underlying : α → Int

/-- A variable of a C++ enumeration type. -/
inductive CppEnum (α : Type) [Enumeration α] where
  | named (a : α)
  | unnamed (raw : Int) (outside : ∀ a : α, Enumeration.underlying a ≠ raw)

namespace CppEnum

variable {α : Type} [Enumeration α]

/-- The value names an enumerator. -/
def Known (x : CppEnum α) : Prop := ∃ a, x = .named a

@[simp] theorem known_named (a : α) : (named a).Known := ⟨a, rfl⟩

@[simp] theorem not_known_unnamed (raw : Int)
    (outside : ∀ a : α, Enumeration.underlying a ≠ raw) :
    ¬ (unnamed raw outside).Known := by
  rintro ⟨a, h⟩
  cases h

instance (x : CppEnum α) : Decidable x.Known :=
  match x with
  | .named a => .isTrue (known_named a)
  | .unnamed raw outside => .isFalse (not_known_unnamed raw outside)

end CppEnum

/-- General-purpose pin identifiers. -/
inductive Pin where
  | gp0 | gp1 | gp2 | gp3
deriving DecidableEq, Repr

instance : Enumeration Pin where
  underlying
    | .gp0 => 0
    | .gp1 => 1
    | .gp2 => 2
    | .gp3 => 3

inductive PinFunction where
  | dedicated | alt0 | alt1 | alt2 | gpioInput | gpioOutput
deriving DecidableEq, Repr

instance : Enumeration PinFunction where
  underlying
    | .dedicated => 0
    | .alt0 => 1
    | .alt1 => 2
    | .alt2 => 3
    | .gpioInput => 4
    | .gpioOutput => 5

inductive GpioDirection where
  | output | input
deriving DecidableEq, Repr

instance : Enumeration GpioDirection where
  underlying
    | .output => 0
    | .input => 1

/-- SRAM-level function selector; it does not encode the GPIO direction. -/
inductive SramPinFunction where
  | gpio | dedicated | alt0 | alt1 | alt2
deriving DecidableEq, Repr

instance : Enumeration SramPinFunction where
  underlying
    | .gpio => 0
    | .dedicated => 1
    | .alt0 => 2
    | .alt1 => 3
    | .alt2 => 4

inductive I2cTransfer where
  | normal | repeatedStart | noStop
deriving DecidableEq, Repr

instance : Enumeration I2cTransfer where
  underlying
    | .normal => 0
    | .repeatedStart => 1
    | .noStop => 2

inductive RegisterWidth where
  | bits8 | bits16 | bits24 | bits32
deriving DecidableEq, Repr

instance : Enumeration RegisterWidth where
  underlying
    | .bits8 => 1
    | .bits16 => 2
    | .bits24 => 3
    | .bits32 => 4

inductive ByteOrder where
  | bigEndian | littleEndian
deriving DecidableEq, Repr

instance : Enumeration ByteOrder where
  underlying
    | .bigEndian => 0
    | .littleEndian => 1

inductive VoltageReference where
  | off | vdd | internal1V024 | internal2V048 | internal4V096
deriving DecidableEq, Repr

instance : Enumeration VoltageReference where
  underlying
    | .off => 0
    | .vdd => 1
    | .internal1V024 => 2
    | .internal2V048 => 3
    | .internal4V096 => 4

inductive InterruptEdge where
  | none | rising | falling | both
deriving DecidableEq, Repr

instance : Enumeration InterruptEdge where
  underlying
    | .none => 0
    | .rising => 1
    | .falling => 2
    | .both => 3

inductive GpioEdge where
  | rising | falling
deriving DecidableEq, Repr

inductive ClockFrequency where
  | khz375 | khz750 | mhz1_5 | mhz3 | mhz6 | mhz12 | mhz24
deriving DecidableEq, Repr

instance : Enumeration ClockFrequency where
  underlying
    | .khz375 => 0
    | .khz750 => 1
    | .mhz1_5 => 2
    | .mhz3 => 3
    | .mhz6 => 4
    | .mhz12 => 5
    | .mhz24 => 6

inductive ClockDutyCycle where
  | percent0 | percent25 | percent50 | percent75
deriving DecidableEq, Repr

instance : Enumeration ClockDutyCycle where
  underlying
    | .percent0 => 0
    | .percent25 => 1
    | .percent50 => 2
    | .percent75 => 3

inductive FlashSection where
  | chipSettings | gpSettings | usbManufacturer | usbProduct | usbSerial | chipSerial
deriving DecidableEq, Repr

instance : Enumeration FlashSection where
  underlying
    | .chipSettings => 0
    | .gpSettings => 1
    | .usbManufacturer => 2
    | .usbProduct => 3
    | .usbSerial => 4
    | .chipSerial => 5

/-! ## Constants -/

namespace constants

def defaultVendorId : UInt16 := 0x04D8
def defaultProductId : UInt16 := 0x00DD
def packetSize : Nat := 64
def maxI2cAddress : UInt8 := 0x7F
def maxI2cTransfer : Nat := 65535
def maxI2cSpeedHz : UInt32 := 400000
def maxUsbCurrentMa : UInt32 := 500

end constants

/-! ## Plain data -/

/-- A C++ `double`, which the library hands on and never computes with. -/
structure Double where
  bits : UInt64
deriving DecidableEq, Repr, Inhabited

abbrev Bytes : Type := List UInt8

/-- A `const uint8_t*`: null, or the bytes it points to. -/
abbrev BytePtr : Type := Option Bytes

abbrev FlashData : Type := Vector UInt8 60
abbrev FlashPassword : Type := Vector UInt8 8

/-- Snapshot of the I2C engine. -/
structure I2cStatus where
  requestedLength : UInt16
  transmittedLength : UInt16
  divider : UInt8
  acknowledged : Bool
  state : UInt8
  scl : Bool
  sda : Bool
  confused : Bool
  initialized : Bool
deriving DecidableEq, Repr

/-- Logical state of the four pins; a disengaged entry is not a GPIO. -/
structure GpioState where
  pins : Fin 4 → Option Bool
deriving DecidableEq

/-- Partial output update; a disengaged entry preserves the output. -/
structure GpioWrite where
  pins : Fin 4 → Option Bool
deriving DecidableEq

structure GpioChange where
  oldValue : Option Bool
  newValue : Option Bool
  changed : Bool
deriving DecidableEq, Repr

/-- Persistent edge selection; selecting nothing accepts every event. -/
structure GpioEventFilter where
  rising : Fin 4 → Bool := fun _ => false
  falling : Fin 4 → Bool := fun _ => false
deriving DecidableEq

structure GpioEvent where
  pin : Pin
  edge : GpioEdge
  time : Double
  previousTime : Double
deriving DecidableEq, Repr

/-- Partial configuration of one pin; without a function the pin is preserved. -/
structure PinConfiguration where
  function : Option (CppEnum PinFunction)
  outputValue : Bool := false

abbrev PinConfigurations : Type := Fin 4 → PinConfiguration

structure SramPinConfig where
  outputValue : Option Bool := none
  direction : Option (CppEnum GpioDirection) := none
  function : Option (CppEnum SramPinFunction) := none

structure SramInterruptConfig where
  risingEdge : Option Bool := none
  fallingEdge : Option Bool := none
  clearFlag : Option Bool := none

structure SramAdcConfig where
  reference : Option (CppEnum VoltageReference) := none

structure SramDacConfig where
  reference : Option (CppEnum VoltageReference) := none
  value : Option UInt8 := none

structure SramClockConfig where
  frequency : Option (CppEnum ClockFrequency) := none
  dutyCycle : Option (CppEnum ClockDutyCycle) := none

/-- Runtime SRAM configuration; every disengaged field is preserved. -/
structure SramConfig where
  gpio : Fin 4 → SramPinConfig := fun _ => {}
  interrupt : SramInterruptConfig := {}
  adc : SramAdcConfig := {}
  dac : SramDacConfig := {}
  clock : SramClockConfig := {}

structure FlashSettings where
  chip : FlashData
  gpio : FlashData
deriving DecidableEq

structure FlashInfo where
  chipSettings : FlashData
  gpSettings : FlashData
  usbManufacturerRaw : FlashData
  usbProductRaw : FlashData
  usbSerialRaw : FlashData
  factorySerialRaw : FlashData
  usbManufacturer : String
  usbProduct : String
  usbSerial : String
  factorySerial : String
deriving DecidableEq

/-- Options used when opening a device. -/
structure DeviceOptions where
  vendorId : UInt16 := constants.defaultVendorId
  productId : UInt16 := constants.defaultProductId
  deviceIndex : Int := 0
  usbSerial : String := ""
  usbReadTimeoutMs : Int := 500
  commandRetries : Int := 3
  debugMessages : Bool := false
  tracePackets : Bool := false
  scanFlashSerial : Bool := false
  i2cSpeedHz : UInt32 := 100000

/-- Options used when creating an I2C target adapter. -/
structure I2cDeviceOptions where
  force : Bool := false
  speedHz : UInt32 := 100000
  registerWidth : CppEnum RegisterWidth := .named .bits8
  byteOrder : CppEnum ByteOrder := .named .bigEndian

/-! ## Exceptions -/

inductive ErrorCode where
  | usb | timeout | notAcknowledged | lowScl | lowSda | invalid | i2c | flashWrite
  | flashPassword | gpioMode | generic | i2cShortRead | flashRead | notFound | noMemory
  | access | busy | usbInit | usbEnumeration | usbOpen | usbClaim | commandFailed | protocol
deriving DecidableEq, Repr

/-- What an operation may throw: the library's `Error`, a `std::logic_error` of an
    object without state, the `std::invalid_argument` of the Qt layer, and
    `std::bad_alloc`. -/
inductive Exn where
  | error (code : ErrorCode) (nativeCode : Int) (message : String)
  | logicError (what : String)
  | invalidArgument (what : String)
  | badAlloc
deriving DecidableEq, Repr

end EasyMcp2221
