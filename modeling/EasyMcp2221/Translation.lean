import EasyMcp2221.Error
import EasyMcp2221.Effect.ArrayLoop

/-!
# Argument translation and validation

The anonymous namespace of `Device.cpp`, with the request loops of
`Device::writeGpio`, `Device::configurePins` and `Device::configureSram`, and the
answer loop of `Device::readGpio`.  Each function returns or throws; none has an
effect.  What it accepts is stated beside it.
-/

namespace EasyMcp2221

open Effect

variable [NativeApi]

/-! ## Register layout -/

def toNativeByteOrder : CppEnum ByteOrder → Except Exn NativeByteOrder
  | .named .bigEndian => .ok .big
  | .named .littleEndian => .ok .little
  | .unnamed _ _ => throwInvalid "Unknown I2C register byte order"

def toNativeRegisterWidth : CppEnum RegisterWidth → Except Exn Int
  | .named .bits8 => .ok 1
  | .named .bits16 => .ok 2
  | .named .bits24 => .ok 3
  | .named .bits32 => .ok 4
  | .unnamed _ _ => throwInvalid "Unknown I2C register width"

/-! ## Raw transfers -/

def toNativeTransfer (transfer : CppEnum I2cTransfer) (writing : Bool) :
    Except Exn NativeTransfer :=
  match transfer with
  | .named .normal => .ok .normal
  | .named .repeatedStart => .ok .repeatedStart
  | .named .noStop =>
    if writing then .ok .noStop
    else throwInvalid "I2cTransfer::NoStop is valid only for I2C writes"
  | .unnamed _ _ => throwInvalid "Unknown I2C transfer kind"

def validateI2cAddress (address : UInt8) : Except Exn Unit :=
  if address > constants.maxI2cAddress then throwInvalid "I2C address must be a 7-bit address"
  else .ok ()

def validateI2cTransferBuffer (data : BytePtr) (size : Nat) : Except Exn Unit :=
  if data = none then throwInvalid "I2C data pointer must not be null"
  else if size = 0 ∨ size > constants.maxI2cTransfer then
    throwInvalid "I2C transfer size must be from 1 through 65535 bytes"
  else .ok ()

/-! ## Pins -/

def toNativePin : CppEnum Pin → Except Exn NativePin
  | .named .gp0 => .ok .gp0
  | .named .gp1 => .ok .gp1
  | .named .gp2 => .ok .gp2
  | .named .gp3 => .ok .gp3
  | .unnamed _ _ => throwInvalid "Unknown GPIO pin"

def toNativePinFunction : CppEnum PinFunction → Except Exn NativePinFunction
  | .named .dedicated => .ok .dedicated
  | .named .alt0 => .ok .alt0
  | .named .alt1 => .ok .alt1
  | .named .alt2 => .ok .alt2
  | .named .gpioInput => .ok .gpioIn
  | .named .gpioOutput => .ok .gpioOut
  | .unnamed _ _ => throwInvalid "Unknown GPIO pin function"

/-- One entry of the loop of `Device::configurePins`: `native.gp[i]` and
    `native.out[i]`. -/
def toNativePinConfiguration (entry : PinConfiguration) :
    Except Exn (NativePinFunction × Int) :=
  match entry.function with
  | none =>
    if entry.outputValue then
      throwInvalid "outputValue must be false when a pin function is preserved"
    else .ok (.keep, 0)
  | some function =>
    match toNativePinFunction function with
    | .error x => .error x
    | .ok native =>
      match function with
      | .named .gpioOutput => .ok (native, if entry.outputValue then 1 else 0)
      | _ =>
        if entry.outputValue then
          throwInvalid "outputValue may be true only for PinFunction::GpioOutput"
        else .ok (native, 0)

/-- The request of `Device::configurePins`. -/
def toNativePinFunctions (configuration : PinConfigurations) :
    Except Exn NativePinFunctions := do
  let entries ← arrayM 4 fun i => toNativePinConfiguration (configuration i)
  pure { gp := fun i => (entries i).1, out := fun i => (entries i).2 }

/-- The request of `Device::writeGpio`. -/
def toNativeGpioWrite (values : GpioWrite) : NativeGpioWrite :=
  let value (i : Fin 4) : Int :=
    match values.pins i with
    | none => NativeApi.gpioKeep
    | some level => if level then 1 else 0
  { gp0 := value 0, gp1 := value 1, gp2 := value 2, gp3 := value 3 }

/-- One pin of the loop of `Device::readGpio`. -/
def toGpioPinState (validMask : UInt8) (nativeState : Fin 4 → Int) (i : Fin 4) :
    Except Exn (Option Bool) :=
  if validMask.toNat.testBit i.val = false then .ok none
  else if nativeState i = 0 then .ok (some false)
  else if nativeState i = 1 then .ok (some true)
  else .error (protocolError "Reading GPIO state: invalid GPIO value returned by C library")

/-- The answer of `Device::readGpio`. -/
def toGpioState (answer : (Fin 4 → Int) × UInt8) : Except Exn GpioState := do
  let pins ← arrayM 4 (toGpioPinState answer.2 answer.1)
  pure { pins }

/-! ## Runtime SRAM -/

def toNativeSramDirection : CppEnum GpioDirection → Except Exn Int
  | .named .output => .ok NativeApi.dirOutput
  | .named .input => .ok NativeApi.dirInput
  | .unnamed _ _ => throwInvalid "Unknown GPIO direction"

def toNativeSramPinFunction : CppEnum SramPinFunction → Except Exn Int
  | .named .gpio => .ok NativeApi.gpioFuncGpio
  | .named .dedicated => .ok NativeApi.gpioFuncDedicated
  | .named .alt0 => .ok NativeApi.gpioFuncAlt0
  | .named .alt1 => .ok NativeApi.gpioFuncAlt1
  | .named .alt2 => .ok NativeApi.gpioFuncAlt2
  | .unnamed _ _ => throwInvalid "Unknown SRAM pin function"

def applyAdcReference : CppEnum VoltageReference → Except Exn NativeSramReference
  | .named .off => .ok ⟨NativeApi.adcVrmOff, NativeApi.adcRefVrm⟩
  | .named .vdd => .ok ⟨NativeApi.configKeep, NativeApi.adcRefVdd⟩
  | .named .internal1V024 => .ok ⟨NativeApi.adcVrm1024, NativeApi.adcRefVrm⟩
  | .named .internal2V048 => .ok ⟨NativeApi.adcVrm2048, NativeApi.adcRefVrm⟩
  | .named .internal4V096 => .ok ⟨NativeApi.adcVrm4096, NativeApi.adcRefVrm⟩
  | .unnamed _ _ => throwInvalid "Unknown ADC voltage reference"

def applyDacReference : CppEnum VoltageReference → Except Exn NativeSramReference
  | .named .off => .ok ⟨NativeApi.dacVrmOff, NativeApi.dacRefVrm⟩
  | .named .vdd => .ok ⟨NativeApi.configKeep, NativeApi.dacRefVdd⟩
  | .named .internal1V024 => .ok ⟨NativeApi.dacVrm1024, NativeApi.dacRefVrm⟩
  | .named .internal2V048 => .ok ⟨NativeApi.dacVrm2048, NativeApi.dacRefVrm⟩
  | .named .internal4V096 => .ok ⟨NativeApi.dacVrm4096, NativeApi.dacRefVrm⟩
  | .unnamed _ _ => throwInvalid "Unknown DAC voltage reference"

def toNativeClockFrequency : CppEnum ClockFrequency → Except Exn Int
  | .named .khz375 => .ok NativeApi.clkFreq375kHz
  | .named .khz750 => .ok NativeApi.clkFreq750kHz
  | .named .mhz1_5 => .ok NativeApi.clkFreq1_5MHz
  | .named .mhz3 => .ok NativeApi.clkFreq3MHz
  | .named .mhz6 => .ok NativeApi.clkFreq6MHz
  | .named .mhz12 => .ok NativeApi.clkFreq12MHz
  | .named .mhz24 => .ok NativeApi.clkFreq24MHz
  | .unnamed _ _ => throwInvalid "Unknown clock frequency"

def toNativeClockDuty : CppEnum ClockDutyCycle → Except Exn Int
  | .named .percent0 => .ok NativeApi.clkDuty0
  | .named .percent25 => .ok NativeApi.clkDuty25
  | .named .percent50 => .ok NativeApi.clkDuty50
  | .named .percent75 => .ok NativeApi.clkDuty75
  | .unnamed _ _ => throwInvalid "Unknown clock duty cycle"

/-- A field of the SRAM request: `MCP2221_CONFIG_KEEP` when the option is disengaged. -/
def keepOr {α : Type} (translate : α → Except Exn Int) : Option α → Except Exn Int
  | none => .ok NativeApi.configKeep
  | some a => translate a

/-- A reference of the SRAM request: both fields keep when the option is disengaged. -/
def keepReferenceOr (apply : CppEnum VoltageReference → Except Exn NativeSramReference) :
    Option (CppEnum VoltageReference) → Except Exn NativeSramReference
  | none => .ok ⟨NativeApi.configKeep, NativeApi.configKeep⟩
  | some reference => apply reference

def toNativeFlag (flag : Bool) : Except Exn Int := .ok (if flag then 1 else 0)

def toNativeSramDacValue (value : UInt8) : Except Exn Int :=
  if value > 31 then throwInvalid "DAC SRAM value must be from 0 through 31"
  else .ok value.toNat

def toNativeSramPin (pin : SramPinConfig) : Except Exn NativeSramPin := do
  let value ← keepOr toNativeFlag pin.outputValue
  let direction ← keepOr toNativeSramDirection pin.direction
  let function ← keepOr toNativeSramPinFunction pin.function
  pure { value, direction, function }

/-- The request of `Device::configureSram`. -/
def toNativeSramConfig (configuration : SramConfig) : Except Exn NativeSramConfig := do
  let gp ← arrayM 4 fun i => toNativeSramPin (configuration.gpio i)
  let posEdge ← keepOr toNativeFlag configuration.interrupt.risingEdge
  let negEdge ← keepOr toNativeFlag configuration.interrupt.fallingEdge
  let clearFlag ← keepOr toNativeFlag configuration.interrupt.clearFlag
  let adcCfg ← keepReferenceOr applyAdcReference configuration.adc.reference
  let dacRef ← keepReferenceOr applyDacReference configuration.dac.reference
  let dacValue ← keepOr toNativeSramDacValue configuration.dac.value
  let clkDiv ← keepOr toNativeClockFrequency configuration.clock.frequency
  let clkDuty ← keepOr toNativeClockDuty configuration.clock.dutyCycle
  pure { gp, posEdge, negEdge, clearFlag, adcCfg, dacRef, dacValue, clkDiv, clkDuty }

/-! ## Analog, clock, interrupt and flash selectors -/

def toReferenceString : CppEnum VoltageReference → Except Exn String
  | .named .off => .ok "OFF"
  | .named .vdd => .ok "VDD"
  | .named .internal1V024 => .ok "1.024V"
  | .named .internal2V048 => .ok "2.048V"
  | .named .internal4V096 => .ok "4.096V"
  | .unnamed _ _ => throwInvalid "Unknown voltage reference"

def toClockFrequencyString : CppEnum ClockFrequency → Except Exn String
  | .named .khz375 => .ok "375kHz"
  | .named .khz750 => .ok "750kHz"
  | .named .mhz1_5 => .ok "1.5MHz"
  | .named .mhz3 => .ok "3MHz"
  | .named .mhz6 => .ok "6MHz"
  | .named .mhz12 => .ok "12MHz"
  | .named .mhz24 => .ok "24MHz"
  | .unnamed _ _ => throwInvalid "Unknown clock frequency"

def toDutyPercent : CppEnum ClockDutyCycle → Except Exn Int
  | .named .percent0 => .ok 0
  | .named .percent25 => .ok 25
  | .named .percent50 => .ok 50
  | .named .percent75 => .ok 75
  | .unnamed _ _ => throwInvalid "Unknown clock duty cycle"

def toInterruptEdgeString : CppEnum InterruptEdge → Except Exn String
  | .named .none => .ok "none"
  | .named .rising => .ok "rising"
  | .named .falling => .ok "falling"
  | .named .both => .ok "both"
  | .unnamed _ _ => throwInvalid "Unknown interrupt edge selection"

def toNativeFlashSection : CppEnum FlashSection → Except Exn NativeFlashSection
  | .named .chipSettings => .ok .chipSettings
  | .named .gpSettings => .ok .gpSettings
  | .named .usbManufacturer => .ok .usbManufacturer
  | .named .usbProduct => .ok .usbProduct
  | .named .usbSerial => .ok .usbSerialNum
  | .named .chipSerial => .ok .chipSerialNum
  | .unnamed _ _ => throwInvalid "Unknown flash section"

end EasyMcp2221
