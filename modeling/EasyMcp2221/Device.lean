import EasyMcp2221.Translation

/-!
# Data operations of `Device`

`Device.cpp`, from `setI2cSpeed` on.  An operation takes the `state_` of the object
it is called on; it cannot change it.  The `lock_guard` scopes are those of the
source, so whatever the source evaluates after taking the lock (the translation of
some enumerations, the checks of the status) is inside `withLock` here.
-/

namespace EasyMcp2221

open Effect

variable [NativeApi]

/-- `requireOpen`. -/
def requireOpen (state : Option DeviceState) : Except Exn DeviceState :=
  match state with
  | none => .error (.logicError "Device is closed")
  | some state => .ok state

namespace Device

/-! ## I2C engine -/

def setI2cSpeed (self : Option DeviceState) (hz : UInt32) : M Unit := do
  let state ← requireOpen self
  withLock state do
    nativeCall (.i2cSetSpeed state.handle hz) "Setting I2C speed"

def i2cWrite (self : Option DeviceState) (address : UInt8) (data : BytePtr) (size : Nat)
    (transfer : CppEnum I2cTransfer) : M Unit := do
  let state ← requireOpen self
  validateI2cAddress address
  validateI2cTransferBuffer data size
  let nativeTransfer ← toNativeTransfer transfer true
  withLock state do
    nativeCall (.i2cWriteSimple state.handle address data size nativeTransfer)
      "Writing I2C data"

def i2cWriteVector (self : Option DeviceState) (address : UInt8) (data : Bytes)
    (transfer : CppEnum I2cTransfer) : M Unit :=
  i2cWrite self address (vectorData data) data.length transfer

def i2cRead (self : Option DeviceState) (address : UInt8) (size : Nat)
    (transfer : CppEnum I2cTransfer) : M Bytes := do
  let state ← requireOpen self
  validateI2cAddress address
  rejectIf (size = 0 ∨ size > constants.maxI2cTransfer)
    "I2C read size must be from 1 through 65535 bytes"
  let nativeTransfer ← toNativeTransfer transfer false
  allocateVector size
  withLock state do
    let data ← nativeCall (.i2cReadSimple state.handle address size nativeTransfer)
      "Reading I2C data"
    pure data.toList

def i2cStatus (self : Option DeviceState) : M I2cStatus := do
  let state ← requireOpen self
  let native ← withLock state do
    nativeCall (.i2cStatus state.handle) "Reading I2C status"
  pure
    { requestedLength := native.rlen
      transmittedLength := native.txlen
      divider := native.div
      acknowledged := native.ack ≠ 0
      state := native.st
      scl := native.scl ≠ 0
      sda := native.sda ≠ 0
      confused := native.confused ≠ 0
      initialized := native.initialized ≠ 0 }

def releaseI2c (self : Option DeviceState) : M Unit := do
  let state ← requireOpen self
  withLock state do
    nativeCall (.i2cRelease state.handle) "Releasing I2C engine"

/-! ## GPIO -/

def readGpio (self : Option DeviceState) : M GpioState := do
  let state ← requireOpen self
  let answer ← withLock state do
    nativeCall (.gpioReadMask state.handle) "Reading GPIO state"
  toGpioState answer

def writeGpio (self : Option DeviceState) (values : GpioWrite) : M Unit := do
  let state ← requireOpen self
  let request := toNativeGpioWrite values
  withLock state do
    nativeCall (.gpioWrite state.handle request) "Writing GPIO state"

def setPinFunction (self : Option DeviceState) (pin : CppEnum Pin)
    (function : CppEnum PinFunction) : M Unit := do
  let state ← requireOpen self
  withLock state do
    let nativePin ← toNativePin pin
    let nativeFunction ← toNativePinFunction function
    nativeCall (.pinSetFunction state.handle nativePin nativeFunction)
      "Setting GPIO pin function"

def configurePins (self : Option DeviceState) (configuration : PinConfigurations) : M Unit := do
  let state ← requireOpen self
  let native ← toNativePinFunctions configuration
  withLock state do
    nativeCall (.pinSetFunctions state.handle native) "Configuring GPIO pin functions"

/-! ## Analog -/

def setVdd (self : Option DeviceState) (volts : Double) : M Unit := do
  let state ← requireOpen self
  withLock state do
    nativeCall (.analogSetVdd state.handle volts) "Setting VDD"

def vdd (self : Option DeviceState) : M Double := do
  let state ← requireOpen self
  withLock state do
    nativeCall (.analogGetVdd state.handle) "Reading VDD"

def configureAdc (self : Option DeviceState) (reference : CppEnum VoltageReference) :
    M Unit := do
  let state ← requireOpen self
  withLock state do
    let name ← toReferenceString reference
    nativeCall (.adcConfig state.handle name) "Configuring ADC reference"

def readAdcRaw (self : Option DeviceState) : M (Vector UInt16 3) := do
  let state ← requireOpen self
  withLock state do
    nativeCall (.adcReadRaw state.handle) "Reading raw ADC values"

def readAdcNormalized (self : Option DeviceState) : M (Vector Double 3) := do
  let state ← requireOpen self
  withLock state do
    nativeCall (.adcReadNormalized state.handle) "Reading normalized ADC values"

def readAdcVolts (self : Option DeviceState) : M (Vector Double 3) := do
  let state ← requireOpen self
  withLock state do
    nativeCall (.adcReadVolts state.handle) "Reading ADC voltages"

def configureDac (self : Option DeviceState) (reference : CppEnum VoltageReference) :
    M Unit := do
  let state ← requireOpen self
  withLock state do
    let name ← toReferenceString reference
    nativeCall (.dacConfig state.handle name) "Configuring DAC reference"

def configureDacOutput (self : Option DeviceState) (reference : CppEnum VoltageReference)
    (outputCode : UInt8) : M Unit := do
  let state ← requireOpen self
  rejectIf (outputCode > 31) "DAC output code must be from 0 through 31"
  withLock state do
    let name ← toReferenceString reference
    nativeCall (.dacConfigOut state.handle name outputCode)
      "Configuring DAC reference and output"

def writeDacRaw (self : Option DeviceState) (code : UInt8) : M Unit := do
  let state ← requireOpen self
  rejectIf (code > 31) "DAC output code must be from 0 through 31"
  withLock state do
    nativeCall (.dacWriteRaw state.handle code) "Writing raw DAC output"

def writeDacNormalized (self : Option DeviceState) (value : Double) : M Unit := do
  let state ← requireOpen self
  withLock state do
    nativeCall (.dacWriteNormalized state.handle value) "Writing normalized DAC output"

def writeDacVolts (self : Option DeviceState) (volts : Double) : M Unit := do
  let state ← requireOpen self
  withLock state do
    nativeCall (.dacWriteVolts state.handle volts) "Writing DAC voltage"

/-! ## Clock output and interrupt-on-change -/

def configureClock (self : Option DeviceState) (duty : CppEnum ClockDutyCycle)
    (frequency : CppEnum ClockFrequency) : M Unit := do
  let state ← requireOpen self
  withLock state do
    let percent ← toDutyPercent duty
    let name ← toClockFrequencyString frequency
    nativeCall (.clockConfig state.handle percent name) "Configuring clock output"

def interruptFlag (self : Option DeviceState) : M Bool := do
  let state ← requireOpen self
  withLock state do
    let flag ← nativeCall (.iocRead state.handle) "Reading interrupt-on-change flag"
    pure (flag ≠ 0)

def clearInterruptFlag (self : Option DeviceState) : M Unit := do
  let state ← requireOpen self
  withLock state do
    nativeCall (.iocClear state.handle) "Clearing interrupt-on-change flag"

def configureInterrupt (self : Option DeviceState) (edge : CppEnum InterruptEdge) :
    M Unit := do
  let state ← requireOpen self
  withLock state do
    let name ← toInterruptEdgeString edge
    nativeCall (.iocConfig state.handle name) "Configuring interrupt-on-change"

/-! ## Runtime SRAM -/

def configureSram (self : Option DeviceState) (configuration : SramConfig) : M Unit := do
  let state ← requireOpen self
  let native ← toNativeSramConfig configuration
  withLock state do
    nativeCall (.sramConfig state.handle native) "Configuring runtime SRAM"

/-! ## Flash -/

def readFlash (self : Option DeviceState) (flashSection : CppEnum FlashSection) :
    M FlashData := do
  let state ← requireOpen self
  withLock state do
    let native ← toNativeFlashSection flashSection
    nativeCall (.flashRead state.handle native) "Reading flash section"

def writeFlash (self : Option DeviceState) (flashSection : CppEnum FlashSection)
    (data : FlashData) : M Unit := do
  let state ← requireOpen self
  withLock state do
    let native ← toNativeFlashSection flashSection
    nativeCall (.flashWrite state.handle native data) "Writing flash section"

def writeFlashVector (self : Option DeviceState) (flashSection : CppEnum FlashSection)
    (data : Bytes) : M Unit := do
  let state ← requireOpen self
  rejectIf (data = [] ∨ data.length > 62)
    "Flash write payload size must be from 1 through 62 bytes"
  withLock state do
    let native ← toNativeFlashSection flashSection
    nativeCall (.flashWriteEx state.handle native (vectorData data) data.length)
      "Writing flash section"

def sendFlashPassword (self : Option DeviceState) (password : FlashPassword) : M Unit := do
  let state ← requireOpen self
  withLock state do
    nativeCall (.flashSendPassword state.handle password) "Sending flash access password"

/-- Each of the four strings of the result may need memory. -/
def flashInfo (self : Option DeviceState) : M FlashInfo := do
  let state ← requireOpen self
  let native ← withLock state do
    nativeCall (.flashReadInfo state.handle) "Reading flash information"
  allocate
  allocate
  allocate
  allocate
  pure
    { chipSettings := native.chipSettings
      gpSettings := native.gpSettings
      usbManufacturerRaw := native.usbManufacturer
      usbProductRaw := native.usbProduct
      usbSerialRaw := native.usbSerial
      factorySerialRaw := native.usbFactorySerial
      usbManufacturer := native.usbManufacturerStr
      usbProduct := native.usbProductStr
      usbSerial := native.usbSerialStr
      factorySerial := native.usbFactorySerialStr }

def flashSettings (self : Option DeviceState) : M FlashSettings := do
  let state ← requireOpen self
  let native ← withLock state do
    nativeCall (.flashGetSettings state.handle) "Reading flash settings"
  pure { chip := native.chipSettings, gpio := native.gpSettings }

def saveConfigurationToFlash (self : Option DeviceState) : M Unit := do
  let state ← requireOpen self
  withLock state do
    nativeCall (.flashSaveConfig state.handle) "Saving configuration to flash"

/-! ## USB attributes -/

def stageUsbRemoteWakeup (self : Option DeviceState) (enabled : Bool) : M Unit := do
  let state ← requireOpen self
  withLock state do
    nativeCall (.usbSetRemoteWakeup state.handle (if enabled then 1 else 0))
      "Staging USB Remote Wake-up"

def usbRemoteWakeup (self : Option DeviceState) : M Bool := do
  let state ← requireOpen self
  withLock state do
    let enabled ← nativeCall (.usbGetRemoteWakeup state.handle)
      "Reading USB Remote Wake-up setting"
    pure (enabled ≠ 0)

def stageUsbSelfPowered (self : Option DeviceState) (enabled : Bool) : M Unit := do
  let state ← requireOpen self
  withLock state do
    nativeCall (.usbSetSelfPowered state.handle (if enabled then 1 else 0))
      "Staging USB self-powered setting"

def usbSelfPowered (self : Option DeviceState) : M Bool := do
  let state ← requireOpen self
  withLock state do
    let enabled ← nativeCall (.usbGetSelfPowered state.handle)
      "Reading USB self-powered setting"
    pure (enabled ≠ 0)

def stageUsbRequestedCurrent (self : Option DeviceState) (milliamps : UInt32) : M Unit := do
  let state ← requireOpen self
  rejectIf (milliamps > constants.maxUsbCurrentMa ∨ milliamps % 2 ≠ 0)
    "USB requested current must be an even value from 0 through 500 mA"
  withLock state do
    nativeCall (.usbSetRequestedCurrent state.handle milliamps)
      "Staging USB requested current"

def usbRequestedCurrent (self : Option DeviceState) : M UInt32 := do
  let state ← requireOpen self
  withLock state do
    nativeCall (.usbGetRequestedCurrent state.handle) "Reading USB requested current"

/-! ## Raw commands -/

def rawCommand (self : Option DeviceState) (command : BytePtr) (size : Nat) :
    M (Vector UInt8 64) := do
  let state ← requireOpen self
  rejectIf (command = none) "Raw command pointer must not be null"
  rejectIf (size = 0 ∨ size > constants.packetSize)
    "Raw command size must be from 1 through 64 bytes"
  withLock state do
    nativeCall (.sendCmd state.handle command size) "Sending raw MCP2221 command"

end Device

end EasyMcp2221
