import EasyMcp2221.Operation

/-!
# What a data operation asks of the C library

The abstract side of the data operations.  An operation is one `Request`: the native
call it makes, the text under which a failed status is reported, and the value it
makes of the answer.  `DataCall.request` says which request a call stands for, or
with which exception its arguments are rejected; locks, allocations and the order of
checks are not its business.  `DataCall.prog_meets` (in `Audit`) connects the
operations with it.
-/

namespace EasyMcp2221

open Effect

variable [NativeApi]

/-! ## Requests -/

/-- The one native call of an operation and what becomes of its answer. -/
inductive Request (α : Type) where
  /-- The status must be `MCP2221_ERR_OK`. -/
  | call (c : NativeCall) (operation : String) (decode : c.Out → Except Exn α)
  /-- The status is a count when it is not negative. -/
  | count (c : NativeCall) (operation : String) (decode : Int → c.Out → Except Exn α)
  /-- A `void` function. -/
  | proc (p : NativeProc) (value : α)

namespace Request

variable {α : Type}

def effect : Request α → Eff
  | .call c _ _ => .call c
  | .count c _ _ => .call c
  | .proc p _ => .proc p

/-- The outcome of the operation, once the native call has answered. -/
def result : (req : Request α) → req.effect.Reply → Except Exn α
  | .call _ operation decode, reply =>
    if reply.status = err .ok then decode reply.out
    else .error (statusError reply.status operation)
  | .count _ operation decode, reply =>
    if 0 ≤ reply.status then decode reply.status reply.out
    else .error (statusError reply.status operation)
  | .proc _ value, _ => .ok value

end Request

/-! ## Devices -/

def DeviceOp.request (d : DeviceState) : (op : DeviceOp) → Except Exn (Request op.Ret)
  | .setI2cSpeed hz => .ok (.call (.i2cSetSpeed d.handle hz) "Setting I2C speed" .ok)
  | .i2cWrite address data size transfer => do
    validateI2cAddress address
    validateI2cTransferBuffer data size
    let kind ← toNativeTransfer transfer true
    pure (.call (.i2cWriteSimple d.handle address data size kind) "Writing I2C data" .ok)
  | .i2cWriteVector address data transfer => do
    validateI2cAddress address
    validateI2cTransferBuffer (vectorData data) data.length
    let kind ← toNativeTransfer transfer true
    pure (.call (.i2cWriteSimple d.handle address (vectorData data) data.length kind)
      "Writing I2C data" .ok)
  | .i2cRead address size transfer => do
    validateI2cAddress address
    rejectIf (size = 0 ∨ size > constants.maxI2cTransfer)
      "I2C read size must be from 1 through 65535 bytes"
    let kind ← toNativeTransfer transfer false
    pure (.call (.i2cReadSimple d.handle address size kind) "Reading I2C data"
      fun data => .ok data.toList)
  | .i2cStatus =>
    .ok (.call (.i2cStatus d.handle) "Reading I2C status" fun native => .ok
      { requestedLength := native.rlen
        transmittedLength := native.txlen
        divider := native.div
        acknowledged := native.ack ≠ 0
        state := native.st
        scl := native.scl ≠ 0
        sda := native.sda ≠ 0
        confused := native.confused ≠ 0
        initialized := native.initialized ≠ 0 })
  | .releaseI2c => .ok (.call (.i2cRelease d.handle) "Releasing I2C engine" .ok)
  | .readGpio => .ok (.call (.gpioReadMask d.handle) "Reading GPIO state" toGpioState)
  | .writeGpio values =>
    .ok (.call (.gpioWrite d.handle (toNativeGpioWrite values)) "Writing GPIO state" .ok)
  | .setPinFunction pin function => do
    let nativePin ← toNativePin pin
    let nativeFunction ← toNativePinFunction function
    pure (.call (.pinSetFunction d.handle nativePin nativeFunction) "Setting GPIO pin function"
      .ok)
  | .configurePins configuration => do
    let native ← toNativePinFunctions configuration
    pure (.call (.pinSetFunctions d.handle native) "Configuring GPIO pin functions" .ok)
  | .setVdd volts => .ok (.call (.analogSetVdd d.handle volts) "Setting VDD" .ok)
  | .vdd => .ok (.call (.analogGetVdd d.handle) "Reading VDD" .ok)
  | .configureAdc reference => do
    let name ← toReferenceString reference
    pure (.call (.adcConfig d.handle name) "Configuring ADC reference" .ok)
  | .readAdcRaw => .ok (.call (.adcReadRaw d.handle) "Reading raw ADC values" .ok)
  | .readAdcNormalized =>
    .ok (.call (.adcReadNormalized d.handle) "Reading normalized ADC values" .ok)
  | .readAdcVolts => .ok (.call (.adcReadVolts d.handle) "Reading ADC voltages" .ok)
  | .configureDac reference => do
    let name ← toReferenceString reference
    pure (.call (.dacConfig d.handle name) "Configuring DAC reference" .ok)
  | .configureDacOutput reference outputCode => do
    rejectIf (outputCode > 31) "DAC output code must be from 0 through 31"
    let name ← toReferenceString reference
    pure (.call (.dacConfigOut d.handle name outputCode)
      "Configuring DAC reference and output" .ok)
  | .writeDacRaw code => do
    rejectIf (code > 31) "DAC output code must be from 0 through 31"
    pure (.call (.dacWriteRaw d.handle code) "Writing raw DAC output" .ok)
  | .writeDacNormalized value =>
    .ok (.call (.dacWriteNormalized d.handle value) "Writing normalized DAC output" .ok)
  | .writeDacVolts volts => .ok (.call (.dacWriteVolts d.handle volts) "Writing DAC voltage" .ok)
  | .configureClock duty frequency => do
    let percent ← toDutyPercent duty
    let name ← toClockFrequencyString frequency
    pure (.call (.clockConfig d.handle percent name) "Configuring clock output" .ok)
  | .interruptFlag =>
    .ok (.call (.iocRead d.handle) "Reading interrupt-on-change flag" fun flag =>
      .ok (decide (flag ≠ 0)))
  | .clearInterruptFlag =>
    .ok (.call (.iocClear d.handle) "Clearing interrupt-on-change flag" .ok)
  | .configureInterrupt edge => do
    let name ← toInterruptEdgeString edge
    pure (.call (.iocConfig d.handle name) "Configuring interrupt-on-change" .ok)
  | .configureSram configuration => do
    let native ← toNativeSramConfig configuration
    pure (.call (.sramConfig d.handle native) "Configuring runtime SRAM" .ok)
  | .readFlash flashSection => do
    let native ← toNativeFlashSection flashSection
    pure (.call (.flashRead d.handle native) "Reading flash section" .ok)
  | .writeFlash flashSection data => do
    let native ← toNativeFlashSection flashSection
    pure (.call (.flashWrite d.handle native data) "Writing flash section" .ok)
  | .writeFlashVector flashSection data => do
    rejectIf (data = [] ∨ data.length > 62)
      "Flash write payload size must be from 1 through 62 bytes"
    let native ← toNativeFlashSection flashSection
    pure (.call (.flashWriteEx d.handle native (vectorData data) data.length)
      "Writing flash section" .ok)
  | .sendFlashPassword password =>
    .ok (.call (.flashSendPassword d.handle password) "Sending flash access password" .ok)
  | .flashInfo =>
    .ok (.call (.flashReadInfo d.handle) "Reading flash information" fun native => .ok
      { chipSettings := native.chipSettings
        gpSettings := native.gpSettings
        usbManufacturerRaw := native.usbManufacturer
        usbProductRaw := native.usbProduct
        usbSerialRaw := native.usbSerial
        factorySerialRaw := native.usbFactorySerial
        usbManufacturer := native.usbManufacturerStr
        usbProduct := native.usbProductStr
        usbSerial := native.usbSerialStr
        factorySerial := native.usbFactorySerialStr })
  | .flashSettings =>
    .ok (.call (.flashGetSettings d.handle) "Reading flash settings" fun native =>
      .ok { chip := native.chipSettings, gpio := native.gpSettings })
  | .saveConfigurationToFlash =>
    .ok (.call (.flashSaveConfig d.handle) "Saving configuration to flash" .ok)
  | .stageUsbRemoteWakeup enabled =>
    .ok (.call (.usbSetRemoteWakeup d.handle (if enabled then 1 else 0))
      "Staging USB Remote Wake-up" .ok)
  | .usbRemoteWakeup =>
    .ok (.call (.usbGetRemoteWakeup d.handle) "Reading USB Remote Wake-up setting" fun enabled =>
      .ok (decide (enabled ≠ 0)))
  | .stageUsbSelfPowered enabled =>
    .ok (.call (.usbSetSelfPowered d.handle (if enabled then 1 else 0))
      "Staging USB self-powered setting" .ok)
  | .usbSelfPowered =>
    .ok (.call (.usbGetSelfPowered d.handle) "Reading USB self-powered setting" fun enabled =>
      .ok (decide (enabled ≠ 0)))
  | .stageUsbRequestedCurrent milliamps => do
    rejectIf (milliamps > constants.maxUsbCurrentMa ∨ milliamps % 2 ≠ 0)
      "USB requested current must be an even value from 0 through 500 mA"
    pure (.call (.usbSetRequestedCurrent d.handle milliamps) "Staging USB requested current" .ok)
  | .usbRequestedCurrent =>
    .ok (.call (.usbGetRequestedCurrent d.handle) "Reading USB requested current" .ok)
  | .rawCommand command size => do
    rejectIf (command = none) "Raw command pointer must not be null"
    rejectIf (size = 0 ∨ size > constants.packetSize)
      "Raw command size must be from 1 through 64 bytes"
    pure (.call (.sendCmd d.handle command size) "Sending raw MCP2221 command" .ok)

/-! ## I2C targets -/

def I2cOp.request (slave : Addr) : (op : I2cOp) → Except Exn (Request op.Ret)
  | .isPresent =>
    .ok (.call (.i2cSlaveCheckPresent slave) "Checking I2C target presence" fun present =>
      .ok (decide (present ≠ 0)))
  | .read size => do
    rejectIf (size = 0 ∨ size > 256) "I2cDevice read size must be from 1 through 256 bytes"
    pure (.call (.i2cSlaveRead slave size) "Reading from I2C target" fun data => .ok data.toList)
  | .write data size => do
    rejectIf (data = none) "I2cDevice write pointer must not be null"
    rejectIf (size = 0 ∨ size > 256) "I2cDevice write size must be from 1 through 256 bytes"
    pure (.call (.i2cSlaveWrite slave data size) "Writing to I2C target" .ok)
  | .writeVector data => do
    rejectIf (vectorData data = none) "I2cDevice write pointer must not be null"
    rejectIf (data.length = 0 ∨ data.length > 256)
      "I2cDevice write size must be from 1 through 256 bytes"
    pure (.call (.i2cSlaveWrite slave (vectorData data) data.length) "Writing to I2C target" .ok)
  | .readRegister reg size => do
    rejectIf (size = 0 ∨ size > 256)
      "I2cDevice register read size must be from 1 through 256 bytes"
    pure (.call (.i2cSlaveReadRegister slave reg size 0 .default) "Reading I2C target register"
      fun data => .ok data.toList)
  | .readRegisterLayout reg size registerWidth byteOrder => do
    rejectIf (size = 0 ∨ size > 256)
      "I2cDevice register read size must be from 1 through 256 bytes"
    let width ← I2cDevice.toNativeRegisterWidth registerWidth
    let order ← I2cDevice.toNativeByteOrder byteOrder
    pure (.call (.i2cSlaveReadRegister slave reg size width order) "Reading I2C target register"
      fun data => .ok data.toList)
  | .writeRegister reg data size => do
    rejectIf (data = none ∧ size ≠ 0)
      "I2cDevice register write pointer must not be null for nonzero size"
    rejectIf (size > 256) "I2cDevice register write size must not exceed 256 bytes"
    pure (.call (.i2cSlaveWriteRegister slave reg data size 0 .default)
      "Writing I2C target register" .ok)
  | .writeRegisterLayout reg data size registerWidth byteOrder => do
    rejectIf (data = none ∧ size ≠ 0)
      "I2cDevice register write pointer must not be null for nonzero size"
    rejectIf (size > 256) "I2cDevice register write size must not exceed 256 bytes"
    let width ← I2cDevice.toNativeRegisterWidth registerWidth
    let order ← I2cDevice.toNativeByteOrder byteOrder
    pure (.call (.i2cSlaveWriteRegister slave reg data size width order)
      "Writing I2C target register" .ok)
  | .writeRegisterVector reg data => do
    rejectIf (vectorData data = none ∧ data.length ≠ 0)
      "I2cDevice register write pointer must not be null for nonzero size"
    rejectIf (data.length > 256) "I2cDevice register write size must not exceed 256 bytes"
    pure (.call (.i2cSlaveWriteRegister slave reg (vectorData data) data.length 0 .default)
      "Writing I2C target register" .ok)

/-! ## SMBus targets -/

/-- The bytes of a block answer. -/
def SmbusOp.decodeBlock (answer : Vector UInt8 smbusBlockMax × Nat) : Except Exn Bytes :=
  if answer.2 > smbusBlockMax then throwInvalid "SMBus target returned an invalid block length"
  else .ok (answer.1.toList.take answer.2)

def SmbusOp.request (s : SmbusDeviceState) : (op : SmbusOp) → Except Exn (Request op.Ret)
  | .readByte => .ok (.call (.smbusReadByte s.addr s.address) "Reading SMBus byte" .ok)
  | .writeByte value =>
    .ok (.call (.smbusWriteByte s.addr s.address value) "Writing SMBus byte" .ok)
  | .readByteData command =>
    .ok (.call (.smbusReadByteData s.addr s.address command) "Reading SMBus byte data" .ok)
  | .writeByteData command value =>
    .ok (.call (.smbusWriteByteData s.addr s.address command value) "Writing SMBus byte data" .ok)
  | .readWordData command =>
    .ok (.call (.smbusReadWordData s.addr s.address command) "Reading SMBus word data" .ok)
  | .writeWordData command value =>
    .ok (.call (.smbusWriteWordData s.addr s.address command value) "Writing SMBus word data" .ok)
  | .processCall command value =>
    .ok (.call (.smbusProcessCall s.addr s.address command value)
      "Performing SMBus process call" .ok)
  | .readBlockData command =>
    .ok (.call (.smbusReadBlockData s.addr s.address command) "Reading SMBus block data"
      decodeBlock)
  | .writeBlockData command data => do
    SmbusDevice.validateWriteBuffer data
    pure (.call (.smbusWriteBlockData s.addr s.address command (SmbusDevice.payloadPointer data)
      data.length) "Writing SMBus block data" .ok)
  | .blockProcessCall command data => do
    SmbusDevice.validateWriteBuffer data
    pure (.call (.smbusBlockProcessCall s.addr s.address command (SmbusDevice.payloadPointer data)
      data.length) "Performing SMBus block process call" decodeBlock)
  | .readI2cBlockData command size => do
    rejectIf (size = 0 ∨ size > SmbusDevice.maxBlockSize)
      "SMBus I2C block read size must be from 1 through 255 bytes"
    pure (.call (.smbusReadI2cBlockData s.addr s.address command size)
      "Reading SMBus I2C block data" fun data => .ok data.toList)
  | .writeI2cBlockData command data => do
    SmbusDevice.validateWriteBuffer data
    pure (.call (.smbusWriteI2cBlockData s.addr s.address command
      (SmbusDevice.payloadPointer data) data.length) "Writing SMBus I2C block data" .ok)

/-! ## GPIO pollers -/

/-- The twelve fields of a poll answer. -/
def PollerOp.decodeChanges (native : Fin 4 → NativeGpioChange) :
    Except Exn (Fin 4 → GpioChange) :=
  arrayM 4 fun i => GpioPoller.toGpioChange (native i)

def PollerOp.request (d : DeviceState) (poll : Addr) :
    (op : PollerOp) → Except Exn (Request op.Ret)
  | .setFilter filter =>
    .ok (.proc (.gpioPollSetFilterMask poll (GpioPoller.filterMask filter)) ())
  | .clearFilter => .ok (.proc (.gpioPollSetFilterMask poll (GpioPoller.filterMask {})) ())
  | .poll => .ok (.call (.gpioPoll d.handle poll) "Polling GPIO changes" decodeChanges)
  | .pollEvents maxEvents =>
    let capacity := GpioPoller.pollCapacity maxEvents
    .ok (.count (.gpioPollEvents d.handle poll (decide (capacity ≠ 0)) capacity)
      "Polling GPIO events"
      (GpioPoller.toGpioEvents capacity (GpioPoller.pollCapacity_le maxEvents)))

/-! ## Any object -/

/-- The exception of an operation on an object without device state. -/
def DataCall.noState : DataCall → Exn
  | .device .. => .logicError "Device is closed"
  | .i2c .. => .logicError "I2cDevice has no device state"
  | .smbus .. => .logicError "SmbusDevice has no device state"
  | .poller .. => .logicError "GpioPoller has no device state"

/-- The request a call stands for, or the exception that rejects it. -/
def DataCall.request : (x : DataCall) → Except Exn (Request x.Ret)
  | .device (some d) op => op.request d
  | .i2c (some ⟨slave, some _, _⟩) op => op.request slave
  | .smbus (some ⟨bus, some d, address⟩) op => op.request ⟨bus, some d, address⟩
  | .poller (some ⟨poll, some d⟩) op => op.request d poll
  | x => .error x.noState

end EasyMcp2221
