import EasyMcp2221.Lifetime
import EasyMcp2221.I2cDevice
import EasyMcp2221.SmbusDevice
import EasyMcp2221.GpioPoller

/-!
# Operations as data

The public operations that neither create, move nor drop an object, one inductive
type for each class; `DataCall`, such an operation together with the `state_` of the
object it is called on; and `PublicOp`, which adds construction, children, moves,
copies and destruction.  A statement about every operation quantifies over these
types.
-/

namespace EasyMcp2221

open Effect

/-! ## The operations of each class -/

inductive DeviceOp where
  | setI2cSpeed (hz : UInt32)
  | i2cWrite (address : UInt8) (data : BytePtr) (size : Nat) (transfer : CppEnum I2cTransfer)
  | i2cWriteVector (address : UInt8) (data : Bytes) (transfer : CppEnum I2cTransfer)
  | i2cRead (address : UInt8) (size : Nat) (transfer : CppEnum I2cTransfer)
  | i2cStatus
  | releaseI2c
  | readGpio
  | writeGpio (values : GpioWrite)
  | setPinFunction (pin : CppEnum Pin) (function : CppEnum PinFunction)
  | configurePins (configuration : PinConfigurations)
  | setVdd (volts : Double)
  | vdd
  | configureAdc (reference : CppEnum VoltageReference)
  | readAdcRaw
  | readAdcNormalized
  | readAdcVolts
  | configureDac (reference : CppEnum VoltageReference)
  | configureDacOutput (reference : CppEnum VoltageReference) (outputCode : UInt8)
  | writeDacRaw (code : UInt8)
  | writeDacNormalized (value : Double)
  | writeDacVolts (volts : Double)
  | configureClock (duty : CppEnum ClockDutyCycle) (frequency : CppEnum ClockFrequency)
  | interruptFlag
  | clearInterruptFlag
  | configureInterrupt (edge : CppEnum InterruptEdge)
  | configureSram (configuration : SramConfig)
  | readFlash (flashSection : CppEnum FlashSection)
  | writeFlash (flashSection : CppEnum FlashSection) (data : FlashData)
  | writeFlashVector (flashSection : CppEnum FlashSection) (data : Bytes)
  | sendFlashPassword (password : FlashPassword)
  | flashInfo
  | flashSettings
  | saveConfigurationToFlash
  | stageUsbRemoteWakeup (enabled : Bool)
  | usbRemoteWakeup
  | stageUsbSelfPowered (enabled : Bool)
  | usbSelfPowered
  | stageUsbRequestedCurrent (milliamps : UInt32)
  | usbRequestedCurrent
  | rawCommand (command : BytePtr) (size : Nat)

inductive I2cOp where
  | isPresent
  | read (size : Nat)
  | write (data : BytePtr) (size : Nat)
  | writeVector (data : Bytes)
  | readRegister (reg : UInt32) (size : Nat)
  | readRegisterLayout (reg : UInt32) (size : Nat) (registerWidth : CppEnum RegisterWidth)
      (byteOrder : CppEnum ByteOrder)
  | writeRegister (reg : UInt32) (data : BytePtr) (size : Nat)
  | writeRegisterLayout (reg : UInt32) (data : BytePtr) (size : Nat)
      (registerWidth : CppEnum RegisterWidth) (byteOrder : CppEnum ByteOrder)
  | writeRegisterVector (reg : UInt32) (data : Bytes)

inductive SmbusOp where
  | readByte
  | writeByte (value : UInt8)
  | readByteData (command : UInt8)
  | writeByteData (command value : UInt8)
  | readWordData (command : UInt8)
  | writeWordData (command : UInt8) (value : Int16)
  | processCall (command : UInt8) (value : Int16)
  | readBlockData (command : UInt8)
  | writeBlockData (command : UInt8) (data : Bytes)
  | blockProcessCall (command : UInt8) (data : Bytes)
  | readI2cBlockData (command : UInt8) (size : Nat)
  | writeI2cBlockData (command : UInt8) (data : Bytes)

inductive PollerOp where
  | setFilter (filter : GpioEventFilter)
  | clearFilter
  | poll
  | pollEvents (maxEvents : Nat)

/-! ## Results and programs -/

@[reducible] def DeviceOp.Ret : DeviceOp → Type
  | .i2cRead .. => Bytes
  | .i2cStatus => I2cStatus
  | .readGpio => GpioState
  | .vdd => Double
  | .readAdcRaw => Vector UInt16 3
  | .readAdcNormalized => Vector Double 3
  | .readAdcVolts => Vector Double 3
  | .interruptFlag => Bool
  | .readFlash _ => FlashData
  | .flashInfo => FlashInfo
  | .flashSettings => FlashSettings
  | .usbRemoteWakeup => Bool
  | .usbSelfPowered => Bool
  | .usbRequestedCurrent => UInt32
  | .rawCommand .. => Vector UInt8 64
  | _ => Unit

@[reducible] def I2cOp.Ret : I2cOp → Type
  | .isPresent => Bool
  | .read _ => Bytes
  | .readRegister .. => Bytes
  | .readRegisterLayout .. => Bytes
  | _ => Unit

@[reducible] def SmbusOp.Ret : SmbusOp → Type
  | .readByte => UInt8
  | .readByteData _ => UInt8
  | .readWordData _ => Int16
  | .processCall .. => Int16
  | .readBlockData _ => Bytes
  | .blockProcessCall .. => Bytes
  | .readI2cBlockData .. => Bytes
  | _ => Unit

@[reducible] def PollerOp.Ret : PollerOp → Type
  | .poll => Fin 4 → GpioChange
  | .pollEvents _ => List GpioEvent
  | _ => Unit

variable [NativeApi]

def DeviceOp.prog (self : Option DeviceState) : (op : DeviceOp) → M op.Ret
  | .setI2cSpeed hz => Device.setI2cSpeed self hz
  | .i2cWrite address data size transfer => Device.i2cWrite self address data size transfer
  | .i2cWriteVector address data transfer => Device.i2cWriteVector self address data transfer
  | .i2cRead address size transfer => Device.i2cRead self address size transfer
  | .i2cStatus => Device.i2cStatus self
  | .releaseI2c => Device.releaseI2c self
  | .readGpio => Device.readGpio self
  | .writeGpio values => Device.writeGpio self values
  | .setPinFunction pin function => Device.setPinFunction self pin function
  | .configurePins configuration => Device.configurePins self configuration
  | .setVdd volts => Device.setVdd self volts
  | .vdd => Device.vdd self
  | .configureAdc reference => Device.configureAdc self reference
  | .readAdcRaw => Device.readAdcRaw self
  | .readAdcNormalized => Device.readAdcNormalized self
  | .readAdcVolts => Device.readAdcVolts self
  | .configureDac reference => Device.configureDac self reference
  | .configureDacOutput reference outputCode =>
    Device.configureDacOutput self reference outputCode
  | .writeDacRaw code => Device.writeDacRaw self code
  | .writeDacNormalized value => Device.writeDacNormalized self value
  | .writeDacVolts volts => Device.writeDacVolts self volts
  | .configureClock duty frequency => Device.configureClock self duty frequency
  | .interruptFlag => Device.interruptFlag self
  | .clearInterruptFlag => Device.clearInterruptFlag self
  | .configureInterrupt edge => Device.configureInterrupt self edge
  | .configureSram configuration => Device.configureSram self configuration
  | .readFlash flashSection => Device.readFlash self flashSection
  | .writeFlash flashSection data => Device.writeFlash self flashSection data
  | .writeFlashVector flashSection data => Device.writeFlashVector self flashSection data
  | .sendFlashPassword password => Device.sendFlashPassword self password
  | .flashInfo => Device.flashInfo self
  | .flashSettings => Device.flashSettings self
  | .saveConfigurationToFlash => Device.saveConfigurationToFlash self
  | .stageUsbRemoteWakeup enabled => Device.stageUsbRemoteWakeup self enabled
  | .usbRemoteWakeup => Device.usbRemoteWakeup self
  | .stageUsbSelfPowered enabled => Device.stageUsbSelfPowered self enabled
  | .usbSelfPowered => Device.usbSelfPowered self
  | .stageUsbRequestedCurrent milliamps => Device.stageUsbRequestedCurrent self milliamps
  | .usbRequestedCurrent => Device.usbRequestedCurrent self
  | .rawCommand command size => Device.rawCommand self command size

def I2cOp.prog (self : Option I2cDeviceState) : (op : I2cOp) → M op.Ret
  | .isPresent => I2cDevice.isPresent self
  | .read size => I2cDevice.read self size
  | .write data size => I2cDevice.write self data size
  | .writeVector data => I2cDevice.writeVector self data
  | .readRegister reg size => I2cDevice.readRegister self reg size
  | .readRegisterLayout reg size registerWidth byteOrder =>
    I2cDevice.readRegisterLayout self reg size registerWidth byteOrder
  | .writeRegister reg data size => I2cDevice.writeRegister self reg data size
  | .writeRegisterLayout reg data size registerWidth byteOrder =>
    I2cDevice.writeRegisterLayout self reg data size registerWidth byteOrder
  | .writeRegisterVector reg data => I2cDevice.writeRegisterVector self reg data

def SmbusOp.prog (self : Option SmbusDeviceState) : (op : SmbusOp) → M op.Ret
  | .readByte => SmbusDevice.readByte self
  | .writeByte value => SmbusDevice.writeByte self value
  | .readByteData command => SmbusDevice.readByteData self command
  | .writeByteData command value => SmbusDevice.writeByteData self command value
  | .readWordData command => SmbusDevice.readWordData self command
  | .writeWordData command value => SmbusDevice.writeWordData self command value
  | .processCall command value => SmbusDevice.processCall self command value
  | .readBlockData command => SmbusDevice.readBlockData self command
  | .writeBlockData command data => SmbusDevice.writeBlockData self command data
  | .blockProcessCall command data => SmbusDevice.blockProcessCall self command data
  | .readI2cBlockData command size => SmbusDevice.readI2cBlockData self command size
  | .writeI2cBlockData command data => SmbusDevice.writeI2cBlockData self command data

def PollerOp.prog (self : Option GpioPollerState) : (op : PollerOp) → M op.Ret
  | .setFilter filter => GpioPoller.setFilter self filter
  | .clearFilter => GpioPoller.clearFilter self
  | .poll => GpioPoller.poll self
  | .pollEvents maxEvents => GpioPoller.pollEvents self maxEvents

/-! ## Operations on any object -/

/-- An operation and the `state_` of the object it is called on. -/
inductive DataCall where
  | device (self : Option DeviceState) (op : DeviceOp)
  | i2c (self : Option I2cDeviceState) (op : I2cOp)
  | smbus (self : Option SmbusDeviceState) (op : SmbusOp)
  | poller (self : Option GpioPollerState) (op : PollerOp)

namespace DataCall

@[reducible] def Ret : DataCall → Type
  | .device _ op => op.Ret
  | .i2c _ op => op.Ret
  | .smbus _ op => op.Ret
  | .poller _ op => op.Ret

def prog : (x : DataCall) → M x.Ret
  | .device self op => op.prog self
  | .i2c self op => op.prog self
  | .smbus self op => op.prog self
  | .poller self op => op.prog self

end DataCall

/-- The `DeviceState` an object reaches, and its own native struct, if it has one. -/
structure Target where
  device : DeviceState
  struct : Option Addr
deriving DecidableEq

/-- What the object of a call reaches; `none` if it has no device state. -/
def DataCall.target : DataCall → Option Target
  | .device self _ => self.map fun d => { device := d, struct := none }
  | .i2c self _ => self.bind fun s => s.device.map fun d => { device := d, struct := some s.addr }
  | .smbus self _ => self.bind fun s => s.device.map fun d => { device := d, struct := some s.addr }
  | .poller self _ =>
    self.bind fun s => s.device.map fun d => { device := d, struct := some s.addr }

/-! ## Every public operation -/

/-- A public operation, with the `state_` it starts from and the wrapper objects it
    creates or changes. -/
inductive PublicOp where
  | data (x : DataCall)
  | construct (w : Var) (options : DeviceOptions)
  | i2cDevice (self : Option DeviceState) (dst : Var) (address : UInt8)
      (options : I2cDeviceOptions)
  | smbusDevice (self : Option DeviceState) (dst : Var) (address : UInt8)
  | gpioPoller (self : Option DeviceState) (dst : Var)
  | close (w : Var)
  | destroy (kind : WrapperKind) (w : Var)
  | moveConstruct (src dst : Var)
  | copyConstruct (src dst : Var)
  | moveAssign (kind : WrapperKind) (src dst : Var)
  | copyAssign (kind : WrapperKind) (src dst : Var)

namespace PublicOp

@[reducible] def Ret : PublicOp → Type
  | .data x => x.Ret
  | _ => Unit

def prog : (p : PublicOp) → M p.Ret
  | .data x => x.prog
  | .construct w options => Device.construct w options
  | .i2cDevice self dst address options => Device.i2cDevice self dst address options
  | .smbusDevice self dst address => Device.smbusDevice self dst address
  | .gpioPoller self dst => Device.gpioPoller self dst
  | .close w => Device.close w
  | .destroy kind w => EasyMcp2221.destroy kind w
  | .moveConstruct src dst => EasyMcp2221.moveConstruct src dst
  | .copyConstruct src dst => EasyMcp2221.copyConstruct src dst
  | .moveAssign kind src dst => EasyMcp2221.moveAssign kind src dst
  | .copyAssign kind src dst => EasyMcp2221.copyAssign kind src dst

end PublicOp

end EasyMcp2221
