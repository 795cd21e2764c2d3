import EasyMcp2221.Types
import Mathlib.Data.List.TakeWhile

/-!
# The native interface

The C library is not part of the repository.  This module states what the wrapper
uses of it: the functions it calls with the arguments it passes (`NativeCall` for
the functions that return a status, `NativeProc` for the `void` ones), the data a
call writes back (`NativeCall.Out`), and the header constants the wrapper compares
numbers with (`NativeApi`).  Enumerators that the wrapper only hands on are
constructors; integers that come back from the library are arbitrary integers.
-/

namespace EasyMcp2221

/-! ## Header constants -/

/-- The enumerators of `mcp2221_error_code_t` that the wrapper names. -/
inductive NativeError where
  | ok | usb | timeout | notAck | lowScl | lowSda | invalid | i2c | flashWrite | flashPasswd
  | gpioMode | i2cShortRead | flashRead | notFound | noMemory | access | busy | usbInit
  | usbEnum | usbOpen | usbClaim | commandFailed | protocol | generic
deriving DecidableEq, Repr

/-- The constants and the text function of the C headers, and the one choice the
    C++ library leaves open: the pointer `data()` of an empty vector. -/
class NativeApi where
  err : NativeError → Int
  err_injective : ∀ e e', err e = err e' → e = e'
  err_ok : err .ok = 0
  err_neg : ∀ e, e ≠ .ok → err e < 0
  errorCodeToString : Int → String
  gpioKeep : Int
  configKeep : Int
  gpioEventRise : Int
  gpioEventFall : Int
  gpioEvent_distinct : gpioEventRise ≠ gpioEventFall
  gpioPollMaskRise : Fin 4 → UInt16
  gpioPollMaskFall : Fin 4 → UInt16
  dirOutput : Int
  dirInput : Int
  gpioFuncGpio : Int
  gpioFuncDedicated : Int
  gpioFuncAlt0 : Int
  gpioFuncAlt1 : Int
  gpioFuncAlt2 : Int
  adcVrmOff : Int
  adcVrm1024 : Int
  adcVrm2048 : Int
  adcVrm4096 : Int
  adcRefVrm : Int
  adcRefVdd : Int
  dacVrmOff : Int
  dacVrm1024 : Int
  dacVrm2048 : Int
  dacVrm4096 : Int
  dacRefVrm : Int
  dacRefVdd : Int
  clkFreq375kHz : Int
  clkFreq750kHz : Int
  clkFreq1_5MHz : Int
  clkFreq3MHz : Int
  clkFreq6MHz : Int
  clkFreq12MHz : Int
  clkFreq24MHz : Int
  clkDuty0 : Int
  clkDuty25 : Int
  clkDuty50 : Int
  clkDuty75 : Int
  emptyVectorData : BytePtr
  emptyVectorData_length : ∀ bytes, emptyVectorData = some bytes → bytes = []

export NativeApi (err)

/-- Constants that the header could have: distinct negative error codes, and small
    distinct selectors. -/
@[reducible] def NativeApi.reference : NativeApi where
  err e := -(e.ctorIdx : Int)
  err_injective e e' h := by
    have hindex : e.ctorIdx = e'.ctorIdx := by omega
    rw [← NativeError.ofNat_ctorIdx e, hindex, NativeError.ofNat_ctorIdx]
  err_ok := rfl
  err_neg e he := by
    cases e with
    | ok => exact absurd rfl he
    | _ => exact of_decide_eq_true rfl
  errorCodeToString code := toString code
  gpioKeep := -1
  configKeep := -1
  gpioEventRise := 1
  gpioEventFall := 2
  gpioEvent_distinct := by decide
  gpioPollMaskRise pin := 1 <<< pin.val.toUInt16
  gpioPollMaskFall pin := 16 <<< pin.val.toUInt16
  dirOutput := 0
  dirInput := 1
  gpioFuncGpio := 0
  gpioFuncDedicated := 1
  gpioFuncAlt0 := 2
  gpioFuncAlt1 := 3
  gpioFuncAlt2 := 4
  adcVrmOff := 0
  adcVrm1024 := 1
  adcVrm2048 := 2
  adcVrm4096 := 3
  adcRefVrm := 0
  adcRefVdd := 1
  dacVrmOff := 0
  dacVrm1024 := 1
  dacVrm2048 := 2
  dacVrm4096 := 3
  dacRefVrm := 0
  dacRefVdd := 1
  clkFreq375kHz := 7
  clkFreq750kHz := 6
  clkFreq1_5MHz := 5
  clkFreq3MHz := 4
  clkFreq6MHz := 3
  clkFreq12MHz := 2
  clkFreq24MHz := 1
  clkDuty0 := 0
  clkDuty25 := 1
  clkDuty50 := 2
  clkDuty75 := 3
  emptyVectorData := none
  emptyVectorData_length := nofun

/-- `MCP2221_I2C_SMBUS_BLOCK_MAX`, with the value the wrapper's own messages state. -/
def smbusBlockMax : Nat := 255

/-- `data.data()` of a vector. -/
def vectorData [NativeApi] (data : Bytes) : BytePtr :=
  if data = [] then NativeApi.emptyVectorData else some data

/-- `text.c_str()`, as the C library reads it: up to the first null character. -/
def cString (text : String) : String := String.ofList (text.toList.takeWhile (· ≠ Char.ofNat 0))

/-- A text without null characters arrives whole. -/
theorem cString_eq {text : String} (h : Char.ofNat 0 ∉ text.toList) : cString text = text := by
  have hwhole : text.toList.takeWhile (· ≠ Char.ofNat 0) = text.toList := by
    apply List.takeWhile_eq_self_iff.mpr
    intro c hc
    exact decide_eq_true fun hnull => h (hnull ▸ hc)
  rw [cString, hwhole, String.ofList_toList]

/-- `static_cast<std::size_t>` of an `int`. -/
def toSize (value : Int) : Nat := (value % 2 ^ 64).toNat

theorem toSize_of_nonneg {value : Int} (h0 : 0 ≤ value) (h : value < 2 ^ 64) :
    toSize value = value.toNat := by
  rw [toSize, Int.emod_eq_of_lt h0 h]

/-! ## Native data -/

/-- The identity of an opened `mcp2221_t`. -/
abbrev Handle : Type := Nat

/-- An `mcp2221_t*`. -/
abbrev HandlePtr : Type := Option Handle

/-- The address of an internal state object, and of the native struct in it. -/
abbrev Addr : Type := Nat

inductive NativeTransfer where
  | normal | repeatedStart | noStop
deriving DecidableEq, Repr

inductive NativeByteOrder where
  | default | big | little
deriving DecidableEq, Repr

inductive NativePin where
  | gp0 | gp1 | gp2 | gp3
deriving DecidableEq, Repr

inductive NativePinFunction where
  | keep | dedicated | alt0 | alt1 | alt2 | gpioIn | gpioOut
deriving DecidableEq, Repr

inductive NativeFlashSection where
  | chipSettings | gpSettings | usbManufacturer | usbProduct | usbSerialNum | chipSerialNum
deriving DecidableEq, Repr

structure NativeI2cStatus where
  rlen : UInt16
  txlen : UInt16
  div : UInt8
  ack : Int
  st : UInt8
  scl : Int
  sda : Int
  confused : Int
  initialized : Int
deriving Inhabited

structure NativeGpioWrite where
  gp0 : Int
  gp1 : Int
  gp2 : Int
  gp3 : Int
deriving DecidableEq

structure NativePinFunctions where
  gp : Fin 4 → NativePinFunction
  out : Fin 4 → Int
deriving DecidableEq

structure NativeSramPin where
  value : Int
  direction : Int
  function : Int
deriving DecidableEq

structure NativeSramReference where
  vrm : Int
  refSrc : Int
deriving DecidableEq

structure NativeSramConfig where
  gp : Fin 4 → NativeSramPin
  posEdge : Int
  negEdge : Int
  clearFlag : Int
  adcCfg : NativeSramReference
  dacRef : NativeSramReference
  dacValue : Int
  clkDiv : Int
  clkDuty : Int
deriving DecidableEq

structure NativeGpioChange where
  oldValue : Int
  newValue : Int
  changed : Int
deriving DecidableEq, Inhabited

structure NativeGpioEvent where
  gpio : UInt8
  type : Int
  time : Double
  lastTime : Double
deriving DecidableEq, Inhabited

structure NativeFlashInfo where
  chipSettings : FlashData
  gpSettings : FlashData
  usbManufacturer : FlashData
  usbProduct : FlashData
  usbSerial : FlashData
  usbFactorySerial : FlashData
  usbManufacturerStr : String
  usbProductStr : String
  usbSerialStr : String
  usbFactorySerialStr : String
deriving Inhabited

structure NativeFlashSettings where
  chipSettings : FlashData
  gpSettings : FlashData
deriving Inhabited

/-! ## Native functions -/

/-- A call to a native function that returns a status (or, for
    `mcp2221_gpio_poll_events`, a count or a status). -/
inductive NativeCall where
  | openScan (vendorId productId : UInt16) (deviceIndex : Int) (serial : Option String)
      (usbReadTimeoutMs commandRetries debugMessages tracePackets scanFlashSerial : Int)
  | sendCmd (dev : HandlePtr) (command : BytePtr) (size : Nat)
  | i2cSetSpeed (dev : HandlePtr) (hz : UInt32)
  | i2cWriteSimple (dev : HandlePtr) (address : UInt8) (data : BytePtr) (size : Nat)
      (kind : NativeTransfer)
  | i2cReadSimple (dev : HandlePtr) (address : UInt8) (size : Nat) (kind : NativeTransfer)
  | i2cStatus (dev : HandlePtr)
  | i2cRelease (dev : HandlePtr)
  | i2cSlaveInit (slave : Addr) (dev : HandlePtr) (address : UInt8) (force : Int)
      (speedHz : UInt32) (regBytes : Int) (byteOrder : NativeByteOrder)
  | i2cSlaveCheckPresent (slave : Addr)
  | i2cSlaveRead (slave : Addr) (size : Nat)
  | i2cSlaveWrite (slave : Addr) (data : BytePtr) (size : Nat)
  | i2cSlaveReadRegister (slave : Addr) (reg : UInt32) (size : Nat) (regBytes : Int)
      (byteOrder : NativeByteOrder)
  | i2cSlaveWriteRegister (slave : Addr) (reg : UInt32) (data : BytePtr) (size : Nat)
      (regBytes : Int) (byteOrder : NativeByteOrder)
  | smbusInit (bus : Addr) (existing : HandlePtr) (deviceIndex : Int) (vendorId productId : UInt16)
      (serial : Option String) (speedHz : UInt32)
  | smbusReadByte (bus : Addr) (address : UInt8)
  | smbusWriteByte (bus : Addr) (address value : UInt8)
  | smbusReadByteData (bus : Addr) (address command : UInt8)
  | smbusWriteByteData (bus : Addr) (address command value : UInt8)
  | smbusReadWordData (bus : Addr) (address command : UInt8)
  | smbusWriteWordData (bus : Addr) (address command : UInt8) (value : Int16)
  | smbusProcessCall (bus : Addr) (address command : UInt8) (value : Int16)
  | smbusReadBlockData (bus : Addr) (address command : UInt8)
  | smbusWriteBlockData (bus : Addr) (address command : UInt8) (data : BytePtr) (size : Nat)
  | smbusBlockProcessCall (bus : Addr) (address command : UInt8) (data : BytePtr) (size : Nat)
  | smbusReadI2cBlockData (bus : Addr) (address command : UInt8) (size : Nat)
  | smbusWriteI2cBlockData (bus : Addr) (address command : UInt8) (data : BytePtr) (size : Nat)
  | gpioReadMask (dev : HandlePtr)
  | gpioWrite (dev : HandlePtr) (request : NativeGpioWrite)
  | pinSetFunction (dev : HandlePtr) (pin : NativePin) (function : NativePinFunction)
  | pinSetFunctions (dev : HandlePtr) (request : NativePinFunctions)
  | gpioPoll (dev : HandlePtr) (poll : Addr)
  | gpioPollEvents (dev : HandlePtr) (poll : Addr) (hasBuffer : Bool) (capacity : Nat)
  | sramConfig (dev : HandlePtr) (request : NativeSramConfig)
  | analogSetVdd (dev : HandlePtr) (volts : Double)
  | analogGetVdd (dev : HandlePtr)
  | adcConfig (dev : HandlePtr) (reference : String)
  | adcReadRaw (dev : HandlePtr)
  | adcReadNormalized (dev : HandlePtr)
  | adcReadVolts (dev : HandlePtr)
  | dacConfig (dev : HandlePtr) (reference : String)
  | dacConfigOut (dev : HandlePtr) (reference : String) (outputCode : UInt8)
  | dacWriteRaw (dev : HandlePtr) (code : UInt8)
  | dacWriteNormalized (dev : HandlePtr) (value : Double)
  | dacWriteVolts (dev : HandlePtr) (volts : Double)
  | clockConfig (dev : HandlePtr) (dutyPercent : Int) (frequency : String)
  | iocRead (dev : HandlePtr)
  | iocClear (dev : HandlePtr)
  | iocConfig (dev : HandlePtr) (edge : String)
  | flashRead (dev : HandlePtr) (section_ : NativeFlashSection)
  | flashWrite (dev : HandlePtr) (section_ : NativeFlashSection) (data : FlashData)
  | flashWriteEx (dev : HandlePtr) (section_ : NativeFlashSection) (data : BytePtr) (size : Nat)
  | flashSendPassword (dev : HandlePtr) (password : FlashPassword)
  | flashReadInfo (dev : HandlePtr)
  | flashGetSettings (dev : HandlePtr)
  | flashSaveConfig (dev : HandlePtr)
  | usbSetRemoteWakeup (dev : HandlePtr) (enabled : Int)
  | usbGetRemoteWakeup (dev : HandlePtr)
  | usbSetSelfPowered (dev : HandlePtr) (enabled : Int)
  | usbGetSelfPowered (dev : HandlePtr)
  | usbSetRequestedCurrent (dev : HandlePtr) (milliamps : UInt32)
  | usbGetRequestedCurrent (dev : HandlePtr)

/-- The data a call writes through its output pointers. -/
@[reducible] def NativeCall.Out : NativeCall → Type
  | .openScan .. => HandlePtr
  | .sendCmd .. => Vector UInt8 64
  | .i2cReadSimple _ _ size _ => Vector UInt8 size
  | .i2cStatus _ => NativeI2cStatus
  | .i2cSlaveCheckPresent _ => Int
  | .i2cSlaveRead _ size => Vector UInt8 size
  | .i2cSlaveReadRegister _ _ size _ _ => Vector UInt8 size
  | .smbusReadByte .. => UInt8
  | .smbusReadByteData .. => UInt8
  | .smbusReadWordData .. => Int16
  | .smbusProcessCall .. => Int16
  | .smbusReadBlockData .. => Vector UInt8 smbusBlockMax × Nat
  | .smbusBlockProcessCall .. => Vector UInt8 smbusBlockMax × Nat
  | .smbusReadI2cBlockData _ _ _ size => Vector UInt8 size
  | .gpioReadMask _ => (Fin 4 → Int) × UInt8
  | .gpioPoll _ _ => Fin 4 → NativeGpioChange
  | .gpioPollEvents .. => Fin 4 → NativeGpioEvent
  | .analogGetVdd _ => Double
  | .adcReadRaw _ => Vector UInt16 3
  | .adcReadNormalized _ => Vector Double 3
  | .adcReadVolts _ => Vector Double 3
  | .iocRead _ => UInt8
  | .flashRead .. => FlashData
  | .flashReadInfo _ => NativeFlashInfo
  | .flashGetSettings _ => NativeFlashSettings
  | .usbGetRemoteWakeup _ => Int
  | .usbGetSelfPowered _ => Int
  | .usbGetRequestedCurrent _ => UInt32
  | _ => Unit

/-- The values of a C `int`. -/
def IsInt (value : Int) : Prop := -2 ^ 31 ≤ value ∧ value < 2 ^ 31

instance (value : Int) : Decidable (IsInt value) := inferInstanceAs (Decidable (_ ∧ _))

theorem isInt_zero : IsInt 0 := by decide

/-- What a call gives back: its `int` result and its output data. -/
structure NativeCall.Reply (c : NativeCall) where
  status : Int
  out : c.Out
  isInt : IsInt status := by decide

/-- A call to a native `void` function. -/
inductive NativeProc where
  | close (dev : HandlePtr)
  | smbusClose (bus : Addr)
  | gpioPollInit (poll : Addr)
  | gpioPollSetFilterMask (poll : Addr) (mask : UInt16)
deriving DecidableEq

/-! ## What a call touches -/

/-- The device handle a call gets as an argument, if it gets one. -/
def NativeCall.dev? : NativeCall → Option HandlePtr
  | .openScan .. => none
  | .sendCmd dev .. => some dev
  | .i2cSetSpeed dev _ => some dev
  | .i2cWriteSimple dev .. => some dev
  | .i2cReadSimple dev .. => some dev
  | .i2cStatus dev => some dev
  | .i2cRelease dev => some dev
  | .i2cSlaveInit _ dev .. => some dev
  | .i2cSlaveCheckPresent _ => none
  | .i2cSlaveRead .. => none
  | .i2cSlaveWrite .. => none
  | .i2cSlaveReadRegister .. => none
  | .i2cSlaveWriteRegister .. => none
  | .smbusInit _ dev .. => some dev
  | .smbusReadByte .. => none
  | .smbusWriteByte .. => none
  | .smbusReadByteData .. => none
  | .smbusWriteByteData .. => none
  | .smbusReadWordData .. => none
  | .smbusWriteWordData .. => none
  | .smbusProcessCall .. => none
  | .smbusReadBlockData .. => none
  | .smbusWriteBlockData .. => none
  | .smbusBlockProcessCall .. => none
  | .smbusReadI2cBlockData .. => none
  | .smbusWriteI2cBlockData .. => none
  | .gpioReadMask dev => some dev
  | .gpioWrite dev _ => some dev
  | .pinSetFunction dev .. => some dev
  | .pinSetFunctions dev _ => some dev
  | .gpioPoll dev _ => some dev
  | .gpioPollEvents dev .. => some dev
  | .sramConfig dev _ => some dev
  | .analogSetVdd dev _ => some dev
  | .analogGetVdd dev => some dev
  | .adcConfig dev _ => some dev
  | .adcReadRaw dev => some dev
  | .adcReadNormalized dev => some dev
  | .adcReadVolts dev => some dev
  | .dacConfig dev _ => some dev
  | .dacConfigOut dev .. => some dev
  | .dacWriteRaw dev _ => some dev
  | .dacWriteNormalized dev _ => some dev
  | .dacWriteVolts dev _ => some dev
  | .clockConfig dev .. => some dev
  | .iocRead dev => some dev
  | .iocClear dev => some dev
  | .iocConfig dev _ => some dev
  | .flashRead dev _ => some dev
  | .flashWrite dev .. => some dev
  | .flashWriteEx dev .. => some dev
  | .flashSendPassword dev _ => some dev
  | .flashReadInfo dev => some dev
  | .flashGetSettings dev => some dev
  | .flashSaveConfig dev => some dev
  | .usbSetRemoteWakeup dev _ => some dev
  | .usbGetRemoteWakeup dev => some dev
  | .usbSetSelfPowered dev _ => some dev
  | .usbGetSelfPowered dev => some dev
  | .usbSetRequestedCurrent dev _ => some dev
  | .usbGetRequestedCurrent dev => some dev

/-- The native struct a call gets as an argument, if it gets one. -/
def NativeCall.struct? : NativeCall → Option Addr
  | .i2cSlaveInit slave .. => some slave
  | .i2cSlaveCheckPresent slave => some slave
  | .i2cSlaveRead slave _ => some slave
  | .i2cSlaveWrite slave .. => some slave
  | .i2cSlaveReadRegister slave .. => some slave
  | .i2cSlaveWriteRegister slave .. => some slave
  | .smbusInit bus .. => some bus
  | .smbusReadByte bus _ => some bus
  | .smbusWriteByte bus .. => some bus
  | .smbusReadByteData bus .. => some bus
  | .smbusWriteByteData bus .. => some bus
  | .smbusReadWordData bus .. => some bus
  | .smbusWriteWordData bus .. => some bus
  | .smbusProcessCall bus .. => some bus
  | .smbusReadBlockData bus .. => some bus
  | .smbusWriteBlockData bus .. => some bus
  | .smbusBlockProcessCall bus .. => some bus
  | .smbusReadI2cBlockData bus .. => some bus
  | .smbusWriteI2cBlockData bus .. => some bus
  | .gpioPoll _ poll => some poll
  | .gpioPollEvents _ poll .. => some poll
  | _ => none

/-- The call initialises the struct it gets. -/
def NativeCall.initialises : NativeCall → Bool
  | .i2cSlaveInit .. => true
  | .smbusInit .. => true
  | _ => false

def NativeProc.struct? : NativeProc → Option Addr
  | .close _ => none
  | .smbusClose bus => some bus
  | .gpioPollInit poll => some poll
  | .gpioPollSetFilterMask poll _ => some poll

end EasyMcp2221
