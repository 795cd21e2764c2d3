import EasyMcp2221.Translation

/-!
# Operations of `I2cDevice`

`I2cDevice.cpp`.  The file has its own copies of the register-layout translations
of `Device.cpp`; they are separate definitions here as well.
-/

namespace EasyMcp2221

open Effect

variable [NativeApi]

namespace I2cDevice

/-- `requireState`: the child state and the device state it points to. -/
def requireState (state : Option I2cDeviceState) :
    Except Exn (I2cDeviceState × DeviceState) :=
  match state with
  | none => .error (.logicError "I2cDevice has no device state")
  | some state =>
    match state.device with
    | none => .error (.logicError "I2cDevice has no device state")
    | some device => .ok (state, device)

def toNativeRegisterWidth : CppEnum RegisterWidth → Except Exn Int
  | .named .bits8 => .ok 1
  | .named .bits16 => .ok 2
  | .named .bits24 => .ok 3
  | .named .bits32 => .ok 4
  | .unnamed _ _ => throwInvalid "Unknown I2C register width"

def toNativeByteOrder : CppEnum ByteOrder → Except Exn NativeByteOrder
  | .named .bigEndian => .ok .big
  | .named .littleEndian => .ok .little
  | .unnamed _ _ => throwInvalid "Unknown I2C register byte order"

/-- `address()`; an object without state reports 0. -/
def address (self : Option I2cDeviceState) : UInt8 :=
  match self with
  | none => 0
  | some state => state.slave.addr

def isPresent (self : Option I2cDeviceState) : M Bool := do
  let (state, device) ← requireState self
  withLock device do
    let present ← nativeCall (.i2cSlaveCheckPresent state.addr) "Checking I2C target presence"
    pure (present ≠ 0)

def read (self : Option I2cDeviceState) (size : Nat) : M Bytes := do
  let (state, device) ← requireState self
  rejectIf (size = 0 ∨ size > 256) "I2cDevice read size must be from 1 through 256 bytes"
  allocateVector size
  withLock device do
    let data ← nativeCall (.i2cSlaveRead state.addr size) "Reading from I2C target"
    pure data.toList

def write (self : Option I2cDeviceState) (data : BytePtr) (size : Nat) : M Unit := do
  let (state, device) ← requireState self
  rejectIf (data = none) "I2cDevice write pointer must not be null"
  rejectIf (size = 0 ∨ size > 256) "I2cDevice write size must be from 1 through 256 bytes"
  withLock device do
    nativeCall (.i2cSlaveWrite state.addr data size) "Writing to I2C target"

def writeVector (self : Option I2cDeviceState) (data : Bytes) : M Unit :=
  write self (vectorData data) data.length

def readRegister (self : Option I2cDeviceState) (reg : UInt32) (size : Nat) : M Bytes := do
  let (state, device) ← requireState self
  rejectIf (size = 0 ∨ size > 256) "I2cDevice register read size must be from 1 through 256 bytes"
  allocateVector size
  withLock device do
    let data ← nativeCall (.i2cSlaveReadRegister state.addr reg size 0 .default)
      "Reading I2C target register"
    pure data.toList

/-- The overload with an explicit register layout. -/
def readRegisterLayout (self : Option I2cDeviceState) (reg : UInt32) (size : Nat)
    (registerWidth : CppEnum RegisterWidth) (byteOrder : CppEnum ByteOrder) : M Bytes := do
  let (state, device) ← requireState self
  rejectIf (size = 0 ∨ size > 256) "I2cDevice register read size must be from 1 through 256 bytes"
  allocateVector size
  withLock device do
    let width ← toNativeRegisterWidth registerWidth
    let order ← toNativeByteOrder byteOrder
    let data ← nativeCall (.i2cSlaveReadRegister state.addr reg size width order)
      "Reading I2C target register"
    pure data.toList

def writeRegister (self : Option I2cDeviceState) (reg : UInt32) (data : BytePtr)
    (size : Nat) : M Unit := do
  let (state, device) ← requireState self
  rejectIf (data = none ∧ size ≠ 0)
    "I2cDevice register write pointer must not be null for nonzero size"
  rejectIf (size > 256) "I2cDevice register write size must not exceed 256 bytes"
  withLock device do
    nativeCall (.i2cSlaveWriteRegister state.addr reg data size 0 .default)
      "Writing I2C target register"

/-- The overload with an explicit register layout. -/
def writeRegisterLayout (self : Option I2cDeviceState) (reg : UInt32) (data : BytePtr)
    (size : Nat) (registerWidth : CppEnum RegisterWidth) (byteOrder : CppEnum ByteOrder) :
    M Unit := do
  let (state, device) ← requireState self
  rejectIf (data = none ∧ size ≠ 0)
    "I2cDevice register write pointer must not be null for nonzero size"
  rejectIf (size > 256) "I2cDevice register write size must not exceed 256 bytes"
  withLock device do
    let width ← toNativeRegisterWidth registerWidth
    let order ← toNativeByteOrder byteOrder
    nativeCall (.i2cSlaveWriteRegister state.addr reg data size width order)
      "Writing I2C target register"

def writeRegisterVector (self : Option I2cDeviceState) (reg : UInt32) (data : Bytes) :
    M Unit :=
  writeRegister self reg (vectorData data) data.length

end I2cDevice

end EasyMcp2221
