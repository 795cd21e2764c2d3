import EasyMcp2221.Translation

/-!
# Operations of `SmbusDevice`

`SmbusDevice.cpp`.
-/

namespace EasyMcp2221

open Effect

variable [NativeApi]

namespace SmbusDevice

/-- `MaxBlockSize`. -/
def maxBlockSize : Nat := smbusBlockMax

/-- `requireState`: the child state and the device state it points to. -/
def requireState (state : Option SmbusDeviceState) :
    Except Exn (SmbusDeviceState × DeviceState) :=
  match state with
  | none => .error (.logicError "SmbusDevice has no device state")
  | some state =>
    match state.device with
    | none => .error (.logicError "SmbusDevice has no device state")
    | some device => .ok (state, device)

def validateWriteBuffer (data : Bytes) : Except Exn Unit :=
  if data.length > maxBlockSize then throwInvalid "SMBus block size must not exceed 255 bytes"
  else .ok ()

/-- The payload pointer of a block write: an empty vector is sent as the address of
    one zero byte. -/
def payloadPointer (data : Bytes) : BytePtr :=
  if data = [] then some [0] else vectorData data

/-- `address()`; an object without state reports 0. -/
def address (self : Option SmbusDeviceState) : UInt8 :=
  match self with
  | none => 0
  | some state => state.address

def readByte (self : Option SmbusDeviceState) : M UInt8 := do
  let (state, device) ← requireState self
  withLock device do
    nativeCall (.smbusReadByte state.addr state.address) "Reading SMBus byte"

def writeByte (self : Option SmbusDeviceState) (value : UInt8) : M Unit := do
  let (state, device) ← requireState self
  withLock device do
    nativeCall (.smbusWriteByte state.addr state.address value) "Writing SMBus byte"

def readByteData (self : Option SmbusDeviceState) (command : UInt8) : M UInt8 := do
  let (state, device) ← requireState self
  withLock device do
    nativeCall (.smbusReadByteData state.addr state.address command) "Reading SMBus byte data"

def writeByteData (self : Option SmbusDeviceState) (command value : UInt8) : M Unit := do
  let (state, device) ← requireState self
  withLock device do
    nativeCall (.smbusWriteByteData state.addr state.address command value)
      "Writing SMBus byte data"

def readWordData (self : Option SmbusDeviceState) (command : UInt8) : M Int16 := do
  let (state, device) ← requireState self
  withLock device do
    nativeCall (.smbusReadWordData state.addr state.address command) "Reading SMBus word data"

def writeWordData (self : Option SmbusDeviceState) (command : UInt8) (value : Int16) :
    M Unit := do
  let (state, device) ← requireState self
  withLock device do
    nativeCall (.smbusWriteWordData state.addr state.address command value)
      "Writing SMBus word data"

def processCall (self : Option SmbusDeviceState) (command : UInt8) (value : Int16) :
    M Int16 := do
  let (state, device) ← requireState self
  withLock device do
    nativeCall (.smbusProcessCall state.addr state.address command value)
      "Performing SMBus process call"

/-- The end of `readBlockData` and `blockProcessCall`: check the reported length and
    copy that many bytes. -/
def blockResult (answer : Vector UInt8 smbusBlockMax × Nat) : M Bytes := do
  rejectIf (answer.2 > maxBlockSize) "SMBus target returned an invalid block length"
  allocateVector answer.2
  pure (answer.1.toList.take answer.2)

def readBlockData (self : Option SmbusDeviceState) (command : UInt8) : M Bytes := do
  let (state, device) ← requireState self
  withLock device do
    let answer ← nativeCall (.smbusReadBlockData state.addr state.address command)
      "Reading SMBus block data"
    blockResult answer

def writeBlockData (self : Option SmbusDeviceState) (command : UInt8) (data : Bytes) :
    M Unit := do
  let (state, device) ← requireState self
  validateWriteBuffer data
  withLock device do
    nativeCall
      (.smbusWriteBlockData state.addr state.address command (payloadPointer data) data.length)
      "Writing SMBus block data"

def blockProcessCall (self : Option SmbusDeviceState) (command : UInt8) (data : Bytes) :
    M Bytes := do
  let (state, device) ← requireState self
  validateWriteBuffer data
  withLock device do
    let answer ← nativeCall
      (.smbusBlockProcessCall state.addr state.address command (payloadPointer data) data.length)
      "Performing SMBus block process call"
    blockResult answer

def readI2cBlockData (self : Option SmbusDeviceState) (command : UInt8) (size : Nat) :
    M Bytes := do
  let (state, device) ← requireState self
  rejectIf (size = 0 ∨ size > maxBlockSize)
    "SMBus I2C block read size must be from 1 through 255 bytes"
  allocateVector size
  withLock device do
    let data ← nativeCall (.smbusReadI2cBlockData state.addr state.address command size)
      "Reading SMBus I2C block data"
    pure data.toList

def writeI2cBlockData (self : Option SmbusDeviceState) (command : UInt8) (data : Bytes) :
    M Unit := do
  let (state, device) ← requireState self
  validateWriteBuffer data
  withLock device do
    nativeCall
      (.smbusWriteI2cBlockData state.addr state.address command (payloadPointer data)
        data.length)
      "Writing SMBus I2C block data"

end SmbusDevice

end EasyMcp2221
