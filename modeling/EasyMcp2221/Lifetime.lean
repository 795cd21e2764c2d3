import EasyMcp2221.Device

/-!
# Construction, children, and the life of a wrapper object

The constructor and the factories of `Device.cpp`, `Device::close`, and the moves,
copies, assignments and destructors of the four classes, which the source leaves to
the smart pointers (`= default`).  The wrapper object that an operation creates is
an argument, `w` or `dst`.
-/

namespace EasyMcp2221

open Effect

variable [NativeApi]

/-! ## `Device::Device` -/

/-- The hand-over from `handleGuard` to `DeviceState`: when `make_shared` throws, the
    guard closes the handle. -/
def makeDeviceState (handle : HandlePtr) : M DeviceState :=
  .vis .alloc fun ok =>
    if ok then do
      let addr ← own (.makeDeviceState handle)
      pure { addr, handle }
    else do
      if handle ≠ none then
        proc (.close handle)
      Prog.throw .badAlloc

/-- The body of the `lock_guard` scope of the constructor. -/
def initialiseI2c (state : DeviceState) (i2cSpeedHz : UInt32) : M Unit := do
  -- the status of the best-effort release is ignored
  let _ ← Prog.perform (E := Eff) (.call (.i2cRelease state.handle))
  nativeCall (.i2cSetSpeed state.handle 100000) "Setting safe initial I2C speed"
  if i2cSpeedHz ≠ 100000 then
    nativeCall (.i2cSetSpeed state.handle i2cSpeedHz) "Setting requested I2C speed"

def flag (value : Bool) : Int := if value then 1 else 0

/-- `Device::Device(const DeviceOptions&)`. -/
def Device.construct (w : Var) (options : DeviceOptions) : M Unit := do
  rejectIf (options.i2cSpeedHz = 0 ∨ options.i2cSpeedHz > constants.maxI2cSpeedHz)
    "Initial I2C speed must be from 1 through 400000 Hz"
  let serial := if options.usbSerial = "" then none else some (cString options.usbSerial)
  let handle ← nativeCall
    (.openScan options.vendorId options.productId options.deviceIndex serial
      options.usbReadTimeoutMs options.commandRetries (flag options.debugMessages)
      (flag options.tracePackets) (flag options.scanFlashSerial))
    "Opening MCP2221"
  let state ← makeDeviceState handle
  -- `state` goes out of scope last: it is empty after the move into `state_`
  Prog.cleanup
    (do
      withLock state (initialiseI2c state options.i2cSpeedHz)
      own (.commitDevice w))
    dropDevice

/-! ## Children -/

/-- `Device::i2cDevice(address, options)`. -/
def Device.i2cDevice (self : Option DeviceState) (dst : Var) (address : UInt8)
    (options : I2cDeviceOptions) : M Unit := do
  let state ← requireOpen self
  validateI2cAddress address
  rejectIf (options.speedHz = 0 ∨ options.speedHz > constants.maxI2cSpeedHz)
    "I2C target speed must be from 1 through 400000 Hz"
  allocate
  let child ← own (.makeChild .i2c state 0)
  Prog.cleanup
    (withLock state do
      let order ← toNativeByteOrder options.byteOrder
      let width ← toNativeRegisterWidth options.registerWidth
      nativeCall
        (.i2cSlaveInit child state.handle address (flag options.force) options.speedHz width order)
        "Initializing I2C target"
      own (.commitChild dst .i2c))
    dropChild

/-- `Device::i2cDevice(address)`. -/
def Device.i2cDeviceDefault (self : Option DeviceState) (dst : Var) (address : UInt8) : M Unit :=
  i2cDevice self dst address {}

/-- `Device::smbusDevice`. -/
def Device.smbusDevice (self : Option DeviceState) (dst : Var) (address : UInt8) : M Unit := do
  let state ← requireOpen self
  validateI2cAddress address
  allocate
  let child ← own (.makeChild .smbus state address)
  Prog.cleanup
    (withLock state do
      nativeCall (.smbusInit child state.handle 0 0 0 none 0) "Initializing SMBus target"
      own (.commitChild dst .smbus))
    dropChild

/-- `Device::gpioPoller`. -/
def Device.gpioPoller (self : Option DeviceState) (dst : Var) : M Unit := do
  let state ← requireOpen self
  allocate
  let child ← own (.makeChild .poller state 0)
  Prog.cleanup
    (do
      proc (.gpioPollInit child)
      own (.commitChild dst .poller))
    dropChild

/-! ## Close, move, copy, destroy -/

/-- The class of a wrapper object. -/
inductive WrapperKind where
  | device
  | child (kind : ChildKind)
deriving DecidableEq, Repr

/-- Drop the local pointer that a wrapper of this class left behind. -/
def WrapperKind.drop : WrapperKind → M Unit
  | .device => dropDevice
  | .child _ => dropChild

/-- `Device::isOpen`. -/
def Device.isOpen (self : Option DeviceState) : Bool := self.isSome

/-- `Device::close`. -/
def Device.close (w : Var) : M Unit := do
  own (.reset w)
  dropDevice

/-- The destructor of a wrapper object. -/
def destroy (kind : WrapperKind) (w : Var) : M Unit := do
  own (.destroy w)
  kind.drop

def moveConstruct (src dst : Var) : M Unit := own (.moveConstruct src dst)

def copyConstruct (src dst : Var) : M Unit := own (.copyConstruct src dst)

def moveAssign (kind : WrapperKind) (src dst : Var) : M Unit := do
  own (.moveAssign src dst)
  kind.drop

def copyAssign (kind : WrapperKind) (src dst : Var) : M Unit := do
  own (.copyAssign src dst)
  kind.drop

end EasyMcp2221
