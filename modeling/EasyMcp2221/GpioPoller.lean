import EasyMcp2221.Translation

/-!
# Operations of `GpioPoller`

`GpioPoller.cpp`.
-/

namespace EasyMcp2221

open Effect

variable [NativeApi]

namespace GpioPoller

/-- `requireState`: the poller state and the device state it points to. -/
def requireState (state : Option GpioPollerState) :
    Except Exn (GpioPollerState × DeviceState) :=
  match state with
  | none => .error (.logicError "GpioPoller has no device state")
  | some state =>
    match state.device with
    | none => .error (.logicError "GpioPoller has no device state")
    | some device => .ok (state, device)

/-! ## Decoding -/

def toOptionalGpioValue (value : Int) (operation : String) : Except Exn (Option Bool) :=
  if value = -1 then .ok none
  else if value = 0 then .ok (some false)
  else if value = 1 then .ok (some true)
  else .error (protocolError (operation ++ ": invalid GPIO value returned by C library"))

def toPin (gpio : UInt8) : Except Exn Pin :=
  if gpio = 0 then .ok .gp0
  else if gpio = 1 then .ok .gp1
  else if gpio = 2 then .ok .gp2
  else if gpio = 3 then .ok .gp3
  else .error (protocolError "Polling GPIO events: invalid GPIO index returned by C library")

def toEdge (type : Int) : Except Exn GpioEdge :=
  if type = NativeApi.gpioEventRise then .ok .rising
  else if type = NativeApi.gpioEventFall then .ok .falling
  else .error (protocolError "Polling GPIO events: invalid edge type returned by C library")

/-- One entry of the loop of `poll`. -/
def toGpioChange (native : NativeGpioChange) : Except Exn GpioChange := do
  let oldValue ← toOptionalGpioValue native.oldValue "Polling GPIO changes"
  let newValue ← toOptionalGpioValue native.newValue "Polling GPIO changes"
  pure { oldValue, newValue, changed := native.changed ≠ 0 }

/-- One entry of the loop of `pollEvents`. -/
def toGpioEvent (native : NativeGpioEvent) : Except Exn GpioEvent := do
  let pin ← toPin native.gpio
  let edge ← toEdge native.type
  pure { pin, edge, time := native.time, previousTime := native.lastTime }

/-! ## Operations -/

/-- The mask of `setFilter`. -/
def filterMask (filter : GpioEventFilter) : UInt16 :=
  let add (mask : UInt16) (pin : Fin 4) : UInt16 :=
    let mask := if filter.rising pin then mask ||| NativeApi.gpioPollMaskRise pin else mask
    if filter.falling pin then mask ||| NativeApi.gpioPollMaskFall pin else mask
  add (add (add (add 0 0) 1) 2) 3

def setFilter (self : Option GpioPollerState) (filter : GpioEventFilter) : M Unit := do
  let (state, device) ← requireState self
  let mask := filterMask filter
  withLock device do
    proc (.gpioPollSetFilterMask state.addr mask)

def clearFilter (self : Option GpioPollerState) : M Unit := setFilter self {}

def poll (self : Option GpioPollerState) : M (Fin 4 → GpioChange) := do
  let (state, device) ← requireState self
  let native ← withLock device do
    nativeCall (.gpioPoll device.handle state.addr) "Polling GPIO changes"
  (arrayM 4 fun i => toGpioChange (native i) : Except Exn (Fin 4 → GpioChange))

/-- The hardware limit inside `pollEvents`. -/
def maxEventsPerPoll : Nat := 4

/-- The capacity that `pollEvents` asks for. -/
def pollCapacity (maxEvents : Nat) : Nat :=
  if maxEvents < maxEventsPerPoll then maxEvents else maxEventsPerPoll

omit [NativeApi] in
theorem pollCapacity_le (maxEvents : Nat) : pollCapacity maxEvents ≤ 4 := by
  unfold pollCapacity maxEventsPerPoll
  split <;> omega

/-- The end of `pollEvents`: bound the count and decode that many entries. -/
def toGpioEvents (capacity : Nat) (hcapacity : capacity ≤ 4) (count : Int)
    (native : Fin 4 → NativeGpioEvent) : Except Exn (List GpioEvent) :=
  if h : toSize count > capacity then
    .error (protocolError "Polling GPIO events: C library returned too many events")
  else do
    let events ← arrayM (toSize count) fun i => toGpioEvent (native ⟨i.val, by omega⟩)
    pure (List.ofFn events)

def pollEvents (self : Option GpioPollerState) (maxEvents : Nat) : M (List GpioEvent) := do
  let (state, device) ← requireState self
  let capacity := pollCapacity maxEvents
  allocateVector capacity
  let reply ← withLock device
    (Prog.perform (E := Eff)
      (.call (.gpioPollEvents device.handle state.addr (decide (capacity ≠ 0)) capacity)))
  if reply.status < 0 then
    checkError reply.status "Polling GPIO events"
  toGpioEvents capacity (pollCapacity_le maxEvents) reply.status reply.out

end GpioPoller

end EasyMcp2221
