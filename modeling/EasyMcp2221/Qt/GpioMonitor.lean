import EasyMcp2221.Effect.Reentrancy
import EasyMcp2221.System.Session

/-!
# `qt::GpioMonitor`

`qt/GpioMonitor.cpp` and `qt/ErrorInfo.cpp`.  The operations of a monitor emit Qt
signals, and a slot may call any operation of the monitor or of the library again, so
they are the operations of a dispatcher.  A timer tick is a call of `pollOnce`.
-/

namespace EasyMcp2221

open Effect

/-! ## Signals and effects -/

/-- `qt::ErrorInfo`. -/
structure ErrorInfo where
  code : ErrorCode := .generic
  nativeCode : Int := 0
  message : String := ""
deriving DecidableEq, Repr

/-- The signals of `GpioMonitor`. -/
inductive Signal where
  | started
  | stopped
  | gpioEvent (event : GpioEvent)
  | risingEdge (pin : Pin)
  | fallingEdge (pin : Pin)
  | errorOccurred (error : ErrorInfo)

/-- The effects of the library, the member `maxEventsPerPoll_`, and the timer. -/
inductive MonitorEff where
  | core (e : Eff)
  | maxEventsPerPoll
  | setMaxEventsPerPoll (maxEvents : Nat)
  | isActive
  | startTimer
  | stopTimer
  | setTimerInterval (interval : Int)

@[reducible] def MonitorEff.Reply : MonitorEff → Type
  | .core e => e.Reply
  | .maxEventsPerPoll => Nat
  | .isActive => Bool
  | _ => Unit

/-- An operation of a monitor. -/
abbrev MonitorM (α : Type) : Type := Prog (Act MonitorEff Signal) (Act.Reply MonitorEff.Reply) Exn α

/-- An operation of the library, called by the monitor. -/
def core {α : Type} : M α → MonitorM α
  | .ret a => .ret a
  | .throw x => .throw x
  | .vis e k => .vis (.effect (.core e)) fun r => core (k r)

def perform (e : MonitorEff) : MonitorM e.Reply := .vis (.effect e) .ret

def emit (signal : Signal) : MonitorM Unit := .vis (.signal signal) .ret

/-! ## Error information -/

/-- `error.what()`. -/
def Exn.what : Exn → String
  | .error _ _ message => message
  | .logicError what => what
  | .invalidArgument what => what
  | .badAlloc => "std::bad_alloc"

/-- `toErrorInfo` of an `Error` with these members. -/
def toErrorInfo (code : ErrorCode) (nativeCode : Int) (message : String) : ErrorInfo :=
  { code, nativeCode, message }

/-! ## Operations -/

namespace GpioMonitor

/-- `std::numeric_limits<int>::max()`. -/
def intMax : Int := 2 ^ 31 - 1

def setInterval (interval : Int) : MonitorM Unit :=
  if interval ≤ 0 then
    .throw (.invalidArgument "GPIO polling interval must be positive")
  else if interval > intMax then
    .throw (.invalidArgument "GPIO polling interval is too large")
  else
    perform (.setTimerInterval interval)

def setMaxEventsPerPoll (maxEvents : Nat) : MonitorM Unit :=
  perform (.setMaxEventsPerPoll maxEvents)

def start : MonitorM Unit := do
  if ← perform .isActive then
    return
  perform .startTimer
  emit .started

def stop : MonitorM Unit := do
  if ¬ (← perform .isActive) then
    return
  perform .stopTimer
  emit .stopped

/-- The signal of an edge. -/
def edgeSignal (event : GpioEvent) : Signal :=
  match event.edge with
  | .rising => .risingEdge event.pin
  | .falling => .fallingEdge event.pin

/-- The loop of `pollOnce`. -/
def announce : List GpioEvent → MonitorM Unit
  | [] => .ret ()
  | event :: events => do
    emit (.gpioEvent event)
    emit (edgeSignal event)
    announce events

/-- The handlers of `pollOnce`. -/
def handleError : Exn → MonitorM Unit
  | .error code nativeCode message => emit (.errorOccurred (toErrorInfo code nativeCode message))
  | error => emit (.errorOccurred { code := .generic, nativeCode := 0, message := error.what })

variable [NativeApi]

def setFilter (poller : Option GpioPollerState) (filter : GpioEventFilter) : MonitorM Unit :=
  core (GpioPoller.setFilter poller filter)

def clearFilter (poller : Option GpioPollerState) : MonitorM Unit :=
  core (GpioPoller.clearFilter poller)

def pollOnce (poller : Option GpioPollerState) : MonitorM Unit :=
  Prog.handle
    (do
      let maxEvents ← perform .maxEventsPerPoll
      let events ← core (GpioPoller.pollEvents poller maxEvents)
      announce events)
    handleError

end GpioMonitor

/-! ## The monitor and its slots -/

/-- What runs in the thread of the monitor: its operations, and any operation of the
    library that a slot calls. -/
inductive MonitorOp where
  | start
  | stop
  | setInterval (interval : Int)
  | setMaxEventsPerPoll (maxEvents : Nat)
  | setFilter (filter : GpioEventFilter)
  | clearFilter
  | pollOnce
  | library (op : PublicOp)

/-- The members of the monitor, and the mutexes that its thread holds.  The defaults are
    what the constructor leaves. -/
structure MonitorState where
  maxEventsPerPoll : Nat := 4
  active : Bool := false
  interval : Int := 20
  held : List Addr := []

variable [NativeApi]

/-- What an effect does.  A mutex is not recursive. -/
def MonitorState.Performs (s : MonitorState) : (e : MonitorEff) → e.Reply → MonitorState → Prop
  | .core (.lock a), _, s' => a ∉ s.held ∧ s' = { s with held := a :: s.held }
  | .core (.unlock a), _, s' => s' = { s with held := s.held.erase a }
  | .core e, r, s' => Position.Relies e r ∧ s' = s
  | .maxEventsPerPoll, maxEvents, s' => maxEvents = s.maxEventsPerPoll ∧ s' = s
  | .setMaxEventsPerPoll maxEvents, _, s' => s' = { s with maxEventsPerPoll := maxEvents }
  | .isActive, active, s' => active = s.active ∧ s' = s
  | .startTimer, _, s' => s' = { s with active := true }
  | .stopTimer, _, s' => s' = { s with active := false }
  | .setTimerInterval interval, _, s' => s' = { s with interval }

def MonitorOp.prog (poller : Option GpioPollerState) : MonitorOp → MonitorM Unit
  | .start => GpioMonitor.start
  | .stop => GpioMonitor.stop
  | .setInterval interval => GpioMonitor.setInterval interval
  | .setMaxEventsPerPoll maxEvents => GpioMonitor.setMaxEventsPerPoll maxEvents
  | .setFilter filter => GpioMonitor.setFilter poller filter
  | .clearFilter => GpioMonitor.clearFilter poller
  | .pollOnce => GpioMonitor.pollOnce poller
  | .library op => core op.prog.void

/-- A monitor whose `poller_` has this state, in its thread. -/
def gpioMonitor (poller : Option GpioPollerState) :
    Dispatcher MonitorEff MonitorEff.Reply Signal Exn MonitorOp MonitorState where
  prog := MonitorOp.prog poller
  effect := MonitorState.Performs

end EasyMcp2221
