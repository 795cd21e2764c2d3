import EasyMcp2221.Qt.GpioMonitor
import EasyMcp2221.System.Invariant

/-!
# What a monitor reports

Every call of `pollOnce` polls once and then reports what came of it, signal by signal,
whatever the slots do in between (`polls_reported`); and no slot ever runs while the
thread holds the mutex of a device.
-/

namespace EasyMcp2221

open Effect

abbrev MonitorEvent : Type := ActEvent MonitorEff.Reply Signal

/-- What one operation of a monitor did. -/
abbrev MonitorTrace : Type := List MonitorEvent

/-- An event of the library, as an event of the monitor. -/
def coreEvent (ev : Prog.Event Eff.Reply) : MonitorEvent :=
  ⟨.effect (.core ev.1), ev.2⟩

def signalEvent (signal : Signal) : MonitorEvent :=
  ⟨.signal signal, ()⟩

/-! ## The report of a poll -/

/-- The two signals of an event: the event, and its edge on its pin. -/
def GpioEvent.signals (event : GpioEvent) : List Signal :=
  match event.edge with
  | .rising => [.gpioEvent event, .risingEdge event.pin]
  | .falling => [.gpioEvent event, .fallingEdge event.pin]

/-- The signals that stand for the outcome of a poll: those of each event, or one error with
    what the exception says. -/
def reported : Except Exn (List GpioEvent) → List Signal
  | .ok events => events.flatMap GpioEvent.signals
  | .error (.error code nativeCode message) =>
    [.errorOccurred { code := code, nativeCode := nativeCode, message := message }]
  | .error (.logicError what) =>
    [.errorOccurred { code := .generic, nativeCode := 0, message := what }]
  | .error (.invalidArgument what) =>
    [.errorOccurred { code := .generic, nativeCode := 0, message := what }]
  | .error .badAlloc =>
    [.errorOccurred { code := .generic, nativeCode := 0, message := "std::bad_alloc" }]

/-- One round of the loop of `pollOnce` emits the signals of its event. -/
theorem reported_cons (event : GpioEvent) (events : List GpioEvent) :
    reported (.ok (event :: events)) =
      .gpioEvent event :: GpioMonitor.edgeSignal event :: reported (.ok events) := by
  rcases event with ⟨pin, edge, time, previousTime⟩
  cases edge with
  | rising => rfl
  | falling => rfl

/-- A `pollOnce` that polls with the trace `tr` and the outcome `poll`. -/
def polled (maxEvents : Nat) (tr : Trace) (poll : Except Exn (List GpioEvent)) : MonitorTrace :=
  ⟨.effect .maxEventsPerPoll, maxEvents⟩ :: tr.map coreEvent ++ (reported poll).map signalEvent

theorem MonitorEff.reply_nonempty (e : MonitorEff) : Nonempty e.Reply := by
  cases e with
  | core e => exact e.reply_nonempty
  | maxEventsPerPoll => exact ⟨0⟩
  | isActive => exact ⟨true⟩
  | setMaxEventsPerPoll | startTimer | stopTimer | setTimerInterval => exact ⟨()⟩

/-! ## The signals of a call -/

/-- The signals of a call. -/
def signalsOf (tr : MonitorTrace) : List Signal :=
  tr.filterMap fun
    | ⟨.signal signal, _⟩ => some signal
    | _ => none

theorem signalsOf_append (tr tr' : MonitorTrace) :
    signalsOf (tr ++ tr') = signalsOf tr ++ signalsOf tr' := List.filterMap_append ..

theorem signalsOf_core (tr : Trace) : signalsOf (tr.map coreEvent) = [] := by
  induction tr with
  | nil => rfl
  | cons ev tr ih => exact ih

theorem signalsOf_signals (signals : List Signal) :
    signalsOf (signals.map signalEvent) = signals := by
  induction signals with
  | nil => rfl
  | cons signal signals ih => exact congrArg (signal :: ·) ih

theorem signalsOf_polled (maxEvents : Nat) (tr : Trace) (poll : Except Exn (List GpioEvent)) :
    signalsOf (polled maxEvents tr poll) = reported poll := by
  rw [polled, signalsOf_append, signalsOf_signals]
  exact congrArg (· ++ reported poll) (signalsOf_core tr)

/-! ## Runs of the operations -/

section Runs

variable {α : Type} {tr : MonitorTrace}

/-- A run that starts with the effect or signal `a`, answered by `r`. -/
theorem runs_act (a : Act MonitorEff Signal) (r : Act.Reply MonitorEff.Reply a)
    {k : Act.Reply MonitorEff.Reply a → MonitorM α} {out : Except Exn α}
    (h : (k r).Runs tr out) : (Prog.vis a k).Runs (⟨a, r⟩ :: tr) out :=
  .vis r h

theorem runs_core {p : M α} {out : Except Exn α} :
    (core p).Runs tr out ↔ ∃ tr', p.Runs tr' out ∧ tr = tr'.map coreEvent := by
  constructor
  · intro h
    induction p generalizing tr with
    | ret a =>
      obtain ⟨rfl, rfl⟩ := Prog.runs_ret.mp h
      exact ⟨[], .ret a, rfl⟩
    | throw x =>
      obtain ⟨rfl, rfl⟩ := Prog.runs_throw.mp h
      exact ⟨[], .throw x, rfl⟩
    | vis e k ih =>
      cases h with
      | vis r h =>
        obtain ⟨tr', hruns, rfl⟩ := ih r h
        exact ⟨⟨e, r⟩ :: tr', runs_vis e r hruns, rfl⟩
  · rintro ⟨tr', hruns, rfl⟩
    induction hruns with
    | ret a => exact .ret a
    | throw x => exact .throw x
    | vis r _ ih => exact runs_act (.effect (.core _)) r ih

theorem runs_perform {e : MonitorEff} {out : Except Exn e.Reply} :
    (perform e).Runs tr out ↔ ∃ r, tr = [⟨.effect e, r⟩] ∧ out = .ok r := by
  constructor
  · intro h
    cases h with
    | vis r h =>
      obtain ⟨rfl, rfl⟩ := Prog.runs_ret.mp h
      exact ⟨r, rfl, rfl⟩
  · rintro ⟨r, rfl, rfl⟩
    exact runs_act (.effect e) r (.ret r)

theorem runs_emit {signal : Signal} {out : Except Exn Unit} :
    (emit signal).Runs tr out ↔ tr = [signalEvent signal] ∧ out = .ok () := by
  constructor
  · intro h
    cases h with
    | vis r h =>
      obtain ⟨rfl, rfl⟩ := Prog.runs_ret.mp h
      exact ⟨rfl, rfl⟩
  · rintro ⟨rfl, rfl⟩
    exact runs_act (.signal signal) () (.ret ())

/-- An emission, and what follows it. -/
theorem runs_emit_bind {signal : Signal} {k : Unit → MonitorM α} {out : Except Exn α} :
    ((emit signal).bind k).Runs tr out ↔
      ∃ rest, tr = signalEvent signal :: rest ∧ (k ()).Runs rest out := by
  constructor
  · intro h
    cases h with
    | vis r h => exact ⟨_, rfl, h⟩
  · rintro ⟨rest, rfl, h⟩
    exact runs_act (.signal signal) () h

/-- The loop emits two signals for every event, and does not throw. -/
theorem runs_announce {events : List GpioEvent} {out : Except Exn Unit}
    (h : (GpioMonitor.announce events).Runs tr out) :
    out = .ok () ∧ tr = (reported (.ok events)).map signalEvent := by
  induction events generalizing tr with
  | nil =>
    obtain ⟨rfl, rfl⟩ := Prog.runs_ret.mp h
    exact ⟨rfl, rfl⟩
  | cons event events ih =>
    obtain ⟨rest, rfl, hedge⟩ := runs_emit_bind.mp h
    obtain ⟨rest, rfl, hrest⟩ := runs_emit_bind.mp hedge
    obtain ⟨hout, rfl⟩ := ih hrest
    refine ⟨hout, ?_⟩
    rw [reported_cons]
    rfl

/-- A handler emits one signal, and does not throw. -/
theorem runs_handleError {error : Exn} {out : Except Exn Unit}
    (h : (GpioMonitor.handleError error).Runs tr out) :
    out = .ok () ∧ tr = (reported (.error error)).map signalEvent := by
  cases error with
  | error | logicError | invalidArgument | badAlloc =>
    obtain ⟨rfl, rfl⟩ := runs_emit.mp h
    exact ⟨rfl, rfl⟩

/-- **A run of `pollOnce`**: a poll and its report, and no exception. -/
theorem runs_pollOnce [NativeApi] {poller : Option GpioPollerState} {out : Except Exn Unit}
    (h : (GpioMonitor.pollOnce poller).Runs tr out) :
    out = .ok () ∧ ∃ maxEvents tr' poll,
      (GpioPoller.pollEvents poller maxEvents).Runs tr' poll ∧ tr = polled maxEvents tr' poll := by
  -- inside of the `try` block
  have hbody : ∀ {tr : MonitorTrace} {out : Except Exn Unit},
      ((perform .maxEventsPerPoll).bind fun maxEvents =>
        (core (GpioPoller.pollEvents poller maxEvents)).bind GpioMonitor.announce).Runs tr out →
      ∃ maxEvents tr' poll, (GpioPoller.pollEvents poller maxEvents).Runs tr' poll ∧
        ((out = .ok () ∧ tr = polled maxEvents tr' poll) ∨
          ∃ error, poll = .error error ∧ out = .error error ∧
            tr = ⟨.effect .maxEventsPerPoll, maxEvents⟩ :: tr'.map coreEvent) := by
    intro tr out h
    obtain ⟨x, hx, -⟩ | ⟨tr₁, tr₂, maxEvents, rfl, h₁, h₂⟩ := Prog.runs_bind.mp h
    · obtain ⟨r, -, hr⟩ := runs_perform.mp hx
      cases hr
    obtain ⟨r, rfl, hr⟩ := runs_perform.mp h₁
    cases hr
    obtain ⟨x, hx, rfl⟩ | ⟨tr₃, tr₄, events, rfl, h₃, h₄⟩ := Prog.runs_bind.mp h₂
    · obtain ⟨tr', hruns, rfl⟩ := runs_core.mp hx
      exact ⟨maxEvents, tr', _, hruns, .inr ⟨x, rfl, rfl, rfl⟩⟩
    · obtain ⟨tr', hruns, rfl⟩ := runs_core.mp h₃
      obtain ⟨rfl, rfl⟩ := runs_announce h₄
      exact ⟨maxEvents, tr', _, hruns, .inl ⟨rfl, rfl⟩⟩
  obtain ⟨a, ha, rfl⟩ | ⟨tr₁, tr₂, error, rfl, h₁, h₂⟩ := Prog.runs_handle.mp h
  · obtain ⟨maxEvents, tr', poll, hruns, ⟨-, htr⟩ | ⟨error, -, hout, -⟩⟩ := hbody ha
    · exact ⟨rfl, maxEvents, tr', poll, hruns, htr⟩
    · cases hout
  · obtain ⟨maxEvents, tr', poll, hruns, ⟨hout, -⟩ | ⟨error', rfl, hout, rfl⟩⟩ := hbody h₁
    · cases hout
    · cases hout
      obtain ⟨rfl, rfl⟩ := runs_handleError h₂
      exact ⟨rfl, maxEvents, tr', _, hruns, rfl⟩

end Runs

/-! ## Locks -/

section Locks

variable [NativeApi]

/-- A thread that holds no mutex, or one. -/
def mutexes : Protocol Eff Eff.Reply (Option Addr) where
  allow mutex
    | .lock _ => mutex = none
    | .unlock a => mutex = some a
    | _ => True
  rely _ e r := Position.Relies e r
  next mutex
    | .lock a, _ => some a
    | .unlock _, _ => none
    | _, _ => mutex

/-- Effects other than those on the mutex leave alone what the operation holds. -/
theorem Position.mutex_next {op : Op} {q : Position} {e : Eff} (h : q.Permits op e) (r : e.Reply) :
    (q.next e r).mutex = mutexes.next q.mutex e r := by
  have hfree : ∀ x stage, (⟨x, stage, false⟩ : Position).mutex = none := fun _ _ => rfl
  cases h with
  | alloc =>
    obtain ⟨call, stage, held⟩ := q
    cases stage <;> rfl
  | lock hdevice _ => exact (congrArg (Option.map DeviceState.addr) hdevice)
  | unlock => rfl
  | @call x target req c htarget hserves hrequest heffect =>
    have hnone := openedHandle_eq_none r hserves.touches
    simp only [Position.next, Stage.next, hnone]
    rfl
  | setMask => rfl
  | setUp => rfl
  | initChild => rfl
  | @commitChild x a held w kind _ _ => cases held <;> rfl
  | openScan | makeDeviceState | guardClose | commitDevice | releaseNew | makeChild | initPoller
  | releaseMade | relocate | releaseChild | smbusClose | deleteChild | releaseDevice | close
  | deleteDevice =>
    simp only [Position.next, hfree]
    rfl

/-- An operation that keeps to its protocol locks one mutex at a time, and gives it back. -/
theorem mutexes_of_session {α : Type} (op : Op) (x : PublicOp) {p : M α}
    (h : p.wp (session op) ⟨x, .working, false⟩ fun _ q => q.Final) :
    p.wp mutexes none fun _ mutex => mutex = none := by
  refine Prog.wp_mono (Prog.wp_transport (fun q mutex => mutex = q.mutex) ?_
    (fun _ _ _ _ _ hrely => hrely) ?_ rfl h) ?_
  · rintro q mutex e rfl hpermits
    cases hpermits with
    | lock _ hheld => simp [mutexes, Position.mutex, hheld]
    | unlock hdevice hheld => simp [mutexes, Position.mutex, hdevice, hheld]
    | _ => trivial
  · rintro q mutex e r rfl hpermits -
    exact (Position.mutex_next hpermits r).symm
  · rintro out mutex ⟨q, rfl, -, hheld⟩
    simp [Position.mutex, hheld]

theorem PublicOp.prog_mutexes (op : PublicOp) :
    op.prog.wp mutexes none fun _ mutex => mutex = none := by
  cases op with
  | data x => exact mutexes_of_session _ _ (DataCall.session (.close 0) x)
  | construct w options => exact mutexes_of_session _ _ (construct_session w options (.close 0))
  | i2cDevice self dst address options =>
    exact mutexes_of_session _ _ (i2cDevice_session 0 dst address options self)
  | smbusDevice self dst address =>
    exact mutexes_of_session _ _ (smbusDevice_session 0 dst address self)
  | gpioPoller self dst => exact mutexes_of_session _ _ (gpioPoller_session 0 dst self)
  | close w =>
    exact mutexes_of_session (.close w) (.close w)
      (drop_session .device rfl (fun _ => rfl) fun _ => rfl)
  | destroy kind w =>
    exact mutexes_of_session (.destroy w) (.destroy kind w)
      (drop_session kind rfl (fun _ => rfl) fun _ => rfl)
  | moveConstruct src dst =>
    exact mutexes_of_session (.moveConstruct src dst) (.moveConstruct src dst)
      ⟨.relocate rfl, fun _ _ => ⟨rfl, rfl⟩⟩
  | copyConstruct src dst =>
    exact mutexes_of_session (.copyConstruct src dst) (.copyConstruct src dst)
      ⟨.relocate rfl, fun _ _ => ⟨rfl, rfl⟩⟩
  | moveAssign kind src dst =>
    exact mutexes_of_session (.moveAssign src dst) (.moveAssign kind src dst)
      (drop_session kind rfl (fun _ => rfl) fun _ => rfl)
  | copyAssign kind src dst =>
    exact mutexes_of_session (.copyAssign src dst) (.copyAssign kind src dst)
      (drop_session kind rfl (fun _ => rfl) fun _ => rfl)

/-- The same discipline for the operations of a monitor: they emit without a mutex. -/
def monitorMutexes :
    Protocol (Act MonitorEff Signal) (Act.Reply MonitorEff.Reply) (Option Addr) where
  allow mutex
    | .effect (.core e) => mutexes.allow mutex e
    | .effect _ => True
    | .signal _ => mutex = none
  rely mutex
    | .effect (.core e), r => mutexes.rely mutex e r
    | _, _ => True
  next mutex
    | .effect (.core e), r => mutexes.next mutex e r
    | _, _ => mutex

theorem wp_core {α : Type} {p : M α} {mutex : Option Addr} {Φ : Prog.Post Exn α (Option Addr)}
    (h : p.wp mutexes mutex Φ) : (core p).wp monitorMutexes mutex Φ := by
  induction p generalizing mutex with
  | ret a => exact h
  | throw x => exact h
  | vis e k ih => exact ⟨h.1, fun r hr => ih r (h.2 r hr)⟩

section Signals

variable {Q : Type} {P : Protocol (Act MonitorEff Signal) (Act.Reply MonitorEff.Reply) Q} {q : Q}
  {Φ : Prog.Post Exn Unit Q}

omit [NativeApi] in
theorem wp_emit {signal : Signal} {k : Unit → MonitorM Unit} (hallow : P.allow q (.signal signal))
    (hnext : P.next q (.signal signal) () = q) (h : (k ()).wp P q Φ) :
    ((emit signal).bind k).wp P q Φ := by
  refine ⟨hallow, fun _ _ => ?_⟩
  rw [hnext]
  exact h

omit [NativeApi] in
/-- The loop of `pollOnce` keeps to any protocol that lets it emit and stay where it is. -/
theorem wp_announce (events : List GpioEvent)
    (hevent : ∀ event, P.allow q (.signal (.gpioEvent event)) ∧
      P.next q (.signal (.gpioEvent event)) () = q)
    (hedge : ∀ event, P.allow q (.signal (GpioMonitor.edgeSignal event)) ∧
      P.next q (.signal (GpioMonitor.edgeSignal event)) () = q)
    (h : Φ (.ok ()) q) : (GpioMonitor.announce events).wp P q Φ := by
  induction events with
  | nil => exact h
  | cons event events ih =>
    exact wp_emit (hevent event).1 (hevent event).2 (wp_emit (hedge event).1 (hedge event).2 ih)

omit [NativeApi] in
theorem wp_handleError (error : Exn)
    (herror : ∀ info, P.allow q (.signal (.errorOccurred info)) ∧
      P.next q (.signal (.errorOccurred info)) () = q)
    (h : Φ (.ok ()) q) : (GpioMonitor.handleError error).wp P q Φ := by
  cases error with
  | error | logicError | invalidArgument | badAlloc =>
    exact wp_emit (k := .ret) (herror _).1 (herror _).2 h

end Signals

theorem MonitorOp.prog_mutexes (poller : Option GpioPollerState) (op : MonitorOp) :
    (op.prog poller).wp monitorMutexes none fun _ mutex => mutex = none := by
  have hpoller : ∀ op : PollerOp, (core (op.prog poller)).wp monitorMutexes none
      fun _ mutex => mutex = none := fun op =>
    wp_core (PublicOp.prog_mutexes (.data (.poller poller op)))
  cases op with
  | start =>
    refine ⟨trivial, fun active _ => ?_⟩
    cases active with
    | true => exact rfl
    | false => exact ⟨trivial, fun _ _ => ⟨rfl, fun _ _ => rfl⟩⟩
  | stop =>
    refine ⟨trivial, fun active _ => ?_⟩
    cases active with
    | true => exact ⟨trivial, fun _ _ => ⟨rfl, fun _ _ => rfl⟩⟩
    | false => exact rfl
  | setInterval interval =>
    show (GpioMonitor.setInterval interval).wp _ _ _
    unfold GpioMonitor.setInterval
    split
    · exact rfl
    · split
      · exact rfl
      · exact ⟨trivial, fun _ _ => rfl⟩
  | setMaxEventsPerPoll => exact ⟨trivial, fun _ _ => rfl⟩
  | setFilter filter => exact hpoller (.setFilter filter)
  | clearFilter => exact hpoller .clearFilter
  | pollOnce =>
    refine Prog.wp_handle.mpr (Prog.wp_bind.mpr ⟨trivial, fun maxEvents _ => ?_⟩)
    refine Prog.andThen_ok.mpr (Prog.wp_bind.mpr ?_)
    refine Prog.wp_mono (hpoller (.pollEvents maxEvents)) ?_
    rintro (error | events) mutex rfl
    · exact wp_handleError error (fun _ => ⟨rfl, rfl⟩) rfl
    · exact wp_announce events (fun _ => ⟨rfl, rfl⟩) (fun _ => ⟨rfl, rfl⟩) rfl
  | library op =>
    refine wp_core (Prog.wp_void.mpr (Prog.wp_mono op.prog_mutexes fun out mutex h => ?_))
    cases out <;> exact h

/-- The thread of a monitor holds at most one mutex, and none while a slot may run. -/
def mutexGuard (poller : Option GpioPollerState) :
    Dispatcher.Guard (gpioMonitor poller) ({} : MonitorState) (Option Addr) where
  protocol := monitorMutexes
  rest := none
  inv mutex s _ := s.held = mutex.toList
  initial := rfl
  final _ _ mutex := mutex = none
  keeps := MonitorOp.prog_mutexes poller
  settle _ _ _ _ _ hmutex hinv := hmutex ▸ hinv
  effect := by
    intro mutex s evs e r s' hinv hallow heffect
    cases e with
    | core e =>
      cases e with
      | lock a =>
        obtain ⟨-, rfl⟩ := heffect
        have hmutex : mutex = none := hallow
        subst hmutex
        exact ⟨trivial, congrArg (a :: ·) hinv⟩
      | unlock a =>
        have heffect : s' = { s with held := s.held.erase a } := heffect
        have hmutex : mutex = some a := hallow
        subst heffect hmutex
        refine ⟨trivial, ?_⟩
        show s.held.erase a = []
        rw [hinv]
        simp
      | alloc | call | proc | own =>
        obtain ⟨hrelies, rfl⟩ := heffect
        exact ⟨hrelies, hinv⟩
    | maxEventsPerPoll | isActive =>
      obtain ⟨-, rfl⟩ := heffect
      exact ⟨trivial, hinv⟩
    | setMaxEventsPerPoll | startTimer | stopTimer | setTimerInterval =>
      have heffect : s' = _ := heffect
      subst heffect
      exact ⟨trivial, hinv⟩
  signal := by
    intro mutex s evs signal hinv hallow
    have hmutex : mutex = none := hallow
    subst hmutex
    exact ⟨trivial, rfl, hinv⟩

end Locks

/-! ## The reports of every call -/

section

variable [NativeApi] {poller : Option GpioPollerState} {c : (gpioMonitor poller).Config}

/-- **No lost, duplicated or spurious event.**  Whatever the slots call, each `pollOnce`
    polls once, reports the outcome of that poll and nothing else, and does not throw; a
    slot runs only while the thread holds no mutex, so the thread never waits for a mutex
    that it holds itself. -/
theorem polls_reported (hc : (gpioMonitor poller).Reachable {} c) :
    (∀ i, .called i .pollOnce ∈ c.log → ∃ maxEvents tr poll,
      (GpioPoller.pollEvents poller maxEvents).Runs tr poll ∧
        Dispatcher.history i c.log <+: polled maxEvents tr poll) ∧
    (∀ i out, .called i .pollOnce ∈ c.log → .ended i out ∈ c.log →
      out = .ok () ∧ ∃ maxEvents tr poll,
        (GpioPoller.pollEvents poller maxEvents).Runs tr poll ∧
          Dispatcher.history i c.log = polled maxEvents tr poll) ∧
    (c.Open → c.state.held = []) ∧
    (∀ f ∈ c.stack.head?, ∀ a k, f.rest = .vis (.effect (.core (.lock a))) k →
      c.state.held = []) := by
  obtain ⟨mutex, hguard⟩ := (mutexGuard poller).reachable hc
  refine ⟨fun i hcalled => ?_, fun i out hcalled hended => ?_, fun hopen => ?_, ?_⟩
  · obtain ⟨rest, out, hruns⟩ := hc.begun MonitorEff.reply_nonempty hcalled
    obtain ⟨-, maxEvents, tr, poll, hpoll, htr⟩ := runs_pollOnce hruns
    exact ⟨maxEvents, tr, poll, hpoll, rest, htr⟩
  · exact runs_pollOnce (hc.ended hcalled hended)
  · have hinv := hguard.inv
    rw [hguard.rest hopen] at hinv
    exact hinv
  · intro f hf a k hrest
    have htop := hguard.top f hf
    rw [Dispatcher.Guard.Follows, hrest] at htop
    have hmutex : mutex = none := htop.1
    subst hmutex
    exact hguard.inv

end

section

attribute [local instance] NativeApi.reference

/-- A poll finds a rising edge on GP0 and a falling one on GP2, and the slot of the first event
    clears the filter, for which it locks the mutex, before its edge is announced. -/
theorem polls_reported_clearing :
    ∃ c : (gpioMonitor (some ⟨3, some ⟨0, some 7⟩⟩)).Config,
      (gpioMonitor (some ⟨3, some ⟨0, some 7⟩⟩)).Reachable {} c ∧
        .ended 1 (.ok ()) ∈ c.log ∧ .ended 0 (.ok ()) ∈ c.log ∧
          ∃ maxEvents tr poll,
            (GpioPoller.pollEvents (some ⟨3, some ⟨0, some 7⟩⟩) maxEvents).Runs tr poll ∧
              Dispatcher.history 0 c.log = polled maxEvents tr poll ∧
                reported poll = [.gpioEvent ⟨.gp0, .rising, ⟨1⟩, ⟨0⟩⟩, .risingEdge .gp0,
                  .gpioEvent ⟨.gp2, .falling, ⟨2⟩, ⟨1⟩⟩, .fallingEdge .gp2] := by
  have hinit : (gpioMonitor (some ⟨3, some ⟨0, some 7⟩⟩)).Reachable {} ⟨{}, [], 0, []⟩ := .init
  have hcalled := hinit.call .pollOnce fun _ hf => by cases hf
  have hread := hcalled.effect 4 ⟨rfl, rfl⟩
  have hallocated := hread.effect true ⟨trivial, rfl⟩
  have hlocked := hallocated.effect () ⟨List.not_mem_nil, rfl⟩
  have hpolled := hlocked.effect ⟨2, fun i => if i = 0 then ⟨0, 1, ⟨1⟩, ⟨0⟩⟩
    else ⟨2, 2, ⟨2⟩, ⟨1⟩⟩, by decide⟩ ⟨trivial, rfl⟩
  have hunlocked := hpolled.effect () rfl
  have hannounced := hunlocked.emit
  have hclear := hannounced.call .clearFilter fun _ hf => by cases hf; rfl
  have hrelocked := hclear.effect () ⟨List.not_mem_nil, rfl⟩
  have hmasked := hrelocked.effect () ⟨trivial, rfl⟩
  have hreleased := hmasked.effect () rfl
  have hcleared := hreleased.stop (.ok ())
  have hrising := hcleared.received.emit
  have hsecond := hrising.received.emit
  have hfalling := hsecond.received.emit
  have hdone := hfalling.received.stop (.ok ())
  obtain ⟨-, hreports, -, -⟩ := polls_reported hdone
  obtain ⟨-, maxEvents, tr, poll, hpoll, hhistory⟩ := hreports 0 (.ok ()) (by simp) (by simp)
  refine ⟨_, hdone, by simp, by simp, maxEvents, tr, poll, hpoll, hhistory, ?_⟩
  rw [← signalsOf_polled maxEvents tr, ← hhistory]
  rfl

end

end EasyMcp2221
