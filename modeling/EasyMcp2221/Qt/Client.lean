import EasyMcp2221.Effect.Returning
import EasyMcp2221.Qt.Sequential
import EasyMcp2221.System.Progress

/-!
# The thread of a monitor

Slots may nest calls to any depth.  Still the thread of a monitor never waits for itself, its
calls return, and what it asks of the core library is one public operation after the other:
for the core it is a thread like any other.
-/

namespace EasyMcp2221

open Effect

section

variable [NativeApi] {poller : Option GpioPollerState} {c : (gpioMonitor poller).Config}

/-! ## Calls return -/

/-- Every effect can be answered. -/
theorem exists_relies (e : Eff) : ∃ r : e.Reply, Position.Relies e r := by
  cases e with
  | alloc => exact ⟨true, trivial⟩
  | lock | unlock | proc => exact ⟨(), trivial⟩
  | call c =>
    rcases exists_failure c with ⟨reply, hfail⟩
    refine ⟨reply, ?_⟩
    cases c with
    | openScan => exact fun hok => absurd hok hfail
    | _ => trivial
  | own o =>
    cases o with
    | releaseDevice => exact ⟨none, fun d hd => by cases hd⟩
    | releaseChild => exact ⟨none, trivial⟩
    | makeDeviceState | makeChild => exact ⟨(0 : Addr), trivial⟩
    | _ => exact ⟨(), trivial⟩

/-- Every effect of a monitor can be performed, if it is not a lock of a mutex that its
    thread holds. -/
theorem exists_performs (s : MonitorState) (e : MonitorEff)
    (hfree : ∀ a, e = .core (.lock a) → a ∉ s.held) : ∃ r s', s.Performs e r s' := by
  cases e with
  | core e =>
    rcases exists_relies e with ⟨r, hrelies⟩
    cases e with
    | lock a => exact ⟨(), _, hfree a rfl, rfl⟩
    | unlock a => exact ⟨(), _, rfl⟩
    | alloc | call | proc | own => exact ⟨r, s, hrelies, rfl⟩
  | maxEventsPerPoll => exact ⟨s.maxEventsPerPoll, s, rfl, rfl⟩
  | isActive => exact ⟨s.active, s, rfl, rfl⟩
  | setMaxEventsPerPoll | startTimer | stopTimer | setTimerInterval => exact ⟨(), _, rfl⟩

/-- The call on top can always go on. -/
theorem monitor_goes_on (hc : (gpioMonitor poller).Reachable {} c) (hstack : c.stack ≠ []) :
    ∃ c', (gpioMonitor poller).Continues c c' := by
  rcases (mutexGuard poller).reachable hc with ⟨mutex, hguard⟩
  rcases c with ⟨s, fs, n, log⟩
  rcases fs with _ | ⟨⟨id, op, p, delivering⟩, fs⟩
  · exact absurd rfl hstack
  · cases delivering with
    | true => exact ⟨_, .received s fs n log id op p, rfl⟩
    | false =>
      cases p with
      | ret a => exact ⟨_, .stop s fs n log id op (.ok a), rfl⟩
      | throw x => exact ⟨_, .stop s fs n log id op (.error x), rfl⟩
      | vis a k =>
        cases a with
        | signal sg => exact ⟨_, .emit s fs n log id op sg k, rfl⟩
        | effect e =>
          have hfree : ∀ a, e = .core (.lock a) → a ∉ s.held := by
            rintro a rfl
            have hmutex : mutex = none := (hguard.top _ rfl).1
            have hheld : s.held = mutex.toList := hguard.inv
            rw [hheld, hmutex]
            exact List.not_mem_nil
          rcases exists_performs s e hfree with ⟨r, s', hperforms⟩
          exact ⟨_, .effect s fs n log id op e k r s' hperforms, rfl⟩

/-- **The calls of a monitor return.**  However its signals are connected and however deeply
    the slots nest its calls, the thread of a monitor is never stuck inside a call; a run
    without end begins new calls again and again; and every reachable configuration has a
    continuation that begins no call and ends them all. -/
theorem monitor_calls_return (hc : (gpioMonitor poller).Reachable {} c) :
    (c.stack ≠ [] → ∃ c', (gpioMonitor poller).Continues c c') ∧
    (∀ f : Nat → (gpioMonitor poller).Config, f 0 = c →
      (∀ n, (gpioMonitor poller).Step (f n) (f (n + 1))) →
        ∀ n, ∃ m, n ≤ m ∧ (f m).next < (f (m + 1)).next) ∧
    ∃ c', Relation.ReflTransGen (gpioMonitor poller).Continues c c' ∧ c'.stack = [] :=
  ⟨monitor_goes_on hc, fun f _ hsteps => Dispatcher.begins f hsteps,
    hc.returns fun _ => monitor_goes_on⟩

/-! ## What the core sees -/

/-- The effects on the core library. -/
def coreTrace (tr : MonitorTrace) : Trace :=
  tr.filterMap fun
    | ⟨.effect (.core e), r⟩ => some ⟨e, r⟩
    | _ => none

omit [NativeApi] in
theorem coreTrace_core (tr : Trace) : coreTrace (tr.map coreEvent) = tr := by
  induction tr with
  | nil => rfl
  | cons ev tr ih => exact congrArg (ev :: ·) ih

omit [NativeApi] in
theorem coreTrace_signals (signals : List Signal) : coreTrace (signals.map signalEvent) = [] := by
  induction signals with
  | nil => rfl
  | cons signal signals ih => exact ih

omit [NativeApi] in
theorem coreTrace_append (tr tr' : MonitorTrace) :
    coreTrace (tr ++ tr') = coreTrace tr ++ coreTrace tr' := List.filterMap_append ..

omit [NativeApi] in
/-- Signals are nothing to the core. -/
theorem coreTrace_effectsOf (tr : MonitorTrace) : coreTrace (effectsOf tr) = coreTrace tr := by
  induction tr with
  | nil => rfl
  | cons ev tr ih =>
    rcases ev with ⟨e | sg, r⟩
    · cases e with
      | core e => exact congrArg (⟨e, r⟩ :: ·) ih
      | _ => exact ih
    · exact ih

/-- The public operation that a call of a monitor executes, if it executes one; `pollOnce`
    with the limit that it finds. -/
def MonitorOp.publicOp (poller : Option GpioPollerState) (maxEvents : Nat) :
    MonitorOp → Option PublicOp
  | .setFilter filter => some (.data (.poller poller (.setFilter filter)))
  | .clearFilter => some (.data (.poller poller .clearFilter))
  | .pollOnce => some (.data (.poller poller (.pollEvents maxEvents)))
  | .library op => some op
  | .start | .stop | .setInterval _ | .setMaxEventsPerPoll _ => none

/-- A complete execution of a public operation, or nothing. -/
def Executed : Option PublicOp → Trace → Prop
  | none, tr => tr = []
  | some op, tr => ∃ out, op.prog.Runs tr out

/-- The limit is the one that was read. -/
def LimitRead (tr : MonitorTrace) (maxEvents : Nat) : Prop :=
  ∀ limit : Nat, (⟨.effect .maxEventsPerPoll, limit⟩ : MonitorEvent) ∈ tr → limit = maxEvents

/-- An effect of the monitor that neither reads the limit nor asks the core. -/
def isOwn : Act MonitorEff Signal → Bool
  | .effect (.core _) => false
  | .effect .maxEventsPerPoll => false
  | _ => true

omit [NativeApi] in
/-- A run without effects on the core. -/
theorem executed_of_only {α : Type} {p : MonitorM α} {tr : MonitorTrace} {out : Except Exn α}
    (honly : p.Only fun a => isOwn a = true) (hruns : p.Runs tr out) :
    LimitRead tr 0 ∧ coreTrace tr = [] := by
  constructor
  · intro limit hmem
    cases honly.runs hruns _ hmem
  · apply List.filterMap_eq_nil_iff.mpr
    intro ev hev
    have hown := honly.runs hruns ev hev
    rcases ev with ⟨e | sg, r⟩
    · cases e with
      | core e => cases hown
      | _ => rfl
    · rfl

/-- The operations on the timer and the limit leave the core alone. -/
theorem MonitorOp.only_own {op : MonitorOp} (hop : op.publicOp poller 0 = none) :
    (op.prog poller).Only fun a => isOwn a = true := by
  cases op with
  | start =>
    refine ⟨rfl, fun active => ?_⟩
    cases active with
    | true => trivial
    | false => exact ⟨rfl, fun _ => ⟨rfl, fun _ => trivial⟩⟩
  | stop =>
    refine ⟨rfl, fun active => ?_⟩
    cases active with
    | true => exact ⟨rfl, fun _ => ⟨rfl, fun _ => trivial⟩⟩
    | false => trivial
  | setInterval interval =>
    show (GpioMonitor.setInterval interval).Only _
    unfold GpioMonitor.setInterval
    split
    · trivial
    · split
      · trivial
      · exact ⟨rfl, fun _ => trivial⟩
  | setMaxEventsPerPoll maxEvents => exact ⟨rfl, fun _ => trivial⟩
  | setFilter | clearFilter | pollOnce | library => cases hop

omit [NativeApi] in
/-- The core does not read the limit. -/
theorem limitRead_core (tr : Trace) (maxEvents : Nat) : LimitRead (tr.map coreEvent) maxEvents := by
  intro limit hmem
  rcases List.mem_map.mp hmem with ⟨ev, -, hev⟩
  cases hev

omit [NativeApi] in
theorem limitRead_polled (maxEvents : Nat) (tr : Trace) (poll : Except Exn (List GpioEvent)) :
    LimitRead (polled maxEvents tr poll) maxEvents := by
  intro limit hmem
  rcases List.mem_append.mp hmem with hbefore | hsignal
  · rcases List.mem_cons.mp hbefore with hread | hcore
    · cases hread
      rfl
    · exact limitRead_core tr maxEvents limit hcore
  · rcases List.mem_map.mp hsignal with ⟨signal, -, hev⟩
    cases hev

omit [NativeApi] in
/-- A call of the core asks for what it executes, and reads no limit. -/
theorem executed_core {α : Type} {p : M α} {tr : MonitorTrace} {out : Except Exn α}
    (hruns : (core p).Runs tr out) : LimitRead tr 0 ∧ p.Runs (coreTrace tr) out := by
  rcases runs_core.mp hruns with ⟨tr, hcore, rfl⟩
  rw [coreTrace_core]
  exact ⟨limitRead_core tr 0, hcore⟩

/-- **One call**: what it asks of the core is an execution of its public operation, with the
    limit that it reads. -/
theorem MonitorOp.executed {op : MonitorOp} {tr : MonitorTrace} {out : Except Exn Unit}
    (hruns : (op.prog poller).Runs tr out) :
    ∃ maxEvents, LimitRead tr maxEvents ∧
      Executed (op.publicOp poller maxEvents) (coreTrace tr) := by
  cases op with
  | start | stop | setInterval | setMaxEventsPerPoll =>
    exact ⟨0, executed_of_only (MonitorOp.only_own rfl) hruns⟩
  | setFilter filter =>
    rcases executed_core (p := GpioPoller.setFilter poller filter) hruns with ⟨hlimit, hcore⟩
    exact ⟨0, hlimit, out, hcore⟩
  | clearFilter =>
    rcases executed_core (p := GpioPoller.clearFilter poller) hruns with ⟨hlimit, hcore⟩
    exact ⟨0, hlimit, out, hcore⟩
  | library op =>
    rcases executed_core (p := op.prog.void) hruns with ⟨hlimit, hcore⟩
    rcases Prog.runs_void hcore with ⟨answer, hanswer, -⟩
    exact ⟨0, hlimit, answer, hanswer⟩
  | pollOnce =>
    rcases runs_pollOnce hruns with ⟨-, maxEvents, tr, poll, hpoll, rfl⟩
    refine ⟨maxEvents, limitRead_polled maxEvents tr poll, poll, ?_⟩
    rw [polled, coreTrace_append, coreTrace_signals, List.append_nil]
    show (GpioPoller.pollEvents poller maxEvents).Runs (coreTrace (tr.map coreEvent)) poll
    rw [coreTrace_core]
    exact hpoll

/-- The call `i` executes its public operation with the limit that it has read: its effects on
    the core so far are the beginning of those of the complete execution `tr`. -/
def AskedBy (poller : Option GpioPollerState) (log : List (Dispatcher.Entry (gpioMonitor poller)))
    (i : Nat) (tr : Trace) : Prop :=
  ∃ op maxEvents, .called i op ∈ log ∧ LimitRead (Dispatcher.history i log) maxEvents ∧
    Executed (op.publicOp poller maxEvents) tr ∧ coreTrace (Dispatcher.history i log) <+: tr

/-- **A monitor's thread is a client of the core.**  Whatever the slots call, the effects of
    the thread on the core library are at any time the beginning of complete executions of
    public operations, one after the other: those of its calls, in the order in which they
    began, and never one inside of another.  Whenever a slot may run they are all of them. -/
theorem monitors_are_clients (hc : (gpioMonitor poller).Reachable {} c) :
    ∃ asked : Fin c.next → Trace, (∀ i : Fin c.next, AskedBy poller c.log i (asked i)) ∧
      coreTrace (Dispatcher.events c.log) <+: (List.ofFn asked).flatten ∧
      (c.Open → coreTrace (Dispatcher.events c.log) = (List.ofFn asked).flatten) := by
  rcases hc.effects_serial MonitorEff.reply_nonempty (MonitorOp.prompt poller) with
    ⟨turn, htells, hprefix, hopen⟩
  have hasked : (List.ofFn fun i => coreTrace (turn i).did).flatten =
      coreTrace ((List.ofFn turn).flatMap fun turn => effectsOf turn.did) := by
    rw [coreTrace, List.filterMap_flatMap, List.flatMap_def, List.map_ofFn]
    congr 2
    funext i
    exact (coreTrace_effectsOf _).symm
  refine ⟨fun i => coreTrace (turn i).did, ?_, ?_, ?_⟩
  · intro i
    rcases htells i with ⟨hcalled, hbegun, hruns⟩
    rcases MonitorOp.executed hruns with ⟨maxEvents, hlimit, hexecuted⟩
    exact ⟨_, maxEvents, hcalled, fun limit hmem => hlimit limit (hbegun.subset hmem), hexecuted,
      hbegun.filterMap _⟩
  · rw [hasked, ← coreTrace_effectsOf]
    exact hprefix.filterMap _
  · intro h
    rw [hasked, ← coreTrace_effectsOf, hopen h]

end

section

attribute [local instance] NativeApi.reference

/-- A poll has found an edge, and a slot of its event clears the filter. -/
theorem clearing_inside_poll : ∃ c : (gpioMonitor (some ⟨3, some ⟨0, some 7⟩⟩)).Config,
    (gpioMonitor (some ⟨3, some ⟨0, some 7⟩⟩)).Reachable {} c ∧ c.next = 2 ∧ c.stack ≠ [] ∧
      (coreTrace (Dispatcher.events c.log)).length = 5 := by
  have hinit : (gpioMonitor (some ⟨3, some ⟨0, some 7⟩⟩)).Reachable {} ⟨{}, [], 0, []⟩ := .init
  have hcalled := hinit.call .pollOnce fun _ hf => by cases hf
  have hread := hcalled.effect 4 ⟨rfl, rfl⟩
  have hallocated := hread.effect true ⟨trivial, rfl⟩
  have hlocked := hallocated.effect () ⟨List.not_mem_nil, rfl⟩
  have hpolled := hlocked.effect ⟨1, fun _ => ⟨0, 1, ⟨0⟩, ⟨0⟩⟩, by decide⟩ ⟨trivial, rfl⟩
  have hunlocked := hpolled.effect () rfl
  have hannounced := hunlocked.emit
  have hclear := hannounced.call .clearFilter fun _ hf => by cases hf; rfl
  have hrelocked := hclear.effect () ⟨List.not_mem_nil, rfl⟩
  exact ⟨_, hrelocked, rfl, List.cons_ne_nil _ _, rfl⟩

theorem monitor_calls_return_clearing :
    ∃ c c' : (gpioMonitor (some ⟨3, some ⟨0, some 7⟩⟩)).Config,
      (gpioMonitor (some ⟨3, some ⟨0, some 7⟩⟩)).Reachable {} c ∧ c.stack ≠ [] ∧
        Relation.ReflTransGen
          (gpioMonitor (some ⟨3, some ⟨0, some 7⟩⟩)).Continues c c' ∧ c'.stack = [] := by
  rcases clearing_inside_poll with ⟨c, hc, -, hstack, -⟩
  rcases (monitor_calls_return hc).2.2 with ⟨c', hsteps, hempty⟩
  exact ⟨c, c', hc, hstack, hsteps, hempty⟩

theorem monitors_are_clients_clearing :
    ∃ (c : (gpioMonitor (some ⟨3, some ⟨0, some 7⟩⟩)).Config) (asked : Fin c.next → Trace),
      c.next = 2 ∧ (∀ i : Fin c.next, AskedBy (some ⟨3, some ⟨0, some 7⟩⟩) c.log i (asked i)) ∧
        coreTrace (Dispatcher.events c.log) ≠ [] ∧
          coreTrace (Dispatcher.events c.log) <+: (List.ofFn asked).flatten := by
  rcases clearing_inside_poll with ⟨c, hc, hnext, -, hlength⟩
  rcases monitors_are_clients hc with ⟨asked, hasked, hprefix, -⟩
  refine ⟨c, asked, hnext, hasked, ?_, hprefix⟩
  intro hnil
  rw [hnil] at hlength
  cases hlength

end

end EasyMcp2221
