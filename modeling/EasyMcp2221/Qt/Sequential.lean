import EasyMcp2221.Decoding
import EasyMcp2221.Effect.Serial
import EasyMcp2221.Qt.Reporting
import EasyMcp2221.System.Races

/-!
# A monitor, one call after the other

What the user of a `GpioMonitor` sees is a watch with a limit and a timer.  Slots may call
the monitor again from inside of its signals, and still its runs are runs of such a monitor,
one call after the other (`monitors_refine`).
-/

namespace EasyMcp2221

open Effect

/-! ## What a monitor is -/

/-- What a `GpioMonitor` stands for. -/
structure Monitor (σ : Type) where
  watch : Watch σ
  maxEvents : Nat := 4
  active : Bool := false
  interval : Int := 20

/-- A call as its user sees it: the signals that it emits, and how it ends. -/
structure MonitorCall where
  op : MonitorOp
  signals : List Signal
  out : Except Exn Unit

/-- The interval is one that `setInterval` accepts. -/
def IntervalOk (interval : Int) : Prop := 0 < interval ∧ interval ≤ 2 ^ 31 - 1

section

variable [NativeApi] {σ ω : Type}

/-- One call. -/
def Monitor.Step (N : NativePoller σ ω) (s : Monitor σ) (call : MonitorCall) (s' : Monitor σ) :
    Prop :=
  match call.op with
  | .start =>
    call.signals = (if s.active then [] else [.started]) ∧ call.out = .ok () ∧
      s' = { s with active := true }
  | .stop =>
    call.signals = (if s.active then [.stopped] else []) ∧ call.out = .ok () ∧
      s' = { s with active := false }
  | .setInterval interval =>
    call.signals = [] ∧
      (IntervalOk interval → call.out = .ok () ∧ s' = { s with interval }) ∧
      (¬ IntervalOk interval → (∃ what, call.out = .error (.invalidArgument what)) ∧ s' = s)
  | .setMaxEventsPerPoll maxEvents =>
    call.signals = [] ∧ call.out = .ok () ∧ s' = { s with maxEvents }
  | .setFilter filter =>
    call.signals = [] ∧ call.out = .ok () ∧ s' = { s with watch := { s.watch with filter } }
  | .clearFilter =>
    call.signals = [] ∧ call.out = .ok () ∧ s' = { s with watch := { s.watch with filter := {} } }
  | .pollOnce =>
    call.out = .ok () ∧ ∃ x poll watch',
      s.watch.Performs N x (.pollEvents s.maxEvents) poll watch' ∧
        call.signals = reported poll ∧ s' = { s with watch := watch' }
  | .library _ => call.signals = [] ∧ s' = s

/-! ## The monitor and its poller -/

/-- The native structs, as one event leaves them. -/
def NativePoller.Serves (N : NativePoller σ ω) (memory : Addr → PollMemory σ)
    (ev : Prog.Event Eff.Reply) (memory' : Addr → PollMemory σ) : Prop :=
  ∃ x, (N.serves x).rely memory ev.1 ev.2 ∧ memory' = (N.serves x).next memory ev.1 ev.2

/-- The members of the monitor, and the native structs. -/
structure ServedState (σ : Type) where
  monitor : MonitorState := {}
  memory : Addr → PollMemory σ

/-- A monitor with the poller of the C library. -/
def servedMonitor (N : NativePoller σ ω) (poller : GpioPollerState) :
    Dispatcher MonitorEff MonitorEff.Reply Signal Exn MonitorOp (ServedState σ) where
  prog := MonitorOp.prog (some poller)
  effect s e r s' := s.monitor.Performs e r s'.monitor ∧
    match e, r with
    | .core e, r => N.Serves s.memory ⟨e, r⟩ s'.memory
    | _, _ => s'.memory = s.memory

/-! ## The operations are prompt -/

omit [NativeApi] in
theorem mute_core {α : Type} (p : M α) : (core p).Mute := by
  induction p with
  | ret a => trivial
  | throw x => trivial
  | vis e k ih => exact ⟨rfl, ih⟩

omit [NativeApi] in
theorem emits_announce (events : List GpioEvent) : (GpioMonitor.announce events).Emits := by
  induction events with
  | nil => trivial
  | cons event events ih => exact ⟨rfl, fun _ => ⟨rfl, fun _ => ih⟩⟩

omit [NativeApi] in
theorem emits_handleError (error : Exn) : (GpioMonitor.handleError error).Emits := by
  cases error with
  | error | logicError | invalidArgument | badAlloc => exact ⟨rfl, fun _ => trivial⟩

/-- A monitor does what there is to do before it tells anybody. -/
theorem MonitorOp.prompt (poller : Option GpioPollerState) (op : MonitorOp) :
    (op.prog poller).Prompt := by
  cases op with
  | start =>
    intro active
    cases active with
    | true => trivial
    | false => exact fun _ => trivial
  | stop =>
    intro active
    cases active with
    | true => exact fun _ => trivial
    | false => trivial
  | setInterval interval =>
    show (GpioMonitor.setInterval interval).Prompt
    unfold GpioMonitor.setInterval
    split
    · trivial
    · split
      · trivial
      · exact fun _ => trivial
  | setMaxEventsPerPoll => exact fun _ => trivial
  | setFilter => exact (mute_core _).prompt
  | clearFilter => exact (mute_core _).prompt
  | pollOnce =>
    apply Prog.Prompt.handle _ emits_handleError
    intro maxEvents
    exact (mute_core _).bind_prompt fun events => (emits_announce events).prompt
  | library => exact (mute_core _).prompt

/-! ## One call -/

section Calls

variable {N : NativePoller σ ω} {memory memory' : Addr → PollMemory σ} {tr : Trace}
  {d : DeviceState} {a : Addr}

theorem runs_setFilter {filter : GpioEventFilter} {out : Except Exn Unit}
    (h : (GpioPoller.setFilter (some ⟨a, some d⟩) filter).Runs tr out) :
    tr = [⟨.lock d.addr, ()⟩,
      ⟨.proc (.gpioPollSetFilterMask a (GpioPoller.filterMask filter)), ()⟩,
      ⟨.unlock d.addr, ()⟩] := by
  cases h with
  | vis _ h =>
    cases h with
    | vis _ h =>
      cases h with
      | vis _ h =>
        rw [(Prog.runs_ret.mp h).1]

/-- A trace of `pollEvents` with an occasion for each of its events is a trace with one
    occasion for all of them. -/
theorem occasion_pollEvents {m : Nat} {out : Except Exn (List GpioEvent)}
    (h : (GpioPoller.pollEvents (some ⟨a, some d⟩) m).Runs tr out)
    (hserves : Run N.Serves memory tr memory') :
    ∃ x, (N.serves x).Relied memory tr ∧ memory' = (N.serves x).after memory tr := by
  rcases (pollEvents_runs a d m).mp h with ⟨-, rfl, -⟩ | ⟨reply, rfl, -⟩
  · rcases hserves with _ | ⟨⟨x, hrely, rfl⟩, hrest⟩
    cases hrest
    exact ⟨x, ⟨hrely, trivial⟩, rfl⟩
  · unfold resultMemory vectorMemory at hserves ⊢
    split at hserves
    · rename_i hzero
      rcases hserves with _ | ⟨⟨_, -, rfl⟩, _ | ⟨⟨x, hrely, rfl⟩, _ | ⟨⟨_, -, rfl⟩, hrest⟩⟩⟩
      cases hrest
      rw [if_pos hzero]
      exact ⟨x, ⟨trivial, hrely, trivial, trivial⟩, rfl⟩
    · rename_i hsize
      rcases hserves with _ | ⟨⟨_, -, rfl⟩, _ | ⟨⟨_, -, rfl⟩, _ | ⟨⟨x, hrely, rfl⟩,
        _ | ⟨⟨_, -, rfl⟩, hrest⟩⟩⟩⟩
      cases hrest
      rw [if_neg hsize]
      -- The allocation has succeeded, and what the poll reads does not depend on it.
      exact ⟨⟨true, x.poll⟩, ⟨rfl, trivial, hrely, trivial, trivial⟩, rfl⟩

theorem occasion_setFilter {filter : GpioEventFilter} {out : Except Exn Unit}
    (h : (GpioPoller.setFilter (some ⟨a, some d⟩) filter).Runs tr out)
    (hserves : Run N.Serves memory tr memory') :
    ∃ x, (N.serves x).Relied memory tr ∧ memory' = (N.serves x).after memory tr := by
  rw [runs_setFilter h] at hserves ⊢
  rcases hserves with _ | ⟨⟨_, -, rfl⟩, _ | ⟨⟨x, -, rfl⟩, _ | ⟨⟨_, -, rfl⟩, hrest⟩⟩⟩
  cases hrest
  exact ⟨x, ⟨trivial, trivial, trivial, trivial⟩, rfl⟩

/-- An event on another struct. -/
theorem NativePoller.Serves.other {ev : Prog.Event Eff.Reply} (h : N.Serves memory ev memory')
    (hev : ev.1.struct? ≠ some a) : memory' a = memory a := by
  rcases h with ⟨x, -, rfl⟩
  rcases ev with ⟨e, r⟩
  cases e with
  | call c =>
    cases c with
    | gpioPoll dev b =>
      exact Function.update_of_ne (fun heq => hev (congrArg some heq.symm)) ..
    | gpioPollEvents dev b hasBuffer capacity =>
      exact Function.update_of_ne (fun heq => hev (congrArg some heq.symm)) ..
    | _ => rfl
  | proc p =>
    cases p with
    | gpioPollSetFilterMask b mask =>
      exact Function.update_of_ne (fun heq => hev (congrArg some heq.symm)) ..
    | _ => rfl
  | _ => rfl

theorem serves_other (hserves : Run N.Serves memory tr memory')
    (hother : ∀ ev ∈ tr, ev.1.struct? ≠ some a) : memory' a = memory a := by
  induction hserves with
  | nil => rfl
  | cons hstep _ ih =>
    rw [ih fun ev hev => hother ev (.tail _ hev)]
    exact hstep.other (hother _ (.head _))

/-! ### The members -/

/-- The members of a monitor, and the mutexes that its thread holds. -/
def Monitor.members (monitor : Monitor σ) (held : List Addr) : MonitorState where
  maxEventsPerPoll := monitor.maxEvents
  active := monitor.active
  interval := monitor.interval
  held := held

/-- The state stands for the monitor. -/
structure ServedState.Shows (s : ServedState σ) (a : Addr) (monitor : Monitor σ) : Prop where
  memory : s.memory a = monitor.watch.memory
  members : ∃ held, s.monitor = monitor.members held

/-- A core effect changes no member but the mutexes. -/
theorem performs_core {s s' : MonitorState} {e : Eff} {r : e.Reply}
    (h : s.Performs (.core e) r s') : s' = { s with held := s'.held } := by
  cases e with
  | lock b =>
    rw [h.2]
  | unlock b =>
    have h : s' = { s with held := s.held.erase b } := h
    rw [h]
  | alloc | call | proc | own =>
    rw [h.2]

theorem does_core {poller : GpioPollerState} {s s' : ServedState σ} {tr : Trace}
    (h : Run (servedMonitor N poller).does s (tr.map coreEvent) s') :
    s'.monitor = { s.monitor with held := s'.monitor.held } ∧
      Run N.Serves s.memory tr s'.memory := by
  induction tr generalizing s with
  | nil =>
    cases h
    exact ⟨rfl, .nil _⟩
  | cons ev tr ih =>
    rcases h with _ | ⟨⟨hperforms, hserves⟩, hrest⟩
    rcases ih hrest with ⟨hmembers, hrun⟩
    refine ⟨?_, .cons hserves hrun⟩
    rw [hmembers, performs_core hperforms]

variable {poller : GpioPollerState} {monitor : Monitor σ} {s s' : ServedState σ}

theorem ServedState.Shows.keep (hs : s.Shows a monitor) {held : List Addr}
    (hmonitor : s'.monitor = { s.monitor with held }) (hmemory : s'.memory a = s.memory a) :
    s'.Shows a monitor := by
  rcases hs.members with ⟨held', hmembers⟩
  refine ⟨hmemory.trans hs.memory, held, ?_⟩
  rw [hmonitor, hmembers]
  rfl

theorem ServedState.Shows.active (hs : s.Shows a monitor) : s.monitor.active = monitor.active := by
  rcases hs.members with ⟨held, hmembers⟩
  rw [hmembers]
  rfl

theorem ServedState.Shows.maxEvents (hs : s.Shows a monitor) :
    s.monitor.maxEventsPerPoll = monitor.maxEvents := by
  rcases hs.members with ⟨held, hmembers⟩
  rw [hmembers]
  rfl

theorem ServedState.Shows.switch (hs : s.Shows a monitor) {active : Bool}
    (hmonitor : s'.monitor = { s.monitor with active }) (hmemory : s'.memory = s.memory) :
    s'.Shows a { monitor with active } := by
  rcases hs.members with ⟨held, hmembers⟩
  refine ⟨(congrFun hmemory a).trans hs.memory, held, ?_⟩
  rw [hmonitor, hmembers]
  rfl

/-- A call, and what it does to the monitor that the state stands for. -/
def ServedState.Does (N : NativePoller σ ω) (a : Addr) (monitor : Monitor σ) (op : MonitorOp)
    (did : MonitorTrace) (out : Except Exn Unit) (s' : ServedState σ) : Prop :=
  ∃ monitor', monitor.Step N ⟨op, signalsOf did, out⟩ monitor' ∧ s'.Shows a monitor'

variable {did : MonitorTrace} {out : Except Exn Unit}

theorem start_does (hs : s.Shows a monitor) (hruns : GpioMonitor.start.Runs did out)
    (hrun : Run (servedMonitor N poller).does s did s') :
    ServedState.Does N a monitor .start did out s' := by
  cases hruns with
  | vis active hrest =>
    rcases hrun with _ | ⟨⟨⟨hactive, hread⟩, hmemory⟩, hrun⟩
    have hwas : monitor.active = active := hs.active.symm.trans hactive.symm
    replace hs := hs.keep hread (congrFun hmemory a)
    cases active with
    | true =>
      rcases Prog.runs_ret.mp hrest with ⟨rfl, rfl⟩
      cases hrun
      refine ⟨monitor, ⟨?_, rfl, ?_⟩, hs⟩
      · simp [hwas, signalsOf]
      · rw [← hwas]
    | false =>
      cases hrest with
      | vis _ hrest =>
        rcases hrun with _ | ⟨⟨hstarted, hmemory⟩, hrun⟩
        rcases runs_emit.mp hrest with ⟨rfl, rfl⟩
        rcases hrun with _ | ⟨rfl, hrun⟩
        cases hrun
        refine ⟨{ monitor with active := true }, ⟨?_, rfl, rfl⟩, hs.switch hstarted hmemory⟩
        simp [hwas, signalsOf, signalEvent]

theorem stop_does (hs : s.Shows a monitor) (hruns : GpioMonitor.stop.Runs did out)
    (hrun : Run (servedMonitor N poller).does s did s') :
    ServedState.Does N a monitor .stop did out s' := by
  cases hruns with
  | vis active hrest =>
    rcases hrun with _ | ⟨⟨⟨hactive, hread⟩, hmemory⟩, hrun⟩
    have hwas : monitor.active = active := hs.active.symm.trans hactive.symm
    replace hs := hs.keep hread (congrFun hmemory a)
    cases active with
    | false =>
      rcases Prog.runs_ret.mp hrest with ⟨rfl, rfl⟩
      cases hrun
      refine ⟨monitor, ⟨?_, rfl, ?_⟩, hs⟩
      · simp [hwas, signalsOf]
      · rw [← hwas]
    | true =>
      cases hrest with
      | vis _ hrest =>
        rcases hrun with _ | ⟨⟨hstopped, hmemory⟩, hrun⟩
        rcases runs_emit.mp hrest with ⟨rfl, rfl⟩
        rcases hrun with _ | ⟨rfl, hrun⟩
        cases hrun
        refine ⟨{ monitor with active := false }, ⟨?_, rfl, rfl⟩, hs.switch hstopped hmemory⟩
        simp [hwas, signalsOf, signalEvent]

/-- `setInterval` accepts an interval or says why not. -/
theorem setInterval_does (hs : s.Shows a monitor) {interval : Int}
    (hruns : (GpioMonitor.setInterval interval).Runs did out)
    (hrun : Run (servedMonitor N poller).does s did s') :
    ServedState.Does N a monitor (.setInterval interval) did out s' := by
  unfold GpioMonitor.setInterval GpioMonitor.intMax at hruns
  by_cases hok : IntervalOk interval
  · rw [if_neg (not_le.mpr hok.1), if_neg (not_lt.mpr hok.2)] at hruns
    rcases runs_perform.mp hruns with ⟨_, rfl, rfl⟩
    rcases hrun with _ | ⟨⟨hset, hmemory⟩, hrun⟩
    cases hrun
    rcases hs.members with ⟨held, hmembers⟩
    refine ⟨{ monitor with interval }, ⟨rfl, fun _ => ⟨rfl, rfl⟩, fun hno => absurd hok hno⟩,
      (congrFun hmemory a).trans hs.memory, held, ?_⟩
    have hset : s'.monitor = { s.monitor with interval } := hset
    rw [hset, hmembers]
    rfl
  · have hrefused : ∃ what, did = [] ∧ out = .error (.invalidArgument what) := by
      split_ifs at hruns with hlow hhigh
      · exact ⟨_, Prog.runs_throw.mp hruns⟩
      · exact ⟨_, Prog.runs_throw.mp hruns⟩
      · exact absurd ⟨not_le.mp hlow, not_lt.mp hhigh⟩ hok
    rcases hrefused with ⟨what, rfl, rfl⟩
    cases hrun
    exact ⟨monitor, ⟨rfl, fun h => absurd h hok, fun _ => ⟨⟨what, rfl⟩, rfl⟩⟩, hs⟩

theorem setMaxEventsPerPoll_does (hs : s.Shows a monitor) {maxEvents : Nat}
    (hruns : (GpioMonitor.setMaxEventsPerPoll maxEvents).Runs did out)
    (hrun : Run (servedMonitor N poller).does s did s') :
    ServedState.Does N a monitor (.setMaxEventsPerPoll maxEvents) did out s' := by
  rcases runs_perform.mp hruns with ⟨_, rfl, rfl⟩
  rcases hrun with _ | ⟨⟨hset, hmemory⟩, hrun⟩
  cases hrun
  rcases hs.members with ⟨held, hmembers⟩
  refine ⟨{ monitor with maxEvents }, ⟨rfl, rfl, rfl⟩,
    (congrFun hmemory a).trans hs.memory, held, ?_⟩
  have hset : s'.monitor = { s.monitor with maxEventsPerPoll := maxEvents } := hset
  rw [hset, hmembers]
  rfl

theorem ServedState.Shows.rewatch (hs : s.Shows a monitor) {held : List Addr} {watch : Watch σ}
    (hmonitor : s'.monitor = { s.monitor with held }) (hmemory : s'.memory a = watch.memory) :
    s'.Shows a { monitor with watch } := by
  rcases hs.members with ⟨held', hmembers⟩
  refine ⟨hmemory, held, ?_⟩
  rw [hmonitor, hmembers]
  rfl

/-- An operation of the poller does to the struct what the watch does. -/
theorem poller_performs {index : Fin 4 → GpioEdge → Nat} (hbits : MaskBits index)
    (hs : s.Shows a monitor) {op : PollerOp} {out : Except Exn op.Ret} {x : Occasion σ ω}
    (hruns : (op.prog (some ⟨a, some d⟩)).Runs tr out) (hrelied : (N.serves x).Relied s.memory tr)
    (hafter : memory' = (N.serves x).after s.memory tr) :
    ∃ watch', monitor.watch.Performs N x op out watch' ∧ memory' a = watch'.memory := by
  rcases Prog.wp_runs (op.prog_serves hbits d hs.memory) hruns hrelied with
    ⟨-, watch', hperforms, hmemory⟩
  refine ⟨watch', hperforms, ?_⟩
  rw [hafter, hmemory]
  exact Function.update_self ..

theorem setFilter_does {index : Fin 4 → GpioEdge → Nat} (hbits : MaskBits index)
    (hs : s.Shows a monitor) {filter : GpioEventFilter}
    (hruns : (GpioMonitor.setFilter (some ⟨a, some d⟩) filter).Runs did out)
    (hrun : Run (servedMonitor N poller).does s did s') :
    signalsOf did = [] ∧ out = .ok () ∧
      s'.Shows a { monitor with watch := { monitor.watch with filter } } := by
  rcases runs_core.mp hruns with ⟨tr, hpoller, rfl⟩
  rcases does_core hrun with ⟨hmonitor, hserves⟩
  rcases occasion_setFilter hpoller hserves with ⟨x, hrelied, hafter⟩
  have hop : (PollerOp.prog (some ⟨a, some d⟩) (.setFilter filter)).Runs tr out := hpoller
  rcases poller_performs hbits hs hop hrelied hafter with ⟨watch', ⟨hout, rfl⟩, hmemory⟩
  exact ⟨signalsOf_core tr, hout, hs.rewatch hmonitor hmemory⟩

/-- Signals change nothing. -/
theorem does_signals {signals : List Signal}
    (h : Run (servedMonitor N poller).does s (signals.map signalEvent) s') : s' = s := by
  induction signals with
  | nil =>
    cases h
    rfl
  | cons signal signals ih =>
    rcases h with _ | ⟨rfl, hrest⟩
    exact ih hrest

theorem pollOnce_does {index : Fin 4 → GpioEdge → Nat} (hbits : MaskBits index)
    (hs : s.Shows a monitor) (hruns : (GpioMonitor.pollOnce (some ⟨a, some d⟩)).Runs did out)
    (hrun : Run (servedMonitor N poller).does s did s') :
    ServedState.Does N a monitor .pollOnce did out s' := by
  rcases runs_pollOnce hruns with ⟨rfl, maxEvents, tr, poll, hpoll, rfl⟩
  rcases hrun.split with ⟨s₂, hbefore, hsignals⟩
  rcases does_signals hsignals with rfl
  rcases hbefore with _ | ⟨⟨⟨hmax, hread⟩, hmemory⟩, hcore⟩
  rcases does_core hcore with ⟨hmonitor, hserves⟩
  rcases occasion_pollEvents hpoll hserves with ⟨x, hrelied, hafter⟩
  have hop : (PollerOp.prog (some ⟨a, some d⟩) (.pollEvents maxEvents)).Runs tr poll := hpoll
  replace hs := hs.keep hread (congrFun hmemory a)
  rcases poller_performs hbits hs hop hrelied hafter with ⟨watch', hperforms, hwatch⟩
  have hlimit : maxEvents = monitor.maxEvents := by
    rw [hmax, ← hs.maxEvents, hread]
  subst hlimit
  exact ⟨{ monitor with watch := watch' },
    ⟨rfl, x, poll, watch', hperforms, signalsOf_polled monitor.maxEvents tr poll, rfl⟩,
    hs.rewatch hmonitor hwatch⟩

/-- An operation on something else. -/
theorem library_does (hs : s.Shows a monitor) {op : PublicOp}
    (hruns : (MonitorOp.prog (some poller) (.library op)).Runs did out)
    (hother : ∀ ev : Prog.Event Eff.Reply, coreEvent ev ∈ did → ev.1.struct? ≠ some a)
    (hrun : Run (servedMonitor N poller).does s did s') :
    ServedState.Does N a monitor (.library op) did out s' := by
  rcases runs_core.mp hruns with ⟨tr, -, rfl⟩
  rcases does_core hrun with ⟨hmonitor, hserves⟩
  have hmemory : s'.memory a = s.memory a :=
    serves_other hserves fun ev hev => hother ev (List.mem_map_of_mem hev)
  exact ⟨monitor, ⟨signalsOf_core tr, rfl⟩, hs.keep hmonitor hmemory⟩

/-- **One call**: what a call of the code does, a call of the monitor does. -/
theorem call_does {index : Fin 4 → GpioEdge → Nat} (hbits : MaskBits index)
    (hs : s.Shows a monitor) {turn : (servedMonitor N ⟨a, some d⟩).Turn}
    (hother : ∀ op, turn.op = .library op →
      ∀ ev : Prog.Event Eff.Reply, coreEvent ev ∈ turn.did → ev.1.struct? ≠ some a)
    (halone : (servedMonitor N ⟨a, some d⟩).alone s turn s') :
    ServedState.Does N a monitor turn.op turn.did turn.out s' := by
  rcases turn with ⟨op, did, out⟩
  rcases halone with ⟨hruns, hrun⟩
  cases op with
  | start => exact start_does hs hruns hrun
  | stop => exact stop_does hs hruns hrun
  | setInterval interval => exact setInterval_does hs hruns hrun
  | setMaxEventsPerPoll maxEvents => exact setMaxEventsPerPoll_does hs hruns hrun
  | setFilter filter =>
    rcases setFilter_does hbits hs hruns hrun with ⟨hsignals, hout, hshows⟩
    exact ⟨_, ⟨hsignals, hout, rfl⟩, hshows⟩
  | clearFilter =>
    rcases setFilter_does hbits hs hruns hrun with ⟨hsignals, hout, hshows⟩
    exact ⟨_, ⟨hsignals, hout, rfl⟩, hshows⟩
  | pollOnce => exact pollOnce_does hbits hs hruns hrun
  | library op => exact library_does hs hruns (hother op rfl) hrun

end Calls

/-! ## Runs -/

/-- What the user sees of a call. -/
def asCall {N : NativePoller σ ω} {poller : GpioPollerState}
    (turn : (servedMonitor N poller).Turn) : MonitorCall where
  op := turn.op
  signals := signalsOf turn.did
  out := turn.out

/-- The call is the call `i` of the monitor, as far as that has come. -/
structure MonitorCall.Tells {N : NativePoller σ ω} {poller : GpioPollerState} (call : MonitorCall)
    (i : Nat) (log : List (Dispatcher.Entry (servedMonitor N poller))) : Prop where
  called : .called i call.op ∈ log
  begun : signalsOf (Dispatcher.history i log) <+: call.signals
  ended : ∀ out, .ended i out ∈ log →
    signalsOf (Dispatcher.history i log) = call.signals ∧ out = call.out

/-- No slot works on the struct of the monitor's own poller through the library. -/
def PollerOwned {N : NativePoller σ ω} {poller : GpioPollerState} (a : Addr)
    (log : List (Dispatcher.Entry (servedMonitor N poller))) : Prop :=
  ∀ i op, .called i (.library op) ∈ log → ∀ ev : Prog.Event Eff.Reply,
    coreEvent ev ∈ Dispatcher.history i log → ev.1.struct? ≠ some a

/-- **Monitors refine watches with a limit and a timer.**  Slots may call the operations of the
    monitor, and any operation of the library, from inside of its signals, to any depth.
    Whenever they may, the monitor is in the state in which the calls would have left it one
    after the other, in the order in which they began; and each call has emitted the signals
    and come to the end that it would have come to then, or is about to. -/
theorem monitors_refine {index : Fin 4 → GpioEdge → Nat} (hbits : MaskBits index)
    {N : NativePoller σ ω} {a : Addr} {d : DeviceState} {memory : Addr → PollMemory σ}
    {watch : Watch σ} (hmemory : memory a = watch.memory)
    {c : (servedMonitor N ⟨a, some d⟩).Config}
    (hc : (servedMonitor N ⟨a, some d⟩).Reachable { memory } c) (hopen : c.Open)
    (howned : PollerOwned a c.log) :
    ∃ (call : Fin c.next → MonitorCall) (monitor : Monitor σ),
      Run (Monitor.Step N) { watch } (List.ofFn call) monitor ∧ c.state.Shows a monitor ∧
        ∀ i, (call i).Tells i c.log := by
  rcases hc.serial (MonitorOp.prompt _) hopen with ⟨turn, htells, hrun⟩
  have hstart : ({ memory } : ServedState σ).Shows a { watch } := ⟨hmemory, [], rfl⟩
  have hother : ∀ i op, (turn i).op = .library op → ∀ ev : Prog.Event Eff.Reply,
      coreEvent ev ∈ (turn i).did → ev.1.struct? ≠ some a := by
    intro i op hop ev hev
    have heffect : coreEvent ev ∈ effectsOf (turn i).did := List.mem_filter.mpr ⟨hev, rfl⟩
    rw [(htells i).effects] at heffect
    exact howned i op (hop ▸ (htells i).called) ev (List.mem_filter.mp heffect).1
  have hsimulate : ∀ (s : ServedState σ) monitor turn' s₁, turn' ∈ List.ofFn turn →
      s.Shows a monitor → (servedMonitor N ⟨a, some d⟩).alone s turn' s₁ →
        ∃ monitor', Monitor.Step N monitor (asCall turn') monitor' ∧ s₁.Shows a monitor' := by
    intro s monitor turn' s₁ hmem hs halone
    rcases (List.mem_ofFn' _ _).mp hmem with ⟨i, rfl⟩
    exact call_does hbits hs (hother i) halone
  rcases hrun.simulate asCall hsimulate hstart with ⟨monitor, hmonitor, hshows⟩
  rw [List.map_ofFn] at hmonitor
  refine ⟨fun i => asCall (turn i), monitor, hmonitor, hshows, ?_⟩
  intro i
  refine ⟨(htells i).called, (htells i).begun.filterMap _, ?_⟩
  intro out hended
  rcases (htells i).ended out hended with ⟨hdid, hout⟩
  exact ⟨congrArg signalsOf hdid, hout⟩

end

section

variable [NativeApi] {σ ω : Type} {N : NativePoller σ ω} {poller : GpioPollerState}
  {members members' : MonitorState} {memory : Addr → PollMemory σ} {s₀ : ServedState σ}
  {fs : List (Dispatcher.Frame (servedMonitor N poller))} {n id : Nat}
  {log : List (Dispatcher.Entry (servedMonitor N poller))} {op : MonitorOp}

/-- A core effect, on the occasion `x`. -/
theorem reachable_core {e : Eff} {k : e.Reply → MonitorM Unit}
    (h : (servedMonitor N poller).Reachable s₀
      ⟨⟨members, memory⟩, ⟨id, op, .vis (.effect (.core e)) k, false⟩ :: fs, n, log⟩)
    (r : e.Reply) (x : Occasion σ ω) (hmembers : members.Performs (.core e) r members')
    (hrely : (N.serves x).rely memory e r) :
    (servedMonitor N poller).Reachable s₀ ⟨⟨members', (N.serves x).next memory e r⟩,
      ⟨id, op, k r, false⟩ :: fs, n, log ++ [.did id ⟨.effect (.core e), r⟩]⟩ :=
  h.effect r ⟨hmembers, x, hrely, rfl⟩

end

section

attribute [local instance] NativeApi.reference

/-- The poll finds two edges, and the slot of the first event starts the timer before the
    second one is announced. -/
theorem monitors_refine_bouncing :
    ∃ (c : (servedMonitor bouncing ⟨3, some ⟨0, some 7⟩⟩).Config)
      (call : Fin c.next → MonitorCall) (monitor : Monitor Unit),
      (servedMonitor bouncing ⟨3, some ⟨0, some 7⟩⟩).Reachable { memory := fun _ => ⟨0, ()⟩ } c ∧
      Run (Monitor.Step bouncing) { watch := { snapshot := () } } (List.ofFn call) monitor ∧
        c.next = 2 ∧ monitor.active = true := by
  have hbits : MaskBits fun pin edge =>
      if edge = .rising then pin.val else 4 + pin.val := by
    refine ⟨fun pin edge => ?_, fun pin edge pin' edge' h => ?_⟩
    · revert pin
      cases edge <;> decide
    · revert pin pin'
      cases edge <;> cases edge' <;> decide
  have hmemory : (⟨0, ()⟩ : PollMemory Unit) = Watch.memory { snapshot := () } := by
    rw [Watch.memory, filterMask_empty]
  have hinit : (servedMonitor bouncing ⟨3, some ⟨0, some 7⟩⟩).Reachable
    { memory := fun _ => ⟨0, ()⟩ } ⟨{ memory := fun _ => ⟨0, ()⟩ }, [], 0, []⟩ := .init
  have hcalled := hinit.call .pollOnce fun _ hf => by cases hf
  have hread := hcalled.effect 4 ⟨⟨rfl, rfl⟩, rfl⟩
  have hallocated := reachable_core hread true ⟨true, .inl ()⟩ ⟨trivial, rfl⟩ rfl
  have hlocked := reachable_core hallocated () ⟨true, .inl ()⟩ ⟨List.not_mem_nil, rfl⟩ trivial
  have hint : IsInt 2 := by decide
  have hfound : ∀ i : Fin 4, ∀ edge, (bouncing.written ⟨0, ()⟩ () 4)[i.val]? = some edge →
      (if i = 0 then ⟨0, 1, ⟨0⟩, ⟨0⟩⟩ else ⟨2, 2, ⟨0⟩, ⟨0⟩⟩ : NativeGpioEvent) = edge.native := by
    intro i edge hedge
    rcases i with ⟨_ | _ | i, hi⟩
    · cases hedge
      rfl
    · cases hedge
      rfl
    · cases hedge
  have hpolled := reachable_core hlocked ⟨2, fun i => if i = 0 then ⟨0, 1, ⟨0⟩, ⟨0⟩⟩
    else ⟨2, 2, ⟨0⟩, ⟨0⟩⟩, hint⟩ ⟨true, .inl ()⟩ ⟨trivial, rfl⟩ ⟨rfl, hfound⟩
  have hunlocked := reachable_core hpolled () ⟨true, .inl ()⟩ rfl trivial
  have hannounced := hunlocked.emit
  have hstart := hannounced.call .start fun _ hf => by cases hf; rfl
  have hasked := hstart.effect false ⟨⟨rfl, rfl⟩, rfl⟩
  have hactive := hasked.effect () (show (servedMonitor bouncing ⟨3, some ⟨0, some 7⟩⟩).effect _
    .startTimer () ⟨{ active := true }, _⟩ from ⟨rfl, rfl⟩)
  have hstarted := hactive.emit
  rcases monitors_refine hbits hmemory hstarted (fun f hf => by cases hf; rfl)
    (fun i op hmem => by simp at hmem) with ⟨call, monitor, hrun, hshows, -⟩
  exact ⟨_, call, monitor, hstarted, hrun, rfl, hshows.active.symm⟩

end

end EasyMcp2221
