import EasyMcp2221.Qt.Reporting
import Mathlib.Data.List.Chain

/-!
# The timer of a monitor

`start` and `stop` switch the timer and then announce it; a slot may call them again
from inside the announcement.  Nothing else switches the timer, and only a positive
interval that fits into an `int` reaches it (`timer_lifecycle`).
-/

namespace EasyMcp2221

open Effect

/-! ## What is observed of the timer -/

/-- An announcement, as the activity that it announces. -/
def announcement? : MonitorEvent → Option Bool
  | ⟨.signal .started, _⟩ => some true
  | ⟨.signal .stopped, _⟩ => some false
  | _ => none

/-- The announcements, in the order in which they begin. -/
def announcements (evs : MonitorTrace) : List Bool := evs.filterMap announcement?

/-- The activity that was announced last. -/
def announced (evs : MonitorTrace) : Bool := (announcements evs).getLast?.getD false

def acceptedInterval? : MonitorEvent → Option Int
  | ⟨.effect (.setTimerInterval interval), _⟩ => some interval
  | _ => none

/-- The last interval that reached the timer, or the default. -/
def lastInterval (evs : MonitorTrace) : Int :=
  (evs.filterMap acceptedInterval?).getLast?.getD 20

theorem announcements_append (evs : MonitorTrace) (ev : MonitorEvent) :
    announcements (evs ++ [ev]) = announcements evs ++ (announcement? ev).toList := by
  cases h : announcement? ev <;> simp [announcements, h]

theorem lastInterval_append (evs : MonitorTrace) (ev : MonitorEvent) :
    lastInterval (evs ++ [ev]) = (acceptedInterval? ev).getD (lastInterval evs) := by
  cases h : acceptedInterval? ev <;> simp [lastInterval, h]

theorem announced_append (evs : MonitorTrace) (ev : MonitorEvent) :
    announced (evs ++ [ev]) = (announcement? ev).getD (announced evs) := by
  rw [announced, announcements_append]
  cases announcement? ev <;> simp [announced]

/-- The announcements strictly alternate and start with `started`, and the interval is the
    last one accepted. -/
structure TimerOk (s : MonitorState) (evs : MonitorTrace) : Prop where
  alternate : (announcements evs).IsChain (· ≠ ·)
  first : ∀ b ∈ (announcements evs).head?, b = true
  interval : s.interval = lastInterval evs
  bounds : 1 ≤ s.interval ∧ s.interval ≤ GpioMonitor.intMax

/-- An event that is neither an announcement nor a new interval. -/
theorem TimerOk.keep {s s' : MonitorState} {evs : MonitorTrace} (h : TimerOk s evs)
    {ev : MonitorEvent} (hannounce : announcement? ev = none)
    (hinterval : acceptedInterval? ev = none)
    (hs : s'.interval = s.interval) : TimerOk s' (evs ++ [ev]) := by
  have hsame : announcements (evs ++ [ev]) = announcements evs := by
    rw [announcements_append, hannounce, Option.toList_none, List.append_nil]
  refine ⟨hsame ▸ h.alternate, hsame ▸ h.first, ?_, hs ▸ h.bounds⟩
  rw [hs, lastInterval_append, hinterval]
  exact h.interval

/-- The opposite of what was announced last is announced. -/
theorem TimerOk.announce {s : MonitorState} {evs : MonitorTrace} (h : TimerOk s evs)
    {ev : MonitorEvent} {b : Bool} (hannounce : announcement? ev = some b)
    (hinterval : acceptedInterval? ev = none) (hlast : announced evs = !b) :
    TimerOk s (evs ++ [ev]) := by
  have hsnoc : announcements (evs ++ [ev]) = announcements evs ++ [b] := by
    rw [announcements_append, hannounce, Option.toList_some]
  have hne : ∀ x ∈ (announcements evs).getLast?, x ≠ b := by
    intro x hx
    rw [announced, hx, Option.getD_some] at hlast
    rw [hlast]
    exact Bool.not_ne_self b
  refine ⟨?_, ?_, ?_, h.bounds⟩
  · rw [hsnoc]
    refine List.isChain_append.mpr ⟨h.alternate, List.isChain_singleton b, fun x hx y hy => ?_⟩
    cases hy
    exact hne x hx
  · rw [hsnoc]
    intro first hfirst
    cases hold : announcements evs with
    | nil =>
      rw [hold] at hfirst
      cases hfirst
      rw [announced, hold] at hlast
      simpa using hlast.symm
    | cons x xs =>
      rw [hold] at hfirst
      refine h.first first ?_
      rw [hold]
      exact hfirst
  · rw [lastInterval_append, hinterval]
    exact h.interval

/-! ## The discipline of the operations -/

/-- What an operation knows of the timer. -/
inductive TimerStage where
  | rest
  | seen (active : Bool)
  /-- The timer is switched, and this is not announced yet. -/
  | switched (active : Bool)
  | set (interval : Int)

/-- The timer and its signals. -/
def isTimer : Act MonitorEff Signal → Bool
  | .effect .isActive => true
  | .effect .startTimer => true
  | .effect .stopTimer => true
  | .effect (.setTimerInterval _) => true
  | .signal .started => true
  | .signal .stopped => true
  | _ => false

def timerProtocol : Protocol (Act MonitorEff Signal) (Act.Reply MonitorEff.Reply) TimerStage where
  allow stage
    | .effect .startTimer => stage = .seen false
    | .effect .stopTimer => stage = .seen true
    | .effect (.setTimerInterval interval) =>
      stage = .rest ∧ 1 ≤ interval ∧ interval ≤ GpioMonitor.intMax
    | .signal .started => stage = .switched true
    | .signal .stopped => stage = .switched false
    | _ => stage = .rest
  rely _ _ _ := True
  next stage
    | .effect .isActive, active => .seen active
    | .effect .startTimer, _ => .switched true
    | .effect .stopTimer, _ => .switched false
    | .effect (.setTimerInterval interval), _ => .set interval
    | .signal _, _ => .rest
    | _, _ => stage

def TimerStage.Fits (s : MonitorState) (evs : MonitorTrace) : TimerStage → Prop
  | .rest => s.active = announced evs
  | .seen active => s.active = announced evs ∧ s.active = active
  | .switched active => s.active = active ∧ announced evs = !active
  | .set interval => s.active = announced evs ∧ s.interval = interval

/-- Where an operation may end. -/
def TimerStage.Final : MonitorOp → Except Exn Unit → TimerStage → Prop
  | .setInterval interval, .ok _, stage => stage = .set interval
  | .setInterval _, .error _, stage => stage = .rest
  | _, _, stage => stage = .rest ∨ ∃ active, stage = .seen active

/-- The operations that leave the timer alone. -/
def MonitorOp.leavesTimer : MonitorOp → Bool
  | .start => false
  | .stop => false
  | .setInterval _ => false
  | _ => true

section Operations

variable [NativeApi] {Q : Type} {poller : Option GpioPollerState}
  {P : Protocol (Act MonitorEff Signal) (Act.Reply MonitorEff.Reply) Q} {q : Q}

/-- An operation that leaves the timer alone keeps to any protocol that is about nothing
    else. -/
theorem MonitorOp.prog_stays {op : MonitorOp} (hop : op.leavesTimer = true)
    (hallow : ∀ a, isTimer a = false → P.allow q a)
    (hnext : ∀ a r, isTimer a = false → P.next q a r = q) {Φ : Prog.Post Exn Unit Q}
    (h : ∀ out, Φ out q) : (op.prog poller).wp P q Φ := by
  have hcore : ∀ {α : Type} (p : M α) {Φ : Prog.Post Exn α Q}, (∀ out, Φ out q) →
      (core p).wp P q Φ := by
    intro α p Φ hΦ
    induction p with
    | ret a => exact hΦ _
    | throw x => exact hΦ _
    | vis e k ih =>
      refine ⟨hallow _ rfl, fun r _ => ?_⟩
      rw [hnext _ _ rfl]
      exact ih r
  have hemit : ∀ signal, isTimer (.signal signal) = false →
      P.allow q (.signal signal) ∧ P.next q (.signal signal) () = q :=
    fun signal hsignal => ⟨hallow _ hsignal, hnext _ _ hsignal⟩
  have hedge : ∀ event, isTimer (.signal (GpioMonitor.edgeSignal event)) = false := by
    intro event
    unfold GpioMonitor.edgeSignal
    cases event.edge <;> rfl
  cases op with
  | start | stop | setInterval => cases hop
  | setMaxEventsPerPoll =>
    refine ⟨hallow _ rfl, fun _ _ => ?_⟩
    rw [hnext _ _ rfl]
    exact h _
  | setFilter | clearFilter | library => exact hcore _ h
  | pollOnce =>
    refine Prog.wp_handle.mpr (Prog.wp_bind.mpr ⟨hallow _ rfl, fun maxEvents _ => ?_⟩)
    rw [hnext _ _ rfl]
    refine Prog.andThen_ok.mpr (Prog.wp_bind.mpr (hcore _ fun out => ?_))
    cases out with
    | ok events =>
      exact wp_announce events (fun _ => hemit _ rfl) (fun event => hemit _ (hedge event)) (h _)
    | error error => exact wp_handleError error (fun _ => hemit _ rfl) (h _)

theorem MonitorOp.prog_timer (op : MonitorOp) :
    (op.prog poller).wp timerProtocol .rest (TimerStage.Final op) := by
  have hstays : op.leavesTimer = true →
      (op.prog poller).wp timerProtocol .rest (TimerStage.Final op) := by
    intro hop
    refine MonitorOp.prog_stays hop (fun a ha => ?_) (fun a r ha => ?_) fun out => ?_
    · cases a with
      | effect e =>
        cases e with
        | core | maxEventsPerPoll | setMaxEventsPerPoll => exact rfl
        | isActive | startTimer | stopTimer | setTimerInterval => cases ha
      | signal signal =>
        cases signal with
        | gpioEvent | risingEdge | fallingEdge | errorOccurred => exact rfl
        | started | stopped => cases ha
    · cases a with
      | effect e =>
        cases e with
        | core | maxEventsPerPoll | setMaxEventsPerPoll => exact rfl
        | isActive | startTimer | stopTimer | setTimerInterval => cases ha
      | signal signal => exact rfl
    · cases op with
      | setMaxEventsPerPoll | setFilter | clearFilter | pollOnce | library => exact .inl rfl
      | start | stop | setInterval => cases hop
  cases op with
  | start =>
    refine ⟨rfl, fun active _ => ?_⟩
    cases active with
    | true => exact .inr ⟨true, rfl⟩
    | false => exact ⟨rfl, fun _ _ => ⟨rfl, fun _ _ => .inl rfl⟩⟩
  | stop =>
    refine ⟨rfl, fun active _ => ?_⟩
    cases active with
    | true => exact ⟨rfl, fun _ _ => ⟨rfl, fun _ _ => .inl rfl⟩⟩
    | false => exact .inr ⟨false, rfl⟩
  | setInterval interval =>
    show (GpioMonitor.setInterval interval).wp _ _ _
    unfold GpioMonitor.setInterval
    split
    · exact rfl
    · split
      · exact rfl
      · exact ⟨⟨rfl, by omega, by omega⟩, fun _ _ => rfl⟩
  | setMaxEventsPerPoll | setFilter | clearFilter | pollOnce | library => exact hstays rfl

/-- The timer is active when that was announced last, whenever a slot may run. -/
def timerGuard (poller : Option GpioPollerState) :
    Dispatcher.Guard (gpioMonitor poller) ({} : MonitorState) TimerStage where
  protocol := timerProtocol
  rest := .rest
  inv stage s evs := TimerOk s evs ∧ stage.Fits s evs
  initial := ⟨⟨.nil, nofun, rfl, by decide⟩, rfl⟩
  final := TimerStage.Final
  keeps := MonitorOp.prog_timer
  settle := by
    intro op out stage s evs hfinal ⟨hok, hfits⟩
    cases stage with
    | rest => exact ⟨hok, hfits⟩
    | seen active => exact ⟨hok, hfits.1⟩
    | set interval => exact ⟨hok, hfits.1⟩
    | switched active =>
      cases op with
      | setInterval => cases out <;> cases hfinal
      | _ => obtain h | ⟨_, h⟩ := hfinal <;> cases h
  effect := by
    intro stage s evs e r s' ⟨hok, hfits⟩ hallow heffect
    refine ⟨trivial, ?_⟩
    have hannounced : ∀ ev : MonitorEvent, announcement? ev = none →
        announced (evs ++ [ev]) = announced evs :=
      fun ev hev => by rw [announced_append, hev, Option.getD_none]
    cases e with
    | startTimer =>
      have heffect : s' = { s with active := true } := heffect
      have hstage : stage = .seen false := hallow
      subst heffect hstage
      refine ⟨hok.keep rfl rfl rfl, rfl, ?_⟩
      rw [hannounced _ rfl, ← hfits.1, hfits.2]
      rfl
    | stopTimer =>
      have heffect : s' = { s with active := false } := heffect
      have hstage : stage = .seen true := hallow
      subst heffect hstage
      refine ⟨hok.keep rfl rfl rfl, rfl, ?_⟩
      rw [hannounced _ rfl, ← hfits.1, hfits.2]
      rfl
    | isActive =>
      obtain ⟨rfl, rfl⟩ := heffect
      have hstage : stage = .rest := hallow
      subst hstage
      exact ⟨hok.keep rfl rfl rfl, hfits.trans (hannounced _ rfl).symm, rfl⟩
    | setTimerInterval interval =>
      have heffect : s' = { s with interval } := heffect
      obtain ⟨hstage, hbounds⟩ := hallow
      subst heffect hstage
      have hsame : announcements (evs ++ [⟨.effect (.setTimerInterval interval), r⟩]) =
          announcements evs := by
        rw [announcements_append]
        exact List.append_nil _
      refine ⟨⟨hsame ▸ hok.alternate, hsame ▸ hok.first, ?_, hbounds⟩,
        hfits.trans (hannounced _ rfl).symm, rfl⟩
      rw [lastInterval_append]
      rfl
    | maxEventsPerPoll =>
      obtain ⟨-, rfl⟩ := heffect
      have hstage : stage = .rest := hallow
      subst hstage
      exact ⟨hok.keep rfl rfl rfl, hfits.trans (hannounced _ rfl).symm⟩
    | setMaxEventsPerPoll maxEvents =>
      have heffect : s' = { s with maxEventsPerPoll := maxEvents } := heffect
      have hstage : stage = .rest := hallow
      subst heffect hstage
      exact ⟨hok.keep rfl rfl rfl, hfits.trans (hannounced _ rfl).symm⟩
    | core e =>
      have hstage : stage = .rest := hallow
      subst hstage
      have hsame : s'.interval = s.interval ∧ s'.active = s.active := by
        cases e with
        | lock =>
          obtain ⟨-, rfl⟩ := heffect
          exact ⟨rfl, rfl⟩
        | unlock a =>
          have heffect : s' = { s with held := s.held.erase a } := heffect
          subst heffect
          exact ⟨rfl, rfl⟩
        | alloc | call | proc | own =>
          obtain ⟨-, rfl⟩ := heffect
          exact ⟨rfl, rfl⟩
      exact ⟨hok.keep rfl rfl hsame.1, hsame.2.trans (hfits.trans (hannounced _ rfl).symm)⟩
  signal := by
    intro stage s evs signal ⟨hok, hfits⟩ hallow
    refine ⟨trivial, rfl, ?_⟩
    have hother : announcement? ⟨.signal signal, ()⟩ = none → stage = .rest →
        TimerOk s (evs ++ [⟨.signal signal, ()⟩]) ∧
          TimerStage.Fits s (evs ++ [⟨.signal signal, ()⟩]) .rest := by
      rintro hnone rfl
      refine ⟨hok.keep hnone rfl rfl, ?_⟩
      show s.active = _
      rw [announced_append, hnone]
      exact hfits
    cases signal with
    | started =>
      have hstage : stage = .switched true := hallow
      subst hstage
      refine ⟨hok.announce rfl rfl hfits.2, ?_⟩
      show s.active = _
      rw [announced_append]
      exact hfits.1
    | stopped =>
      have hstage : stage = .switched false := hallow
      subst hstage
      refine ⟨hok.announce rfl rfl hfits.2, ?_⟩
      show s.active = _
      rw [announced_append]
      exact hfits.1
    | gpioEvent | risingEdge | fallingEdge | errorOccurred => exact hother rfl hallow

/-! ## Runs -/

omit [NativeApi] in
/-- A run of `setInterval`: it refuses and does nothing, or it sets the timer. -/
theorem runs_setInterval {interval : Int} {tr : MonitorTrace} {out : Except Exn Unit}
    (h : (GpioMonitor.setInterval interval).Runs tr out) :
    if interval ≤ 0 ∨ interval > 2 ^ 31 - 1 then
      (∃ what, out = .error (.invalidArgument what)) ∧ tr = []
    else out = .ok () ∧ tr = [⟨.effect (.setTimerInterval interval), ()⟩] := by
  unfold GpioMonitor.setInterval GpioMonitor.intMax at h
  by_cases hlow : interval ≤ 0
  · rw [if_pos hlow] at h
    obtain ⟨rfl, rfl⟩ := Prog.runs_throw.mp h
    rw [if_pos (.inl hlow)]
    exact ⟨⟨_, rfl⟩, rfl⟩
  · rw [if_neg hlow] at h
    by_cases hhigh : interval > 2 ^ 31 - 1
    · rw [if_pos hhigh] at h
      obtain ⟨rfl, rfl⟩ := Prog.runs_throw.mp h
      rw [if_pos (.inr hhigh)]
      exact ⟨⟨_, rfl⟩, rfl⟩
    · rw [if_neg hhigh] at h
      obtain ⟨r, rfl, rfl⟩ := runs_perform.mp h
      rw [if_neg (not_or.mpr ⟨hlow, hhigh⟩)]
      exact ⟨rfl, rfl⟩

/-- The timer is not switched. -/
def unswitched : Protocol (Act MonitorEff Signal) (Act.Reply MonitorEff.Reply) Unit where
  allow _
    | .effect .startTimer => False
    | .effect .stopTimer => False
    | _ => True
  rely _ _ _ := True
  next _ _ _ := ()

theorem MonitorOp.prog_unswitched {op : MonitorOp} (hstart : op ≠ .start) (hstop : op ≠ .stop) :
    (op.prog poller).wp unswitched () fun _ _ => True := by
  have hstays : op.leavesTimer = true → (op.prog poller).wp unswitched () fun _ _ => True := by
    intro hop
    refine MonitorOp.prog_stays hop (fun a ha => ?_) (fun _ _ _ => rfl) fun _ => trivial
    cases a with
    | signal signal => trivial
    | effect e =>
      cases e with
      | startTimer | stopTimer => cases ha
      | _ => trivial
  cases op with
  | start => exact absurd rfl hstart
  | stop => exact absurd rfl hstop
  | setInterval interval =>
    show (GpioMonitor.setInterval interval).wp _ _ _
    unfold GpioMonitor.setInterval
    split
    · trivial
    · split
      · trivial
      · exact ⟨trivial, fun _ _ => trivial⟩
  | setMaxEventsPerPoll | setFilter | clearFilter | pollOnce | library => exact hstays rfl

/-- Only a step of `start` or `stop` switches the timer. -/
theorem active_of_step {s₀ : MonitorState} {c c' : (gpioMonitor poller).Config}
    (hc : (gpioMonitor poller).Reachable s₀ c) (hstep : (gpioMonitor poller).Step c c')
    (hchanged : c'.state.active ≠ c.state.active) :
    ∃ f ∈ c.stack.head?, f.op = .start ∨ f.op = .stop := by
  cases hstep with
  | call | emit | received | stop => exact absurd rfl hchanged
  | effect s fs n log id op e k r s' heffect =>
    refine ⟨_, rfl, ?_⟩
    by_contra hop
    obtain ⟨hstart, hstop⟩ := not_or.mp hop
    have hreaches := (hc.ok.running _ List.mem_cons_self).2
    have hunswitched : (op.prog poller).wp unswitched () fun _ _ => True :=
      MonitorOp.prog_unswitched hstart hstop
    have hallow := (Prog.wp_reaches hunswitched hreaches
      (Protocol.relied_of_forall (fun _ _ _ => trivial) _ _)).1
    cases e with
    | startTimer | stopTimer => exact hallow
    | maxEventsPerPoll | isActive =>
      obtain ⟨-, rfl⟩ := heffect
      exact hchanged rfl
    | setMaxEventsPerPoll | setTimerInterval =>
      have heffect : s' = _ := heffect
      subst heffect
      exact hchanged rfl
    | core e =>
      cases e with
      | lock | alloc | call | proc | own =>
        obtain ⟨-, rfl⟩ := heffect
        exact hchanged rfl
      | unlock a =>
        have heffect : s' = { s with held := s.held.erase a } := heffect
        subst heffect
        exact hchanged rfl

/-- **The life of the timer.**  The announcements strictly alternate, starting with
    `started`; the timer is active exactly when that was announced last; only `start` and
    `stop` switch it; `setInterval` refuses what is not positive or does not fit, and
    otherwise sets the interval, which is the last one accepted or the default. -/
theorem timer_lifecycle {c : (gpioMonitor poller).Config}
    (hc : (gpioMonitor poller).Reachable {} c) :
    ((announcements (Dispatcher.events c.log)).IsChain (· ≠ ·) ∧
      ∀ b ∈ (announcements (Dispatcher.events c.log)).head?, b = true) ∧
    (c.Open → (c.state.active = true ↔
      (announcements (Dispatcher.events c.log)).getLast? = some true)) ∧
    (∀ c', (gpioMonitor poller).Step c c' → c'.state.active ≠ c.state.active →
      ∃ f ∈ c.stack.head?, f.op = .start ∨ f.op = .stop) ∧
    (∀ i interval out, .called i (.setInterval interval) ∈ c.log → .ended i out ∈ c.log →
      if interval ≤ 0 ∨ interval > 2 ^ 31 - 1 then
        (∃ what, out = .error (.invalidArgument what)) ∧ Dispatcher.history i c.log = []
      else out = .ok () ∧
        Dispatcher.history i c.log = [⟨.effect (.setTimerInterval interval), ()⟩]) ∧
    (∀ f ∈ c.stack.head?, ∀ interval, f.op = .setInterval interval → f.rest = .ret () →
      c.state.interval = interval) ∧
    1 ≤ c.state.interval ∧ c.state.interval ≤ 2 ^ 31 - 1 ∧
      c.state.interval = lastInterval (Dispatcher.events c.log) := by
  obtain ⟨stage, hguard⟩ := (timerGuard poller).reachable hc
  obtain ⟨hok, hfits⟩ := hguard.inv
  refine ⟨⟨hok.alternate, hok.first⟩, fun hopen => ?_, fun c' hstep => active_of_step hc hstep,
    fun i interval out hcalled hended => runs_setInterval (hc.ended hcalled hended), ?_,
    hok.bounds.1, hok.bounds.2, hok.interval⟩
  · obtain rfl := hguard.rest hopen
    have hactive : c.state.active = announced (Dispatcher.events c.log) := hfits
    rw [hactive, announced]
    cases (announcements (Dispatcher.events c.log)).getLast? <;> simp
  · intro f hf interval hop hrest
    have htop := hguard.top f hf
    rw [Dispatcher.Guard.Follows, hop, hrest] at htop
    have hstage : stage = .set interval := htop
    subst hstage
    exact hfits.2

end Operations

section

attribute [local instance] NativeApi.reference

/-- The slot of `started` stops the timer again. -/
theorem timer_lifecycle_reentrant : ∃ c : (gpioMonitor none).Config,
    (gpioMonitor none).Reachable {} c ∧ c.Open ∧
      announcements (Dispatcher.events c.log) = [true, false] ∧ c.state.active = false := by
  have hinit : (gpioMonitor none).Reachable {} ⟨{}, [], 0, []⟩ := .init
  have hstart := hinit.call .start fun _ hf => by cases hf
  have hstarted := ((hstart.effect false ⟨rfl, rfl⟩).effect () rfl).emit
  have hstop := hstarted.call .stop fun _ hf => by cases hf; rfl
  have hstopped := ((hstop.effect true ⟨rfl, rfl⟩).effect () rfl).emit
  obtain ⟨-, hactive, -⟩ := timer_lifecycle hstopped
  have hopen := hactive fun _ hf => by cases hf; rfl
  refine ⟨_, hstopped, fun _ hf => by cases hf; rfl, rfl, ?_⟩
  refine Bool.eq_false_iff.mpr fun h => ?_
  have hlast : [true, false].getLast? = some true := hopen.mp h
  cases hlast

end

end EasyMcp2221
