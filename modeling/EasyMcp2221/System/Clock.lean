import EasyMcp2221.EntryPoints
import EasyMcp2221.System.Machine
import EasyMcp2221.System.Session

/-!
# The clock of the bus

Two native calls set a clock, `mcp2221_i2c_set_speed` and `mcp2221_i2c_slave_init`.
The constructor and the I2C factory check the clock they pass on, `setI2cSpeed` does
not: in a run whose `setI2cSpeed` calls on open devices are in range, every clock that
reaches the C library is.
-/

namespace EasyMcp2221

open Effect

/-! ## Clocks in effects and operations -/

/-- The clock that the call passes on, if it passes on one, is in range. -/
def NativeCall.ClockInRange : NativeCall → Prop
  | .i2cSetSpeed _ hz => EasyMcp2221.ClockInRange hz
  | .i2cSlaveInit _ _ _ _ speedHz _ _ => EasyMcp2221.ClockInRange speedHz
  | _ => True

def Eff.ClockInRange : Eff → Prop
  | .call c => c.ClockInRange
  | _ => True

/-- The clock that the operation takes without a check, if it takes one, is in range. -/
def DeviceOp.ClockInRange : DeviceOp → Prop
  | .setI2cSpeed hz => EasyMcp2221.ClockInRange hz
  | _ => True

/-- The same for an operation on the objects of a store.  A `Device` that is not open
    refuses every clock. -/
def Op.ClockInRange {T : Type} (s : Store T) : Op → Prop
  | .device v op => s.deviceSelf v ≠ none → op.ClockInRange
  | _ => True

section

variable [NativeApi]

/-! ## Data operations -/

/-- Every call that `x` may ask for satisfies `P`. -/
def Asks {α : Type} (P : NativeCall → Prop) (x : Except Exn (Request α)) : Prop :=
  ∀ req c, x = .ok req → req.effect = .call c → P c

omit [NativeApi] in
theorem Asks.call {α : Type} {P : NativeCall → Prop} {c : NativeCall} {operation : String}
    {decode : c.Out → Except Exn α} (h : P c) : Asks P (.ok (.call c operation decode)) := by
  rintro _ _ ⟨⟩ ⟨⟩
  exact h

omit [NativeApi] in
theorem Asks.bind {α β : Type} {P : NativeCall → Prop} {x : Except Exn β}
    {k : β → Except Exn (Request α)} (h : ∀ b, Asks P (k b)) : Asks P (x >>= k) := by
  intro req c hreq
  obtain ⟨b, -, hb⟩ := bind_eq_ok.mp hreq
  exact h b req c hb

theorem DeviceOp.request_clock (d : DeviceState) {op : DeviceOp} (h : op.ClockInRange) :
    Asks NativeCall.ClockInRange (op.request d) := by
  cases op with
  | setI2cSpeed hz => exact .call h
  | i2cStatus | releaseI2c | readGpio | writeGpio | setVdd | vdd | readAdcRaw
  | readAdcNormalized | readAdcVolts | writeDacNormalized | writeDacVolts | interruptFlag
  | clearInterruptFlag | sendFlashPassword | flashInfo | flashSettings
  | saveConfigurationToFlash | stageUsbRemoteWakeup | usbRemoteWakeup | stageUsbSelfPowered
  | usbSelfPowered | usbRequestedCurrent =>
    exact .call trivial
  | configurePins | configureAdc | configureDac | writeDacRaw | configureInterrupt | configureSram
  | readFlash | writeFlash | stageUsbRequestedCurrent =>
    exact .bind fun _ => .call trivial
  | setPinFunction | configureDacOutput | configureClock | writeFlashVector | rawCommand =>
    exact .bind fun _ => .bind fun _ => .call trivial
  | i2cWrite | i2cWriteVector | i2cRead =>
    exact .bind fun _ => .bind fun _ => .bind fun _ => .call trivial

omit [NativeApi] in
/-- A call on a struct that is there already sets no clock. -/
theorem NativeCall.Serves.clockInRange {c : NativeCall} {target : Target} {a : Addr}
    (h : c.Serves target) (hstruct : target.struct = some a) : c.ClockInRange := by
  obtain ⟨hinitialises, hc, -⟩ := h
  rw [hstruct] at hc
  cases c with
  | i2cSetSpeed => cases hc
  | i2cSlaveInit => cases hinitialises
  | _ => trivial

theorem DataCall.only_clock {x : DataCall}
    (h : ∀ d op, x = .device (some d) op → op.ClockInRange) : x.prog.Only Eff.ClockInRange := by
  cases htarget : x.target with
  | none =>
    rw [DataCall.prog_noState htarget]
    trivial
  | some target =>
    refine Prog.only_of_wp ?_ (fun _ _ _ => trivial) (errand_of_audit (prog_meets htarget))
    rintro q e ⟨hallow, hasks⟩
    cases e with
    | call c =>
      obtain ⟨req, hrequest, heffect⟩ := hasks c rfl
      cases x with
      | device self op =>
        obtain _ | d := self
        · cases htarget
        · exact op.request_clock d (h d op rfl) req c hrequest heffect
      | i2c self op | smbus self op | poller self op =>
        obtain _ | ⟨a, _ | d⟩ := self
        · cases htarget
        · cases htarget
        · cases htarget
          exact hallow.2.clockInRange rfl
    | alloc | lock | unlock | proc | own => trivial

/-! ## The other operations -/

omit [NativeApi] in
/-- A check decides which programs may follow. -/
theorem only_of_gate {α β : Type} {A : Eff → Prop} {complain : String → Exn} {P : Prop}
    {x : Except Exn β} {k : β → M α} (hgate : Gate complain P x) (h : P → ∀ b, (k b).Only A) :
    ((Prog.ofExcept x).bind k).Only A := by
  cases hgate with
  | accept hP b hx =>
    subst hx
    exact h hP b
  | reject _ message hx =>
    subst hx
    trivial

omit [NativeApi] in
theorem only_allocate {A : Eff → Prop} (h : A .alloc) : allocate.Only A := by
  refine ⟨h, fun ok => ?_⟩
  cases ok <;> trivial

omit [NativeApi] in
theorem dropDevice_only_clock : dropDevice.Only Eff.ClockInRange :=
  only_dropDevice (fun _ => trivial) fun _ => trivial

omit [NativeApi] in
theorem dropChild_only_clock : dropChild.Only Eff.ClockInRange :=
  only_dropChild (fun _ => trivial) fun _ => trivial

omit [NativeApi] in
theorem own_only_clock (o : Own) : (own o).Only Eff.ClockInRange :=
  ⟨trivial, fun _ => trivial⟩

omit [NativeApi] in
theorem makeDeviceState_only_clock (handle : HandlePtr) :
    (makeDeviceState handle).Only Eff.ClockInRange := by
  refine ⟨trivial, fun ok => ?_⟩
  cases ok with
  | true => exact (own_only_clock _).bind fun _ => trivial
  | false =>
    by_cases hhandle : handle ≠ none
    · simp only [Bool.false_eq_true, if_false, if_pos hhandle]
      exact Prog.Only.bind ⟨trivial, fun _ => trivial⟩ fun _ => trivial
    · simp only [Bool.false_eq_true, if_false, if_neg hhandle]
      trivial

theorem initialiseI2c_only_clock (state : DeviceState) {hz : UInt32} (h : ClockInRange hz) :
    (initialiseI2c state hz).Only Eff.ClockInRange := by
  refine Prog.Only.bind ⟨trivial, fun _ => trivial⟩ fun _ => ?_
  refine Prog.Only.bind (only_nativeCall (show ClockInRange 100000 by decide)) fun _ => ?_
  split
  · exact only_nativeCall h
  · trivial

theorem construct_only_clock (w : Var) (options : DeviceOptions) :
    (Device.construct w options).Only Eff.ClockInRange :=
  only_of_gate (gate_speed options.i2cSpeedHz _) fun hspeed _ =>
    (only_nativeCall trivial).bind fun _ =>
      (makeDeviceState_only_clock _).bind fun state =>
        .cleanup
          ((only_withLock trivial trivial (initialiseI2c_only_clock state hspeed)).bind fun _ =>
            own_only_clock _)
          dropDevice_only_clock

theorem i2cDevice_only_clock (self : Option DeviceState) (dst : Var) (address : UInt8)
    (options : I2cDeviceOptions) :
    (Device.i2cDevice self dst address options).Only Eff.ClockInRange :=
  only_check fun _ => only_check fun _ =>
    only_of_gate (gate_speed options.speedHz _) fun hspeed _ =>
      (only_allocate trivial).bind fun _ => (own_only_clock _).bind fun _ =>
        .cleanup
          (only_withLock trivial trivial
            (only_check fun _ => only_check fun _ =>
              (only_nativeCall hspeed).bind fun _ => own_only_clock _))
          dropChild_only_clock

theorem smbusDevice_only_clock (self : Option DeviceState) (dst : Var) (address : UInt8) :
    (Device.smbusDevice self dst address).Only Eff.ClockInRange :=
  only_check fun _ => only_check fun _ =>
    (only_allocate trivial).bind fun _ => (own_only_clock _).bind fun _ =>
      .cleanup
        (only_withLock trivial trivial
          ((only_nativeCall trivial).bind fun _ => own_only_clock _))
        dropChild_only_clock

omit [NativeApi] in
theorem gpioPoller_only_clock (self : Option DeviceState) (dst : Var) :
    (Device.gpioPoller self dst).Only Eff.ClockInRange :=
  only_check fun _ => (only_allocate trivial).bind fun _ => (own_only_clock _).bind fun _ =>
    .cleanup (Prog.Only.bind ⟨trivial, fun _ => trivial⟩ fun _ => own_only_clock _)
      dropChild_only_clock

omit [NativeApi] in
theorem WrapperKind.drop_only_clock (kind : WrapperKind) : kind.drop.Only Eff.ClockInRange := by
  cases kind with
  | device => exact dropDevice_only_clock
  | child => exact dropChild_only_clock

theorem PublicOp.only_clock {p : PublicOp}
    (h : ∀ d op, p = .data (.device (some d) op) → op.ClockInRange) :
    p.prog.Only Eff.ClockInRange := by
  cases p with
  | data x => exact DataCall.only_clock fun d op hx => h d op (congrArg PublicOp.data hx)
  | construct w options => exact construct_only_clock w options
  | i2cDevice self dst address options => exact i2cDevice_only_clock self dst address options
  | smbusDevice self dst address => exact smbusDevice_only_clock self dst address
  | gpioPoller self dst => exact gpioPoller_only_clock self dst
  | close w => exact (own_only_clock _).bind fun _ => dropDevice_only_clock
  | destroy kind w => exact (own_only_clock _).bind fun _ => kind.drop_only_clock
  | moveConstruct src dst => exact own_only_clock _
  | copyConstruct src dst => exact own_only_clock _
  | moveAssign kind src dst => exact (own_only_clock _).bind fun _ => kind.drop_only_clock
  | copyAssign kind src dst => exact (own_only_clock _).bind fun _ => kind.drop_only_clock

end

/-! ## Runs -/

section

variable {T : Type} [DecidableEq T] [NativeApi]

/-- The end of an effect adds nothing to the history but the handle of an open. -/
theorem leaves_log {t : T} {op : Op} {s s' : Store T} {e : Eff} {r : e.Reply}
    (h : s.leaves t op e r s') : s'.log = s.log ∨ ∃ hd, s'.log = s.log ++ [.opened t hd] := by
  cases e with
  | alloc =>
    obtain rfl := h
    exact .inl rfl
  | lock a =>
    obtain ⟨-, rfl⟩ := h
    exact .inl rfl
  | unlock a =>
    obtain rfl := h
    exact .inl rfl
  | proc f =>
    obtain rfl := h
    cases f <;> exact .inl rfl
  | own o =>
    refine .inl ?_
    cases o with
    | makeDeviceState | makeChild =>
      obtain ⟨-, rfl⟩ := h
      rfl
    | releaseDevice => obtain ⟨-, -, rfl⟩ | ⟨a, -, -, -, rfl⟩ := h <;> rfl
    | releaseChild => obtain ⟨-, -, rfl⟩ | ⟨a, child, -, -, -, -, rfl⟩ := h <;> rfl
    | _ =>
      obtain rfl := h
      rfl
  | call c =>
    cases c with
    | openScan =>
      by_cases hok : r.status = err .ok
      · obtain ⟨hd, -, -, rfl⟩ := (if_pos hok).mp h
        exact .inr ⟨hd, rfl⟩
      · obtain rfl := (if_neg hok).mp h
        exact .inl rfl
    | i2cSlaveInit =>
      obtain ⟨slave, -, rfl⟩ := h
      exact .inl rfl
    | smbusInit =>
      obtain ⟨bus, -, -, rfl⟩ := h
      exact .inl rfl
    | _ =>
      obtain rfl := h
      exact .inl rfl

/-- Every clock that the history passes to the C library is in range. -/
def ClocksInRange (log : List (Entry T)) : Prop :=
  ∀ t op c accessed, .call t op c accessed ∈ log → c.ClockInRange

omit [NativeApi] in
/-- A thread that enters an effect with a clock in range keeps the history in range. -/
theorem enters_clocks {t : T} {op : Op} {s : Store T} {e : Eff} (h : ClocksInRange s.log)
    (he : e.ClockInRange) : ClocksInRange (s.enters t op e).log := by
  intro t' op' c' accessed hmem
  cases e with
  | call c =>
    rcases List.mem_append.mp hmem with hmem | hmem
    · exact h _ _ _ _ hmem
    · cases List.mem_singleton.mp hmem
      exact he
  | proc f =>
    cases f with
    | close | smbusClose =>
      rcases List.mem_append.mp hmem with hmem | hmem
      · exact h _ _ _ _ hmem
      · cases List.mem_singleton.mp hmem
    | gpioPollInit | gpioPollSetFilterMask => exact h _ _ _ _ hmem
  | alloc | lock | unlock | own => exact h _ _ _ _ hmem

theorem leaves_clocks {t : T} {op : Op} {s s' : Store T} {e : Eff} {r : e.Reply}
    (h : ClocksInRange s.log) (hleave : s.leaves t op e r s') : ClocksInRange s'.log := by
  intro t' op' c' accessed hmem
  obtain hsame | ⟨hd, hopened⟩ := leaves_log hleave
  · rw [hsame] at hmem
    exact h _ _ _ _ hmem
  · rw [hopened] at hmem
    rcases List.mem_append.mp hmem with hmem | hmem
    · exact h _ _ _ _ hmem
    · cases List.mem_singleton.mp hmem

/-- The runs in which every clock given to `setI2cSpeed` on an open device is in range. -/
def clockedSystem (T : Type) [DecidableEq T] : Machine Eff Eff.Reply Exn T Op (Store T) :=
  (system T).restrict Op.ClockInRange

theorem clockedSystem_keeps {c : (clockedSystem T).Config}
    (h : (clockedSystem T).Reachable Store.empty c) (t : T) :
    (c.threads t).Keeps Eff.ClockInRange := by
  refine h.keeps (fun s running t op hcan => ?_) t
  obtain ⟨hclock, -⟩ := hcan
  refine (PublicOp.only_clock fun d op' hresolve => ?_).bind fun _ => trivial
  cases op with
  | device v op'' =>
    have hdata : DataCall.device (s.deviceSelf v) op'' = .device (some d) op' :=
      PublicOp.data.inj hresolve
    obtain ⟨hself, rfl⟩ := DataCall.device.inj hdata
    refine hclock ?_
    rw [hself]
    exact Option.some_ne_none d
  | _ => cases hresolve

theorem clocks_in_range {c : (clockedSystem T).Config}
    (h : (clockedSystem T).Reachable Store.empty c) : ClocksInRange c.state.log := by
  induction h with
  | init => exact fun _ _ _ _ hmem => absurd hmem List.not_mem_nil
  | step hc hstep ih =>
    cases hstep with
    | start | stop => exact ih
    | enter t op e k hready =>
      have hkeeps := clockedSystem_keeps hc t
      rw [hready] at hkeeps
      exact enters_clocks ih hkeeps.1
    | leave t op e k r s' hbusy hleave => exact leaves_clocks ih hleave

/-- **Entry points for the same quantity.**  The three ways to supply an I2C clock agree
    exactly on the clocks in range, since `setI2cSpeed` lets every clock through; the four
    ways to supply an address and the three ways to supply a DAC code always agree.  In
    every run whose `setI2cSpeed` calls on open devices are in range, so is every clock that
    reaches `mcp2221_i2c_set_speed` or `mcp2221_i2c_slave_init`. -/
theorem entry_points_agree (T : Type) [DecidableEq T] :
    (∀ hz, ClockAgrees hz ↔ ClockInRange hz) ∧ (∀ address, AddressAgrees address) ∧
      (∀ code, DacAgrees code) ∧
      ∀ c : (clockedSystem T).Config, (clockedSystem T).Reachable Store.empty c →
        ClocksInRange c.state.log :=
  ⟨clockAgrees_iff, addressAgrees, dacAgrees, fun _ hc => clocks_in_range hc⟩

end

section

attribute [local instance] NativeApi.reference

/-- The constructor is about to set the safe clock. -/
theorem clocked_construct : ∃ c : (clockedSystem Unit).Config,
    (clockedSystem Unit).Reachable Store.empty c ∧
      .call () (.construct 0 {}) (.i2cSetSpeed (some 7) 100000) (some (some 7)) ∈ c.state.log := by
  have hidle : (clockedSystem Unit).ReachableIdle Store.empty Store.empty := .init
  have hstart := hidle.start () (.construct 0 {})
    ⟨trivial, rfl, fun _ _ _ hop => by cases hop⟩
  have hopened := hstart.perform ⟨0, some 7, by decide⟩ (Store.openScan_ends rfl rfl nofun)
  have hallocated := hopened.perform true rfl
  have hmade := hallocated.perform (0 : Addr) ⟨rfl, rfl⟩
  have hlocked := hmade.perform () ⟨rfl, rfl⟩
  have hreleased := hlocked.perform ⟨0, (), by decide⟩ rfl
  have hspeed := hreleased.perform ⟨0, (), by decide⟩ rfl
  exact ⟨_, hspeed, List.mem_of_getLast? rfl⟩

/-- The clock that it sets is in range. -/
theorem entry_points_agree_construct : ∃ c : (clockedSystem Unit).Config,
    (clockedSystem Unit).Reachable Store.empty c ∧
      .call () (.construct 0 {}) (.i2cSetSpeed (some 7) 100000) (some (some 7)) ∈ c.state.log ∧
      ClocksInRange c.state.log := by
  obtain ⟨c, hc, hmem⟩ := clocked_construct
  exact ⟨c, hc, hmem, (entry_points_agree Unit).2.2.2 c hc⟩

/-- `setI2cSpeed(0)` on an open device: the clock goes to the C library. -/
theorem setI2cSpeed_zero :
    (Device.setI2cSpeed (some ⟨0, some 7⟩) 0).Runs
      [⟨.lock 0, ()⟩, ⟨.call (.i2cSetSpeed (some 7) 0), ⟨0, (), by decide⟩⟩, ⟨.unlock 0, ()⟩]
      (.ok ()) :=
  runs_vis (.lock 0) () (runs_vis (.call (.i2cSetSpeed (some 7) 0)) ⟨0, (), by decide⟩
    (runs_vis (.unlock 0) () (.ret ())))

/-- The ways to supply a clock do not agree on 0. -/
theorem clock_not_agreed : ¬ ClockAgrees 0 := by
  intro h
  have hrejected := (h.setI2cSpeed ⟨0, some 7⟩).rejects (by decide) _ _ setI2cSpeed_zero
  obtain ⟨-, message, hout⟩ := hrejected
  cases hout

end

end EasyMcp2221
