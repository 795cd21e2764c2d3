import EasyMcp2221.Effect.Atomicity
import EasyMcp2221.System.Serialisation

/-!
# Calls on a device are atomic

The C library works on a device in the middle of a call: it reads what the device is like,
and later leaves it otherwise.  Whatever a device is and whatever the calls do to it, the
mutex of its `DeviceState` makes them atomic: the calls with a handle take place one after
the other, and no call loses what another one has done.
-/

namespace EasyMcp2221

open Effect

section

variable {T : Type} [NativeApi] {t t' : T} {op op' : Op} {s s' : Store T} {q : Position}
  {handle : HandlePtr} {e : Eff}

/-- The open handle that a call works with. -/
def Store.worksWith (s : Store T) : Eff → Option Handle
  | .call c => (s.accesses c).join
  | _ => none

omit [NativeApi] in
theorem Store.accesses_of_worksWith {hd : Handle} (h : s.worksWith e = some hd) :
    ∃ c, e = .call c ∧ s.accesses c = some (some hd) := by
  cases e with
  | call c => exact ⟨c, rfl, Option.join_eq_some_iff.mp h⟩
  | _ => cases h

omit [NativeApi] in
/-- What a call works with depends on the store through its struct only. -/
theorem Store.worksWith_congr (h : ∀ c a, e = .call c → c.dev? = none → c.struct? = some a →
    s'.children a = s.children a) : s'.worksWith e = s.worksWith e := by
  cases e with
  | call c =>
    refine congrArg Option.join ?_
    rw [accesses, accesses]
    cases hdev : c.dev? with
    | some dev => rfl
    | none =>
      cases hstruct : c.struct? with
      | none => rfl
      | some a => simp only [Option.bind_some, h c a rfl hdev hstruct]
  | _ => rfl

variable [DecidableEq T]

omit [NativeApi] in
theorem enters_worksWith (t : T) (op : Op) (s : Store T) (e e' : Eff) :
    (Store.enters t op s e).worksWith e' = s.worksWith e' := by
  apply Store.worksWith_congr
  intro c a _ _ _
  cases e with
  | proc p => cases p <;> rfl
  | _ => rfl

omit [DecidableEq T] in
/-- A step does not change what a call under way works with. -/
theorem Frame.worksWith (hf : Frame t op s s') (hs : StoreOk s) (h : Attached s t' op' q handle)
    (hpermits : q.Permits op' e) : s'.worksWith e = s.worksWith e := by
  apply Store.worksWith_congr
  rintro c a rfl hdev hstruct
  cases hpermits with
  | call htarget hserves =>
    rcases Op.struct_of_target (h.resolve (.inr rfl)) htarget (hserves.2.1.symm.trans hstruct)
      with ⟨v, -, -, hv, -⟩
    rcases hf.child_of_wrapper hs hv with ⟨child, hchild, hchild', -⟩
    rw [hchild, hchild']
  | openScan => cases hstruct
  | setUp hdev' => cases hdev.symm.trans hdev'
  | initChild htarget hinit => cases hdev.symm.trans hinit.dev

/-! ## The mutex guards the device -/

/-- While a thread is inside a call, steps keep what the call works with. -/
theorem leave_worksWith {c : (system T).Config} (hc : (system T).Reachable Store.empty c)
    {k : e.Reply → M Unit} (hbusy : c.threads t = .busy op e k) {r : e.Reply}
    (hleave : c.state.leaves t op e r s') {e' : Eff} {k' : e'.Reply → M Unit}
    (hbusy' : c.threads t' = .busy op' e' k') : s'.worksWith e' = c.state.worksWith e' := by
  rcases system_reachable hc with ⟨g, hok, htracks⟩
  have hmine := htracks t
  rw [hbusy] at hmine
  rcases Discipline.Tracks.of_busy hmine with ⟨q, hg, hallow, -⟩
  have hphase := hok.phase t
  rw [hg] at hphase
  have hframe := (leaves_lands hok.store hphase hallow hleave).2.frame
  rcases performs_attached hok htracks ⟨k', .inr hbusy'⟩ with ⟨q', handle, -, hq', hpermits⟩
  exact hframe.worksWith hok.store hq' hpermits

theorem system_guards (T : Type) [DecidableEq T] :
    Machine.Guards (system T) Store.empty Store.worksWith where
  exclusive c hc t t' hd h h' := by
    have hcall : ∀ u, (c.threads u).accesses c.state.worksWith = some hd →
        ∃ op x, c.Performs u op (.call x) ∧ c.state.accesses x = some (some hd) := by
      intro u hu
      cases hthread : c.threads u with
      | busy op e k =>
        rw [hthread] at hu
        rcases Store.accesses_of_worksWith hu with ⟨x, rfl, hx⟩
        exact ⟨op, x, ⟨k, .inr hthread⟩, hx⟩
      | idle | ready =>
        rw [hthread] at hu
        cases hu
    rcases hcall t h with ⟨op, x, hperforms, hx⟩
    rcases hcall t' h' with ⟨op', x', hperforms', hx'⟩
    exact call_exclusive hc hperforms hperforms' hx hx'
  enter s t op e := enters_worksWith t op s e e
  stable c c' hc hstep u _ := by
    cases hthread : c.threads u with
    | idle | ready => rfl
    | busy op' e' k' =>
      cases hstep with
      | start | stop => rfl
      | enter t op e k hready => exact enters_worksWith t op c.state e e'
      | leave t op e k r s' hbusy hleave => exact leave_worksWith hc hbusy hleave hthread

end

section

variable {T : Type} [DecidableEq T] [NativeApi]

/-- The system over devices: `dev d call d'` tells what a call with its reply may make of the
    device with a handle. -/
def deviceSystem (T : Type) [DecidableEq T] {D : Type}
    (dev : D → Prog.Event Eff.Reply → D → Prop) :
    Machine Eff Eff.Reply Exn T Op (Cells (Store T) T Handle D (Prog.Event Eff.Reply)) :=
  (system T).withCells Store.worksWith dev

/-- **Calls on a device are atomic.**  Let a call that begins read the device that it works
    with, and leave it, when it ends, as `dev` says for what it has read, for any kind of
    device and any `dev`.  In every reachable configuration of any number of threads the
    device with a handle is then what the calls with the handle have made of it one after the
    other, in the order in which they ended, each starting from what the one before it left. -/
theorem calls_atomic {D : Type} {dev : D → Prog.Event Eff.Reply → D → Prop} {d₀ : Handle → D}
    {c : (deviceSystem T dev).Config}
    (hc : (deviceSystem T dev).Reachable (Machine.cellsInit Store.empty d₀) c) (hd : Handle) :
    Run dev (d₀ hd) (c.state.ended hd) (c.state.cell hd) :=
  (system_guards T).atomic hc hd

end

section

variable {T : Type} [DecidableEq T] [NativeApi]

/-! ## Data operations -/

omit [DecidableEq T] in
/-- A call on a target works with some handle pointer. -/
theorem exists_accesses {s : Store T} (hs : StoreOk s) {op : Op} {y : DataCall}
    (hy : op.resolve s = .data y) {target : Target} (htarget : y.target = some target)
    {x : NativeCall} (hserves : x.Serves target) : ∃ dev, s.accesses x = some dev := by
  rw [Store.accesses]
  cases hdev : x.dev? with
  | some dev => exact ⟨dev, rfl⟩
  | none =>
    rcases hserves with ⟨-, hstruct, hdevice⟩
    cases hchild : target.struct with
    | none =>
      rw [hchild, hdev] at hdevice
      cases hdevice
    | some a =>
      rcases Op.struct_of_target hy htarget hchild with ⟨v, -, -, hv, -⟩
      rcases hs.wrappers.child v a hv with ⟨child, hchild', -⟩
      rw [hstruct, hchild]
      simp only [Option.bind_some, hchild']
      exact ⟨_, rfl⟩

omit [DecidableEq T] [NativeApi] in
/-- Operations on data neither construct nor drop anything. -/
theorem Op.sheds_of_data {s : Store T} {op : Op} {y : DataCall} (hy : op.resolve s = .data y) :
    op.sheds = false := by
  cases op with
  | device | i2c | smbus | poller => rfl
  | _ => cases hy

/-- A call of a data operation works with the handle of the device that its object had when
    the operation began. -/
theorem data_worksWith {c₀ c : (system T).Config} (hc₀ : (system T).Reachable Store.empty c₀)
    {t : T} {op : Op} {tr : Trace} (h : (system T).ExecutesFrom c₀ t op tr c) {y : DataCall}
    (hy : op.resolve c₀.state = .data y) {target : Target} (htarget : y.target = some target)
    {x : NativeCall} {k : x.Reply → M Unit} (hbusy : c.threads t = .busy op (.call x) k) :
    target.device.handle ≠ none ∧ c.state.worksWith (.call x) = target.device.handle := by
  rcases ((systemDiscipline T).self t op).executes hc₀ h with ⟨g, q, ⟨hok, htracks⟩, hlocal, -, hq⟩
  have hcall : q.call = .data y := by
    have hafter : q = (session op).after ⟨op.resolve c₀.state, .working, false⟩ tr := hq
    rw [hafter, Position.call_after]
    exact hy
  have hperforms : c.Performs t op (.call x) := ⟨k, .inr hbusy⟩
  rcases performs_attached hok htracks hperforms with ⟨q', handle, hlocal', hattached, hpermits⟩
  have hsame := hlocal.symm.trans hlocal'
  cases hsame
  have hnow := (hattached.resolve (.inl (Op.sheds_of_data hy))).trans hcall
  have hstage := hattached.stage
  have hpermitted := hpermits
  cases hpermits with
  | @call y' target' _ _ htarget' hserves =>
    have hcall : PublicOp.data y' = .data y := hcall
    cases hcall
    have hdevice : (⟨.data y, .working, true⟩ : Position).device = some target.device :=
      congrArg (Option.map Target.device) htarget
    rcases hattached.device_live hok.store hdevice with ⟨hhandle, hd, hlive⟩
    have hserves' : x.Serves target := Option.some.inj (htarget'.symm.trans htarget) ▸ hserves
    rcases exists_accesses hok.store hnow htarget hserves' with ⟨dev, hdev⟩
    rcases hattached.accesses hok.store hpermitted hdev with ⟨d, hd', hdevice', -, rfl, hlive'⟩
    have hd : target.device = d := Option.some.inj (hdevice.symm.trans hdevice')
    subst hd
    rw [hhandle, hlive', Store.worksWith, hdev]
    exact ⟨Option.some_ne_none hd', rfl⟩
  | openScan hop =>
    subst hop
    cases hy
  | setUp =>
    have hsheds : op.sheds = true := hstage.2.2.1
    rw [Op.sheds_of_data hy] at hsheds
    cases hsheds
  | initChild _ hinit =>
    cases op with
    | i2cDevice | smbusDevice => cases hy
    | _ => exact hinit.elim

/-- **Data operations linearize.**  Let a thread begin an operation on an object at `c₀`, among
    any other threads, and let it have ended at `c`.  The operation was rejected or ran out of
    memory without a native call, or it has made the one of its request, whose answer decides
    how it has ended, unless that was fine and there was no memory to copy what it brought.
    A call that answers has taken place at one instant between `c₀` and `c`, on the device that
    the object had at `c₀`; only the mask of a poller is set by a function that does not. -/
theorem data_operations_linearize {D : Type} {dev : D → Prog.Event Eff.Reply → D → Prop}
    {d₀ : Handle → D} {c₀ c : (deviceSystem T dev).Config}
    (hc₀ : (deviceSystem T dev).Reachable (Machine.cellsInit Store.empty d₀) c₀) {t : T} {op : Op}
    {tr : Trace} (hexecutes : (deviceSystem T dev).ExecutesFrom c₀ t op tr c)
    {out : Except Exn Unit} (hended : c.threads t = .ready op (Prog.ofExcept out)) {y : DataCall}
    (hy : op.resolve c₀.state.state = .data y) :
    ∃ answer : Except Exn y.Ret, out = answer.map (fun _ => ()) ∧ y.Outcome tr answer ∧
      ∀ x reply, ⟨.call x, reply⟩ ∈ tr → ∃ target hd, y.target = some target ∧
        target.device.handle = some hd ∧
          Machine.AtInstant d₀ t op ⟨.call x, reply⟩ hd c₀ c := by
  have hruns : y.prog.void.Runs tr out := by
    have hruns : (op.resolve c₀.state.state).prog.void.Runs tr out := hexecutes.runs hended
    rw [hy] at hruns
    exact hruns
  rcases Prog.runs_void hruns with ⟨answer, hdata, hout⟩
  refine ⟨answer, hout, DataCall.outcome hdata, ?_⟩
  intro x reply hmem
  rcases DataCall.serves hdata hmem with ⟨target, htarget, -⟩
  have hbase := Machine.Reachable.base hc₀
  rcases hexecutes.left hmem with ⟨tr₁, c₁, k, -, hbefore, hbusy, -⟩
  have hworks := data_worksWith hbase hbefore.base hy htarget hbusy
  rcases Option.ne_none_iff_exists'.mp hworks.1 with ⟨hd, hhandle⟩
  refine ⟨target, hd, htarget, hhandle, (system_guards T).instant hc₀ hexecutes hmem ?_⟩
  intro tr₂ c₂ k₂ hbefore₂ hbusy₂
  rw [← hhandle]
  exact (data_worksWith hbase hbefore₂ hy htarget hbusy₂).2

end

section

attribute [local instance] NativeApi.reference

/-- A device that counts its calls, once it has been constructed. -/
theorem calls_atomic_constructed : ∃ c : (deviceSystem Unit fun n _ n' => n' = n + 1).Config,
    (deviceSystem Unit fun n _ n' => n' = n + 1).Reachable
      (Machine.cellsInit Store.empty fun _ => 0) c ∧
    Run (fun (n : Nat) (_ : Prog.Event Eff.Reply) n' => n' = n + 1) 0 (c.state.ended 7)
      (c.state.cell 7) ∧ c.state.cell 7 = 2 := by
  have hidle : (deviceSystem Unit fun n _ n' => n' = n + 1).ReachableIdle
    (Machine.cellsInit Store.empty fun _ => 0) (Machine.cellsInit Store.empty fun _ => 0) := .init
  have hstart := hidle.start () (.construct 0 {}) ⟨rfl, fun _ _ _ hop => by cases hop⟩
  have hopened := hstart.perform ⟨0, some 7, by decide⟩
    ⟨_, Store.openScan_ends rfl rfl nofun, rfl⟩
  have hallocated := hopened.perform true ⟨_, rfl, rfl⟩
  have hmade := hallocated.perform (0 : Addr) ⟨_, ⟨rfl, rfl⟩, rfl⟩
  have hlocked := hmade.perform () ⟨_, ⟨rfl, rfl⟩, rfl⟩
  have hreleased := hlocked.perform ⟨0, (), by decide⟩ ⟨_, rfl, _, rfl, rfl⟩
  have hspeed := hreleased.perform ⟨0, (), by decide⟩ ⟨_, rfl, _, rfl, rfl⟩
  exact ⟨_, hspeed, calls_atomic hspeed 7, rfl⟩

/-- The device counts the call that sets the speed of the bus again. -/
theorem data_operations_linearize_setI2cSpeed :
    ∃ c₀ c : (deviceSystem Unit fun n _ n' => n' = n + 1).Config,
      (deviceSystem Unit fun n _ n' => n' = n + 1).Reachable
        (Machine.cellsInit Store.empty fun _ => 0) c₀ ∧
      Machine.AtInstant (fun _ => 0) () (.device 0 (.setI2cSpeed 400000))
        ⟨.call (.i2cSetSpeed (some 7) 400000), ⟨0, (), by decide⟩⟩ 7 c₀ c := by
  rcases constructed () with ⟨s, hidle, hdevice, -, hself, hmutex⟩
  have htotal : ∀ (n : Nat) (_ : Prog.Event Eff.Reply), ∃ n', n' = n + 1 := fun n _ => ⟨_, rfl⟩
  have hover : ∃ c₀ : (deviceSystem Unit fun (n : Nat) _ n' => n' = n + 1).Config,
      (deviceSystem Unit fun n _ n' => n' = n + 1).Reachable
        (Machine.cellsInit Store.empty fun _ => 0) c₀ ∧ c₀.base = ⟨s, fun _ => .idle⟩ :=
    Machine.Reachable.over_cells htotal hidle
  rcases hover with ⟨⟨x, threads⟩, hc₀, hbase⟩
  cases hbase
  have hstart := Machine.ExecutesAlone.start
    (deviceSystem Unit fun (n : Nat) _ n' => n' = n + 1) x () (.device 0 (.setI2cSpeed 400000))
    ⟨hdevice, fun _ _ _ hop => by cases hop⟩
  have hresolve : Op.resolve x.state (.device 0 (.setI2cSpeed 400000)) =
      .data (.device (some ⟨0, some 7⟩) (.setI2cSpeed 400000)) := by
    rw [← hself]
    rfl
  have hprog : (deviceSystem Unit fun n _ n' => n' = n + 1).prog x
      (.device 0 (.setI2cSpeed 400000)) = (Device.setI2cSpeed (some ⟨0, some 7⟩) 400000).void := by
    rw [← hself]
    rfl
  rw [hprog] at hstart
  have hlocked := hstart.perform () ⟨_, ⟨hmutex, rfl⟩, rfl⟩
  have hcalled := hlocked.perform ⟨0, (), by decide⟩ ⟨_, rfl, _, rfl, rfl⟩
  have hunlocked := hcalled.perform () ⟨_, rfl, rfl⟩
  rcases hunlocked.ended (.ok ()) with ⟨c, hexecutes, hended⟩
  rcases data_operations_linearize hc₀ hexecutes hended hresolve with ⟨answer, -, -, hinstant⟩
  rcases hinstant (.i2cSetSpeed (some 7) 400000) ⟨0, (), by decide⟩ (.tail _ (.head _)) with
    ⟨target, hd, htarget, hhandle, hinstant⟩
  cases htarget
  cases hhandle
  exact ⟨_, c, hc₀, hinstant⟩

end

end EasyMcp2221
