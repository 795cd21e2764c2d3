import EasyMcp2221.EntryPoints
import EasyMcp2221.Effect.Plan

/-!
# Construction is all or nothing

The constructor opens a handle, allocates the `DeviceState` that will own it, and sets
up the I2C engine.  The abstract side is a plan of these steps (`setup`) with what each
of them throws when it fails (`stepFailure`); the release of a stale I2C engine never
counts as failed.  The constructor follows the plan, and when a step fails it closes the
handle that it opened, once, with no mutex locked.
-/

namespace EasyMcp2221

open Effect

/-! ## The plan -/

section

variable [NativeApi]

/-- The native call that opens the device. -/
def openCall (options : DeviceOptions) : NativeCall :=
  .openScan options.vendorId options.productId options.deviceIndex
    (if options.usbSerial = "" then none else some (cString options.usbSerial))
    options.usbReadTimeoutMs options.commandRetries (flag options.debugMessages)
    (flag options.tracePackets) (flag options.scanFlashSerial)

/-- The steps of a construction, when the open returns `handle`. -/
def setup (options : DeviceOptions) (handle : HandlePtr) : List Eff :=
  [.call (openCall options), .alloc, .call (.i2cRelease handle),
    .call (.i2cSetSpeed handle 100000)] ++
    if options.i2cSpeedHz ≠ 100000 then [.call (.i2cSetSpeed handle options.i2cSpeedHz)] else []

/-- The text under which the failure of a step is reported. -/
def stepName : NativeCall → String
  | .openScan .. => "Opening MCP2221"
  | .i2cSetSpeed _ hz =>
    if hz = 100000 then "Setting safe initial I2C speed" else "Setting requested I2C speed"
  | _ => ""

/-- What a step throws when it has failed. -/
def stepFailure : Prog.Event Eff.Reply → Option Exn
  | ⟨.alloc, ok⟩ => if ok then none else some .badAlloc
  | ⟨.call (.i2cRelease _), _⟩ => none
  | ⟨.call c, reply⟩ =>
    if reply.status = err .ok then none else some (statusError reply.status (stepName c))
  | _ => none

/-! ## The steps of a trace -/

/-- The effect is a step of the plan. -/
def Eff.isStep : Eff → Bool
  | .alloc => true
  | .call _ => true
  | _ => false

/-- The steps that a trace performs. -/
def steps (tr : Trace) : Trace := tr.filter fun ev => ev.1.isStep

/-- The handles that a trace closes. -/
def closes (tr : Trace) : List HandlePtr :=
  tr.filterMap fun ev => match ev.1 with
    | .proc (.close handle) => some handle
    | _ => none

/-- The handle that the first step has opened. -/
def openedBy : Trace → HandlePtr
  | ⟨.call (.openScan ..), reply⟩ :: _ => if reply.status = err .ok then reply.out else none
  | _ => none

/-! ## The protocol of the constructor -/

/-- The progress of a construction. -/
structure Building where
  steps : Trace := []
  /-- What the local `state` points to. -/
  pointer : Option DeviceState := none
  /-- What `state_` of the new object points to. -/
  published : Option DeviceState := none
  /-- The mutex that is locked. -/
  held : Option Addr := none
  closes : List HandlePtr := []

namespace Building

def record (q : Building) (ev : Prog.Event Eff.Reply) : Building :=
  { q with steps := q.steps ++ [ev] }

def next (q : Building) : (e : Eff) → e.Reply → Building
  | .alloc, ok => q.record ⟨.alloc, ok⟩
  | .call c, reply => q.record ⟨.call c, reply⟩
  | .lock mutex, _ => { q with held := some mutex }
  | .unlock _, _ => { q with held := none }
  | .proc (.close handle), _ => { q with closes := q.closes ++ [handle] }
  | .own (.makeDeviceState handle), addr => { q with pointer := some ⟨addr, handle⟩ }
  | .own (.commitDevice _), _ => { q with pointer := none, published := q.pointer }
  | .own .releaseDevice, _ => { q with pointer := none }
  | _, _ => q

end Building

/-- The mutex is locked once at a time, and it is free when the handle is closed and when
    the mutex is destroyed.  Nobody else knows the new `DeviceState`, so its last pointer
    is the local one. -/
def building : Protocol Eff Eff.Reply Building where
  allow q
    | .lock _ => q.held = none
    | .unlock mutex => q.held = some mutex
    | .proc (.close _) => q.held = none
    | .own (.deleteDevice _) => q.held = none
    | _ => True
  rely q
    | .own .releaseDevice, last => last = q.pointer
    | _, _ => True
  next := Building.next

/-- The construction has followed its plan.  When it succeeded, the object has the handle
    and the handle is open; when it failed, no object exists and the handle that was opened
    has been closed. -/
structure Built (options : DeviceOptions) (out : Except Exn Unit) (q : Building) : Prop where
  follows : Follows stepFailure (setup options (openedBy q.steps)) q.steps out
  free : q.held = none
  success : out = .ok () →
    q.closes = [] ∧ ∃ addr, q.published = some ⟨addr, openedBy q.steps⟩
  failure : ∀ x, out = .error x →
    q.closes = (openedBy q.steps).toList.map some ∧ q.published = none

/-! ## Rules -/

section Rules

variable {options : DeviceOptions} {handle : HandlePtr} {q : Building} {rest : List Eff}

/-- The open has returned `handle`, and `rest` is still to be done. -/
structure Progress (options : DeviceOptions) (handle : HandlePtr) (rest : List Eff)
    (q : Building) : Prop where
  underway : Underway stepFailure (setup options handle) rest q.steps
  opened : openedBy q.steps = handle
  started : q.steps ≠ []

/-- What the first step has opened does not change. -/
theorem openedBy_append {tr : Trace} (h : tr ≠ []) (ev : Prog.Event Eff.Reply) :
    openedBy (tr ++ [ev]) = openedBy tr := by
  cases tr with
  | nil => exact absurd rfl h
  | cons first tr =>
    obtain ⟨e, r⟩ := first
    cases e with
    | call c => cases c <;> rfl
    | alloc | lock | unlock | proc | own => rfl

theorem Progress.step (ev : Prog.Event Eff.Reply) (h : Progress options handle (ev.1 :: rest) q)
    (hev : stepFailure ev = none) : Progress options handle rest (q.record ev) where
  underway := h.underway.step hev
  opened := (openedBy_append h.started ev).trans h.opened
  started := List.append_ne_nil_of_right_ne_nil _ (List.cons_ne_nil ev [])

/-- A step that failed, before the handle is closed. -/
theorem Progress.fail (ev : Prog.Event Eff.Reply) (h : Progress options handle (ev.1 :: rest) q)
    {x : Exn} (hev : stepFailure ev = some x) :
    openedBy (q.record ev).steps = handle ∧
      Follows stepFailure (setup options handle) (q.record ev).steps (.error x) :=
  ⟨(openedBy_append h.started ev).trans h.opened, h.underway.fail hev⟩

/-- A step that is a checked native call. -/
theorem wp_step {c : NativeCall} {operation : String} {Φ : Prog.Post Exn c.Out Building}
    (hrequired : ∀ reply : c.Reply, stepFailure ⟨.call c, reply⟩ =
      if reply.status = err .ok then none else some (statusError reply.status operation))
    (hok : ∀ reply : c.Reply, reply.status = err .ok → stepFailure ⟨.call c, reply⟩ = none →
      Φ (.ok reply.out) (q.record ⟨.call c, reply⟩))
    (herror : ∀ (reply : c.Reply) x, reply.status ≠ err .ok →
      stepFailure ⟨.call c, reply⟩ = some x → Φ (.error x) (q.record ⟨.call c, reply⟩)) :
    (nativeCall c operation).wp building q Φ := by
  refine ⟨trivial, fun reply _ => ?_⟩
  by_cases hstatus : reply.status = err .ok
  · have hcheck : checkError reply.status operation = .ok () := if_pos hstatus
    simp only [Prog.ret_bind, hcheck]
    exact hok reply hstatus ((hrequired reply).trans (if_pos hstatus))
  · have hcheck : checkError reply.status operation =
        .error (statusError reply.status operation) := if_neg hstatus
    simp only [Prog.ret_bind, hcheck]
    exact herror reply _ hstatus ((hrequired reply).trans (if_neg hstatus))

omit [NativeApi] in
/-- Drop the local `state`: what it still points to is closed and deleted. -/
theorem wp_dropDevice_building {Φ : Prog.Post Exn Unit Building} (hfree : q.held = none)
    (hempty : q.pointer = none → Φ (.ok ()) q)
    (hlast : ∀ d, q.pointer = some d →
      Φ (.ok ()) { q with pointer := none, closes := q.closes ++ d.handle.toList.map some }) :
    dropDevice.wp building q Φ := by
  refine ⟨trivial, fun last hrely => ?_⟩
  have hpointer : last = q.pointer := hrely
  subst hpointer
  cases hq : q.pointer with
  | none =>
    have hsame : { q with pointer := none } = q := by rw [← hq]
    show Φ (.ok ()) { q with pointer := none }
    rw [hsame]
    exact hempty hq
  | some d =>
    have hd := hlast d hq
    cases hhandle : d.handle with
    | none =>
      simp only [hhandle, Prog.ret_bind]
      rw [hhandle] at hd
      simp only [Option.toList_none, List.map_nil, List.append_nil] at hd
      exact ⟨hfree, fun _ _ => hd⟩
    | some h =>
      rw [hhandle] at hd
      simp only [hhandle, Prog.ret_bind]
      exact ⟨hfree, fun _ _ => ⟨hfree, fun _ _ => hd⟩⟩

end Rules

/-! ## The constructor follows its plan -/

/-- Where the scope of `state` ends: the plan is through and the object is published, or a
    step has failed and `state` still holds the handle. -/
structure Initialised (options : DeviceOptions) (handle : HandlePtr) (addr : Addr)
    (out : Except Exn Unit) (q : Building) : Prop where
  follows : Follows stepFailure (setup options handle) q.steps out
  opened : openedBy q.steps = handle
  free : q.held = none
  unclosed : q.closes = []
  success : out = .ok () → q.pointer = none ∧ q.published = some ⟨addr, handle⟩
  failure : ∀ x, out = .error x → q.pointer = some ⟨addr, handle⟩ ∧ q.published = none

section Ends

variable {options : DeviceOptions} {handle : HandlePtr} {addr : Addr} {q : Building}

theorem Initialised.complete
    (hfollows : Follows stepFailure (setup options handle) q.steps (.ok ()))
    (hopened : openedBy q.steps = handle) (hfree : q.held = none) (hunclosed : q.closes = [])
    (hpointer : q.pointer = none) (hpublished : q.published = some ⟨addr, handle⟩) :
    Initialised options handle addr (.ok ()) q where
  follows := hfollows
  opened := hopened
  free := hfree
  unclosed := hunclosed
  success _ := ⟨hpointer, hpublished⟩
  failure x hx := by cases hx

theorem Initialised.failed {x : Exn}
    (hfollows : Follows stepFailure (setup options handle) q.steps (.error x))
    (hopened : openedBy q.steps = handle) (hfree : q.held = none) (hunclosed : q.closes = [])
    (hpointer : q.pointer = some ⟨addr, handle⟩) (hpublished : q.published = none) :
    Initialised options handle addr (.error x) q where
  follows := hfollows
  opened := hopened
  free := hfree
  unclosed := hunclosed
  success hok := by cases hok
  failure _ _ := ⟨hpointer, hpublished⟩

/-- The end of that scope. -/
theorem Initialised.built {out : Except Exn Unit} (h : Initialised options handle addr out q) :
    Prog.onExit building dropDevice (Built options) out q := by
  obtain ⟨hfollows, hopened, hfree, hunclosed, hsuccess, hfailure⟩ := h
  subst hopened
  refine wp_dropDevice_building hfree (fun hempty => ?_) fun d hd => ?_
  · cases out with
    | ok =>
      obtain ⟨-, hpublished⟩ := hsuccess rfl
      exact ⟨hfollows, hfree, fun _ => ⟨hunclosed, addr, hpublished⟩, nofun⟩
    | error x =>
      obtain ⟨hpointer, -⟩ := hfailure x rfl
      rw [hempty] at hpointer
      cases hpointer
  · cases out with
    | ok =>
      obtain ⟨hempty, -⟩ := hsuccess rfl
      rw [hempty] at hd
      cases hd
    | error x =>
      obtain ⟨hpointer, hpublished⟩ := hfailure x rfl
      rw [hpointer] at hd
      cases hd
      refine ⟨hfollows, hfree, nofun, fun y _ => ⟨?_, hpublished⟩⟩
      simp [hunclosed]

end Ends

/-- The scope of `state`: the set-up under the lock, then the hand-over to `state_`. -/
theorem initialiseI2c_builds (w : Var) (options : DeviceOptions) {handle : HandlePtr}
    {addr : Addr} {q : Building}
    (hprogress : Progress options handle
      (.call (.i2cRelease handle) :: .call (.i2cSetSpeed handle 100000) ::
        if options.i2cSpeedHz ≠ 100000 then [.call (.i2cSetSpeed handle options.i2cSpeedHz)]
        else []) q)
    (hpointer : q.pointer = some ⟨addr, handle⟩) (hpublished : q.published = none)
    (hfree : q.held = none) (hunclosed : q.closes = []) :
    ((withLock ⟨addr, handle⟩ (initialiseI2c ⟨addr, handle⟩ options.i2cSpeedHz)).bind fun _ =>
      own (.commitDevice w)).wp building q (Initialised options handle addr) := by
  refine Prog.wp_bind.mpr ⟨hfree, fun _ _ => Prog.wp_cleanup.mpr ?_⟩
  -- the release counts as passed, whatever it answers
  refine ⟨trivial, fun release _ => ?_⟩
  have hreleased := hprogress.step ⟨.call (.i2cRelease handle), release⟩ rfl
  show ((nativeCall _ _).bind _).wp _ _ _
  refine Prog.wp_bind.mpr (wp_step (fun _ => rfl) (fun safe _ hpassed => ?_)
    fun safe x _ hfailed => ?_)
  · have hsafe := hreleased.step ⟨.call (.i2cSetSpeed handle 100000), safe⟩ hpassed
    by_cases hother : options.i2cSpeedHz ≠ 100000
    · rw [if_pos hother] at hsafe
      simp only [Prog.andThen_ok, if_pos hother]
      have hname : ∀ reply : (NativeCall.i2cSetSpeed handle options.i2cSpeedHz).Reply,
          stepFailure ⟨.call (.i2cSetSpeed handle options.i2cSpeedHz), reply⟩ =
            if reply.status = err .ok then none
            else some (statusError reply.status "Setting requested I2C speed") := by
        intro reply
        simp only [stepFailure, stepName, if_neg hother]
      refine wp_step hname (fun speed _ hpassed' => ?_) fun speed x _ hfailed => ?_
      · have hspeed := hsafe.step
          ⟨.call (.i2cSetSpeed handle options.i2cSpeedHz), speed⟩ hpassed'
        exact ⟨rfl, fun _ _ => ⟨trivial, fun _ _ =>
          .complete hspeed.underway.done hspeed.opened rfl hunclosed rfl hpointer⟩⟩
      · obtain ⟨hopened, hfollows⟩ := hsafe.fail _ hfailed
        exact ⟨rfl, fun _ _ => .failed hfollows hopened rfl hunclosed hpointer hpublished⟩
    · rw [if_neg hother] at hsafe
      simp only [Prog.andThen_ok, if_neg hother]
      exact ⟨rfl, fun _ _ => ⟨trivial, fun _ _ =>
        .complete hsafe.underway.done hsafe.opened rfl hunclosed rfl hpointer⟩⟩
  · obtain ⟨hopened, hfollows⟩ := hreleased.fail _ hfailed
    exact ⟨rfl, fun _ _ => .failed hfollows hopened rfl hunclosed hpointer hpublished⟩

theorem construct_builds (w : Var) (options : DeviceOptions)
    (hspeed : ClockInRange options.i2cSpeedHz) :
    (Device.construct w options).wp building {} (Built options) := by
  cases gate_speed options.i2cSpeedHz "Initial I2C speed must be from 1 through 400000 Hz" with
  | reject hno => exact absurd hspeed hno
  | accept _ _ hchecked =>
    refine Prog.wp_require hchecked ?_
    refine Prog.wp_bind.mpr (wp_step (c := openCall options) (fun _ => rfl)
      (fun reply hok hpassed => ?_) fun reply x hno hfailed => ?_)
    · -- the device is open
      have hopened : openedBy [⟨.call (openCall options), reply⟩] = reply.out := if_pos hok
      have hprogress : Progress options reply.out _
          (Building.record {} ⟨.call (openCall options), reply⟩) :=
        ⟨(Underway.start (setup options reply.out)).step hpassed, hopened, List.cons_ne_nil _ _⟩
      refine ⟨trivial, fun ok _ => ?_⟩
      cases ok with
      | false =>
        -- `handleGuard` closes what was opened
        obtain ⟨hhandle, hfollows⟩ := hprogress.fail ⟨.alloc, false⟩ rfl
        have hbuilt : ∀ q : Building,
            q = { Building.record (Building.record {} ⟨.call (openCall options), reply⟩)
              ⟨.alloc, false⟩ with closes := reply.out.toList.map some } →
            Built options (.error .badAlloc) q := by
          rintro _ rfl
          exact ⟨by rw [hhandle]; exact hfollows, rfl, nofun, fun _ _ => ⟨by rw [hhandle], rfl⟩⟩
        cases hout : reply.out with
        | none =>
          simp only [Bool.false_eq_true, if_false, ne_eq, not_true_eq_false]
          exact hbuilt _ (by rw [hout]; rfl)
        | some h =>
          simp only [Bool.false_eq_true, if_false, ne_eq, reduceCtorEq, not_false_eq_true,
            if_true]
          exact ⟨rfl, fun _ _ => hbuilt _ (by rw [hout]; rfl)⟩
      | true =>
        have hallocated := hprogress.step ⟨.alloc, true⟩ rfl
        simp only [if_true]
        refine ⟨trivial, fun addr _ => Prog.wp_cleanup.mpr ?_⟩
        exact Prog.wp_mono (initialiseI2c_builds w options
          ⟨hallocated.underway, hallocated.opened, hallocated.started⟩ rfl rfl rfl rfl)
          fun _ _ h => h.built
    · -- nothing has been opened
      have hnone : openedBy [⟨.call (openCall options), reply⟩] = none := if_neg hno
      refine ⟨?_, rfl, nofun, fun _ _ => ⟨?_, rfl⟩⟩
      · exact (Underway.start _).fail hfailed
      · exact (congrArg (fun h : HandlePtr => h.toList.map some) hnone).symm

/-! ## Runs -/

section Traces

omit [NativeApi]

variable (q : Building) (tr : Trace)

theorem building_steps : (building.after q tr).steps = q.steps ++ steps tr := by
  induction tr generalizing q with
  | nil => simp [steps]
  | cons ev tr ih =>
    obtain ⟨e, r⟩ := ev
    rw [Protocol.after_cons, ih]
    cases e with
    | alloc | call c => simp [building, Building.next, Building.record, steps, Eff.isStep]
    | lock | unlock => simp [building, Building.next, steps, Eff.isStep]
    | proc f => cases f <;> simp [building, Building.next, steps, Eff.isStep]
    | own o => cases o <;> simp [building, Building.next, steps, Eff.isStep]

theorem building_closes : (building.after q tr).closes = q.closes ++ closes tr := by
  induction tr generalizing q with
  | nil => simp [closes]
  | cons ev tr ih =>
    obtain ⟨e, r⟩ := ev
    rw [Protocol.after_cons, ih]
    cases e with
    | alloc | call c => simp [building, Building.next, Building.record, closes]
    | lock | unlock => simp [building, Building.next, closes]
    | proc f => cases f <;> simp [building, Building.next, closes]
    | own o => cases o <;> simp [building, Building.next, closes]

theorem building_locked (hallowed : building.Allowed q tr) :
    lockedAfter q.held.toList tr = (building.after q tr).held.toList := by
  induction tr generalizing q with
  | nil => rfl
  | cons ev tr ih =>
    obtain ⟨e, r⟩ := ev
    obtain ⟨hnow, hrest⟩ := hallowed
    rw [Protocol.after_cons, ← ih _ hrest]
    cases e with
    | lock mutex =>
      have hfree : q.held = none := hnow
      simp [lockedAfter, building, Building.next, hfree]
    | unlock mutex =>
      have hheld : q.held = some mutex := hnow
      simp [lockedAfter, building, Building.next, hheld]
    | alloc | call c => rfl
    | proc f => cases f <;> rfl
    | own o => cases o <;> rfl

end Traces

/-- What a run of the constructor has done when it ends with `out` and `object` is
    `state_` of the new object. -/
structure AllOrNothing (options : DeviceOptions) (tr : Trace) (out : Except Exn Unit)
    (object : Option DeviceState) : Prop where
  /-- A clock out of range is rejected before anything happens. -/
  rejected : ¬ ClockInRange options.i2cSpeedHz →
    tr = [] ∧ ∃ message, out = .error (invalidError message)
  /-- Otherwise only steps of the plan are performed, in order, and none is left out. -/
  planned : ClockInRange options.i2cSpeedHz →
    (steps tr).map Sigma.fst <+: setup options (openedBy (steps tr))
  /-- The constructor returns exactly when the whole plan has passed. -/
  returns : ClockInRange options.i2cSpeedHz → (out = .ok () ↔
    (steps tr).map Sigma.fst = setup options (openedBy (steps tr)) ∧
      ∀ ev ∈ steps tr, stepFailure ev = none)
  /-- Otherwise the plan is cut at its first failing step, and that failure is thrown. -/
  throws : ClockInRange options.i2cSpeedHz → ∀ x, out = .error x →
    ∃ before ev, steps tr = before ++ [ev] ∧ (∀ e ∈ before, stepFailure e = none) ∧
      stepFailure ev = some x
  /-- A constructed object is open, with the requested clock. -/
  success : out = .ok () → Device.isOpen object = true ∧ closes tr = [] ∧
    ∃ before reply, steps tr = before ++
      [⟨.call (.i2cSetSpeed (openedBy (steps tr)) options.i2cSpeedHz), reply⟩]
  /-- Without an object, the handle that was opened is closed exactly once. -/
  failure : ∀ x, out = .error x → object = none ∧
    closes tr = (openedBy (steps tr)).toList.map some
  /-- No mutex is locked at a close, and none at the end. -/
  closedFree : ∀ before handle r after,
    tr = before ++ ⟨.proc (.close handle), r⟩ :: after → lockedAfter [] before = []
  free : lockedAfter [] tr = []

omit [NativeApi] in
/-- The last step sets the requested clock. -/
theorem setup_last (options : DeviceOptions) (handle : HandlePtr) :
    ∃ before, setup options handle =
      before ++ [.call (.i2cSetSpeed handle options.i2cSpeedHz)] := by
  by_cases hother : options.i2cSpeedHz ≠ 100000
  · exact ⟨_, by rw [setup, if_pos hother]⟩
  · refine ⟨[.call (openCall options), .alloc, .call (.i2cRelease handle)], ?_⟩
    rw [setup, if_neg hother, not_not.mp hother]
    rfl

omit [NativeApi] in
/-- A trace whose effects end with `e` ends with an answer to `e`. -/
theorem last_of_map {tr : Trace} {before : List Eff} {e : Eff}
    (h : tr.map Sigma.fst = before ++ [e]) : ∃ before' r, tr = before' ++ [⟨e, r⟩] := by
  obtain ⟨tr₁, tr₂, rfl, -, hlast⟩ := List.map_eq_append_iff.mp h
  obtain ⟨⟨e', r⟩, tr₃, rfl, rfl, hnil⟩ := List.map_eq_cons_iff.mp hlast
  rw [List.map_eq_nil_iff.mp hnil]
  exact ⟨tr₁, r, rfl⟩

/-- A constructor whose clock is out of range does nothing. -/
theorem construct_rejected {w : Var} {options : DeviceOptions} {tr : Trace}
    {out : Except Exn Unit} (hno : ¬ ClockInRange options.i2cSpeedHz)
    (hruns : (Device.construct w options).Runs tr out) :
    tr = [] ∧ ∃ message, out = .error (invalidError message) := by
  cases gate_speed options.i2cSpeedHz "Initial I2C speed must be from 1 through 400000 Hz" with
  | accept hspeed => exact absurd hspeed hno
  | reject _ message hx =>
    have hthrow : Device.construct w options = .throw (invalidError message) :=
      congrArg (fun x => (Prog.ofExcept x).bind _) hx
    rw [hthrow] at hruns
    obtain ⟨rfl, rfl⟩ := Prog.runs_throw.mp hruns
    exact ⟨rfl, message, rfl⟩

/-- Construction is all or nothing, for all options, all answers of the C library and
    either end of the allocation, when the pointer operations of the run are those of a
    local pointer that nobody else shares. -/
theorem construct_runs (w : Var) (options : DeviceOptions) (tr : Trace)
    (out : Except Exn Unit) (howner : building.Relied {} tr)
    (hruns : (Device.construct w options).Runs tr out) :
    AllOrNothing options tr out (building.after {} tr).published := by
  by_cases hspeed : ClockInRange options.i2cSpeedHz
  · obtain ⟨hallowed, hbuilt⟩ := Prog.wp_runs (construct_builds w options hspeed) hruns howner
    obtain ⟨hfollows, hfree, hsuccess, hfailure⟩ := hbuilt
    rw [building_steps, List.nil_append] at hfollows hsuccess hfailure
    rw [building_closes, List.nil_append] at hsuccess hfailure
    have hlocked := building_locked {} tr hallowed
    rw [hfree] at hlocked
    exact
      { rejected := fun hno => absurd hspeed hno
        planned := fun _ => hfollows.performed
        returns := fun _ =>
          ⟨fun hok => ⟨hfollows.whole hok, hfollows.ok_iff.mp hok⟩,
            fun hpassed => hfollows.ok_iff.mpr hpassed.2⟩
        throws := fun _ x hx => hfollows.last_of_error hx
        success := fun hok => by
          obtain ⟨hunclosed, addr, hpublished⟩ := hsuccess hok
          obtain ⟨before, hlast⟩ := setup_last options (openedBy (steps tr))
          refine ⟨?_, hunclosed, last_of_map ((hfollows.whole hok).trans hlast)⟩
          rw [hpublished]
          rfl
        failure := fun x hx => (hfailure x hx).symm
        closedFree := by
          rintro before handle r after rfl
          obtain ⟨hbefore, hnow, -⟩ := (Protocol.allowed_append _ _ _ _).mp hallowed
          have hheld : (building.after {} before).held = none := hnow
          have hprefix := building_locked {} before hbefore
          rw [hheld] at hprefix
          exact hprefix
        free := hlocked }
  · obtain ⟨rfl, message, rfl⟩ := construct_rejected hspeed hruns
    exact
      { rejected := fun _ => ⟨rfl, message, rfl⟩
        planned := fun h => absurd h hspeed
        returns := fun h => absurd h hspeed
        throws := fun h => absurd h hspeed
        success := nofun
        failure := fun _ _ => ⟨rfl, rfl⟩
        closedFree := fun before handle r after h =>
          absurd h.symm (List.append_ne_nil_of_right_ne_nil _ (List.cons_ne_nil _ _))
        free := rfl }

end

end EasyMcp2221
