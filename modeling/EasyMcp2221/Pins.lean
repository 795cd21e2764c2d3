import EasyMcp2221.Polling
import EasyMcp2221.Effect.LastWriter

/-!
# The four pins

`writeGpio`, `configurePins` and `setPinFunction` each say "leave this pin alone" in a way
of their own: a sentinel in one of four named fields, a sentinel in an array beside an
array of levels, or a call that names one pin.  The module states what the native calls do
to a pin, gives each operation its `entry` for a pin, and shows that a pin ends up where
its own entries put it, whatever is asked of the other pins.
-/

namespace EasyMcp2221

open Effect

/-! ## A pin -/

/-- The function of a pin and its output latch. -/
structure PinState where
  function : NativePinFunction
  latch : Int
deriving DecidableEq

/-- The pin is in GPIO mode. -/
def PinState.IsGpio (pin : PinState) : Prop :=
  pin.function = .gpioIn ∨ pin.function = .gpioOut

instance (pin : PinState) : Decidable pin.IsGpio := inferInstanceAs (Decidable (_ ∨ _))

abbrev Pins : Type := Fin 4 → PinState

/-- The level of a latch. -/
def latchLevel (level : Bool) : Int := if level then 1 else 0

def PinFunction.native : PinFunction → NativePinFunction
  | .dedicated => .dedicated
  | .alt0 => .alt0
  | .alt1 => .alt1
  | .alt2 => .alt2
  | .gpioInput => .gpioIn
  | .gpioOutput => .gpioOut

/-! ## What an operation asks of a pin -/

/-- A request for one pin. -/
inductive PinEdit where
  /-- Set the output, if the pin is in GPIO mode. -/
  | write (level : Bool)
  /-- Give the pin a function, and an output its first level. -/
  | assign (function : PinFunction) (level : Bool)

/-- The pin after a request for it, if there is one. -/
def PinState.edit (pin : PinState) : Option PinEdit → PinState
  | none => pin
  | some (.write level) => if pin.IsGpio then { pin with latch := latchLevel level } else pin
  | some (.assign function level) =>
    { function := function.native
      latch := if function = .gpioOutput then latchLevel level else pin.latch }

/-- The operations on the pins. -/
inductive PinOp where
  | writeGpio (values : GpioWrite)
  | configurePins (configuration : PinConfigurations)
  | setPinFunction (pin : CppEnum Pin) (function : CppEnum PinFunction)

/-- What a `PinConfiguration` asks of its pin. -/
def PinConfiguration.edit (entry : PinConfiguration) : Option PinEdit :=
  match entry.function with
  | some (.named function) => some (.assign function entry.outputValue)
  | _ => none

/-- What an operation asks of the pin `j`. -/
def PinOp.entry (j : Fin 4) : PinOp → Option PinEdit
  | .writeGpio values => (values.pins j).map .write
  | .configurePins configuration => (configuration j).edit
  | .setPinFunction (.named pin) (.named function) =>
    if pin = Pin.ofIndex j then some (.assign function false) else none
  | .setPinFunction _ _ => none

/-- A call and how it ended. -/
structure PinCall where
  op : PinOp
  out : Except Exn Unit

/-- The exception is an `Error` with code `GpioMode`. -/
def Exn.isGpioMode : Exn → Bool
  | .error code _ _ => code = .gpioMode
  | _ => false

/-- The call took effect: it succeeded, or it is a `writeGpio` that ended in `GpioMode`. -/
def PinCall.tookEffect (call : PinCall) : Bool :=
  match call.out with
  | .ok () => true
  | .error x =>
    match call.op with
    | .writeGpio _ => x.isGpioMode
    | .configurePins _ => false
    | .setPinFunction _ _ => false

@[simp] theorem tookEffect_ok (op : PinOp) : (PinCall.mk op (.ok ())).tookEffect = true := rfl

@[simp] theorem tookEffect_configurePins_error (configuration : PinConfigurations) (x : Exn) :
    (PinCall.mk (.configurePins configuration) (.error x)).tookEffect = false := rfl

@[simp] theorem tookEffect_setPinFunction_error (pin : CppEnum Pin)
    (function : CppEnum PinFunction) (x : Exn) :
    (PinCall.mk (.setPinFunction pin function) (.error x)).tookEffect = false := rfl

section

variable [NativeApi]

def PinOp.prog (self : Option DeviceState) : PinOp → M Unit
  | .writeGpio values => Device.writeGpio self values
  | .configurePins configuration => Device.configurePins self configuration
  | .setPinFunction pin function => Device.setPinFunction self pin function

/-! ## The C library, pin by pin -/

/-- `mcp2221_gpio_write`, for one pin. -/
def PinState.write (pin : PinState) (value : Int) : PinState :=
  if value ≠ NativeApi.gpioKeep ∧ pin.IsGpio then { pin with latch := value } else pin

/-- `mcp2221_pin_set_functions`, for one pin. -/
def PinState.setFunction (pin : PinState) (function : NativePinFunction) (level : Int) : PinState :=
  if function = .keep then pin
  else { function, latch := if function = .gpioOut then level else pin.latch }

/-- The field of a pin. -/
def NativeGpioWrite.value (request : NativeGpioWrite) : Fin 4 → Int
  | 0 => request.gp0
  | 1 => request.gp1
  | 2 => request.gp2
  | 3 => request.gp3

def NativePin.index : NativePin → Fin 4
  | .gp0 => 0
  | .gp1 => 1
  | .gp2 => 2
  | .gp3 => 3

/-- What a call that ended with `status` has done to the pins.  A write that reports
    `MCP2221_ERR_GPIO_MODE` has set the pins in GPIO mode; `mcp2221_pin_set_function` sets
    the latch of an output low. -/
def NativeCall.onPins (status : Int) : NativeCall → Pins → Pins
  | .gpioWrite _ request, pins =>
    if status = err .ok ∨ status = err .gpioMode then fun j => (pins j).write (request.value j)
    else pins
  | .pinSetFunctions _ request, pins =>
    if status = err .ok then fun j => (pins j).setFunction (request.gp j) (request.out j) else pins
  | .pinSetFunction _ pin function, pins =>
    if status = err .ok then
      Function.update pins pin.index ((pins pin.index).setFunction function 0)
    else pins
  | _, pins => pins

/-- A write reports `MCP2221_ERR_GPIO_MODE` exactly when some pin that it names is not in
    GPIO mode, unless it fails altogether. -/
def NativeCall.ReportsMode (pins : Pins) (status : Int) : NativeCall → Prop
  | .gpioWrite _ request =>
    (status = err .ok → ∀ j, request.value j ≠ NativeApi.gpioKeep → (pins j).IsGpio) ∧
      (status = err .gpioMode → ∃ j, request.value j ≠ NativeApi.gpioKeep ∧ ¬ (pins j).IsGpio)
  | _ => True

/-- The C library as the environment of an operation on the pins. -/
def pinwise : Protocol Eff Eff.Reply Pins where
  allow _ _ := True
  rely pins
    | .call c, reply => c.ReportsMode pins reply.status
    | _, _ => True
  next pins
    | .call c, reply => c.onPins reply.status pins
    | _, _ => pins

/-- One call on the open device `d`. -/
def PinStep (d : DeviceState) (pins : Pins) (call : PinCall) (pins' : Pins) : Prop :=
  ∃ tr, (call.op.prog (some d)).Runs tr call.out ∧ pinwise.Relied pins tr ∧
    pins' = pinwise.after pins tr

/-! ## One call -/

/-- What becomes of the pins in a call: every pin is edited as its entry says, if the call
    takes effect, and is left alone otherwise. -/
def PinOp.Edits (op : PinOp) (pins : Pins) : Prog.Post Exn Unit Pins := fun out pins' =>
  ∀ j, pins' j = if (PinCall.mk op out).tookEffect then (pins j).edit (op.entry j) else pins j

theorem lockless_pinwise : Lockless pinwise :=
  fun _ _ => ⟨⟨trivial, rfl⟩, trivial, rfl⟩

theorem value_toNativeGpioWrite (values : GpioWrite) (j : Fin 4) :
    (toNativeGpioWrite values).value j =
      match values.pins j with
      | none => NativeApi.gpioKeep
      | some level => latchLevel level := by
  match j with
  | 0 | 1 | 2 | 3 => rfl

/-- The sentinel of a disengaged entry is no level. -/
def KeepIsNoLevel : Prop := ∀ level, latchLevel level ≠ NativeApi.gpioKeep

theorem write_toNativeGpioWrite (hkeep : KeepIsNoLevel) (pin : PinState) (values : GpioWrite)
    (j : Fin 4) : pin.write ((toNativeGpioWrite values).value j) =
      pin.edit ((values.pins j).map .write) := by
  rw [value_toNativeGpioWrite]
  cases values.pins j with
  | none => simp [PinState.write, PinState.edit]
  | some level => simp [PinState.write, PinState.edit, hkeep level]

theorem toErrorCode_eq_gpioMode {code : Int} (h : toErrorCode code = .gpioMode) :
    code = err .gpioMode := by
  by_cases hlisted : ∃ e, code = err e
  · obtain ⟨e, rfl⟩ := hlisted
    rw [toErrorCode_err] at h
    cases e <;> first | rfl | cases h
  · rw [toErrorCode_unlisted (not_exists.mp hlisted)] at h
    cases h

/-- A `writeGpio` took effect exactly when its native call did. -/
theorem tookEffect_writeGpio (values : GpioWrite) (status : Int) (operation : String) :
    (PinCall.mk (.writeGpio values) (if status = err .ok then .ok ()
      else .error (statusError status operation))).tookEffect =
        decide (status = err .ok ∨ status = err .gpioMode) := by
  by_cases hok : status = err .ok
  · simp [hok]
  · rw [if_neg hok]
    have hcode : toErrorCode status = .gpioMode ↔ status = err .gpioMode :=
      ⟨toErrorCode_eq_gpioMode, fun h => by rw [h, toErrorCode_err]; rfl⟩
    simp [PinCall.tookEffect, Exn.isGpioMode, statusError, hcode, hok]

theorem writeGpio_edits (hkeep : KeepIsNoLevel) (d : DeviceState) (values : GpioWrite)
    {pins : Pins} :
    (Device.writeGpio (some d) values).wp pinwise pins (PinOp.Edits (.writeGpio values) pins) := by
  refine Prog.wp_require rfl
    (lockless_pinwise.wp_withLock (wp_nativeCall trivial fun reply _ j => ?_))
  rw [tookEffect_writeGpio]
  simp only [pinwise, NativeCall.onPins, decide_eq_true_eq]
  split_ifs
  · exact write_toNativeGpioWrite hkeep (pins j) values j
  · rfl

theorem toNativePinFunction_named (function : PinFunction) :
    toNativePinFunction (.named function) = .ok function.native := by
  cases function <;> rfl

omit [NativeApi] in
theorem PinFunction.native_ne_keep (function : PinFunction) : function.native ≠ .keep := by
  cases function <;> nofun

omit [NativeApi] in
theorem PinFunction.native_eq_gpioOut (function : PinFunction) :
    function.native = .gpioOut ↔ function = .gpioOutput := by
  cases function <;> simp [native]

omit [NativeApi] in
/-- The native function sets what the entry assigns. -/
theorem setFunction_native (pin : PinState) (function : PinFunction) (level : Bool) :
    pin.setFunction function.native (latchLevel level) =
      pin.edit (some (.assign function level)) := by
  simp only [PinState.setFunction, PinState.edit, if_neg function.native_ne_keep,
    function.native_eq_gpioOut]

/-- What `configurePins` makes of an entry does to the pin what the entry says. -/
theorem setFunction_toNativePinConfiguration {entry : PinConfiguration}
    {native : NativePinFunction × Int} (h : toNativePinConfiguration entry = .ok native)
    (pin : PinState) : pin.setFunction native.1 native.2 = pin.edit entry.edit := by
  obtain ⟨_ | function | ⟨raw, houtside⟩, level⟩ := entry
  · cases level <;> cases h
    rfl
  · have hlevel : native = (function.native, latchLevel level) := by
      cases level <;> cases function <;> cases h <;> rfl
    rw [hlevel]
    exact setFunction_native pin function level
  · cases h

theorem configurePins_edits (d : DeviceState) (configuration : PinConfigurations) {pins : Pins} :
    (Device.configurePins (some d) configuration).wp pinwise pins
      (PinOp.Edits (.configurePins configuration) pins) := by
  refine Prog.wp_require rfl (Prog.wp_bind.mpr (Prog.wp_ofExcept.mpr ?_))
  cases hx : toNativePinFunctions configuration with
  | error x => exact fun j => by rw [tookEffect_configurePins_error]; rfl
  | ok native =>
    obtain ⟨entries, hentries, hlast⟩ := bind_eq_ok.mp hx
    cases hlast
    refine lockless_pinwise.wp_withLock (wp_nativeCall trivial fun reply _ j => ?_)
    simp only [pinwise, NativeCall.onPins]
    by_cases hok : reply.status = err .ok
    · rw [if_pos hok, if_pos hok, tookEffect_ok]
      exact setFunction_toNativePinConfiguration (arrayM_eq_ok.mp hentries j) (pins j)
    · rw [if_neg hok, if_neg hok, tookEffect_configurePins_error]
      rfl

omit [NativeApi] in
theorem Pin.ofIndex_injective : Function.Injective Pin.ofIndex := by decide

theorem toNativePin_index (pin : Pin) :
    ∃ native, toNativePin (.named pin) = .ok native ∧ Pin.ofIndex native.index = pin := by
  cases pin <;> exact ⟨_, rfl, rfl⟩

theorem setPinFunction_edits (d : DeviceState) (pin : CppEnum Pin)
    (function : CppEnum PinFunction) {pins : Pins} :
    (Device.setPinFunction (some d) pin function).wp pinwise pins
      (PinOp.Edits (.setPinFunction pin function) pins) := by
  refine Prog.wp_require rfl (lockless_pinwise.wp_withLock ?_)
  cases pin with
  | unnamed raw houtside => exact fun j => by rw [tookEffect_setPinFunction_error]; rfl
  | named pin =>
    obtain ⟨native, hnative, rfl⟩ := toNativePin_index pin
    refine Prog.wp_require hnative ?_
    cases function with
    | unnamed raw houtside => exact fun j => by rw [tookEffect_setPinFunction_error]; rfl
    | named function =>
      refine Prog.wp_require (toNativePinFunction_named function)
        (wp_nativeCall trivial fun reply _ j => ?_)
      simp only [pinwise, NativeCall.onPins, PinOp.entry]
      by_cases hok : reply.status = err .ok
      · rw [if_pos hok, if_pos hok, tookEffect_ok, if_pos rfl]
        by_cases hj : j = native.index
        · rw [hj, Function.update_self, if_pos rfl]
          exact setFunction_native (pins native.index) function false
        · rw [Function.update_of_ne hj, if_neg fun heq => hj (Pin.ofIndex_injective heq.symm)]
          rfl
      · rw [if_neg hok, if_neg hok, tookEffect_setPinFunction_error]
        rfl

/-- **One call edits every pin by its own entry.** -/
theorem PinOp.edits (hkeep : KeepIsNoLevel) (d : DeviceState) (op : PinOp) {pins : Pins} :
    (op.prog (some d)).wp pinwise pins (op.Edits pins) := by
  cases op with
  | writeGpio values => exact writeGpio_edits hkeep d values
  | configurePins configuration => exact configurePins_edits d configuration
  | setPinFunction pin function => exact setPinFunction_edits d pin function

/-! ## Sequences of calls -/

/-- What a call does to the pin `j`. -/
def PinState.follow (j : Fin 4) (pin : PinState) (call : PinCall) : PinState :=
  if call.tookEffect then pin.edit (call.op.entry j) else pin

omit [NativeApi] in
/-- Calls without effect can be left out. -/
theorem foldl_follow (j : Fin 4) (pin : PinState) (calls : List PinCall) :
    calls.foldl (PinState.follow j) pin =
      ((calls.filter PinCall.tookEffect).map fun call => call.op.entry j).foldl PinState.edit
        pin := by
  rw [List.foldl_map, List.foldl_filter]
  rfl

/-- The two calls are the same to the pin `j`: both take effect with the same entry for it,
    or neither does. -/
def SameFor (j : Fin 4) (call call' : PinCall) : Prop :=
  call.tookEffect = call'.tookEffect ∧
    (call.tookEffect = true → call.op.entry j = call'.op.entry j)

omit [NativeApi] in
theorem SameFor.follow {j : Fin 4} {call call' : PinCall} (h : SameFor j call call')
    (pin : PinState) : pin.follow j call = pin.follow j call' := by
  unfold PinState.follow
  rw [h.1]
  split_ifs with htook
  · rw [h.2 (h.1.trans htook)]
  · rfl

omit [NativeApi] in
theorem foldl_follow_congr {j : Fin 4} {calls calls' : List PinCall}
    (h : List.Forall₂ (SameFor j) calls calls') (pin : PinState) :
    calls.foldl (PinState.follow j) pin = calls'.foldl (PinState.follow j) pin := by
  induction h generalizing pin with
  | nil => rfl
  | cons hfirst _ ih => rw [List.foldl_cons, List.foldl_cons, hfirst.follow, ih]

theorem PinStep.follow (hkeep : KeepIsNoLevel) {d : DeviceState} {pins pins' : Pins}
    {call : PinCall} (hstep : PinStep d pins call pins') (j : Fin 4) :
    pins' j = (pins j).follow j call := by
  obtain ⟨tr, hruns, hrelied, rfl⟩ := hstep
  exact (Prog.wp_runs (call.op.edits hkeep d) hruns hrelied).2 j

/-- A call can always be answered: a write with a pin that is not in GPIO mode may fail. -/
theorem PinStep.exists (hkeep : KeepIsNoLevel) (d : DeviceState) (pins : Pins) (op : PinOp) :
    ∃ call pins', call.op = op ∧ PinStep d pins call pins' := by
  have hfails : ∃ status, IsInt status ∧ status ≠ err .ok ∧ status ≠ err .gpioMode := by
    by_cases hmode : err .gpioMode = -1
    · exact ⟨-2, by decide, by rw [NativeApi.err_ok]; decide, by rw [hmode]; decide⟩
    · exact ⟨-1, by decide, by rw [NativeApi.err_ok]; decide, fun h => hmode h.symm⟩
  obtain ⟨status, hint, hok, hmode⟩ := hfails
  have hlive : ∀ pins e, ∃ r, pinwise.rely pins e r := by
    refine Eff.live (fun pins c => ?_) fun pins e r hno => ?_
    · obtain ⟨out⟩ := c.out_nonempty
      refine ⟨⟨status, out, hint⟩, ?_⟩
      cases c with
      | gpioWrite => exact ⟨fun h => absurd h hok, fun h => absurd h hmode⟩
      | _ => trivial
    · cases e with
      | call c => exact absurd rfl (hno c)
      | _ => trivial
  obtain ⟨tr, out, hruns, hrelied⟩ :=
    Prog.wp_live (fun pins e _ => hlive pins e) (@PinOp.edits _ hkeep d op pins)
  exact ⟨⟨op, out⟩, _, rfl, tr, hruns, hrelied, rfl⟩

/-- **Pins do not interfere.**  After any sequence of `writeGpio`, `configurePins` and
    `setPinFunction`, a pin is what the entries for it of the calls that took effect make
    of it, in their order.  Two sequences whose calls are the same to a pin leave it the
    same, whatever they ask of the other pins and wherever these began. -/
theorem pins_do_not_interfere (hkeep : KeepIsNoLevel) (d : DeviceState) :
    (∀ pins ops, ∃ calls pins', calls.map PinCall.op = ops ∧ Run (PinStep d) pins calls pins') ∧
    (∀ pins calls pins', Run (PinStep d) pins calls pins' → ∀ j,
      pins' j = ((calls.filter PinCall.tookEffect).map fun call => call.op.entry j).foldl
        PinState.edit (pins j)) ∧
    ∀ j first first' calls other other' calls', Run (PinStep d) first calls first' →
      Run (PinStep d) other calls' other' → first j = other j →
      List.Forall₂ (SameFor j) calls calls' → first' j = other' j := by
  have hfold : ∀ {pins calls pins'}, Run (PinStep d) pins calls pins' → ∀ j,
      pins' j = calls.foldl (PinState.follow j) (pins j) := fun hrun j =>
    hrun.project (fun pins => pins j) fun _ _ _ hstep => hstep.follow hkeep j
  refine ⟨Run.total PinCall.op (PinStep.exists hkeep d), fun pins calls pins' hrun j => ?_,
    fun j first first' calls other other' calls' hrun hrun' hsame hcalls => ?_⟩
  · rw [hfold hrun, foldl_follow]
  · rw [hfold hrun, hfold hrun', hsame, foldl_follow_congr hcalls]

end

section

attribute [local instance] NativeApi.reference

/-- Three outputs, low, and a pin that is no GPIO. -/
def mixedPins : Pins := fun j => ⟨if j = 3 then .alt0 else .gpioOut, 0⟩

/-- The first pin is asked to rise, and so is the one that is no GPIO. -/
def partialWrite : PinCall where
  op := .writeGpio { pins := fun j => if j = 0 ∨ j = 3 then some true else none }
  out := .error (statusError (err .gpioMode) "Writing GPIO state")

/-- The write ends in `GpioMode`, and the first pin has risen. -/
theorem pins_do_not_interfere_partial : ∃ pins',
    Run (PinStep ⟨0, some 7⟩) mixedPins [partialWrite] pins' ∧
      pins' 0 = ⟨.gpioOut, 1⟩ ∧ pins' 1 = ⟨.gpioOut, 0⟩ := by
  have hkeep : KeepIsNoLevel := by
    rintro (_ | _) <;> decide
  have hruns : (partialWrite.op.prog (some ⟨0, some 7⟩)).Runs
      [⟨.lock 0, ()⟩, ⟨.call (.gpioWrite (some 7) ⟨1, -1, -1, 1⟩), ⟨err .gpioMode, (), by decide⟩⟩,
        ⟨.unlock 0, ()⟩] partialWrite.out :=
    runs_vis (.lock 0) () (runs_vis (.call (.gpioWrite (some 7) ⟨1, -1, -1, 1⟩)) _
      (runs_vis (.unlock 0) () (.throw _)))
  have hstep : PinStep ⟨0, some 7⟩ mixedPins partialWrite _ :=
    ⟨_, hruns, ⟨trivial, ⟨nofun, fun _ => ⟨3, by decide, by decide⟩⟩, trivial, trivial⟩, rfl⟩
  have hrun := Run.cons hstep (.nil _)
  have hpins := (pins_do_not_interfere hkeep ⟨0, some 7⟩).2.1 _ _ _ hrun
  exact ⟨_, hrun, hpins 0, hpins 1⟩

end

end EasyMcp2221
