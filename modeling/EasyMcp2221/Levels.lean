import EasyMcp2221.Pins

/-!
# Batches and levels

Two consequences of the pins going their own ways.  The batch call `configurePins` does what
`setPinFunction` and `writeGpio` do one pin at a time, in any order of the pins; and
`readGpio` reports, of every pin in GPIO mode, the level that its own calls have left there,
or the level of the outside world.
-/

namespace EasyMcp2221

open Effect

/-! ## One pin at a time -/

/-- Only the pin `j` is written. -/
def GpioWrite.only (j : Fin 4) (level : Bool) : GpioWrite where
  pins i := if i = j then some level else none

/-- The calls that give the pin `j` what an entry of `configurePins` gives it: its function,
    and then, if it is an output, its level. -/
def PinConfiguration.singles (j : Fin 4) (entry : PinConfiguration) : List PinOp :=
  match entry.function with
  | none => []
  | some function =>
    .setPinFunction (.named (Pin.ofIndex j)) function ::
      if entry.outputValue then [.writeGpio (.only j true)] else []

/-- The same for several pins, in this order. -/
def PinConfigurations.singles (configuration : PinConfigurations) (order : List (Fin 4)) :
    List PinOp :=
  order.flatMap fun j => (configuration j).singles j

theorem GpioWrite.only_pins {i j : Fin 4} {level : Bool} :
    (GpioWrite.only j level).pins i = if i = j then some level else none := rfl

theorem entry_setPinFunction {i j : Fin 4} {function : PinFunction} :
    (PinOp.setPinFunction (.named (Pin.ofIndex j)) (.named function)).entry i =
      if i = j then some (.assign function false) else none := by
  simp only [PinOp.entry, Pin.ofIndex_injective.eq_iff, eq_comm]

/-- The calls for one pin ask nothing of another. -/
theorem entry_singles_of_ne {i j : Fin 4} (hne : i ≠ j) {entry : PinConfiguration} {op : PinOp}
    (hop : op ∈ entry.singles j) : op.entry i = none := by
  unfold PinConfiguration.singles at hop
  cases hfunction : entry.function with
  | none =>
    rw [hfunction] at hop
    cases hop
  | some function =>
    rw [hfunction] at hop
    rcases List.mem_cons.mp hop with rfl | hwrite
    · cases function with
      | named function => rw [entry_setPinFunction, if_neg hne]
      | unnamed raw houtside => rfl
    · split at hwrite
      · rcases List.mem_singleton.mp hwrite with rfl
        rw [PinOp.entry, GpioWrite.only_pins, if_neg hne, Option.map_none]
      · cases hwrite

/-- A pin that is left alone stays. -/
theorem foldl_edit_of_none {pin : PinState} {edits : List (Option PinEdit)}
    (h : ∀ edit ∈ edits, edit = none) : edits.foldl PinState.edit pin = pin := by
  induction edits with
  | nil => rfl
  | cons edit edits ih =>
    rw [List.foldl_cons, h edit (.head _)]
    exact ih fun edit' hmem => h edit' (.tail _ hmem)

section

variable [NativeApi]

/-- The level of an entry is only that of an output: the others are rejected. -/
theorem output_of_accepted {entry : PinConfiguration} {native : NativePinFunction × Int}
    (h : toNativePinConfiguration entry = .ok native) (hlevel : entry.outputValue = true) :
    entry.function = some (.named .gpioOutput) := by
  rcases entry with ⟨_ | function | ⟨raw, houtside⟩, level⟩
  · cases hlevel
    cases h
  · cases hlevel
    cases function <;> first | rfl | cases h
  · cases h

/-- **For one pin**: its calls, one after the other, edit it as the entry does. -/
theorem foldl_singles {entry : PinConfiguration} {native : NativePinFunction × Int}
    (h : toNativePinConfiguration entry = .ok native) (j : Fin 4) (pin : PinState) :
    ((entry.singles j).map (PinOp.entry j)).foldl PinState.edit pin = pin.edit entry.edit := by
  rcases entry with ⟨_ | function | ⟨raw, houtside⟩, level⟩
  · rfl
  · have hassigned : PinOp.entry j (.setPinFunction (.named (Pin.ofIndex j)) (.named function)) =
        some (.assign function false) := by
      rw [entry_setPinFunction, if_pos rfl]
    cases level with
    | false =>
      simp [PinConfiguration.singles, PinConfiguration.edit, hassigned]
    | true =>
      have hwritten : PinOp.entry j (.writeGpio (.only j true)) = some (.write true) := by
        simp [PinOp.entry, GpioWrite.only_pins]
      have houtput : function = .gpioOutput := by
        simpa using output_of_accepted h rfl
      subst houtput
      -- The first call leaves the output low, so the second finds a pin in GPIO mode.
      simp [PinConfiguration.singles, PinConfiguration.edit, hassigned, hwritten,
        PinState.edit, PinState.IsGpio, PinFunction.native]
  · cases h

/-- For one pin, the calls for all the pins: those for the others do not reach it. -/
theorem foldl_configuration_singles {configuration : PinConfigurations} {order : List (Fin 4)}
    (hnodup : order.Nodup) {native : Fin 4 → NativePinFunction × Int}
    (hnative : ∀ j, toNativePinConfiguration (configuration j) = .ok (native j))
    (j : Fin 4) (pin : PinState) :
    ((configuration.singles order).map (PinOp.entry j)).foldl PinState.edit pin =
      if j ∈ order then pin.edit (configuration j).edit else pin := by
  induction order generalizing pin with
  | nil => rfl
  | cons i order ih =>
    rcases List.nodup_cons.mp hnodup with ⟨hfresh, hrest⟩
    have hsplit : configuration.singles (i :: order) =
        (configuration i).singles i ++ configuration.singles order := List.flatMap_cons
    rw [hsplit, List.map_append, List.foldl_append]
    by_cases hj : j = i
    · subst hj
      rw [foldl_singles (hnative j), ih hrest, if_neg hfresh, if_pos (.head _)]
    · have hother : ∀ edit ∈ ((configuration i).singles i).map (PinOp.entry j), edit = none := by
        intro edit hmem
        rcases List.mem_map.mp hmem with ⟨op, hop, rfl⟩
        exact entry_singles_of_ne hj hop
      rw [foldl_edit_of_none hother, ih hrest]
      simp [hj]

/-- A `configurePins` that returns has found every entry well formed. -/
theorem accepted_of_configurePins {d : DeviceState} {configuration : PinConfigurations}
    {pins pins' : Pins} (hstep : PinStep d pins ⟨.configurePins configuration, .ok ()⟩ pins') :
    ∃ native : Fin 4 → NativePinFunction × Int,
      ∀ j, toNativePinConfiguration (configuration j) = .ok (native j) := by
  rcases hstep with ⟨tr, hruns, hrelied, -⟩
  have hpost : (Device.configurePins (some d) configuration).wp pinwise pins fun out _ =>
      out = .ok () →
        ∃ native : Fin 4 → NativePinFunction × Int,
          ∀ j, toNativePinConfiguration (configuration j) = .ok (native j) := by
    refine Prog.wp_require rfl (Prog.wp_bind.mpr (Prog.wp_ofExcept.mpr ?_))
    cases hx : toNativePinFunctions configuration with
    | error x =>
      intro hok
      cases hok
    | ok native =>
      rcases bind_eq_ok.mp hx with ⟨entries, hentries, -⟩
      refine lockless_pinwise.wp_withLock (wp_nativeCall trivial ?_)
      intro reply _ _
      exact ⟨entries, arrayM_eq_ok.mp hentries⟩
  exact (Prog.wp_runs hpost hruns hrelied).2 rfl

omit [NativeApi] in
/-- Calls that return take effect. -/
theorem foldl_follow_returned (j : Fin 4) (pin : PinState) (ops : List PinOp) :
    (ops.map fun op => PinCall.mk op (.ok ())).foldl (PinState.follow j) pin =
      (ops.map (PinOp.entry j)).foldl PinState.edit pin := by
  rw [List.foldl_map, List.foldl_map]
  rfl

/-- **A batch is its single calls.**  `configurePins` leaves the pins as the calls of
    `setPinFunction` and `writeGpio` leave them that give each pin of its own what its entry
    says: for the pins in any order, each at most once and none with an entry left out. -/
theorem batch_is_single_calls (hkeep : KeepIsNoLevel) {d : DeviceState}
    {configuration : PinConfigurations} {order : List (Fin 4)} (hnodup : order.Nodup)
    (hall : ∀ j, (configuration j).function ≠ none → j ∈ order) {pins batch single : Pins}
    (hbatch : PinStep d pins ⟨.configurePins configuration, .ok ()⟩ batch)
    (hsingle : Run (PinStep d) pins
      ((configuration.singles order).map fun op => ⟨op, .ok ()⟩) single) : batch = single := by
  rcases accepted_of_configurePins hbatch with ⟨native, hnative⟩
  funext j
  have hone : batch j = (pins j).edit (configuration j).edit := hbatch.follow hkeep j
  have hmany := hsingle.project (fun pins => pins j) fun _ _ _ hstep => hstep.follow hkeep j
  rw [foldl_follow_returned, foldl_configuration_singles hnodup hnative] at hmany
  rw [hone, hmany]
  split_ifs with hj
  · rfl
  · -- A pin that is not called for has no entry, so the batch left it alone, too.
    have hnone : (configuration j).function = none := by_contra fun h => hj (hall j h)
    simp [PinConfiguration.edit, hnone, PinState.edit]

/-! ## Reading the levels -/

/-- What there is to read at a pin: the level of its latch, the level outside, or nothing
    for a pin that is not in GPIO mode. -/
def PinState.reads (outside : Bool) (pin : PinState) : Option Bool :=
  match pin.function with
  | .gpioOut => some (pin.latch ≠ 0)
  | .gpioIn => some outside
  | _ => none

/-- What `mcp2221_gpio_read_mask` stores: the mask of the pins in GPIO mode, and the level
    of each of them. -/
def NativeCall.ReportsLevels (outside : Fin 4 → Bool) (pins : Pins) :
    (c : NativeCall) → c.Reply → Prop
  | .gpioReadMask _, reply =>
    reply.status = err .ok → ∀ j : Fin 4,
      match (pins j).reads (outside j) with
      | none => reply.out.2.toNat.testBit j = false
      | some level => reply.out.2.toNat.testBit j = true ∧ reply.out.1 j = latchLevel level
  | _, _ => True

/-- The C library, while the world outside drives the pins to these levels. -/
def readout (outside : Fin 4 → Bool) : Protocol Eff Eff.Reply Pins where
  allow _ _ := True
  rely pins
    | .call c, reply => c.ReportsMode pins reply.status ∧ c.ReportsLevels outside pins reply
    | _, _ => True
  next := pinwise.next

theorem lockless_readout (outside : Fin 4 → Bool) : Lockless (readout outside) := by
  intro _ _
  exact ⟨⟨trivial, rfl⟩, trivial, rfl⟩

/-- The loop of `readGpio` at a pin. -/
theorem toGpioPinState_reads {outside : Fin 4 → Bool} {pins : Pins} {dev : HandlePtr}
    {reply : (NativeCall.gpioReadMask dev).Reply} (hstatus : reply.status = err .ok)
    (hlevels : NativeCall.ReportsLevels outside pins _ reply) (j : Fin 4) :
    toGpioPinState reply.out.2 reply.out.1 j = .ok ((pins j).reads (outside j)) := by
  have hpin := hlevels hstatus j
  cases hreads : (pins j).reads (outside j) with
  | none =>
    rw [hreads] at hpin
    exact if_pos hpin
  | some level =>
    rw [hreads] at hpin
    rcases hpin with ⟨hmask, hvalue⟩
    cases level <;> simp [toGpioPinState, hmask, hvalue, latchLevel]

/-- How a read ends. -/
def Reads (outside : Fin 4 → Bool) (pins : Pins) : Except Exn GpioState → Prop
  | .ok state => ∀ j, state.pins j = (pins j).reads (outside j)
  | .error x => ∃ status, status ≠ err .ok ∧ x = statusError status "Reading GPIO state"

theorem readGpio_reads (d : DeviceState) (outside : Fin 4 → Bool) {pins : Pins} :
    (Device.readGpio (some d)).wp (readout outside) pins fun out pins' =>
      pins' = pins ∧ Reads outside pins out := by
  refine Prog.wp_require rfl (Prog.wp_bind.mpr ((lockless_readout outside).wp_withLock
    (wp_nativeCall trivial ?_)))
  intro reply hrely
  by_cases hstatus : reply.status = err .ok
  · rw [if_pos hstatus]
    have hloop : toGpioState reply.out = .ok ⟨fun j => (pins j).reads (outside j)⟩ :=
      bind_eq_ok.mpr ⟨_, arrayM_eq_ok.mpr (toGpioPinState_reads hstatus hrely.2), rfl⟩
    refine Prog.wp_ofExcept.mpr ?_
    rw [hloop]
    exact ⟨rfl, fun _ => rfl⟩
  · rw [if_neg hstatus]
    exact ⟨rfl, reply.status, hstatus, rfl⟩

/-! ## Calls and reads -/

/-- A call, or a read and how it ended, with the levels outside at the time. -/
inductive PinLabel where
  | call (call : PinCall)
  | read (outside : Fin 4 → Bool) (out : Except Exn GpioState)

def PinLabel.asCall : PinLabel → Option PinCall
  | .call pinCall => some pinCall
  | .read _ _ => none

/-- What a call or a read does to the pin `j`. -/
def PinState.observe (j : Fin 4) (pin : PinState) (label : PinLabel) : PinState :=
  label.asCall.elim pin (pin.follow j)

/-- One call or read on the open device `d`. -/
def LevelStep (d : DeviceState) (pins : Pins) : PinLabel → Pins → Prop
  | .call call, pins' => PinStep d pins call pins'
  | .read outside out, pins' =>
    ∃ tr, (Device.readGpio (some d)).Runs tr out ∧ (readout outside).Relied pins tr ∧
      pins' = (readout outside).after pins tr

/-- A read changes no pin, and ends as it should. -/
theorem LevelStep.reads {d : DeviceState} {pins pins' : Pins} {outside : Fin 4 → Bool}
    {out : Except Exn GpioState} (hstep : LevelStep d pins (.read outside out) pins') :
    pins' = pins ∧ Reads outside pins out := by
  rcases hstep with ⟨tr, hruns, hrelied, rfl⟩
  exact (Prog.wp_runs (readGpio_reads d outside) hruns hrelied).2

theorem LevelStep.observe (hkeep : KeepIsNoLevel) {d : DeviceState} {pins pins' : Pins}
    {label : PinLabel} (hstep : LevelStep d pins label pins') (j : Fin 4) :
    pins' j = (pins j).observe j label := by
  cases label with
  | call call => exact PinStep.follow hkeep hstep j
  | read outside out =>
    rw [hstep.reads.1]
    rfl

omit [NativeApi] in
/-- Reads can be left out. -/
theorem foldl_observe (j : Fin 4) (pin : PinState) (labels : List PinLabel) :
    labels.foldl (PinState.observe j) pin =
      (labels.filterMap PinLabel.asCall).foldl (PinState.follow j) pin := by
  rw [List.foldl_filterMap]
  congr 1
  funext pin label
  cases label with
  | call call => rfl
  | read outside out => rfl

/-- What the calls among the labels that took effect make of the pins. -/
def PinLabel.leave (labels : List PinLabel) (pins : Pins) : Pins := fun j =>
  (((labels.filterMap PinLabel.asCall).filter PinCall.tookEffect).map fun call =>
    call.op.entry j).foldl PinState.edit (pins j)

/-- **`readGpio` reports what was written.**  In any sequence of calls and reads, a read that
    returns gives for each pin the level that the calls before it have left in its latch, if
    they left it an output; the level outside, if they left it an input; and nothing, if they
    left it with another function.  A read fails only with the status of the C library. -/
theorem read_reports_calls (hkeep : KeepIsNoLevel) {d : DeviceState} {pins pins' : Pins}
    {before after : List PinLabel} {outside : Fin 4 → Bool} {out : Except Exn GpioState}
    (hrun : Run (LevelStep d) pins (before ++ .read outside out :: after) pins') :
    Reads outside (PinLabel.leave before pins) out := by
  rcases hrun.split with ⟨pins₁, hbefore, hafter⟩
  rcases hafter with _ | ⟨hread, -⟩
  have hleft : pins₁ = PinLabel.leave before pins := by
    funext j
    have hfold : pins₁ j = before.foldl (PinState.observe j) (pins j) :=
      hbefore.project (fun pins => pins j) fun _ _ _ hstep => hstep.observe hkeep j
    rw [hfold, foldl_observe, foldl_follow]
    rfl
  rw [← hleft]
  exact hread.reads.2

end

section

attribute [local instance] NativeApi.reference

/-- The last pin becomes a high output, the first one an input. -/
def twoPins : PinConfigurations := fun j =>
  if j = 0 then ⟨some (.named .gpioInput), false⟩
  else if j = 3 then ⟨some (.named .gpioOutput), true⟩
  else ⟨none, false⟩

/-- The request for them. -/
def twoPinsRequest : NativePinFunctions where
  gp j := if j = 0 then .gpioIn else if j = 3 then .gpioOut else .keep
  out j := if j = 3 then 1 else 0

theorem toNativePinFunctions_twoPins : toNativePinFunctions twoPins = .ok twoPinsRequest := by
  have hentries : arrayM 4 (fun i => toNativePinConfiguration (twoPins i)) =
      .ok fun i => (twoPinsRequest.gp i, twoPinsRequest.out i) := by
    apply arrayM_eq_ok.mpr
    intro i
    match i with
    | 0 | 1 | 2 | 3 => rfl
  simp [toNativePinFunctions, hentries]

/-- A call that is one native call in its critical section. -/
theorem PinStep.called {d : DeviceState} {pins : Pins} {op : PinOp} {out : Except Exn Unit}
    (c : NativeCall) (reply : c.Reply) (hreports : c.ReportsMode pins reply.status)
    (hruns : (op.prog (some d)).Runs
      [⟨.lock d.addr, ()⟩, ⟨.call c, reply⟩, ⟨.unlock d.addr, ()⟩] out) :
    PinStep d pins ⟨op, out⟩ (c.onPins reply.status pins) :=
  ⟨_, hruns, ⟨trivial, hreports, trivial, trivial⟩, rfl⟩

/-- One batch, and three single calls in the other order of the pins. -/
theorem batch_is_single_calls_twoPins : ∃ batch single : Pins,
    PinStep ⟨0, some 7⟩ mixedPins ⟨.configurePins twoPins, .ok ()⟩ batch ∧
      Run (PinStep ⟨0, some 7⟩) mixedPins
        ((twoPins.singles [3, 0]).map fun op => ⟨op, .ok ()⟩) single ∧ batch = single := by
  have hkeep : KeepIsNoLevel := by
    rintro (_ | _) <;> decide
  have hbatch : ∃ batch, PinStep ⟨0, some 7⟩ mixedPins ⟨.configurePins twoPins, .ok ()⟩ batch := by
    refine ⟨_, PinStep.called (.pinSetFunctions (some 7) twoPinsRequest) ⟨0, (), by decide⟩
      trivial ?_⟩
    simp only [PinOp.prog, Device.configurePins, toNativePinFunctions_twoPins]
    exact runs_vis (.lock 0) () (runs_vis (.call (.pinSetFunctions (some 7) twoPinsRequest)) _
      (runs_vis (.unlock 0) () (.ret _)))
  have hsingle : ∃ single, Run (PinStep ⟨0, some 7⟩) mixedPins
      ((twoPins.singles [3, 0]).map fun op => ⟨op, .ok ()⟩) single := by
    refine ⟨_, .cons (PinStep.called (.pinSetFunction (some 7) .gp3 .gpioOut) ⟨0, (), by decide⟩
      trivial ?_) (.cons (PinStep.called (.gpioWrite (some 7) ⟨-1, -1, -1, 1⟩)
        ⟨0, (), by decide⟩ ⟨?_, ?_⟩ ?_) (.cons
      (PinStep.called (.pinSetFunction (some 7) .gp0 .gpioIn) ⟨0, (), by decide⟩ trivial ?_)
        (.nil _)))⟩
    · exact runs_vis (.lock 0) () (runs_vis (.call (.pinSetFunction (some 7) .gp3 .gpioOut)) _
        (runs_vis (.unlock 0) () (.ret _)))
    · intro _ j
      match j with
      | 0 | 1 | 2 | 3 => decide
    · decide
    · exact runs_vis (.lock 0) () (runs_vis (.call (.gpioWrite (some 7) ⟨-1, -1, -1, 1⟩)) _
        (runs_vis (.unlock 0) () (.ret _)))
    · exact runs_vis (.lock 0) () (runs_vis (.call (.pinSetFunction (some 7) .gp0 .gpioIn)) _
        (runs_vis (.unlock 0) () (.ret _)))
  rcases hbatch with ⟨batch, hbatch⟩
  rcases hsingle with ⟨single, hsingle⟩
  exact ⟨batch, single, hbatch, hsingle,
    batch_is_single_calls hkeep (by decide) (by decide) hbatch hsingle⟩

/-- What is read after `partialWrite`. -/
def levelsRead : GpioState where
  pins j := if j = 3 then none else some (j = 0)

/-- What the C library stores there. -/
def maskRead : (Fin 4 → Int) × UInt8 := (fun j => if j = 0 then 1 else 0, 7)

theorem toGpioState_maskRead : toGpioState maskRead = .ok levelsRead := by
  have hloop : arrayM 4 (toGpioPinState maskRead.2 maskRead.1) = .ok levelsRead.pins := by
    apply arrayM_eq_ok.mpr
    intro i
    match i with
    | 0 | 1 | 2 | 3 => rfl
  simp [toGpioState, hloop]

/-- A read after a write that has set only one of its pins. -/
theorem read_reports_calls_partial : ∃ pins',
    Run (LevelStep ⟨0, some 7⟩) mixedPins
      ([.call partialWrite] ++ .read (fun _ => true) (.ok levelsRead) :: []) pins' ∧
        Reads (fun _ => true) (PinLabel.leave [.call partialWrite] mixedPins)
          (.ok levelsRead) := by
  have hkeep : KeepIsNoLevel := by
    rintro (_ | _) <;> decide
  have hrun : ∃ pins', Run (LevelStep ⟨0, some 7⟩) mixedPins
      ([.call partialWrite] ++ .read (fun _ => true) (.ok levelsRead) :: []) pins' := by
    refine ⟨_, .cons (PinStep.called (.gpioWrite (some 7) ⟨1, -1, -1, 1⟩)
      ⟨err .gpioMode, (), by decide⟩ ⟨?_, fun _ => ⟨3, by decide, by decide⟩⟩ ?_)
        (.cons ⟨[⟨.lock 0, ()⟩,
          ⟨.call (.gpioReadMask (some 7)), ⟨0, maskRead, by decide⟩⟩,
          ⟨.unlock 0, ()⟩], ?_, ⟨trivial, ⟨trivial, ?_⟩, trivial, trivial⟩, rfl⟩ (.nil _))⟩
    · intro h
      exact absurd h (by decide)
    · exact runs_vis (.lock 0) () (runs_vis (.call (.gpioWrite (some 7) ⟨1, -1, -1, 1⟩)) _
        (runs_vis (.unlock 0) () (.throw _)))
    · have hend :
          (Prog.ofExcept (toGpioState maskRead) : M GpioState).Runs [] (.ok levelsRead) := by
        rw [toGpioState_maskRead]
        exact .ret _
      exact runs_vis (.lock 0) () (runs_vis (.call (.gpioReadMask (some 7))) _
        (runs_vis (.unlock 0) () hend))
    · intro _ j
      match j with
      | 0 | 1 | 2 => exact ⟨rfl, rfl⟩
      | 3 => rfl
  rcases hrun with ⟨pins', hrun⟩
  exact ⟨pins', hrun, read_reports_calls hkeep hrun⟩

end

end EasyMcp2221
