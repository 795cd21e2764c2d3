import EasyMcp2221.Configuration
import EasyMcp2221.Effect.LastWriter

/-!
# Partial updates of the runtime SRAM

`configureSram` sends a request in which a field is either a value or
`MCP2221_CONFIG_KEEP`, and the C library merges it into the SRAM.  The module states the
merge and shows that a sequence of calls leaves in every field what the last accepted
configuration with this field put there (`sram_last_writer_wins`).  The reference
voltages are pairs: VDD keeps the selection of the internal reference, so it is the
effective reference that composes, and not the pair.
-/

namespace EasyMcp2221

open Effect

/-! ## What the settings mean -/

/-- The reference in effect: VDD, or the internal reference with its selection. -/
inductive EffectiveReference where
  | vdd
  | vrm (selection : Int)
deriving DecidableEq

section

variable [NativeApi]

def GpioDirection.native : GpioDirection → Int
  | .output => NativeApi.dirOutput
  | .input => NativeApi.dirInput

def SramPinFunction.native : SramPinFunction → Int
  | .gpio => NativeApi.gpioFuncGpio
  | .dedicated => NativeApi.gpioFuncDedicated
  | .alt0 => NativeApi.gpioFuncAlt0
  | .alt1 => NativeApi.gpioFuncAlt1
  | .alt2 => NativeApi.gpioFuncAlt2

def ClockFrequency.native : ClockFrequency → Int
  | .khz375 => NativeApi.clkFreq375kHz
  | .khz750 => NativeApi.clkFreq750kHz
  | .mhz1_5 => NativeApi.clkFreq1_5MHz
  | .mhz3 => NativeApi.clkFreq3MHz
  | .mhz6 => NativeApi.clkFreq6MHz
  | .mhz12 => NativeApi.clkFreq12MHz
  | .mhz24 => NativeApi.clkFreq24MHz

def ClockDutyCycle.native : ClockDutyCycle → Int
  | .percent0 => NativeApi.clkDuty0
  | .percent25 => NativeApi.clkDuty25
  | .percent50 => NativeApi.clkDuty50
  | .percent75 => NativeApi.clkDuty75

def VoltageReference.effectiveAdc : VoltageReference → EffectiveReference
  | .off => .vrm NativeApi.adcVrmOff
  | .vdd => .vdd
  | .internal1V024 => .vrm NativeApi.adcVrm1024
  | .internal2V048 => .vrm NativeApi.adcVrm2048
  | .internal4V096 => .vrm NativeApi.adcVrm4096

def VoltageReference.effectiveDac : VoltageReference → EffectiveReference
  | .off => .vrm NativeApi.dacVrmOff
  | .vdd => .vdd
  | .internal1V024 => .vrm NativeApi.dacVrm1024
  | .internal2V048 => .vrm NativeApi.dacVrm2048
  | .internal4V096 => .vrm NativeApi.dacVrm4096

/-- The reference that a pair of SRAM fields selects, when `vdd` is the source VDD. -/
def NativeSramReference.effective (reference : NativeSramReference) (vdd : Int) :
    EffectiveReference :=
  if reference.refSrc = vdd then .vdd else .vrm reference.vrm

/-- The selectors of the header: neither they nor a level or a DAC code is
    `MCP2221_CONFIG_KEEP`, and the two sources of a reference are distinct. -/
structure SramSelectors : Prop where
  code : ∀ n : Nat, n ≤ 31 → (n : Int) ≠ NativeApi.configKeep
  direction : ∀ x, GpioDirection.native x ≠ NativeApi.configKeep
  function : ∀ x, SramPinFunction.native x ≠ NativeApi.configKeep
  frequency : ∀ x, ClockFrequency.native x ≠ NativeApi.configKeep
  dutyCycle : ∀ x, ClockDutyCycle.native x ≠ NativeApi.configKeep
  adcSelection : ∀ x, VoltageReference.effectiveAdc x ≠ .vrm NativeApi.configKeep
  dacSelection : ∀ x, VoltageReference.effectiveDac x ≠ .vrm NativeApi.configKeep
  adcSource : NativeApi.adcRefVrm ≠ NativeApi.configKeep ∧
    NativeApi.adcRefVdd ≠ NativeApi.configKeep ∧ NativeApi.adcRefVrm ≠ NativeApi.adcRefVdd
  dacSource : NativeApi.dacRefVrm ≠ NativeApi.configKeep ∧
    NativeApi.dacRefVdd ≠ NativeApi.configKeep ∧ NativeApi.dacRefVrm ≠ NativeApi.dacRefVdd

/-! ## The merge of the C library -/

/-- `MCP2221_CONFIG_KEEP` keeps a field, any other value replaces it. -/
def mergeField (old new : Int) : Int := if new = NativeApi.configKeep then old else new

def NativeSramPin.merge (old new : NativeSramPin) : NativeSramPin where
  value := mergeField old.value new.value
  direction := mergeField old.direction new.direction
  function := mergeField old.function new.function

def NativeSramReference.merge (old new : NativeSramReference) : NativeSramReference where
  vrm := mergeField old.vrm new.vrm
  refSrc := mergeField old.refSrc new.refSrc

/-- The SRAM has the fields of a request, with a value in each. -/
def NativeSramConfig.merge (old new : NativeSramConfig) : NativeSramConfig where
  gp i := (old.gp i).merge (new.gp i)
  posEdge := mergeField old.posEdge new.posEdge
  negEdge := mergeField old.negEdge new.negEdge
  clearFlag := mergeField old.clearFlag new.clearFlag
  adcCfg := old.adcCfg.merge new.adcCfg
  dacRef := old.dacRef.merge new.dacRef
  dacValue := mergeField old.dacValue new.dacValue
  clkDiv := mergeField old.clkDiv new.clkDiv
  clkDuty := mergeField old.clkDuty new.clkDuty

/-- A C library whose calls succeed and which merges every SRAM request. -/
def sram : Protocol Eff Eff.Reply NativeSramConfig where
  allow _ _ := True
  rely _
    | .call _, reply => reply.status = err .ok
    | _, _ => True
  next settings
    | .call (.sramConfig _ request), _ => settings.merge request
    | _, _ => settings

/-- One call of `configureSram` on the open device `d`. -/
def SramStep (d : DeviceState) (settings : NativeSramConfig) (configuration : SramConfig)
    (settings' : NativeSramConfig) : Prop :=
  ∃ tr out, (Device.configureSram (some d) configuration).Runs tr out ∧
    sram.Relied settings tr ∧ settings' = sram.after settings tr

theorem lockless_sram : Lockless sram :=
  fun _ _ => ⟨⟨trivial, rfl⟩, trivial, rfl⟩

/-- **One call**: a valid configuration is merged, an invalid one changes nothing. -/
theorem configureSram_merges (d : DeviceState) (configuration : SramConfig)
    {settings : NativeSramConfig} :
    (Device.configureSram (some d) configuration).wp sram settings fun _ settings' =>
      (configuration.Valid ∧ ∃ request, toNativeSramConfig configuration = .ok request ∧
        settings' = settings.merge request) ∨
      (¬ configuration.Valid ∧ settings' = settings) := by
  refine Prog.wp_require rfl (Prog.wp_bind.mpr (Prog.wp_ofExcept.mpr ?_))
  cases gate_toNativeSramConfig configuration with
  | reject hno message hx =>
    rw [hx]
    exact .inr ⟨hno, rfl⟩
  | accept hvalid request hx =>
    rw [hx]
    exact lockless_sram.wp_withLock
      (wp_nativeCall trivial fun _ _ => .inl ⟨hvalid, request, rfl, rfl⟩)

/-! ## One field -/

/-- What is stored stands for the enumerator that was written. -/
def Shows {α V : Type} [Enumeration α] (native : α → V) (x : CppEnum α) (stored : V) : Prop :=
  ∃ a, x = .named a ∧ stored = native a

/-- What is stored is the level that was written. -/
def ShowsFlag (flag : Bool) (stored : Int) : Prop := stored = if flag then 1 else 0

/-- What is stored is the code that was written. -/
def ShowsCode (code : UInt8) (stored : Int) : Prop := stored = code.toNat

/-- A field of a request, merged. -/
theorem written_keepOr {α : Type} {translate : α → Except Exn Int} {reads : α → Int → Prop}
    {field : Option α} {old new : Int}
    (hreads : ∀ a n, translate a = .ok n → reads a n ∧ n ≠ NativeApi.configKeep)
    (h : keepOr translate field = .ok new) : Written reads old (mergeField old new) field := by
  cases field with
  | none =>
    cases h
    exact ⟨fun _ => if_pos rfl, nofun⟩
  | some a =>
    obtain ⟨hnew, hkeep⟩ := hreads a new h
    rw [mergeField, if_neg hkeep]
    refine ⟨nofun, fun a' ha' => ?_⟩
    cases ha'
    exact hnew

theorem written_enum {α : Type} [Enumeration α] {translate : CppEnum α → Except Exn Int}
    {native : α → Int} {message : String} (hnamed : ∀ a, translate (.named a) = .ok (native a))
    (hunnamed : ∀ raw h, translate (.unnamed raw h) = throwInvalid message)
    (hkeep : ∀ a, native a ≠ NativeApi.configKeep) {field : Option (CppEnum α)} {old new : Int}
    (h : keepOr translate field = .ok new) :
    Written (Shows native) old (mergeField old new) field := by
  refine written_keepOr (fun x n hx => ?_) h
  cases x with
  | unnamed raw houtside =>
    rw [hunnamed] at hx
    cases hx
  | named a =>
    rw [hnamed] at hx
    cases hx
    exact ⟨⟨a, rfl, rfl⟩, hkeep a⟩

theorem written_flag (hselectors : SramSelectors) {field : Option Bool} {old new : Int}
    (h : keepOr toNativeFlag field = .ok new) :
    Written ShowsFlag old (mergeField old new) field := by
  refine written_keepOr (fun flag n hn => ?_) h
  cases hn
  refine ⟨rfl, ?_⟩
  cases flag with
  | false => exact hselectors.code 0 (by decide)
  | true => exact hselectors.code 1 (by decide)

theorem written_code (hselectors : SramSelectors) {field : Option UInt8} {old new : Int}
    (h : keepOr toNativeSramDacValue field = .ok new) :
    Written ShowsCode old (mergeField old new) field := by
  refine written_keepOr (fun code n hn => ?_) h
  unfold toNativeSramDacValue at hn
  split_ifs at hn with hlarge
  · cases hn
  · cases hn
    exact ⟨rfl, hselectors.code code.toNat (UInt8.le_iff_toNat_le.mp (UInt8.not_lt.mp hlarge))⟩

/-- A pair of reference fields, merged.  VDD leaves the selection as it was, which is not
    in effect then; every other reference writes both fields. -/
theorem written_reference {apply : CppEnum VoltageReference → Except Exn NativeSramReference}
    {effective : VoltageReference → EffectiveReference} {vdd vrm : Int} {message : String}
    (hvdd : apply (.named .vdd) = .ok ⟨NativeApi.configKeep, vdd⟩)
    (heffective : effective .vdd = .vdd)
    (hother : ∀ a, a ≠ .vdd → ∃ selection, apply (.named a) = .ok ⟨selection, vrm⟩ ∧
      effective a = .vrm selection)
    (hunnamed : ∀ raw h, apply (.unnamed raw h) = throwInvalid message)
    (hkeep : ∀ a, effective a ≠ .vrm NativeApi.configKeep)
    (hsource : vrm ≠ NativeApi.configKeep ∧ vdd ≠ NativeApi.configKeep ∧ vrm ≠ vdd)
    {field : Option (CppEnum VoltageReference)} {old new : NativeSramReference}
    (h : keepReferenceOr apply field = .ok new) :
    Written (Shows effective) (old.effective vdd) ((old.merge new).effective vdd) field := by
  cases field with
  | none =>
    cases h
    exact ⟨fun _ => by simp [NativeSramReference.merge, mergeField], nofun⟩
  | some x =>
    refine ⟨nofun, fun x' hx' => ?_⟩
    cases hx'
    have h : apply x = .ok new := h
    cases x with
    | unnamed raw houtside =>
      rw [hunnamed] at h
      cases h
    | named a =>
      refine ⟨a, rfl, ?_⟩
      by_cases ha : a = .vdd
      · subst ha
        rw [hvdd] at h
        cases h
        simp [NativeSramReference.merge, NativeSramReference.effective, mergeField, hsource.2.1,
          heffective]
      · obtain ⟨selection, happly, hselection⟩ := hother a ha
        rw [happly] at h
        cases h
        have hselected : selection ≠ NativeApi.configKeep := by
          rintro rfl
          exact hkeep a hselection
        simp [NativeSramReference.merge, NativeSramReference.effective, mergeField, hsource.1,
          hsource.2.2, hselected, hselection]

/-! ## One configuration -/

/-- `new` is `old` with the engaged fields of the configuration written into it. -/
structure Reflects (old : NativeSramConfig) (configuration : SramConfig) (new : NativeSramConfig) :
    Prop where
  outputValue : ∀ i, Written ShowsFlag (old.gp i).value (new.gp i).value
    (configuration.gpio i).outputValue
  direction : ∀ i, Written (Shows GpioDirection.native) (old.gp i).direction (new.gp i).direction
    (configuration.gpio i).direction
  function : ∀ i, Written (Shows SramPinFunction.native) (old.gp i).function (new.gp i).function
    (configuration.gpio i).function
  risingEdge : Written ShowsFlag old.posEdge new.posEdge configuration.interrupt.risingEdge
  fallingEdge : Written ShowsFlag old.negEdge new.negEdge configuration.interrupt.fallingEdge
  clearFlag : Written ShowsFlag old.clearFlag new.clearFlag configuration.interrupt.clearFlag
  adcReference : Written (Shows VoltageReference.effectiveAdc)
    (old.adcCfg.effective NativeApi.adcRefVdd) (new.adcCfg.effective NativeApi.adcRefVdd)
    configuration.adc.reference
  dacReference : Written (Shows VoltageReference.effectiveDac)
    (old.dacRef.effective NativeApi.dacRefVdd) (new.dacRef.effective NativeApi.dacRefVdd)
    configuration.dac.reference
  dacValue : Written ShowsCode old.dacValue new.dacValue configuration.dac.value
  frequency : Written (Shows ClockFrequency.native) old.clkDiv new.clkDiv
    configuration.clock.frequency
  dutyCycle : Written (Shows ClockDutyCycle.native) old.clkDuty new.clkDuty
    configuration.clock.dutyCycle

theorem merge_reflects_pin (hselectors : SramSelectors) {pin : SramPinConfig}
    {request : NativeSramPin} (h : toNativeSramPin pin = .ok request) (old : NativeSramPin) :
    Written ShowsFlag old.value (old.merge request).value pin.outputValue ∧
      Written (Shows GpioDirection.native) old.direction (old.merge request).direction
        pin.direction ∧
      Written (Shows SramPinFunction.native) old.function (old.merge request).function
        pin.function := by
  obtain ⟨value, hvalue, h⟩ := bind_eq_ok.mp h
  obtain ⟨direction, hdirection, h⟩ := bind_eq_ok.mp h
  obtain ⟨function, hfunction, h⟩ := bind_eq_ok.mp h
  cases h
  exact ⟨written_flag hselectors hvalue,
    written_enum (by rintro (_ | _) <;> rfl) (fun _ _ => rfl) hselectors.direction hdirection,
    written_enum (by rintro (_ | _ | _ | _ | _) <;> rfl) (fun _ _ => rfl) hselectors.function
      hfunction⟩

/-- **The merge of a request reflects its configuration.** -/
theorem merge_reflects (hselectors : SramSelectors) {configuration : SramConfig}
    {request : NativeSramConfig} (h : toNativeSramConfig configuration = .ok request)
    (old : NativeSramConfig) : Reflects old configuration (old.merge request) := by
  obtain ⟨gp, hgp, h⟩ := bind_eq_ok.mp h
  obtain ⟨posEdge, hposEdge, h⟩ := bind_eq_ok.mp h
  obtain ⟨negEdge, hnegEdge, h⟩ := bind_eq_ok.mp h
  obtain ⟨clearFlag, hclearFlag, h⟩ := bind_eq_ok.mp h
  obtain ⟨adcCfg, hadcCfg, h⟩ := bind_eq_ok.mp h
  obtain ⟨dacRef, hdacRef, h⟩ := bind_eq_ok.mp h
  obtain ⟨dacValue, hdacValue, h⟩ := bind_eq_ok.mp h
  obtain ⟨clkDiv, hclkDiv, h⟩ := bind_eq_ok.mp h
  obtain ⟨clkDuty, hclkDuty, h⟩ := bind_eq_ok.mp h
  cases h
  have hpin := fun i => merge_reflects_pin hselectors (arrayM_eq_ok.mp hgp i) (old.gp i)
  exact
    { outputValue := fun i => (hpin i).1
      direction := fun i => (hpin i).2.1
      function := fun i => (hpin i).2.2
      risingEdge := written_flag hselectors hposEdge
      fallingEdge := written_flag hselectors hnegEdge
      clearFlag := written_flag hselectors hclearFlag
      adcReference := written_reference rfl rfl
        (by rintro (_ | _ | _ | _ | _) ha <;> first | exact absurd rfl ha | exact ⟨_, rfl, rfl⟩)
        (fun _ _ => rfl) hselectors.adcSelection hselectors.adcSource hadcCfg
      dacReference := written_reference rfl rfl
        (by rintro (_ | _ | _ | _ | _) ha <;> first | exact absurd rfl ha | exact ⟨_, rfl, rfl⟩)
        (fun _ _ => rfl) hselectors.dacSelection hselectors.dacSource hdacRef
      dacValue := written_code hselectors hdacValue
      frequency := written_enum (by rintro (_ | _ | _ | _ | _ | _ | _) <;> rfl) (fun _ _ => rfl)
        hselectors.frequency hclkDiv
      dutyCycle := written_enum (by rintro (_ | _ | _ | _) <;> rfl) (fun _ _ => rfl)
        hselectors.dutyCycle hclkDuty }

/-! ## Sequences of calls -/

/-- `Valid`, field by field. -/
def SramConfig.check (configuration : SramConfig) : Bool :=
  let pin (i : Fin 4) : Bool :=
    (configuration.gpio i).direction.all (fun x => x.Known) &&
      (configuration.gpio i).function.all fun x => x.Known
  (pin 0 && pin 1 && pin 2 && pin 3) &&
    configuration.adc.reference.all (fun x => x.Known) &&
    configuration.dac.reference.all (fun x => x.Known) &&
    configuration.dac.value.all (fun x => x ≤ 31) &&
    configuration.clock.frequency.all (fun x => x.Known) &&
    configuration.clock.dutyCycle.all fun x => x.Known

omit [NativeApi] in
theorem SramConfig.check_iff (configuration : SramConfig) :
    configuration.check = true ↔ configuration.Valid := by
  simp only [check, Bool.and_eq_true, Option.all_eq_true, decide_eq_true_eq]
  constructor
  · rintro ⟨⟨⟨⟨⟨⟨⟨⟨h0, h1⟩, h2⟩, h3⟩, hadc⟩, hdac⟩, hvalue⟩, hfrequency⟩, hduty⟩
    have hpin : ∀ i, (∀ x ∈ (configuration.gpio i).direction, x.Known) ∧
        ∀ x ∈ (configuration.gpio i).function, x.Known := by
      intro i
      match i with
      | 0 => exact h0
      | 1 => exact h1
      | 2 => exact h2
      | 3 => exact h3
    exact ⟨fun i => (hpin i).1, fun i => (hpin i).2, hadc, hdac, hvalue, hfrequency, hduty⟩
  · intro h
    have hpin := fun i => And.intro (h.direction i) (h.function i)
    exact ⟨⟨⟨⟨⟨⟨⟨⟨hpin 0, hpin 1⟩, hpin 2⟩, hpin 3⟩, h.adcReference⟩, h.dacReference⟩, h.dacValue⟩,
      h.frequency⟩, h.dutyCycle⟩

instance (configuration : SramConfig) : Decidable configuration.Valid :=
  decidable_of_iff _ configuration.check_iff

/-- The configurations that `configureSram` accepts. -/
def accepted (configurations : List SramConfig) : List SramConfig :=
  configurations.filter fun configuration => configuration.Valid

/-- In every field, what the last configuration with this field has there. -/
def lastConfiguration (configurations : List SramConfig) : SramConfig where
  gpio i :=
    { outputValue := lastWrite (fun c => (c.gpio i).outputValue) configurations
      direction := lastWrite (fun c => (c.gpio i).direction) configurations
      function := lastWrite (fun c => (c.gpio i).function) configurations }
  interrupt :=
    { risingEdge := lastWrite (fun c => c.interrupt.risingEdge) configurations
      fallingEdge := lastWrite (fun c => c.interrupt.fallingEdge) configurations
      clearFlag := lastWrite (fun c => c.interrupt.clearFlag) configurations }
  adc := { reference := lastWrite (fun c => c.adc.reference) configurations }
  dac :=
    { reference := lastWrite (fun c => c.dac.reference) configurations
      value := lastWrite (fun c => c.dac.value) configurations }
  clock :=
    { frequency := lastWrite (fun c => c.clock.frequency) configurations
      dutyCycle := lastWrite (fun c => c.clock.dutyCycle) configurations }

variable {d : DeviceState} {initial final : NativeSramConfig} {configurations : List SramConfig}

theorem SramStep.rejected_keeps {configuration : SramConfig} (hno : ¬ configuration.Valid)
    (hstep : SramStep d initial configuration final) : final = initial := by
  obtain ⟨tr, out, hruns, hrelied, rfl⟩ := hstep
  obtain ⟨-, ⟨hvalid, -⟩ | ⟨-, hkept⟩⟩ :=
    Prog.wp_runs (configureSram_merges d configuration) hruns hrelied
  · exact absurd hvalid hno
  · exact hkept

theorem SramStep.reflects (hselectors : SramSelectors) {configuration : SramConfig}
    (hvalid : configuration.Valid) (hstep : SramStep d initial configuration final) :
    Reflects initial configuration final := by
  obtain ⟨tr, out, hruns, hrelied, rfl⟩ := hstep
  obtain ⟨-, ⟨-, request, hrequest, hmerged⟩ | ⟨hno, -⟩⟩ :=
    Prog.wp_runs (configureSram_merges d configuration) hruns hrelied
  · rw [hmerged]
    exact merge_reflects hselectors hrequest initial
  · exact absurd hvalid hno

theorem SramStep.exists (d : DeviceState) (initial : NativeSramConfig)
    (configuration : SramConfig) : ∃ final, SramStep d initial configuration final := by
  have hlive : ∀ settings e, ∃ r, sram.rely settings e r := by
    refine Eff.live (fun settings c => ?_) fun settings e r hno => ?_
    · obtain ⟨out⟩ := c.out_nonempty
      exact ⟨⟨err .ok, out, by rw [NativeApi.err_ok]; decide⟩, rfl⟩
    · cases e with
      | call c => exact absurd rfl (hno c)
      | _ => trivial
  obtain ⟨tr, out, hruns, hrelied⟩ :=
    Prog.wp_live (fun settings e _ => hlive settings e)
      (@configureSram_merges _ d configuration initial)
  exact ⟨_, tr, out, hruns, hrelied, rfl⟩

/-- Rejected calls can be left out. -/
theorem run_accepted (hrun : Run (SramStep d) initial configurations final) :
    Run (SramStep d) initial (accepted configurations) final := by
  have h := hrun.erase (fun c => !decide c.Valid) fun s c s' hidle hstep =>
    hstep.rejected_keeps (by simpa using hidle)
  simpa [accepted] using h

theorem run_reflects (hselectors : SramSelectors)
    (hrun : Run (SramStep d) initial configurations final) :
    Reflects initial (lastConfiguration (accepted configurations)) final := by
  have hstep : ∀ s c s', c ∈ accepted configurations → SramStep d s c s' → Reflects s c s' :=
    fun s c s' hmem hstep => hstep.reflects hselectors (by simpa using (List.mem_filter.mp hmem).2)
  have haccepted := run_accepted hrun
  exact
    { outputValue := fun i => haccepted.lastWriter (fun s => (s.gp i).value)
        fun s c s' hc h => (hstep s c s' hc h).outputValue i
      direction := fun i => haccepted.lastWriter (fun s => (s.gp i).direction)
        fun s c s' hc h => (hstep s c s' hc h).direction i
      function := fun i => haccepted.lastWriter (fun s => (s.gp i).function)
        fun s c s' hc h => (hstep s c s' hc h).function i
      risingEdge := haccepted.lastWriter (fun s => s.posEdge)
        fun s c s' hc h => (hstep s c s' hc h).risingEdge
      fallingEdge := haccepted.lastWriter (fun s => s.negEdge)
        fun s c s' hc h => (hstep s c s' hc h).fallingEdge
      clearFlag := haccepted.lastWriter (fun s => s.clearFlag)
        fun s c s' hc h => (hstep s c s' hc h).clearFlag
      adcReference := haccepted.lastWriter (fun s => s.adcCfg.effective NativeApi.adcRefVdd)
        fun s c s' hc h => (hstep s c s' hc h).adcReference
      dacReference := haccepted.lastWriter (fun s => s.dacRef.effective NativeApi.dacRefVdd)
        fun s c s' hc h => (hstep s c s' hc h).dacReference
      dacValue := haccepted.lastWriter (fun s => s.dacValue)
        fun s c s' hc h => (hstep s c s' hc h).dacValue
      frequency := haccepted.lastWriter (fun s => s.clkDiv)
        fun s c s' hc h => (hstep s c s' hc h).frequency
      dutyCycle := haccepted.lastWriter (fun s => s.clkDuty)
        fun s c s' hc h => (hstep s c s' hc h).dutyCycle }

omit [NativeApi] in
/-- What is stored for an enumerator is determined by it. -/
theorem Shows.unique {α V : Type} [Enumeration α] {native : α → V} (x : CppEnum α) (v v' : V)
    (h : Shows native x v) (h' : Shows native x v') : v = v' := by
  obtain ⟨a, rfl, rfl⟩ := h
  obtain ⟨a', ha, rfl⟩ := h'
  cases ha
  rfl

/-- **The last writer wins in every field of the SRAM.**  Any sequence of `configureSram`
    calls, rejected ones among them, leaves in every field what the last accepted
    configuration with this field has there, or what was there before.  A reference in
    effect is decided by the last accepted configuration with a reference alone, whatever
    the pair of fields held before. -/
theorem sram_last_writer_wins (hselectors : SramSelectors) (d : DeviceState)
    (configurations : List SramConfig) :
    (∀ initial, ∃ final, Run (SramStep d) initial configurations final) ∧
    (∀ initial final, Run (SramStep d) initial configurations final →
      Reflects initial (lastConfiguration (accepted configurations)) final) ∧
    ∀ initial final initial' final', Run (SramStep d) initial configurations final →
      Run (SramStep d) initial' configurations final' →
      (((lastConfiguration (accepted configurations)).adc.reference = none →
          initial.adcCfg.effective NativeApi.adcRefVdd =
            initial'.adcCfg.effective NativeApi.adcRefVdd) →
        final.adcCfg.effective NativeApi.adcRefVdd =
          final'.adcCfg.effective NativeApi.adcRefVdd) ∧
      (((lastConfiguration (accepted configurations)).dac.reference = none →
          initial.dacRef.effective NativeApi.dacRefVdd =
            initial'.dacRef.effective NativeApi.dacRefVdd) →
        final.dacRef.effective NativeApi.dacRefVdd =
          final'.dacRef.effective NativeApi.dacRefVdd) := by
  refine ⟨fun initial => ?_, fun initial final hrun => run_reflects hselectors hrun,
    fun initial final initial' final' hrun hrun' => ?_⟩
  · obtain ⟨configurations', final, hsame, hrun⟩ := Run.total id
      (fun settings c => (SramStep.exists d settings c).elim fun s h => ⟨c, s, rfl, h⟩)
      initial configurations
    rw [List.map_id] at hsame
    exact ⟨final, hsame ▸ hrun⟩
  · have h := run_reflects hselectors hrun
    have h' := run_reflects hselectors hrun'
    exact ⟨h.adcReference.agree Shows.unique h'.adcReference,
      h.dacReference.agree Shows.unique h'.dacReference⟩

end

section

attribute [local instance] NativeApi.reference

/-- The selectors of `NativeApi.reference` are as the header promises. -/
theorem reference_selectors : SramSelectors where
  code n _ := by
    show (n : Int) ≠ -1
    omega
  direction := by rintro (_ | _) <;> decide
  function := by rintro (_ | _ | _ | _ | _) <;> decide
  frequency := by rintro (_ | _ | _ | _ | _ | _ | _) <;> decide
  dutyCycle := by rintro (_ | _ | _ | _) <;> decide
  adcSelection := by rintro (_ | _ | _ | _ | _) <;> decide
  dacSelection := by rintro (_ | _ | _ | _ | _) <;> decide
  adcSource := by decide
  dacSource := by decide

/-- The ADC reference 2.048 V, a rejected DAC code with the reference off, then VDD. -/
def mixedUpdates : List SramConfig :=
  [{ adc := { reference := some (.named .internal2V048) } },
    { adc := { reference := some (.named .off) }, dac := { value := some 40 } },
    { adc := { reference := some (.named .vdd) } }]

/-- SRAM settings with every field 0. -/
def clearSettings : NativeSramConfig :=
  ⟨fun _ => ⟨0, 0, 0⟩, 0, 0, 0, ⟨0, 0⟩, ⟨0, 0⟩, 0, 0, 0⟩

/-- VDD is in effect at the end, and the DAC code is as it was. -/
theorem sram_last_writer_wins_vdd : ∃ final,
    Run (SramStep ⟨0, some 7⟩) clearSettings mixedUpdates final ∧
      final.adcCfg.effective NativeApi.adcRefVdd = .vdd ∧ final.dacValue = 0 := by
  obtain ⟨hruns, hreflects, -⟩ :=
    sram_last_writer_wins reference_selectors ⟨0, some 7⟩ mixedUpdates
  obtain ⟨final, hrun⟩ := hruns clearSettings
  have h := hreflects clearSettings final hrun
  obtain ⟨a, ha, hvdd⟩ := h.adcReference.written (.named .vdd) rfl
  cases ha
  exact ⟨final, hrun, hvdd, h.dacValue.kept rfl⟩

end

end EasyMcp2221
