import EasyMcp2221.Configuration

/-!
# Entry points for one quantity

An I2C clock, an I2C address and a DAC code enter the library in several places, each
with its own hand-written check.  `Polices` says of one entry point that it lets through
exactly the values of a given range; two entry points agree when they police the same
range.
-/

namespace EasyMcp2221

open Effect

section

variable [NativeApi]

/-! ## Accepting and rejecting -/

/-- Every run throws `Error(Invalid)` before any native call. -/
def Rejects {α : Type} (p : M α) : Prop := ∀ tr out, p.Runs tr out → Rejected tr out

/-- No run throws `Error(Invalid)` before any native call. -/
def Accepts {α : Type} (p : M α) : Prop := ∀ tr out, p.Runs tr out → ¬ Rejected tr out

/-- The operation accepts its arguments when they are valid and rejects them otherwise. -/
structure Polices {α : Type} (valid : Prop) (p : M α) : Prop where
  accepts : valid → Accepts p
  rejects : ¬ valid → Rejects p

/-- No program does both: every program has a run. -/
theorem Accepts.not_rejects {α : Type} {p : M α} (h : Accepts p) : ¬ Rejects p := by
  intro hrejects
  obtain ⟨tr, out, hruns⟩ := (Prog.Reaches.refl p).complete Eff.reply_nonempty
  exact h _ _ hruns (hrejects _ _ hruns)

/-- A check that rejects, before anything else. -/
theorem rejects_of_gate {α β : Type} {x : Except Exn β} {P : Prop} {k : β → M α}
    (hgate : Gate invalidError P x) (h : ¬ P) : Rejects ((Prog.ofExcept x).bind k) := by
  cases hgate with
  | accept hP => exact absurd hP h
  | reject _ message hx =>
    subst hx
    intro tr out hruns
    obtain ⟨rfl, rfl⟩ := Prog.runs_throw.mp hruns
    exact ⟨rfl, message, rfl⟩

/-- A check before another one that rejects. -/
theorem rejects_of_check {α β : Type} {x : Except Exn β} {P : Prop} {k : β → M α}
    (hgate : Gate invalidError P x) (h : ∀ b, Rejects (k b)) :
    Rejects ((Prog.ofExcept x).bind k) := by
  cases hgate with
  | accept _ b hx =>
    subst hx
    exact h b
  | reject hno => exact rejects_of_gate (.reject hno _ ‹_›) hno

/-- An object with state accepts what is in the domain of the operation. -/
theorem PublicOp.accepts {p : PublicOp} (hstate : p.HasState) (hdomain : p.InDomain) :
    Accepts p.prog := by
  rintro tr out hruns ⟨hnative, message, rfl⟩
  have hsilent := makesNoCall_of_nativeEvents hnative
  have hquiet := (p.transparent hruns).success fun c reply hmem => absurd hmem (hsilent c reply)
  obtain ⟨a, ha⟩ | ⟨-, hmemory⟩ | ⟨-, ⟨hno, -⟩ | ⟨-, hno, -⟩⟩ | ⟨c, reply, hmem, -⟩ := hquiet
  · cases ha
  · cases hmemory
  · exact hno hstate
  · exact hno hdomain
  · exact hsilent c reply hmem

/-! ## Clocks -/

/-- The clocks that the library documents. -/
def ClockInRange (hz : UInt32) : Prop := 1 ≤ hz ∧ hz ≤ 400000

instance (hz : UInt32) : Decidable (ClockInRange hz) := inferInstanceAs (Decidable (_ ∧ _))

theorem construct_polices (w : Var) (options : DeviceOptions) :
    Polices (ClockInRange options.i2cSpeedHz) (Device.construct w options) where
  accepts h := PublicOp.accepts (p := .construct w options) trivial h
  rejects h := rejects_of_gate (gate_speed options.i2cSpeedHz _) h

theorem i2cDevice_polices (d : DeviceState) (dst : Var) {address : UInt8}
    (options : I2cDeviceOptions) (haddress : address ≤ 0x7F) (horder : options.byteOrder.Known)
    (hwidth : options.registerWidth.Known) :
    Polices (ClockInRange options.speedHz) (Device.i2cDevice (some d) dst address options) where
  accepts h := PublicOp.accepts (p := .i2cDevice (some d) dst address options)
    (Option.some_ne_none d) ⟨haddress, h, horder, hwidth⟩
  rejects h := rejects_of_check (.ok d) fun _ =>
    rejects_of_check (gate_validateI2cAddress address) fun _ =>
      rejects_of_gate (gate_speed options.speedHz _) h

/-- `setI2cSpeed` has no check of its own. -/
theorem setI2cSpeed_accepts (d : DeviceState) (hz : UInt32) :
    Accepts (Device.setI2cSpeed (some d) hz) :=
  PublicOp.accepts (p := .data (.device (some d) (.setI2cSpeed hz))) nofun trivial

/-- The three ways to supply the clock `hz` accept it when it is in range and reject it
    otherwise, whatever comes with it. -/
structure ClockAgrees (hz : UInt32) : Prop where
  construct : ∀ (w : Var) (options : DeviceOptions),
    Polices (ClockInRange hz) (Device.construct w { options with i2cSpeedHz := hz })
  i2cDevice : ∀ (d : DeviceState) (dst : Var) (address : UInt8) (options : I2cDeviceOptions),
    address ≤ constants.maxI2cAddress → options.byteOrder.Known → options.registerWidth.Known →
    Polices (ClockInRange hz) (Device.i2cDevice (some d) dst address
      { options with speedHz := hz })
  setI2cSpeed : ∀ d, Polices (ClockInRange hz) (Device.setI2cSpeed (some d) hz)

/-- They agree on the clocks in range, and on no other. -/
theorem clockAgrees_iff (hz : UInt32) : ClockAgrees hz ↔ ClockInRange hz := by
  constructor
  · intro h
    by_contra hno
    exact (setI2cSpeed_accepts ⟨0, none⟩ hz).not_rejects ((h.setI2cSpeed ⟨0, none⟩).rejects hno)
  · intro h
    exact
      { construct := fun w options => construct_polices w { options with i2cSpeedHz := hz }
        i2cDevice := fun d dst address options haddress horder hwidth =>
          i2cDevice_polices d dst { options with speedHz := hz } haddress horder
            hwidth
        setI2cSpeed := fun d => ⟨fun _ => setI2cSpeed_accepts d hz, fun hno => absurd h hno⟩ }

/-! ## Addresses -/

/-- The four ways to supply an I2C address accept it when it has seven bits and reject it
    otherwise, whatever else that is valid comes with it. -/
structure AddressAgrees (address : UInt8) : Prop where
  i2cDevice : ∀ (d : DeviceState) (dst : Var) (options : I2cDeviceOptions),
    ClockInRange options.speedHz → options.byteOrder.Known → options.registerWidth.Known →
    Polices (address ≤ constants.maxI2cAddress) (Device.i2cDevice (some d) dst address options)
  smbusDevice : ∀ d dst,
    Polices (address ≤ constants.maxI2cAddress) (Device.smbusDevice (some d) dst address)
  i2cRead : ∀ d size transfer, 1 ≤ size → size ≤ 65535 → transfer.Known →
    transfer ≠ .named .noStop →
    Polices (address ≤ constants.maxI2cAddress) (Device.i2cRead (some d) address size transfer)
  i2cWrite : ∀ d data size transfer, data ≠ none → 1 ≤ size → size ≤ 65535 → transfer.Known →
    Polices (address ≤ constants.maxI2cAddress)
      (Device.i2cWrite (some d) address data size transfer)

theorem addressAgrees (address : UInt8) : AddressAgrees address where
  i2cDevice d dst options hspeed horder hwidth :=
    { accepts := fun h => PublicOp.accepts (p := .i2cDevice (some d) dst address options)
        (Option.some_ne_none d) ⟨h, hspeed, horder, hwidth⟩
      rejects := fun h => rejects_of_check (.ok d) fun _ =>
        rejects_of_gate (gate_validateI2cAddress address) h }
  smbusDevice d dst :=
    { accepts := fun h => PublicOp.accepts (p := .smbusDevice (some d) dst address)
        (Option.some_ne_none d) h
      rejects := fun h => rejects_of_check (.ok d) fun _ =>
        rejects_of_gate (gate_validateI2cAddress address) h }
  i2cRead d size transfer hsize hsize' hknown hstop :=
    { accepts := fun h => PublicOp.accepts
        (p := .data (.device (some d) (.i2cRead address size transfer)))
        nofun ⟨h, ⟨hsize, hsize'⟩, hknown, hstop⟩
      rejects := fun h => rejects_of_check (.ok d) fun _ =>
        rejects_of_gate (gate_validateI2cAddress address) h }
  i2cWrite d data size transfer hdata hsize hsize' hknown :=
    { accepts := fun h => PublicOp.accepts
        (p := .data (.device (some d) (.i2cWrite address data size transfer)))
        nofun ⟨h, hdata, ⟨hsize, hsize'⟩, hknown⟩
      rejects := fun h => rejects_of_check (.ok d) fun _ =>
        rejects_of_gate (gate_validateI2cAddress address) h }

/-- The overload without options is a fifth way: its options are valid, so it rejects nothing
    but the address. -/
theorem i2cDeviceDefault_polices (d : DeviceState) (dst : Var) (address : UInt8) :
    Polices (address ≤ constants.maxI2cAddress) (Device.i2cDeviceDefault (some d) dst address) :=
  (addressAgrees address).i2cDevice d dst {} (by decide) ⟨_, rfl⟩ ⟨_, rfl⟩

/-! ## DAC codes -/

/-- The same configuration with the DAC code `code`. -/
def SramConfig.withDacValue (configuration : SramConfig) (code : Option UInt8) : SramConfig :=
  { configuration with dac := { configuration.dac with value := code } }

omit [NativeApi] in
theorem SramConfig.withDacValue_valid {configuration : SramConfig} {code : UInt8}
    (h : (configuration.withDacValue none).Valid) :
    (configuration.withDacValue (some code)).Valid ↔ code ≤ 31 := by
  constructor
  · exact fun hvalid => hvalid.dacValue code rfl
  · rintro hcode
    exact { h with
      dacValue := by
        rintro _ ⟨⟩
        exact hcode }

/-- The three ways to supply a DAC code accept it when it has five bits and reject it
    otherwise, whatever else that is valid comes with it. -/
structure DacAgrees (code : UInt8) : Prop where
  configureDac : ∀ d reference, reference.Known →
    Polices (code ≤ 31) (Device.configureDacOutput (some d) reference code)
  writeDacRaw : ∀ d, Polices (code ≤ 31) (Device.writeDacRaw (some d) code)
  configureSram : ∀ (d : DeviceState) (configuration : SramConfig),
    (configuration.withDacValue none).Valid →
    Polices (code ≤ 31) (Device.configureSram (some d) (configuration.withDacValue (some code)))

theorem dacAgrees (code : UInt8) : DacAgrees code where
  configureDac d reference hknown :=
    { accepts := fun h => PublicOp.accepts
        (p := .data (.device (some d) (.configureDacOutput reference code))) nofun ⟨h, hknown⟩
      rejects := fun h => rejects_of_check (.ok d) fun _ =>
        rejects_of_gate ((Gate.rejectIf _).congr UInt8.not_lt) h }
  writeDacRaw d :=
    { accepts := fun h => PublicOp.accepts
        (p := .data (.device (some d) (.writeDacRaw code))) nofun h
      rejects := fun h => rejects_of_check (.ok d) fun _ =>
        rejects_of_gate ((Gate.rejectIf _).congr UInt8.not_lt) h }
  configureSram d configuration hvalid :=
    { accepts := fun h => PublicOp.accepts
        (p := .data (.device (some d) (.configureSram (configuration.withDacValue (some code)))))
        nofun ((SramConfig.withDacValue_valid hvalid).mpr h)
      rejects := fun h => rejects_of_check (.ok d) fun _ =>
        rejects_of_gate (gate_toNativeSramConfig _)
          (mt (SramConfig.withDacValue_valid hvalid).mp h) }

end

end EasyMcp2221
