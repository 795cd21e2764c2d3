import EasyMcp2221.Request

/-!
# Every data operation meets its request

The discipline of a data operation on an object that reaches the device `d` and,
for a child, the native struct `struct`: it locks only the mutex of `d`, not twice,
it calls the C library only under that mutex, with the handle of `d` and its own
struct, and it never touches a smart pointer.  `audit` is that discipline as a
protocol which also records the native events, `Request.Post` what the outcome must
be, and `DataCall.prog_meets` that every operation complies.
-/

namespace EasyMcp2221

open Effect

/-! ## The protocol of a data operation -/

/-- A call that a data operation of an object with this target may make. -/
def NativeCall.Serves (c : NativeCall) (target : Target) : Prop :=
  c.initialises = false ∧ c.struct? = target.struct ∧
    match target.struct with
    | none => c.dev? = some target.device.handle
    | some _ => c.dev? = none ∨ c.dev? = some target.device.handle

/-- The only `void` function of a data operation sets the mask of a poller. -/
def NativeProc.Serves (p : NativeProc) (target : Target) : Prop :=
  ∃ poll mask, p = .gpioPollSetFilterMask poll mask ∧ target.struct = some poll

/-- The progress of a data operation. -/
structure Audit where
  /-- The mutex is held. -/
  held : Bool := false
  /-- The native events so far. -/
  native : Trace := []
  /-- An allocation has failed. -/
  starved : Bool := false

def audit (target : Target) : Protocol Eff Eff.Reply Audit where
  allow q
    | .alloc => True
    | .lock mutex => mutex = target.device.addr ∧ q.held = false
    | .unlock mutex => mutex = target.device.addr ∧ q.held = true
    | .call c => q.held = true ∧ c.Serves target
    | .proc p => q.held = true ∧ p.Serves target
    | .own _ => False
  rely _ _ _ := True
  next q
    | .alloc, ok => { q with starved := q.starved || !ok }
    | .lock _, _ => { q with held := true }
    | .unlock _, _ => { q with held := false }
    | .call c, reply => { q with native := q.native ++ [⟨.call c, reply⟩] }
    | .proc p, reply => { q with native := q.native ++ [⟨.proc p, reply⟩] }
    | .own _, _ => q

/-! ## What the outcome must be -/

variable [NativeApi]

/-- The outcome of an operation that stands for `request`: it throws `bad_alloc`
    before the native call when memory runs out, throws the rejection without a
    native call, or makes exactly the one call and ends as the request says; only
    memory for the result may still be missing then.  The mutex is `held` or not. -/
def Request.Post {α : Type} (held : Bool) (request : Except Exn (Request α)) :
    Prog.Post Exn α Audit :=
  fun out q =>
    q.held = held ∧
      ((q.starved = true ∧ q.native = [] ∧ out = .error .badAlloc) ∨
        match request with
        | .error x => q.native = [] ∧ out = .error x
        | .ok req => ∃ reply, q.native = [⟨req.effect, reply⟩] ∧
            (out = req.result reply ∨
              q.starved = true ∧ out = .error .badAlloc ∧ ∃ a, req.result reply = .ok a))

/-- The outcome of the native call `c` with its status check, before any decoding. -/
def Called (held : Bool) (c : NativeCall) (operation : String) : Prog.Post Exn c.Out Audit :=
  fun out q =>
    q.held = held ∧ ∃ reply : c.Reply, q.native = [⟨.call c, reply⟩] ∧
      out = if reply.status = err .ok then .ok reply.out
        else .error (statusError reply.status operation)

/-- The outcome of the end of an operation, after its native call, that computes
    `x`. -/
def Decodes {α : Type} (q : Audit) (x : Except Exn α) : Prog.Post Exn α Audit :=
  fun out q' =>
    q'.held = q.held ∧ q'.native = q.native ∧
      (out = x ∨ q'.starved = true ∧ out = .error .badAlloc ∧ ∃ a, x = .ok a)

/-! ## Rules for the building blocks -/

section Rules

variable {target : Target} {q : Audit} {held : Bool} {α β : Type}

omit [NativeApi] in
theorem wp_allocate {Φ : Prog.Post Exn Unit Audit} :
    allocate.wp (audit target) q Φ ↔
      Φ (.ok ()) q ∧ Φ (.error .badAlloc) { q with starved := true } := by
  simp only [allocate, Prog.wp_vis, audit, true_and, forall_const, Bool.forall_bool]
  constructor
  · rintro ⟨hfail, hok⟩
    exact ⟨by simpa using hok, by simpa using hfail⟩
  · rintro ⟨hok, hfail⟩
    exact ⟨by simpa using hfail, by simpa using hok⟩

omit [NativeApi] in
theorem wp_allocateVector {size : Nat} {Φ : Prog.Post Exn Unit Audit} (hok : Φ (.ok ()) q)
    (hfail : Φ (.error .badAlloc) { q with starved := true }) :
    (allocateVector size).wp (audit target) q Φ := by
  unfold allocateVector
  split
  · exact hok
  · exact wp_allocate.mpr ⟨hok, hfail⟩

omit [NativeApi] in
variable (target) in
theorem wp_withLock {body : M α} {Φ : Prog.Post Exn α Audit} (hfree : q.held = false)
    (h : body.wp (audit target) { q with held := true } fun out q' =>
      q'.held = true ∧ Φ out { q' with held := false }) :
    (withLock target.device body).wp (audit target) q Φ := by
  refine ⟨⟨rfl, hfree⟩, fun _ _ => ?_⟩
  rw [Prog.wp_cleanup]
  refine Prog.wp_mono h fun out q' hout => ?_
  exact ⟨⟨rfl, hout.1⟩, fun _ _ => hout.2⟩

/-- A check before the native call. -/
theorem meets_check {x : Except Exn β} {k : β → M α} {request : β → Except Exn (Request α)}
    (hheld : q.held = held) (hnative : q.native = [])
    (h : ∀ b, (k b).wp (audit target) q (Request.Post held (request b))) :
    ((Prog.ofExcept x).bind k).wp (audit target) q (Request.Post held (x >>= request)) := by
  rw [Prog.wp_bind, Prog.wp_ofExcept]
  cases x with
  | error y => exact ⟨hheld, .inr ⟨hnative, rfl⟩⟩
  | ok b => exact h b

/-- The allocation of a result, before the native call. -/
theorem meets_allocateVector {size : Nat} {k : Unit → M α} {request : Except Exn (Request α)}
    (hheld : q.held = held) (hnative : q.native = [])
    (h : (k ()).wp (audit target) q (Request.Post held request)) :
    ((allocateVector size).bind k).wp (audit target) q (Request.Post held request) := by
  rw [Prog.wp_bind]
  exact wp_allocateVector h ⟨hheld, .inl ⟨rfl, hnative, rfl⟩⟩

/-- A `lock_guard` scope around everything that is left. -/
theorem meets_withLock {body : M α} {request : Except Exn (Request α)} (hfree : q.held = false)
    (h : body.wp (audit target) { q with held := true } (Request.Post true request)) :
    (withLock target.device body).wp (audit target) q (Request.Post false request) := by
  refine wp_withLock target hfree (Prog.wp_mono h fun out q' hout => ?_)
  exact ⟨hout.1, rfl, hout.2⟩

/-- The native call itself. -/
theorem called_nativeCall {c : NativeCall} {operation : String} (hheld : q.held = true)
    (hnative : q.native = []) (hserves : c.Serves target) :
    (nativeCall c operation).wp (audit target) q (Called true c operation) := by
  simp only [nativeCall, Prog.bind_eq, Prog.pure_eq, Prog.monadLift_eq, Prog.wp_bind,
    Prog.wp_perform, Prog.andThen_ok, Prog.wp_ofExcept]
  refine ⟨⟨hheld, hserves⟩, fun reply _ => ?_⟩
  have hrecord : q.native ++ [⟨Eff.call c, reply⟩] = [⟨Eff.call c, reply⟩] := by
    rw [hnative]
    rfl
  by_cases hok : reply.status = err .ok
  · simp only [hok, checkError_ok, Prog.andThen_ok, Prog.wp_ret]
    exact ⟨hheld, reply, hrecord, (if_pos hok).symm⟩
  · simp only [checkError_of_ne hok, Prog.andThen_error]
    exact ⟨hheld, reply, hrecord, (if_neg hok).symm⟩

/-- A `lock_guard` scope around the native call alone. -/
theorem called_withLock {c : NativeCall} {operation : String} (hfree : q.held = false)
    (hnative : q.native = []) (hserves : c.Serves target) :
    (withLock target.device (nativeCall c operation)).wp (audit target) q
      (Called false c operation) := by
  refine wp_withLock target hfree (Prog.wp_mono (called_nativeCall rfl hnative hserves) ?_)
  exact fun out q' hout => ⟨hout.1, rfl, hout.2⟩

/-- An operation that returns what the native call returned. -/
theorem meets_called {c : NativeCall} {operation : String} {p : M c.Out}
    (hcalled : p.wp (audit target) q (Called held c operation)) :
    p.wp (audit target) q (Request.Post held (.ok (.call c operation .ok))) := by
  refine Prog.wp_mono hcalled ?_
  rintro out q' ⟨hheld, reply, hnative, hout⟩
  exact ⟨hheld, .inr ⟨reply, hnative, .inl hout⟩⟩

/-- An operation that is one native call under the lock. -/
theorem meets_lockedCall {c : NativeCall} {operation : String} (hfree : q.held = false)
    (hnative : q.native = []) (hserves : c.Serves target) :
    (withLock target.device (nativeCall c operation)).wp (audit target) q
      (Request.Post false (.ok (.call c operation .ok))) :=
  meets_called (called_withLock hfree hnative hserves)

/-- An operation that decodes what the native call returned, inside or outside of the
    `lock_guard` scope. -/
theorem meets_decode {c : NativeCall} {operation : String} {p : M c.Out} {k : c.Out → M α}
    {decode : c.Out → Except Exn α}
    (hcalled : p.wp (audit target) q (Called held c operation))
    (hdecode : ∀ out q', (k out).wp (audit target) q' (Decodes q' (decode out))) :
    (p.bind k).wp (audit target) q (Request.Post held (.ok (.call c operation decode))) := by
  rw [Prog.wp_bind]
  refine Prog.wp_mono hcalled ?_
  rintro out q' ⟨hheld, reply, hnative, hout⟩
  by_cases hok : reply.status = err .ok
  · rw [if_pos hok] at hout
    subst hout
    refine Prog.wp_mono (hdecode reply.out q') ?_
    rintro out' q'' ⟨hheld', hnative', hresult⟩
    refine ⟨hheld'.trans hheld, .inr ⟨reply, hnative'.trans hnative, ?_⟩⟩
    simpa only [Request.result, hok, if_true] using hresult
  · rw [if_neg hok] at hout
    subst hout
    exact ⟨hheld, .inr ⟨reply, hnative, .inl (if_neg hok).symm⟩⟩

omit [NativeApi] in
/-- A decoder without effects. -/
theorem decodes_ofExcept {x : Except Exn α} :
    (Prog.ofExcept x : M α).wp (audit target) q (Decodes q x) := by
  rw [Prog.wp_ofExcept]
  exact ⟨rfl, rfl, .inl rfl⟩

omit [NativeApi] in
/-- A decoder that cannot fail. -/
theorem decodes_ret {a : α} : (Prog.ret a : M α).wp (audit target) q (Decodes q (.ok a)) :=
  ⟨rfl, rfl, .inl rfl⟩

omit [NativeApi] in
/-- An allocation while a well-formed answer is copied. -/
theorem decodes_allocate {k : Unit → M α} {a : α}
    (h : (k ()).wp (audit target) q (Decodes q (.ok a))) :
    (allocate.bind k).wp (audit target) q (Decodes q (.ok a)) := by
  rw [Prog.wp_bind, wp_allocate]
  exact ⟨h, rfl, rfl, .inr ⟨rfl, rfl, a, rfl⟩⟩

omit [NativeApi] in
theorem decodes_allocateVector {size : Nat} {k : Unit → M α} {a : α}
    (h : (k ()).wp (audit target) q (Decodes q (.ok a))) :
    ((allocateVector size).bind k).wp (audit target) q (Decodes q (.ok a)) := by
  rw [Prog.wp_bind]
  exact wp_allocateVector h ⟨rfl, rfl, .inr ⟨rfl, rfl, a, rfl⟩⟩

end Rules

/-! ## The operations -/

theorem DeviceOp.prog_meets (d : DeviceState) (op : DeviceOp) :
    (op.prog (some d)).wp (audit ⟨d, none⟩) {} (Request.Post false (op.request d)) := by
  cases op with
  -- one native call under the lock
  | setI2cSpeed | releaseI2c | writeGpio | setVdd | vdd | readAdcRaw | readAdcNormalized
  | readAdcVolts | writeDacNormalized | writeDacVolts | clearInterruptFlag | sendFlashPassword
  | saveConfigurationToFlash | stageUsbRemoteWakeup | stageUsbSelfPowered
  | usbRequestedCurrent =>
    exact meets_lockedCall rfl rfl ⟨rfl, rfl, rfl⟩
  -- arguments checked before the lock
  | configurePins | configureSram | writeDacRaw | stageUsbRequestedCurrent =>
    refine Prog.wp_require rfl (meets_check rfl rfl fun _ => ?_)
    exact meets_lockedCall rfl rfl ⟨rfl, rfl, rfl⟩
  | rawCommand =>
    refine Prog.wp_require rfl (meets_check rfl rfl fun _ => meets_check rfl rfl fun _ => ?_)
    exact meets_lockedCall rfl rfl ⟨rfl, rfl, rfl⟩
  | i2cWrite | i2cWriteVector =>
    refine Prog.wp_require rfl (meets_check rfl rfl fun _ => meets_check rfl rfl fun _ => ?_)
    refine meets_check rfl rfl fun _ => ?_
    exact meets_lockedCall rfl rfl ⟨rfl, rfl, rfl⟩
  | i2cRead =>
    refine Prog.wp_require rfl (meets_check rfl rfl fun _ => meets_check rfl rfl fun _ => ?_)
    refine meets_check rfl rfl fun _ => meets_allocateVector rfl rfl (meets_withLock rfl ?_)
    exact meets_decode (called_nativeCall rfl rfl ⟨rfl, rfl, rfl⟩) fun _ _ => decodes_ret
  -- arguments translated under the lock
  | configureAdc | configureDac | configureInterrupt | readFlash | writeFlash =>
    refine Prog.wp_require rfl (meets_withLock rfl (meets_check rfl rfl fun _ => ?_))
    exact meets_called (called_nativeCall rfl rfl ⟨rfl, rfl, rfl⟩)
  | setPinFunction | configureClock =>
    refine Prog.wp_require rfl (meets_withLock rfl (meets_check rfl rfl fun _ => ?_))
    refine meets_check rfl rfl fun _ => ?_
    exact meets_called (called_nativeCall rfl rfl ⟨rfl, rfl, rfl⟩)
  -- one argument before the lock, one under it
  | configureDacOutput | writeFlashVector =>
    refine Prog.wp_require rfl (meets_check rfl rfl fun _ => meets_withLock rfl ?_)
    refine meets_check rfl rfl fun _ => ?_
    exact meets_called (called_nativeCall rfl rfl ⟨rfl, rfl, rfl⟩)
  -- the answer decoded under the lock
  | interruptFlag | usbRemoteWakeup | usbSelfPowered =>
    refine Prog.wp_require rfl (meets_withLock rfl ?_)
    exact meets_decode (called_nativeCall rfl rfl ⟨rfl, rfl, rfl⟩) fun _ _ => decodes_ret
  -- the answer decoded after the lock
  | i2cStatus | flashSettings =>
    refine Prog.wp_require rfl ?_
    exact meets_decode (called_withLock rfl rfl ⟨rfl, rfl, rfl⟩) fun _ _ => decodes_ret
  | readGpio =>
    refine Prog.wp_require rfl ?_
    exact meets_decode (called_withLock rfl rfl ⟨rfl, rfl, rfl⟩) fun _ _ => decodes_ofExcept
  | flashInfo =>
    refine Prog.wp_require rfl
      (meets_decode (called_withLock rfl rfl ⟨rfl, rfl, rfl⟩) fun _ _ => ?_)
    refine decodes_allocate (decodes_allocate (decodes_allocate (decodes_allocate ?_)))
    exact decodes_ret

theorem I2cOp.prog_meets (slave : Addr) (d : DeviceState) (native : NativeSlave) (op : I2cOp) :
    (op.prog (some ⟨slave, some d, native⟩)).wp (audit ⟨d, some slave⟩) {}
      (Request.Post false (op.request slave)) := by
  cases op with
  | isPresent =>
    refine Prog.wp_require rfl (meets_withLock rfl ?_)
    exact meets_decode (called_nativeCall rfl rfl ⟨rfl, rfl, .inl rfl⟩) fun _ _ => decodes_ret
  | read | readRegister =>
    refine Prog.wp_require rfl (meets_check rfl rfl fun _ => meets_allocateVector rfl rfl ?_)
    refine meets_withLock rfl ?_
    exact meets_decode (called_nativeCall rfl rfl ⟨rfl, rfl, .inl rfl⟩) fun _ _ => decodes_ret
  | readRegisterLayout =>
    refine Prog.wp_require rfl (meets_check rfl rfl fun _ => meets_allocateVector rfl rfl ?_)
    refine meets_withLock rfl (meets_check rfl rfl fun _ => meets_check rfl rfl fun _ => ?_)
    exact meets_decode (called_nativeCall rfl rfl ⟨rfl, rfl, .inl rfl⟩) fun _ _ => decodes_ret
  | write | writeVector | writeRegister | writeRegisterVector =>
    refine Prog.wp_require rfl (meets_check rfl rfl fun _ => meets_check rfl rfl fun _ => ?_)
    exact meets_lockedCall rfl rfl ⟨rfl, rfl, .inl rfl⟩
  | writeRegisterLayout =>
    refine Prog.wp_require rfl (meets_check rfl rfl fun _ => meets_check rfl rfl fun _ => ?_)
    refine meets_withLock rfl (meets_check rfl rfl fun _ => meets_check rfl rfl fun _ => ?_)
    exact meets_called (called_nativeCall rfl rfl ⟨rfl, rfl, .inl rfl⟩)

/-- The block decoder of the source allocates the result after the length check. -/
theorem decodes_blockResult {target : Target} {q : Audit}
    {answer : Vector UInt8 smbusBlockMax × Nat} :
    (SmbusDevice.blockResult answer).wp (audit target) q
      (Decodes q (SmbusOp.decodeBlock answer)) := by
  unfold SmbusDevice.blockResult SmbusOp.decodeBlock
  by_cases hlong : answer.2 > smbusBlockMax
  · have hreject : rejectIf (answer.2 > SmbusDevice.maxBlockSize)
        "SMBus target returned an invalid block length" =
        throwInvalid "SMBus target returned an invalid block length" := if_pos hlong
    rw [hreject, if_pos hlong]
    exact ⟨rfl, rfl, .inl rfl⟩
  · have haccept : rejectIf (answer.2 > SmbusDevice.maxBlockSize)
        "SMBus target returned an invalid block length" = .ok () := if_neg hlong
    rw [haccept, if_neg hlong]
    exact decodes_allocateVector decodes_ret

theorem SmbusOp.prog_meets (bus : Addr) (d : DeviceState) (address : UInt8) (op : SmbusOp) :
    (op.prog (some ⟨bus, some d, address⟩)).wp (audit ⟨d, some bus⟩) {}
      (Request.Post false (op.request ⟨bus, some d, address⟩)) := by
  cases op with
  | readByte | writeByte | readByteData | writeByteData | readWordData | writeWordData
  | processCall =>
    exact meets_lockedCall rfl rfl ⟨rfl, rfl, .inl rfl⟩
  | writeBlockData | writeI2cBlockData =>
    refine Prog.wp_require rfl (meets_check rfl rfl fun _ => ?_)
    exact meets_lockedCall rfl rfl ⟨rfl, rfl, .inl rfl⟩
  | readBlockData =>
    refine Prog.wp_require rfl (meets_withLock rfl ?_)
    exact meets_decode (called_nativeCall rfl rfl ⟨rfl, rfl, .inl rfl⟩) fun _ _ =>
      decodes_blockResult
  | blockProcessCall =>
    refine Prog.wp_require rfl (meets_check rfl rfl fun _ => meets_withLock rfl ?_)
    exact meets_decode (called_nativeCall rfl rfl ⟨rfl, rfl, .inl rfl⟩) fun _ _ =>
      decodes_blockResult
  | readI2cBlockData =>
    refine Prog.wp_require rfl (meets_check rfl rfl fun _ => meets_allocateVector rfl rfl ?_)
    refine meets_withLock rfl ?_
    exact meets_decode (called_nativeCall rfl rfl ⟨rfl, rfl, .inl rfl⟩) fun _ _ => decodes_ret

theorem meets_setFilter (poll : Addr) (d : DeviceState) (filter : GpioEventFilter) :
    (GpioPoller.setFilter (some ⟨poll, some d⟩) filter).wp (audit ⟨d, some poll⟩) {}
      (Request.Post false
        (.ok (.proc (.gpioPollSetFilterMask poll (GpioPoller.filterMask filter)) ()))) := by
  refine Prog.wp_require rfl (wp_withLock ⟨d, some poll⟩ rfl ?_)
  refine ⟨⟨rfl, poll, _, rfl, rfl⟩, fun reply _ => ⟨rfl, rfl, .inr ⟨reply, rfl, .inl rfl⟩⟩⟩

theorem meets_pollEvents (poll : Addr) (d : DeviceState) (maxEvents : Nat) :
    (GpioPoller.pollEvents (some ⟨poll, some d⟩) maxEvents).wp (audit ⟨d, some poll⟩) {}
      (Request.Post false (PollerOp.request d poll (.pollEvents maxEvents))) := by
  refine Prog.wp_require rfl (meets_allocateVector rfl rfl (Prog.wp_bind.mpr ?_))
  refine wp_withLock ⟨d, some poll⟩ rfl ?_
  refine ⟨⟨rfl, rfl, rfl, .inr rfl⟩, fun reply _ => ⟨rfl, ?_⟩⟩
  simp only [Prog.andThen_ok]
  by_cases hneg : reply.status < 0
  · have hcount : ¬ 0 ≤ reply.status := by omega
    rw [if_pos hneg, checkError_of_ne (err_ne_ok_of_neg hneg)]
    exact ⟨rfl, .inr ⟨reply, rfl, .inl (if_neg hcount).symm⟩⟩
  · have hcount : 0 ≤ reply.status := by omega
    rw [if_neg hneg]
    refine Prog.wp_ofExcept.mpr ⟨rfl, .inr ⟨reply, rfl, .inl (if_pos hcount).symm⟩⟩

theorem PollerOp.prog_meets (poll : Addr) (d : DeviceState) (op : PollerOp) :
    (op.prog (some ⟨poll, some d⟩)).wp (audit ⟨d, some poll⟩) {}
      (Request.Post false (op.request d poll)) := by
  cases op with
  | setFilter filter => exact meets_setFilter poll d filter
  | clearFilter => exact meets_setFilter poll d {}
  | poll =>
    refine Prog.wp_require rfl ?_
    exact meets_decode (called_withLock rfl rfl ⟨rfl, rfl, .inr rfl⟩) fun _ _ => decodes_ofExcept
  | pollEvents maxEvents => exact meets_pollEvents poll d maxEvents

/-- Every operation on an object that reaches a device is disciplined and meets its
    request. -/
theorem DataCall.prog_meets {x : DataCall} {target : Target} (htarget : x.target = some target) :
    x.prog.wp (audit target) {} (Request.Post false x.request) := by
  cases x with
  | device self op =>
    obtain _ | d := self
    · cases htarget
    · cases htarget
      exact op.prog_meets d
  | i2c self op =>
    obtain _ | ⟨slave, _ | d, native⟩ := self
    · cases htarget
    · cases htarget
    · cases htarget
      exact op.prog_meets slave d native
  | smbus self op =>
    obtain _ | ⟨bus, _ | d, address⟩ := self
    · cases htarget
    · cases htarget
    · cases htarget
      exact op.prog_meets bus d address
  | poller self op =>
    obtain _ | ⟨poll, _ | d⟩ := self
    · cases htarget
    · cases htarget
    · cases htarget
      exact op.prog_meets poll d

/-- An operation on an object without device state throws `std::logic_error` before
    anything else. -/
theorem DataCall.prog_noState {x : DataCall} (htarget : x.target = none) :
    x.prog = .throw x.noState := by
  cases x with
  | device self op =>
    obtain _ | d := self
    · cases op <;> rfl
    · cases htarget
  | i2c self op =>
    obtain _ | ⟨slave, _ | d, native⟩ := self
    · cases op <;> rfl
    · cases op <;> rfl
    · cases htarget
  | smbus self op =>
    obtain _ | ⟨bus, _ | d, address⟩ := self
    · cases op <;> rfl
    · cases op <;> rfl
    · cases htarget
  | poller self op =>
    obtain _ | ⟨poll, _ | d⟩ := self
    · cases op <;> rfl
    · cases op <;> rfl
    · cases htarget

theorem DataCall.request_noState {y : DataCall} (htarget : y.target = none) :
    y.request = .error y.noState := by
  cases y with
  | device self op =>
    rcases self with _ | d
    · rfl
    · cases htarget
  | i2c self op =>
    rcases self with _ | ⟨slave, _ | d, native⟩
    · rfl
    · rfl
    · cases htarget
  | smbus self op =>
    rcases self with _ | ⟨bus, _ | d, address⟩
    · rfl
    · rfl
    · cases htarget
  | poller self op =>
    rcases self with _ | ⟨poll, _ | d⟩
    · rfl
    · rfl
    · cases htarget

/-! ## Runs -/

/-- The event is a native call. -/
def Eff.isNative : Eff → Bool
  | .call _ => true
  | .proc _ => true
  | _ => false

/-- The native events of a trace, in order. -/
def nativeEvents (tr : Trace) : Trace := tr.filter fun ev => ev.1.isNative

/-- Some allocation of the trace failed. -/
def OutOfMemory (tr : Trace) : Prop := (⟨.alloc, false⟩ : Prog.Event Eff.Reply) ∈ tr

/-- The mutexes that are locked at the end of a trace. -/
def lockedAfter (locked : List Addr) : Trace → List Addr
  | [] => locked
  | ⟨.lock mutex, _⟩ :: tr => lockedAfter (mutex :: locked) tr
  | ⟨.unlock mutex, _⟩ :: tr => lockedAfter (locked.erase mutex) tr
  | _ :: tr => lockedAfter locked tr

/-- The trace works with no smart pointer. -/
def KeepsState (tr : Trace) : Prop := ∀ ev ∈ tr, ∀ o, ev.1 ≠ .own o

omit [NativeApi] in
theorem audit_relied (target : Target) (q : Audit) (tr : Trace) : (audit target).Relied q tr :=
  Protocol.relied_of_forall (fun _ _ _ => trivial) q tr

omit [NativeApi] in
theorem audit_native (target : Target) (q : Audit) (tr : Trace) :
    ((audit target).after q tr).native = q.native ++ nativeEvents tr := by
  induction tr generalizing q with
  | nil => simp [nativeEvents]
  | cons ev tr ih =>
    obtain ⟨e, r⟩ := ev
    rw [Protocol.after_cons, ih]
    cases e <;> simp [audit, nativeEvents, Eff.isNative]

omit [NativeApi] in
theorem audit_starved (target : Target) (q : Audit) (tr : Trace) :
    ((audit target).after q tr).starved = true ↔ q.starved = true ∨ OutOfMemory tr := by
  induction tr generalizing q with
  | nil => simp [OutOfMemory]
  | cons ev tr ih =>
    obtain ⟨e, r⟩ := ev
    rw [Protocol.after_cons, ih]
    cases e with
    | alloc => cases r <;> simp [audit, OutOfMemory]
    | lock | unlock | call | proc | own => simp [audit, OutOfMemory]

omit [NativeApi] in
theorem audit_locked (target : Target) (q : Audit) (tr : Trace)
    (hallowed : (audit target).Allowed q tr) :
    lockedAfter (if q.held then [target.device.addr] else []) tr =
      if ((audit target).after q tr).held then [target.device.addr] else [] := by
  induction tr generalizing q with
  | nil => rfl
  | cons ev tr ih =>
    obtain ⟨e, r⟩ := ev
    obtain ⟨hnow, hrest⟩ := hallowed
    rw [Protocol.after_cons, ← ih _ hrest]
    cases e with
    | lock mutex =>
      obtain ⟨rfl, hfree⟩ := hnow
      simp [lockedAfter, audit, hfree]
    | unlock mutex =>
      obtain ⟨rfl, hheld⟩ := hnow
      simp [lockedAfter, audit, hheld]
    | alloc | call | proc | own => rfl

omit [NativeApi] in
theorem audit_keepsState {target : Target} {q : Audit} {tr : Trace}
    (hallowed : (audit target).Allowed q tr) : KeepsState tr := by
  induction tr generalizing q with
  | nil => exact fun ev hev => absurd hev List.not_mem_nil
  | cons ev tr ih =>
    obtain ⟨hnow, hrest⟩ := hallowed
    intro ev' hev' o ho
    rcases List.mem_cons.mp hev' with rfl | hmem
    · rw [ho] at hnow
      exact hnow
    · exact ih hrest ev' hmem o ho

/-- How a data operation on an object that reaches a device may end. -/
inductive DataCall.Outcome (x : DataCall) (tr : Trace) : Except Exn x.Ret → Prop where
  /-- Memory ran out before the native call. -/
  | outOfMemory (hnative : nativeEvents tr = []) (hmemory : OutOfMemory tr) :
      Outcome x tr (.error .badAlloc)
  /-- The arguments are rejected. -/
  | rejected (y : Exn) (hrequest : x.request = .error y) (hnative : nativeEvents tr = []) :
      Outcome x tr (.error y)
  /-- The one native call has answered. -/
  | answered (req : Request x.Ret) (reply : req.effect.Reply) (hrequest : x.request = .ok req)
      (hnative : nativeEvents tr = [⟨req.effect, reply⟩]) : Outcome x tr (req.result reply)
  /-- The answer is fine, and there is no memory to copy it. -/
  | noRoom (req : Request x.Ret) (reply : req.effect.Reply) (a : x.Ret)
      (hrequest : x.request = .ok req) (hnative : nativeEvents tr = [⟨req.effect, reply⟩])
      (hresult : req.result reply = .ok a) (hmemory : OutOfMemory tr) :
      Outcome x tr (.error .badAlloc)

theorem DataCall.outcome_of_post {x : DataCall} {target : Target} {tr : Trace}
    {out : Except Exn x.Ret}
    (hpost : Request.Post false x.request out ((audit target).after {} tr)) :
    x.Outcome tr out := by
  have hmemory : ((audit target).after {} tr).starved = true → OutOfMemory tr :=
    fun h => ((audit_starved target {} tr).mp h).resolve_left Bool.false_ne_true
  obtain ⟨-, hrest⟩ := hpost
  rw [audit_native target {} tr, List.nil_append] at hrest
  obtain ⟨hstarved, hnative, rfl⟩ | hrest := hrest
  · exact .outOfMemory hnative (hmemory hstarved)
  · cases hx : x.request with
    | error y =>
      rw [hx] at hrest
      obtain ⟨hnative, rfl⟩ := hrest
      exact .rejected y hx hnative
    | ok req =>
      rw [hx] at hrest
      obtain ⟨reply, hnative, rfl | ⟨hstarved, rfl, a, hresult⟩⟩ := hrest
      · exact .answered req reply hx hnative
      · exact .noRoom req reply a hx hnative hresult (hmemory hstarved)

/-- **The run of a data operation.**  Whatever the environment answers: no smart
    pointer is touched, no mutex stays locked, and the native events and the outcome are
    those of the request. -/
theorem DataCall.run {x : DataCall} {target : Target} (htarget : x.target = some target)
    {tr : Trace} {out : Except Exn x.Ret} (hruns : x.prog.Runs tr out) :
    KeepsState tr ∧ lockedAfter [] tr = [] ∧ x.Outcome tr out := by
  obtain ⟨hallowed, hpost⟩ := Prog.wp_runs (prog_meets htarget) hruns (audit_relied target {} tr)
  refine ⟨audit_keepsState hallowed, ?_, outcome_of_post hpost⟩
  have hlocked := audit_locked target {} tr hallowed
  rw [hpost.1] at hlocked
  exact hlocked

/-- The calls of a data operation are calls on its target. -/
theorem DataCall.serves {y : DataCall} {tr : Trace} {answer : Except Exn y.Ret}
    (hruns : y.prog.Runs tr answer) {x : NativeCall} {reply : x.Reply}
    (hmem : ⟨.call x, reply⟩ ∈ tr) : ∃ target, y.target = some target ∧ x.Serves target := by
  cases htarget : y.target with
  | none =>
    rw [DataCall.prog_noState htarget] at hruns
    rw [(Prog.runs_throw.mp hruns).1] at hmem
    cases hmem
  | some target =>
    have honly : y.prog.Only fun e => ∀ x, e = .call x → x.Serves target := by
      refine Prog.only_of_wp ?_ (fun _ _ _ => trivial) (DataCall.prog_meets htarget)
      rintro q e hallow x rfl
      exact hallow.2
    exact ⟨target, rfl, honly.runs hruns _ hmem x rfl⟩

/-- The outcome of a data operation, on whatever object. -/
theorem DataCall.outcome {y : DataCall} {tr : Trace} {answer : Except Exn y.Ret}
    (hruns : y.prog.Runs tr answer) : y.Outcome tr answer := by
  cases htarget : y.target with
  | some target => exact (DataCall.run htarget hruns).2.2
  | none =>
    rw [DataCall.prog_noState htarget] at hruns
    rcases Prog.runs_throw.mp hruns with ⟨rfl, rfl⟩
    exact .rejected _ (DataCall.request_noState htarget) rfl

end EasyMcp2221
