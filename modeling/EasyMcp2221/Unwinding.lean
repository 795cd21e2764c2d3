import EasyMcp2221.Answer

/-!
# Unwinding of the operations that create, move and drop objects

The constructor, the factories, and the operations of the smart pointers make several
native calls or none.  The protocol `unwinding` says what a failed call leaves to do:
after it there are only clean-up calls and pointer operations on the locals, and no
wrapper object has been or will be written.
-/

namespace EasyMcp2221

open Effect

/-! ## The protocol -/

/-- The wrapper objects that a pointer operation writes. -/
def Own.wrappers : Own → List Var
  | .commitDevice w => [w]
  | .commitChild w _ => [w]
  | .reset w => [w]
  | .destroy w => [w]
  | .moveConstruct src dst => [src, dst]
  | .copyConstruct _ dst => [dst]
  | .moveAssign src dst => [src, dst]
  | .copyAssign _ dst => [dst]
  | _ => []

/-- The `void` functions that destructors call. -/
def NativeProc.isCleanup : NativeProc → Bool
  | .close _ => true
  | .smbusClose _ => true
  | _ => false

/-- The effect is the work of a destructor, a lock, an allocation, or an operation on
    local pointers. -/
def Eff.isCleanup : Eff → Bool
  | .call _ => false
  | .proc p => p.isCleanup
  | _ => true

def Eff.wrappers : Eff → List Var
  | .own o => o.wrappers
  | _ => []

/-- The calls of the constructor and the factories. -/
def NativeCall.isSetup : NativeCall → Bool
  | .openScan .. => true
  | .i2cRelease _ => true
  | .i2cSetSpeed .. => true
  | .i2cSlaveInit .. => true
  | .smbusInit .. => true
  | _ => false

/-- Only the status of the best-effort release in the constructor is ignored. -/
def PublicOp.ignores : PublicOp → NativeCall → Bool
  | .construct .., .i2cRelease _ => true
  | _, _ => false

/-- The progress of an operation that is not a data operation. -/
structure Standing where
  /-- A native call has been made. -/
  called : Bool := false
  /-- The status of the call that failed. -/
  failed : Option Int := none
  /-- An allocation has failed. -/
  starved : Bool := false
  /-- A wrapper object has been written. -/
  published : Bool := false

variable [NativeApi]

instance (c : NativeCall) (reply : c.Reply) : Decidable (c.Succeeded reply) :=
  inferInstanceAs (Decidable (if c.countsEvents then 0 ≤ reply.status else reply.status = err .ok))

def unwinding (p : PublicOp) : Protocol Eff Eff.Reply Standing where
  allow q
    | .call c => c.isSetup = true ∧ q.failed = none ∧ q.published = false
    | .proc f => q.failed = none ∨ f.isCleanup = true
    | .own o => q.failed = none ∨ o.wrappers = []
    | _ => True
  rely _ _ _ := True
  next q
    | .alloc, ok => { q with starved := q.starved || !ok }
    | .call c, reply =>
      if p.ignores c = true ∨ c.Succeeded reply then { q with called := true }
      else { q with called := true, failed := some reply.status }
    | .own o, _ => { q with published := q.published || !o.wrappers.isEmpty }
    | _, _ => q

/-- How such an operation may end. -/
def Unwound (p : PublicOp) : Prog.Post Exn Unit Standing :=
  fun out q =>
    match q.failed with
    | some status => q.published = false ∧ ∃ operation, out = .error (statusError status operation)
    | none =>
      out = .ok () ∨ (q.starved = true ∧ out = .error .badAlloc) ∨
        (q.called = false ∧ q.published = false ∧
          ((¬ p.HasState ∧ ∃ what, out = .error (.logicError what)) ∨
            (p.HasState ∧ ¬ p.InDomain ∧ ∃ message, out = .error (invalidError message))))

/-! ## Rules -/

section Rules

variable {p : PublicOp} {q : Standing} {α β : Type}

@[simp] theorem unwinding_own (o : Own) (r : o.Reply) :
    (unwinding p).next q (.own o) r =
      { q with published := q.published || !o.wrappers.isEmpty } := rfl

@[simp] theorem unwinding_proc (f : NativeProc) : (unwinding p).next q (.proc f) () = q := rfl

/-- A pointer operation on the locals alone. -/
theorem wp_own_local {o : Own} {k : o.Reply → M α} {Φ : Prog.Post Exn α Standing}
    (hlocal : o.wrappers = []) (h : ∀ r, (k r).wp (unwinding p) q Φ) :
    ((own o).bind k).wp (unwinding p) q Φ := by
  refine ⟨.inr hlocal, fun r _ => ?_⟩
  have hsame : (unwinding p).next q (.own o) r = q := by simp [hlocal]
  rw [hsame]
  exact h r

/-- A destructor's call. -/
theorem wp_proc_cleanup {f : NativeProc} {k : Unit → M α} {Φ : Prog.Post Exn α Standing}
    (hcleanup : f.isCleanup = true) (h : (k ()).wp (unwinding p) q Φ) :
    ((proc f).bind k).wp (unwinding p) q Φ :=
  ⟨.inr hcleanup, fun _ _ => h⟩

/-- Dropping the local device pointer is always allowed and changes nothing. -/
theorem wp_dropDevice {Φ : Prog.Post Exn Unit Standing} (h : Φ (.ok ()) q) :
    dropDevice.wp (unwinding p) q Φ := by
  refine wp_own_local rfl fun last => ?_
  cases last with
  | none => exact h
  | some state =>
    by_cases hhandle : state.handle ≠ none
    · simp only [hhandle, ne_eq, not_false_eq_true, if_true]
      exact wp_proc_cleanup rfl (wp_own_local (k := .ret) rfl fun _ => h)
    · simp only [hhandle, if_false]
      exact wp_own_local (k := .ret) rfl fun _ => h

/-- So is dropping the local child pointer. -/
theorem wp_dropChild {Φ : Prog.Post Exn Unit Standing} (h : Φ (.ok ()) q) :
    dropChild.wp (unwinding p) q Φ := by
  refine wp_own_local rfl fun last => ?_
  obtain _ | ⟨child, kind⟩ := last
  · exact h
  · cases kind with
    | smbus => exact wp_proc_cleanup rfl (wp_own_local rfl fun _ => wp_dropDevice h)
    | i2c | poller => exact wp_own_local rfl fun _ => wp_dropDevice h

theorem wp_drop {kind : WrapperKind} {Φ : Prog.Post Exn Unit Standing} (h : Φ (.ok ()) q) :
    kind.drop.wp (unwinding p) q Φ := by
  cases kind with
  | device => exact wp_dropDevice h
  | child => exact wp_dropChild h

/-- A check before any native call. -/
theorem wp_gate_unwinding {x : Except Exn β} {P : Prop} {k : β → M Unit}
    (hgate : Gate invalidError P x) (hdomain : p.InDomain → P) (hstate : p.HasState)
    (hfailed : q.failed = none) (hcalled : q.called = false) (hpublished : q.published = false)
    (h : ∀ b, (k b).wp (unwinding p) q (Unwound p)) :
    ((Prog.ofExcept x).bind k).wp (unwinding p) q (Unwound p) := by
  cases hgate with
  | accept _ b hx =>
    subst hx
    exact h b
  | reject hno message hx =>
    subst hx
    show Unwound p _ _
    unfold Unwound
    rw [hfailed]
    exact .inr (.inr ⟨hcalled, hpublished, .inr ⟨hstate, fun h => hno (hdomain h), message, rfl⟩⟩)

/-- An allocation before anything has failed. -/
theorem wp_allocate_unwinding {k : Unit → M Unit} (hfailed : q.failed = none)
    (h : (k ()).wp (unwinding p) q (Unwound p)) :
    (allocate.bind k).wp (unwinding p) q (Unwound p) := by
  refine ⟨trivial, fun ok _ => ?_⟩
  cases ok with
  | false =>
    show Unwound p _ { q with starved := q.starved || true }
    unfold Unwound
    rw [hfailed]
    exact .inr (.inl ⟨Bool.or_true _, rfl⟩)
  | true =>
    have hsame : (unwinding p).next q .alloc true = q := by
      show { q with starved := q.starved || false } = q
      rw [Bool.or_false]
    rw [hsame]
    exact h

theorem lockless_unwinding : Lockless (unwinding p) :=
  fun _ _ => ⟨⟨trivial, rfl⟩, trivial, rfl⟩

/-- A native call whose status is checked. -/
theorem wp_nativeCall_unwinding {c : NativeCall} {operation : String} {k : c.Out → M α}
    {Φ : Prog.Post Exn α Standing} (hfailed : q.failed = none) (hpublished : q.published = false)
    (hsetup : c.isSetup = true) (hchecked : p.ignores c = false)
    (hstatus : c.countsEvents = false)
    (hok : ∀ out, (k out).wp (unwinding p) { q with called := true } Φ)
    (herror : ∀ status, Φ (.error (statusError status operation))
      { q with called := true, failed := some status }) :
    ((nativeCall c operation).bind k).wp (unwinding p) q Φ := by
  refine ⟨⟨hsetup, hfailed, hpublished⟩, fun reply _ => ?_⟩
  by_cases hsucceeded : reply.status = err .ok
  · have hnext : (unwinding p).next q (.call c) reply = { q with called := true } :=
      if_pos (.inr (by simpa [NativeCall.Succeeded, hstatus] using hsucceeded))
    rw [hnext]
    have hcheck : checkError reply.status operation = .ok () := if_pos hsucceeded
    simp only [Prog.ret_bind, hcheck]
    exact hok reply.out
  · have hnext : (unwinding p).next q (.call c) reply =
        { q with called := true, failed := some reply.status } :=
      if_neg (by simp [NativeCall.Succeeded, hstatus, hchecked, hsucceeded])
    rw [hnext]
    have hcheck : checkError reply.status operation =
        .error (statusError reply.status operation) := if_neg hsucceeded
    simp only [Prog.ret_bind, hcheck]
    exact herror reply.status

end Rules

/-! ## The operations -/

theorem Unwound.ok {p : PublicOp} {q : Standing} (h : q.failed = none) : Unwound p (.ok ()) q := by
  unfold Unwound
  rw [h]
  exact .inl rfl

/-- A failed status becomes the exception, and nothing has been published. -/
theorem Unwound.status {p : PublicOp} {q : Standing} {status : Int} {operation : String}
    (hfailed : q.failed = some status) (hpublished : q.published = false) :
    Unwound p (.error (statusError status operation)) q := by
  unfold Unwound
  rw [hfailed]
  exact ⟨hpublished, operation, rfl⟩

/-- The scope of `state` in the constructor: the release may fail, the others not. -/
theorem initialiseI2c_unwinds (w : Var) (options : DeviceOptions) (state : DeviceState)
    {q : Standing} (hfailed : q.failed = none) (hpublished : q.published = false) :
    ((withLock state (initialiseI2c state options.i2cSpeedHz)).bind fun _ =>
      own (.commitDevice w)).wp (unwinding (.construct w options)) q
      (Unwound (.construct w options)) := by
  have hcommit : ∀ q' : Standing, q'.failed = none →
      (own (.commitDevice w)).wp (unwinding (.construct w options)) q'
        (Unwound (.construct w options)) :=
    fun q' hq' => ⟨.inl hq', fun _ _ => Unwound.ok hq'⟩
  refine Prog.wp_bind.mpr (lockless_unwinding.wp_withLock
    ⟨⟨rfl, hfailed, hpublished⟩, fun reply _ => ?_⟩)
  have hignored : (unwinding (.construct w options)).next q (.call (.i2cRelease state.handle))
      reply = { q with called := true } := by
    simp [unwinding, PublicOp.ignores]
  rw [hignored]
  refine wp_nativeCall_unwinding hfailed hpublished rfl rfl rfl (fun _ => ?_) fun status => ?_
  · by_cases hdefault : options.i2cSpeedHz ≠ 100000
    · rw [if_pos hdefault]
      refine Prog.bind_ret (nativeCall _ _) ▸
        wp_nativeCall_unwinding hfailed hpublished rfl rfl rfl (fun _ => hcommit _ hfailed)
          fun status => ?_
      exact Prog.andThen_error.mpr (Unwound.status rfl hpublished)
    · rw [if_neg hdefault]
      exact hcommit _ hfailed
  · exact Prog.andThen_error.mpr (Unwound.status rfl hpublished)

theorem construct_unwinds (w : Var) (options : DeviceOptions) :
    (Device.construct w options).wp (unwinding (.construct w options)) {}
      (Unwound (.construct w options)) := by
  refine wp_gate_unwinding (gate_speed options.i2cSpeedHz _) id trivial rfl rfl rfl fun _ => ?_
  refine wp_nativeCall_unwinding rfl rfl rfl rfl rfl (fun handle => ?_)
    fun status => Unwound.status rfl rfl
  refine ⟨trivial, fun ok _ => ?_⟩
  cases ok with
  | false =>
    -- `handleGuard` closes the handle
    have hstarved : Unwound (.construct w options) (.error .badAlloc)
        { called := true, starved := true } := .inr (.inl ⟨rfl, rfl⟩)
    by_cases hhandle : handle ≠ none
    · simp only [Bool.false_eq_true, if_false, if_pos hhandle]
      exact wp_proc_cleanup rfl hstarved
    · simp only [Bool.false_eq_true, if_false, if_neg hhandle]
      exact hstarved
  | true =>
    simp only [if_true]
    refine wp_own_local rfl fun addr => Prog.wp_cleanup.mpr ?_
    refine Prog.wp_mono (initialiseI2c_unwinds w options ⟨addr, handle⟩ rfl rfl) ?_
    exact fun out q hout => wp_dropDevice hout

/-- The automatic `child` of a factory, and the scope in which it is initialised. -/
theorem wp_child_unwinding {p : PublicOp} {q : Standing} {body : M Unit}
    (h : body.wp (unwinding p) q (Unwound p)) :
    (Prog.cleanup body dropChild).wp (unwinding p) q (Unwound p) :=
  Prog.wp_cleanup.mpr (Prog.wp_mono h fun _ _ hout => wp_dropChild hout)

/-- The last step of a factory. -/
theorem commitChild_unwinds {p : PublicOp} {q : Standing} {dst : Var} {kind : ChildKind}
    (h : q.failed = none) : (own (.commitChild dst kind)).wp (unwinding p) q (Unwound p) :=
  ⟨.inl h, fun _ _ => Unwound.ok h⟩

theorem i2cDevice_unwinds (self : Option DeviceState) (dst : Var) (address : UInt8)
    (options : I2cDeviceOptions) :
    (Device.i2cDevice self dst address options).wp
      (unwinding (.i2cDevice self dst address options)) {}
      (Unwound (.i2cDevice self dst address options)) := by
  cases self with
  | none => exact .inr (.inr ⟨rfl, rfl, .inl ⟨fun h => h rfl, _, rfl⟩⟩)
  | some state =>
    have hstate : (PublicOp.i2cDevice (some state) dst address options).HasState := nofun
    show ((Prog.ofExcept (validateI2cAddress address)).bind _).wp _ _ _
    refine wp_gate_unwinding (gate_validateI2cAddress address) (·.1) hstate rfl rfl rfl
      fun _ => ?_
    refine wp_gate_unwinding (gate_speed options.speedHz _) (·.2.1) hstate rfl rfl rfl
      fun _ => ?_
    refine wp_allocate_unwinding rfl (wp_own_local rfl fun child => wp_child_unwinding ?_)
    refine lockless_unwinding.wp_withLock ?_
    refine wp_gate_unwinding (gate_toNativeByteOrder options.byteOrder) (·.2.2.1) hstate rfl rfl
      rfl fun _ => ?_
    refine wp_gate_unwinding (gate_toNativeRegisterWidth options.registerWidth) (·.2.2.2) hstate
      rfl rfl rfl fun _ => ?_
    exact wp_nativeCall_unwinding rfl rfl rfl rfl rfl (fun _ => commitChild_unwinds rfl)
      fun status => Unwound.status rfl rfl

theorem smbusDevice_unwinds (self : Option DeviceState) (dst : Var) (address : UInt8) :
    (Device.smbusDevice self dst address).wp (unwinding (.smbusDevice self dst address)) {}
      (Unwound (.smbusDevice self dst address)) := by
  cases self with
  | none => exact .inr (.inr ⟨rfl, rfl, .inl ⟨fun h => h rfl, _, rfl⟩⟩)
  | some state =>
    have hstate : (PublicOp.smbusDevice (some state) dst address).HasState := nofun
    show ((Prog.ofExcept (validateI2cAddress address)).bind _).wp _ _ _
    refine wp_gate_unwinding (gate_validateI2cAddress address) id hstate rfl rfl rfl fun _ => ?_
    refine wp_allocate_unwinding rfl (wp_own_local rfl fun child => wp_child_unwinding ?_)
    refine lockless_unwinding.wp_withLock ?_
    exact wp_nativeCall_unwinding rfl rfl rfl rfl rfl (fun _ => commitChild_unwinds rfl)
      fun status => Unwound.status rfl rfl

theorem gpioPoller_unwinds (self : Option DeviceState) (dst : Var) :
    (Device.gpioPoller self dst).wp (unwinding (.gpioPoller self dst)) {}
      (Unwound (.gpioPoller self dst)) := by
  cases self with
  | none => exact .inr (.inr ⟨rfl, rfl, .inl ⟨fun h => h rfl, _, rfl⟩⟩)
  | some state =>
    refine wp_allocate_unwinding rfl (wp_own_local rfl fun child => wp_child_unwinding ?_)
    exact ⟨.inl rfl, fun _ _ => commitChild_unwinds rfl⟩

/-- An operation that only moves pointers and drops what it has displaced. -/
theorem pointers_unwind {p : PublicOp} {o : Own} {k : o.Reply → M Unit}
    (h : ∀ r q, q.failed = none → (k r).wp (unwinding p) q (Unwound p)) :
    ((own o).bind k).wp (unwinding p) {} (Unwound p) :=
  ⟨.inl rfl, fun r _ => h r _ rfl⟩

/-- A property of runs holds of every operation when it holds of the data operations
    and of whatever unwinds. -/
theorem PublicOp.run_cases {C : (α : Type) → PublicOp → Trace → Except Exn α → Prop}
    (data : ∀ (x : DataCall) (tr : Trace) (out : Except Exn x.Ret), x.prog.Runs tr out →
      C x.Ret (.data x) tr out)
    (unwinds : ∀ (p : PublicOp) (prog : M Unit) (tr : Trace) (out : Except Exn Unit),
      prog.wp (unwinding p) {} (Unwound p) → prog.Runs tr out → C Unit p tr out)
    (p : PublicOp) {tr : Trace} {out : Except Exn p.Ret} (hruns : p.prog.Runs tr out) :
    C p.Ret p tr out := by
  cases p with
  | data x => exact data x tr out hruns
  | construct w options => exact unwinds _ _ _ _ (construct_unwinds w options) hruns
  | i2cDevice self dst address options =>
    exact unwinds _ _ _ _ (i2cDevice_unwinds self dst address options) hruns
  | smbusDevice self dst address =>
    exact unwinds _ _ _ _ (smbusDevice_unwinds self dst address) hruns
  | gpioPoller self dst => exact unwinds _ _ _ _ (gpioPoller_unwinds self dst) hruns
  | close w =>
    exact unwinds _ _ _ _ (pointers_unwind fun _ _ hq => wp_dropDevice (Unwound.ok hq)) hruns
  | destroy kind w =>
    exact unwinds _ _ _ _ (pointers_unwind fun _ _ hq => wp_drop (Unwound.ok hq)) hruns
  | moveConstruct src dst =>
    exact unwinds _ (own (.moveConstruct src dst)) _ _ ⟨.inl rfl, fun _ _ => Unwound.ok rfl⟩ hruns
  | copyConstruct src dst =>
    exact unwinds _ (own (.copyConstruct src dst)) _ _ ⟨.inl rfl, fun _ _ => Unwound.ok rfl⟩ hruns
  | moveAssign kind src dst =>
    exact unwinds _ _ _ _ (pointers_unwind fun _ _ hq => wp_drop (Unwound.ok hq)) hruns
  | copyAssign kind src dst =>
    exact unwinds _ _ _ _ (pointers_unwind fun _ _ hq => wp_drop (Unwound.ok hq)) hruns

end EasyMcp2221
