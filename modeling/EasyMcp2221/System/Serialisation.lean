import EasyMcp2221.System.Runs

/-!
# Native calls are serialised

Any number of threads, any interleaving, any native results: what the mutex of a
`DeviceState` protects, and when it can be destroyed.
-/

namespace EasyMcp2221

open Effect

section

variable {T : Type} [DecidableEq T] [NativeApi] {t : T} {op : Op} {s : Store T}
  {c c' : (system T).Config}

/-- The thread holds the mutex of the `DeviceState` `a`, is about to lock it, or waits for
    it. -/
def Claims (c : (system T).Config) (t : T) (a : Addr) : Prop :=
  c.state.mutex a = some t ∨ ∃ op, c.Performs t op (.lock a)

omit [DecidableEq T] in
/-- A thread that stands inside a lock scope holds the mutex. -/
theorem Attached.holds {q : Position} {handle : HandlePtr} (h : Attached s t op q handle)
    {d : DeviceState} (hdevice : q.device = some d) (hheld : q.held = true) :
    s.mutex d.addr = some t :=
  (h.own.mutex d.addr).mpr (by rw [Position.mutex, if_pos hheld, hdevice, Option.map_some])

omit [DecidableEq T] in
/-- The mutex that a thread holds belongs to a `DeviceState` that lives. -/
theorem SystemOk.mutex_live {g : T → Phase Eff Op Position} (hok : SystemOk s g) {a : Addr}
    (hmutex : s.mutex a = some t) : ∃ h, s.handles (.state a) = some h := by
  rcases hok.thread t with ⟨-, hquiet⟩ | ⟨op, q, handle, -, hq, -⟩
  · cases (hquiet.own.mutex a).mp hmutex
  · have hmine := (hq.own.mutex a).mp hmutex
    rw [Position.mutex] at hmine
    split at hmine
    · obtain ⟨d, hdevice, rfl⟩ := Option.map_eq_some_iff.mp hmine
      exact (hq.device_live hok.store hdevice).2
    · cases hmine

/-- A mutex that somebody holds or wants belongs to a `DeviceState` that lives. -/
theorem Claims.live (hc : (system T).Reachable Store.empty c) {a : Addr} (h : Claims c t a) :
    ∃ h, c.state.handles (.state a) = some h ∧ IsOpen c.state.log h := by
  obtain ⟨g, hok, htracks⟩ := system_reachable hc
  have hlive : ∃ h, c.state.handles (.state a) = some h := by
    rcases h with hmutex | ⟨op, hwants⟩
    · exact hok.mutex_live hmutex
    · obtain ⟨q, handle, -, hq, hpermits⟩ := performs_attached hok htracks hwants
      cases hpermits with
      | lock hdevice => exact (hq.device_live hok.store hdevice).2
  obtain ⟨h, hh⟩ := hlive
  exact ⟨h, hh, (hok.store.log.isOpen h).mpr ⟨_, hh⟩⟩

/-- A thread that performs a call with a handle holds the mutex of the `DeviceState` that
    has the handle. -/
theorem call_guarded (hc : (system T).Reachable Store.empty c) {x : NativeCall}
    (h : c.Performs t op (.call x)) {dev : HandlePtr} (hdev : c.state.accesses x = some dev) :
    ∃ a hd, dev = some hd ∧ c.state.handles (.state a) = some hd ∧ c.state.mutex a = some t := by
  obtain ⟨g, hok, htracks⟩ := system_reachable hc
  obtain ⟨q, handle, -, hq, hpermits⟩ := performs_attached hok htracks h
  obtain ⟨d, hd, hdevice, hheld, heq, hstate⟩ := hq.accesses hok.store hpermits hdev
  exact ⟨d.addr, hd, heq, hstate, hq.holds hdevice hheld⟩

/-- Two threads that perform calls with one handle are the same thread. -/
theorem call_exclusive (hc : (system T).Reachable Store.empty c) {t' : T} {op' : Op}
    {x x' : NativeCall} (h : c.Performs t op (.call x)) (h' : c.Performs t' op' (.call x'))
    {dev : HandlePtr} (hdev : c.state.accesses x = some dev)
    (hdev' : c.state.accesses x' = some dev) : t = t' := by
  obtain ⟨g, hok, -⟩ := system_reachable hc
  obtain ⟨a, hd, rfl, ha, hmutex⟩ := call_guarded hc h hdev
  obtain ⟨a', hd', heq, ha', hmutex'⟩ := call_guarded hc h' hdev'
  cases heq
  have hsame : Holder.state a = Holder.state a' := hok.store.devices.exclusive _ _ hd ha ha'
  cases hsame
  exact Option.some.inj (hmutex.symm.trans hmutex')

/-- A thread locks no mutex that it holds, and unlocks only what it holds. -/
theorem lock_unlock_disciplined (hc : (system T).Reachable Store.empty c) {a : Addr} :
    (c.Performs t op (.lock a) → c.state.mutex a ≠ some t) ∧
      (c.Performs t op (.unlock a) → c.state.mutex a = some t) := by
  obtain ⟨g, hok, htracks⟩ := system_reachable hc
  constructor
  · intro h hmutex
    obtain ⟨q, handle, -, hq, hpermits⟩ := performs_attached hok htracks h
    cases hpermits with
    | lock hdevice hfree =>
      have hmine := (hq.own.mutex _).mp hmutex
      rw [Position.mutex, hfree] at hmine
      cases hmine
  · intro h
    obtain ⟨q, handle, -, hq, hpermits⟩ := performs_attached hok htracks h
    cases hpermits with
    | unlock hdevice hheld => exact hq.holds hdevice hheld

/-- Nobody wants the mutex of a `DeviceState` that is being deleted. -/
theorem deleteDevice_unclaimed (hc : (system T).Reachable Store.empty c) {d : DeviceState}
    (h : c.Performs t op (.own (.deleteDevice d))) (t' : T) : ¬ Claims c t' d.addr := by
  intro hclaims
  obtain ⟨hd, hlive, -⟩ := hclaims.live hc
  obtain ⟨g, hok, htracks⟩ := system_reachable hc
  obtain ⟨q, handle, -, hq, hpermits⟩ := performs_attached hok htracks h
  cases hpermits with
  | deleteDevice =>
    obtain ⟨-, -, -, hdead, -⟩ := hq.stage
    rw [hdead] at hlive
    cases hlive
  | relocate hop => cases op <;> cases hop

/-- Once a handle is being closed, nobody wants the mutex that guarded it. -/
theorem closed_unclaimed (hc : (system T).Reachable Store.empty c)
    (hsteps : (system T).Steps c c') {a : Addr} {h : Handle}
    (hguards : c.state.handles (.state a) = some h) (hclosed : Closed c'.state.log h) (t' : T) :
    ¬ Claims c' t' a := by
  intro hclaims
  obtain ⟨h', hlive, hopen⟩ := hclaims.live (hc.steps hsteps)
  obtain hsame | hdead := handle_of_steps hc hsteps hguards
  · rw [hsame] at hlive
    cases hlive
    exact hopen.2 hclosed
  · rw [hdead] at hlive
    cases hlive

/-- **Native calls are serialised.**  In every reachable configuration of any number of
    threads:

    * at most one thread performs a call that works with a given handle;
    * it holds the mutex of the `DeviceState` that has the handle;
    * a thread whose operation has returned or thrown holds no mutex;
    * no thread locks a mutex that it holds, or unlocks one that it does not hold;
    * from the moment when a handle is being closed nobody holds or wants the mutex that
      guarded it, and nobody does while a `DeviceState` is destroyed. -/
theorem native_calls_serialised (hc : (system T).Reachable Store.empty c) :
    (∀ t t' op op' x x' dev, c.Performs t op (.call x) → c.Performs t' op' (.call x') →
      c.state.accesses x = some dev → c.state.accesses x' = some dev → t = t') ∧
    (∀ t op x dev, c.Performs t op (.call x) → c.state.accesses x = some dev →
      ∃ a hd, dev = some hd ∧ c.state.handles (.state a) = some hd ∧
        c.state.mutex a = some t) ∧
    (∀ t a, c.Rests t → c.state.mutex a ≠ some t) ∧
    (∀ t op a, (c.Performs t op (.lock a) → c.state.mutex a ≠ some t) ∧
      (c.Performs t op (.unlock a) → c.state.mutex a = some t)) ∧
    (∀ c' a h, (system T).Steps c c' → c.state.handles (.state a) = some h →
      Closed c'.state.log h → ∀ t, ¬ Claims c' t a) ∧
    (∀ t op d, c.Performs t op (.own (.deleteDevice d)) → ∀ t', ¬ Claims c t' d.addr) := by
  refine ⟨fun t t' op op' x x' dev h h' => call_exclusive hc h h',
    fun t op x dev h => call_guarded hc h, fun t a hrests hmutex => ?_,
    fun t op a => lock_unlock_disciplined hc,
    fun c' a h hsteps => closed_unclaimed hc hsteps,
    fun t op d h => deleteDevice_unclaimed hc h⟩
  obtain ⟨g, hok, htracks⟩ := system_reachable hc
  have hquiet := rests_quiet hok htracks hrests
  cases (hquiet.own.mutex a).mp hmutex

end

section

attribute [local instance] NativeApi.reference

/-- One thread has locked the mutex of the device and is about to release the bus; another one
    waits for the mutex. -/
theorem contended : ∃ c : (system Bool).Config, (system Bool).Reachable Store.empty c ∧
    c.state.mutex 0 = some false ∧
    c.Performs false (.device 0 .releaseI2c) (.call (.i2cRelease (some 7))) ∧
    ∃ k, c.threads true = .busy (.device 0 .releaseI2c) (.lock 0) k := by
  obtain ⟨s, hidle, hdevice, -, hself, hmutex⟩ := constructed false
  have hstart := hidle.start false (.device 0 .releaseI2c) ⟨hdevice, fun _ _ _ hop => by cases hop⟩
  have hprog : ∀ s' : Store Bool, s'.deviceSelf 0 = some ⟨0, some 7⟩ →
      (system Bool).prog s' (.device 0 .releaseI2c) =
        (Device.releaseI2c (some ⟨0, some 7⟩)).void := by
    intro s' hself
    rw [← hself]
    rfl
  rw [hprog s hself] at hstart
  obtain ⟨s₁, k, hdevice₁, hself₁, hheld, hlocked⟩ : ∃ s₁ k, s₁.wrappers 0 = some .device ∧
      s₁.deviceSelf 0 = some ⟨0, some 7⟩ ∧ s₁.mutex 0 = some false ∧
      (system Bool).ReachableAlone Store.empty false (.device 0 .releaseI2c)
        (.vis (.call (.i2cRelease (some 7))) k) s₁ :=
    ⟨_, _, hdevice, hself, rfl, hstart.perform () ⟨hmutex, rfl⟩⟩
  have hcan : (system Bool).canStart s₁
      (Machine.Config.running (M := system Bool) ⟨s₁, Function.update (fun _ => .idle) false
        (.ready (.device 0 .releaseI2c) (.vis (.call (.i2cRelease (some 7))) k))⟩) true
      (.device 0 .releaseI2c) := by
    refine ⟨hdevice₁, fun t' op' _ hop => ?_⟩
    cases t' with
    | false =>
      cases hop
      exact ⟨fun _ h => (by cases h), fun _ _ h => (by cases h)⟩
    | true => cases hop
  have hsecond := Machine.Reachable.step hlocked (.start _ true (.device 0 .releaseI2c) rfl hcan)
  rw [hprog _ hself₁] at hsecond
  have hwaiting := hsecond.step (.enter _ true (.device 0 .releaseI2c) (.lock 0) _ rfl)
  exact ⟨_, hwaiting, hheld, ⟨k, .inl rfl⟩, _, rfl⟩

/-- Whoever performs a call with the handle 7 is the thread that releases the bus; the other
    thread waits for the mutex that this one holds. -/
theorem native_calls_serialised_contended : ∃ c : (system Bool).Config,
    (system Bool).Reachable Store.empty c ∧
      c.Performs false (.device 0 .releaseI2c) (.call (.i2cRelease (some 7))) ∧
      c.Performs true (.device 0 .releaseI2c) (.lock 0) ∧
      (∀ t op x, c.Performs t op (.call x) → c.state.accesses x = some (some 7) → t = false) ∧
      ∃ a, c.state.handles (.state a) = some 7 ∧ c.state.mutex a = some false := by
  obtain ⟨c, hc, -, hcalls, k, hwaits⟩ := contended
  obtain ⟨hexclusive, hguarded, -⟩ := native_calls_serialised hc
  have honly : ∀ t op x, c.Performs t op (.call x) → c.state.accesses x = some (some 7) →
      t = false := fun t op x hperforms hdev =>
    hexclusive t false op _ x _ _ hperforms hcalls hdev rfl
  obtain ⟨a, hd, heq, ha, hmutex⟩ := hguarded false _ _ _ hcalls rfl
  cases heq
  exact ⟨c, hc, hcalls, ⟨k, .inr hwaits⟩, honly, a, ha, hmutex⟩

end

end EasyMcp2221
