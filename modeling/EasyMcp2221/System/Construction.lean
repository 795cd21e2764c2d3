import EasyMcp2221.Construction
import EasyMcp2221.System.Runs

/-!
# The constructor among other threads

`construct_runs` is about the runs of the constructor in which its local pointer is not
shared.  In the system this is no assumption: the pointer is in no other place, and no
step of another thread copies it (`leaves_shared`).  `constructObserver` follows the
local pointer and the new object through every execution of the constructor.
-/

namespace EasyMcp2221

open Effect

section

variable {T : Type} [DecidableEq T] [NativeApi] {t t' : T} {op : Op} {s s' : Store T}
  {q : Position} {handle : HandlePtr} {a : Addr}

/-! ## Pointers to device states -/

omit [NativeApi] in
theorem enters_dev (e : Eff) : (s.enters t op e).dev = s.dev := by
  cases e with
  | proc f => cases f <;> rfl
  | _ => rfl

theorem callEnds_dev {c : NativeCall} {reply : c.Reply} (h : s.callEnds t c reply s') :
    s'.dev = s.dev := by
  cases c with
  | openScan =>
    by_cases hok : reply.status = err .ok
    · obtain ⟨hd, -, -, rfl⟩ := (if_pos hok).mp h
      rfl
    · obtain rfl := (if_neg hok).mp h
      rfl
  | i2cSlaveInit =>
    obtain ⟨slave, -, rfl⟩ := h
    rfl
  | smbusInit =>
    obtain ⟨bus, -, -, rfl⟩ := h
    rfl
  | _ =>
    obtain rfl := h
    rfl

/-- A step of one thread copies no local pointer of another. -/
theorem leaves_shared {e : Eff} {r : e.Reply} (hs : StoreOk s) (h : Attached s t op q handle)
    (hpermits : q.Permits op e) (hleave : s.leaves t op e r s') (hne : t' ≠ t)
    (howned : Owned s.dev a) (hshared : Shared s'.dev (.temp t') a) :
    Shared s.dev (.temp t') a := by
  have htemp : (.temp t : Place T Addr) ≠ .temp t' := by simpa using hne.symm
  cases e with
  | alloc | unlock =>
    obtain rfl := hleave
    exact hshared
  | proc f =>
    obtain rfl := hleave
    cases f <;> exact hshared
  | lock =>
    obtain ⟨-, rfl⟩ := hleave
    exact hshared
  | call c =>
    rw [callEnds_dev hleave] at hshared
    exact hshared
  | own o =>
    cases o with
    | makeDeviceState =>
      obtain ⟨rfl, rfl⟩ := hleave
      refine shared_of_update (fun h => ?_) hshared
      cases h
      exact absurd (hs.devices.fresh _ howned) (Nat.lt_irrefl _)
    | commitDevice =>
      obtain rfl := hleave
      exact shared_of_move htemp hshared
    | makeChild =>
      obtain ⟨rfl, rfl⟩ := hleave
      cases hpermits with
      | relocate hop => cases op <;> cases hop
      | makeChild hkind htarget =>
        obtain ⟨v, -, hv, -⟩ := Op.receiver hkind (h.resolve (.inr rfl)) htarget
        exact shared_of_update (fun h => ⟨.wrapper v, by simp, hv.trans h⟩) hshared
    | releaseDevice =>
      obtain ⟨-, -, rfl⟩ | ⟨b, -, -, -, rfl⟩ := hleave <;> exact shared_of_drop hshared
    | releaseChild =>
      obtain ⟨-, -, rfl⟩ | ⟨b, child, -, -, -, -, rfl⟩ := hleave <;> exact hshared
    | deleteChild b =>
      obtain rfl := hleave
      exact shared_of_move (by simp) hshared
    | deleteDevice | commitChild =>
      obtain rfl := hleave
      exact hshared
    | _ =>
      obtain rfl := hleave
      dsimp only at hshared
      exact shared_of_relocate _ hshared

/-! ## The constructor -/

/-- The stages of a constructor. -/
def Stage.constructs : Stage → Bool
  | working => true
  | scanned _ => true
  | building _ => true
  | droppingDevice => true
  | closing _ => true
  | deleting _ => true
  | done => true
  | _ => false

/-- The stage of a constructor whose local `state` points to a `DeviceState`. -/
def Stage.isBuilding : Stage → Bool
  | building _ => true
  | _ => false

omit [NativeApi] in
theorem Stage.ne_building {x : Stage} (h : x.isBuilding = false) (d : DeviceState) :
    x ≠ .building d := by
  rintro rfl
  cases h

/-- The local `state` and the member `state_` of the new object `w`, as the protocol of
    the constructor has them. -/
structure Constructs (t : T) (w : Var) (s : Store T) (q : Position) (b : Building) : Prop where
  stage : q.stage.constructs = true
  pointer : ∀ d, b.pointer = some d → q.stage = .building d ∧ ¬ Shared s.dev (.temp t) d.addr
  empty : b.pointer = none → (∀ d, q.stage ≠ .building d) ∧ s.dev (.temp t) = none
  published : b.published = s.deviceSelf w


omit [NativeApi] [DecidableEq T] in
theorem deviceSelf_of_none {w : Var} (h : s.dev (.wrapper w) = none) : s.deviceSelf w = none := by
  rw [Store.deviceSelf, h, Option.map_none]

section Steps

variable {w : Var} {options : DeviceOptions} {q' : Position} {b b' : Building}

omit [NativeApi] [DecidableEq T] in
theorem deviceSelf_congr {v : Var} (hdev : s'.dev = s.dev)
    (hstate : ∀ a, s'.handles (.state a) = s.handles (.state a)) :
    s'.deviceSelf v = s.deviceSelf v := by
  simp only [Store.deviceSelf, hdev, show s'.deviceState = s.deviceState from
    funext fun a => congrArg (DeviceState.mk a) (hstate a)]

omit [NativeApi] [DecidableEq T] in
/-- A step that touches neither pointer. -/
theorem Constructs.congr (h : Constructs t w s q b) (hdev : s'.dev = s.dev)
    (hstate : ∀ a, s'.handles (.state a) = s.handles (.state a)) (hstage : q'.stage = q.stage)
    (hpointer : b'.pointer = b.pointer) (hpublished : b'.published = b.published) :
    Constructs t w s' q' b' where
  stage := hstage ▸ h.stage
  pointer d hd := by
    rw [hstage, hdev]
    exact h.pointer d (hpointer ▸ hd)
  empty hb := by
    rw [hstage, hdev]
    exact h.empty (hpointer ▸ hb)
  published := by rw [hpublished, h.published, deviceSelf_congr hdev hstate]

omit [NativeApi] [DecidableEq T] in
/-- The local pointer points to the `DeviceState` of the stage. -/
theorem Constructs.pointer_eq_some {d : DeviceState} (h : Constructs t w s q b)
    (hstage : q.stage = .building d) : b.pointer = some d := by
  cases hb : b.pointer with
  | none => exact absurd hstage ((h.empty hb).1 d)
  | some d' => rw [Stage.building.inj ((h.pointer d' hb).1.symm.trans hstage)]

omit [NativeApi] [DecidableEq T] in
theorem Constructs.pointer_eq_none (h : Constructs t w s q b)
    (hstage : ∀ d, q.stage ≠ .building d) : b.pointer = none := by
  cases hb : b.pointer with
  | none => rfl
  | some d => exact absurd (h.pointer d hb).1 (hstage d)

omit [NativeApi] [DecidableEq T] in
/-- A step between stages without the local pointer. -/
theorem Constructs.advance (h : Constructs t w s q b) (hstage : ∀ d, q.stage ≠ .building d)
    (hdev : s'.dev = s.dev) (hstate : ∀ a, s'.handles (.state a) = s.handles (.state a))
    (hconstructs : q'.stage.constructs = true) (hstage' : ∀ d, q'.stage ≠ .building d)
    (hpointer : b'.pointer = b.pointer) (hpublished : b'.published = b.published) :
    Constructs t w s' q' b' where
  stage := hconstructs
  pointer d hd := by
    rw [hpointer, h.pointer_eq_none hstage] at hd
    cases hd
  empty _ := by
    rw [hdev]
    exact ⟨hstage', (h.empty (h.pointer_eq_none hstage)).2⟩
  published := by rw [hpublished, h.published, deviceSelf_congr hdev hstate]

omit [DecidableEq T] in
/-- The new object does not exist yet. -/
theorem Constructs.unpublished (h : Constructs t w s q b) (hs : StoreOk s)
    (hmine : Attached s t (.construct w options) q handle) (hearly : q.stage.early = true) :
    b.published = none ∧ s.dev (.wrapper w) = none := by
  obtain ⟨hempty, -⟩ := hs.wrappers.empty (hmine.typed hearly)
  rw [h.published, deviceSelf_of_none hempty]
  exact ⟨rfl, hempty⟩

omit [DecidableEq T] in
/-- The step of another thread. -/
theorem Constructs.other {op' : Op} (hmine : Attached s t (.construct w options) q handle)
    (hcompat : op'.Compatible (.construct w options)) (hframe : Frame t' op' s s') (hne : t ≠ t')
    (hcopy : ∀ a, Owned s.dev a → Shared s'.dev (.temp t) a → Shared s.dev (.temp t) a)
    (h : Constructs t w s q b) : Constructs t w s' q b where
  stage := h.stage
  pointer d hd := by
    obtain ⟨hstage, hsole⟩ := h.pointer d hd
    have htemp := hmine.stage
    rw [hstage] at htemp
    exact ⟨hstage, fun hshared => hsole (hcopy _ ⟨.temp t, htemp.1⟩ hshared)⟩
  empty hb := by
    obtain ⟨hstage, htemp⟩ := h.empty hb
    exact ⟨hstage, (hframe.dev_temp t hne).trans htemp⟩
  published := by
    rw [h.published, hframe.deviceSelf_eq]
    exact Frame.not_mem_writes hcompat (.inl (List.mem_singleton_self w))

omit [NativeApi] in
theorem Constructs.enter (h : Constructs t w s q b) (e : Eff) :
    Constructs t w (s.enters t op e) q b := by
  refine h.congr (enters_dev e) (fun a => ?_) rfl rfl rfl
  cases e with
  | proc f => cases f <;> rfl
  | _ => rfl

omit [NativeApi] in
theorem update_thread {handles : Holder T → Option Handle} {x : Option Handle} (a : Addr) :
    Function.update handles (.thread t) x (.state a) = handles (.state a) :=
  Function.update_of_ne (by simp) _ _

theorem Constructs.leave {e : Eff} {r : e.Reply} (hs : StoreOk s)
    (hmine : Attached s t (.construct w options) q handle)
    (hpermits : q.Permits (.construct w options) e)
    (hleave : s.leaves t (.construct w options) e r s') (h : Constructs t w s q b) :
    building.rely b e r ∧ Constructs t w s' (q.next e r) (building.next b e r) := by
  cases hpermits with
  | alloc =>
    obtain rfl := hleave
    refine ⟨trivial, h.congr rfl (fun _ => rfl) ?_ rfl rfl⟩
    obtain ⟨call, stage, held⟩ := q
    cases stage <;> rfl
  | lock =>
    obtain ⟨-, rfl⟩ := hleave
    exact ⟨trivial, h.congr rfl (fun _ => rfl) rfl rfl rfl⟩
  | unlock =>
    obtain rfl := hleave
    exact ⟨trivial, h.congr rfl (fun _ => rfl) rfl rfl rfl⟩
  | call | setMask => cases hmine.resolve (.inr rfl)
  | openScan =>
    by_cases hok : r.status = err .ok
    · obtain ⟨hd, hout, -, rfl⟩ := (if_pos hok).mp hleave
      refine ⟨trivial, h.advance (Stage.ne_building rfl) rfl
        (update_thread (t := t) (x := some hd)) ?_ (Stage.ne_building ?_) rfl rfl⟩
      all_goals simp only [Position.next, Stage.next, Store.openedHandle, if_pos hok, hout]
      · rfl
      · rfl
    · obtain rfl := (if_neg hok).mp hleave
      refine ⟨trivial, h.congr rfl (fun _ => rfl) ?_ rfl rfl⟩
      simp only [Position.next, Stage.next, Store.openedHandle, if_neg hok]
  | @makeDeviceState x hd =>
    obtain ⟨rfl, rfl⟩ := hleave
    obtain ⟨hpublished, hempty⟩ := h.unpublished hs hmine rfl
    refine ⟨trivial, rfl, fun d hd => ?_, fun hd => (by cases hd), ?_⟩
    · cases hd
      refine ⟨rfl, ?_⟩
      rintro ⟨z, hz, hza⟩
      have hold : s.dev z = some s.next := (Function.update_of_ne hz _ _).symm.trans hza
      exact absurd (hs.devices.fresh _ ⟨z, hold⟩) (Nat.lt_irrefl _)
    · have hempty' : Function.update s.dev (.temp t) (some s.next) (.wrapper w) = none :=
        (Function.update_of_ne (by simp) _ _).trans hempty
      refine Eq.trans hpublished ?_
      symm
      exact deviceSelf_of_none hempty'
  | guardClose =>
    obtain rfl := hleave
    exact ⟨trivial, h.advance (Stage.ne_building rfl) rfl (fun _ => rfl) rfl
      (Stage.ne_building rfl) rfl rfl⟩
  | @setUp x d c hdev hstruct =>
    obtain rfl : s' = s := by
      cases c with
      | openScan => cases hdev
      | i2cSlaveInit | smbusInit | gpioPoll | gpioPollEvents => cases hstruct
      | _ => exact hleave
    exact ⟨trivial, h.congr rfl (fun _ => rfl) rfl rfl rfl⟩
  | @commitDevice x d w' options' hop =>
    cases hop
    obtain rfl := hleave
    obtain ⟨htemp, -, -, hhandle⟩ := hmine.stage
    refine ⟨trivial, rfl, fun _ hd => (by cases hd),
      fun _ => ⟨Stage.ne_building rfl, move_source⟩, (h.pointer_eq_some rfl).trans ?_⟩
    have hmoved : move s.dev (.temp t) (.wrapper w) (.wrapper w) = some d.addr :=
      (move_target (by simp)).trans htemp
    rw [Store.deviceSelf]
    dsimp only
    rw [hmoved, Option.map_some, Store.deviceState, ← hhandle]
  | @releaseNew x d =>
    obtain ⟨htemp, -, -, hhandle⟩ := hmine.stage
    obtain ⟨hpublished, hempty⟩ := h.unpublished hs hmine rfl
    have hpointer := h.pointer_eq_some rfl
    obtain ⟨-, hshared, -⟩ | ⟨a, ha, hlast, rfl, rfl⟩ := hleave
    · exact absurd (hshared _ htemp) (h.pointer d hpointer).2
    · obtain rfl : a = d.addr := Option.some.inj (ha.symm.trans htemp)
      have hlast : s.deviceState d.addr = d := by rw [Store.deviceState, ← hhandle]
      have hempty' : drop s.dev (.temp t) (.wrapper w) = none :=
        (drop_of_ne (by simp)).trans hempty
      refine ⟨(congrArg some hlast).trans hpointer.symm, rfl,
        fun _ hd => (by cases hd), fun _ => ⟨Stage.ne_building rfl, drop_self⟩, ?_⟩
      refine Eq.trans hpublished ?_
      symm
      exact deviceSelf_of_none hempty'
  | releaseDevice =>
    have hpointer := h.pointer_eq_none (Stage.ne_building rfl)
    obtain ⟨-, htemp⟩ := h.empty hpointer
    obtain ⟨rfl, -, rfl⟩ | ⟨a, ha, -⟩ := hleave
    · have hdrop : drop s.dev (.temp t) = s.dev := by
        rw [drop, ← htemp, Function.update_eq_self]
      exact ⟨hpointer.symm, h.advance (Stage.ne_building rfl) hdrop (fun _ => rfl) rfl
        (Stage.ne_building rfl) hpointer.symm rfl⟩
    · rw [htemp] at ha
      cases ha
  | close =>
    obtain rfl := hleave
    exact ⟨trivial, h.advance (Stage.ne_building rfl) rfl (fun _ => rfl) rfl
      (Stage.ne_building rfl) rfl rfl⟩
  | deleteDevice =>
    obtain rfl := hleave
    exact ⟨trivial, h.advance (Stage.ne_building rfl) rfl (fun _ => rfl) rfl
      (Stage.ne_building rfl) rfl rfl⟩
  | makeChild hkind | initPoller hkind => cases hkind
  | initChild _ hinit => exact hinit.elim
  | commitChild hdst => cases hdst
  | relocate hop => cases hop
  | releaseMade | releaseChild | smbusClose | deleteChild => cases h.stage

end Steps

/-! ## Executions -/

/-- The constructor of `w`, beside the discipline of the system. -/
def constructObserver (t : T) (w : Var) (options : DeviceOptions) :
    Discipline.Observer (systemDiscipline T) t (.construct w options) Building where
  protocol := building
  initial _ := {}
  Rel := Constructs t w
  start s g hok hready := by
    have hmine := hok.phase t
    rw [hready] at hmine
    obtain ⟨hempty, -⟩ := hok.store.wrappers.empty (hmine.typed rfl)
    exact ⟨rfl, fun _ hd => (by cases hd), fun _ => ⟨Stage.ne_building rfl, hmine.stage.1⟩,
      (deviceSelf_of_none hempty).symm⟩
  enter s g q b e _ _ _ hrel := hrel.enter e
  leave s g q b e r s' hok hbusy hallow hleave hrel := by
    have hmine := hok.phase t
    rw [hbusy] at hmine
    exact hrel.leave hok.store hmine hallow hleave
  otherEnter s g q b t' op' p e hne hok hlocal hready hallow hrel := by
    obtain ⟨handle, hmine⟩ := hok.attached hlocal
    have hother := hok.phase t'
    rw [hready] at hother
    have hcompat := hok.compatible t' t op' _ hne.symm (by rw [hready, Phase.op?_ready])
      (Phase.op?_of_local hlocal)
    refine hrel.other hmine hcompat (enters_lands hok.store hother hallow).frame hne.symm
      fun a _ hshared => ?_
    rw [show (system T).enter t' op' s e = s.enters t' op' e from rfl, enters_dev] at hshared
    exact hshared
  otherLeave s g q b t' op' p e r s' hne hok hlocal hbusy hallow hleave hrel := by
    obtain ⟨handle, hmine⟩ := hok.attached hlocal
    have hother := hok.phase t'
    rw [hbusy] at hother
    have hcompat := hok.compatible t' t op' _ hne.symm (by rw [hbusy, Phase.op?_busy])
      (Phase.op?_of_local hlocal)
    exact hrel.other hmine hcompat (leaves_lands hok.store hother hallow hleave).2.frame hne.symm
      fun a => leaves_shared hok.store hother hallow hleave hne.symm

/-- **Construction is all or nothing**, in every run of the system, for all options, all
    answers of the C library and either end of the allocation. -/
theorem construct_allOrNothing {w : Var} {options : DeviceOptions} {tr : Trace}
    {c : (system T).Config}
    (hexecutes : (system T).Executes Store.empty t (.construct w options) tr c)
    {out : Except Exn Unit}
    (hended : c.threads t = .ready (.construct w options) (Prog.ofExcept out)) :
    AllOrNothing options tr out (c.state.deviceSelf w) := by
  obtain ⟨c₀, hc₀, hexecutes⟩ := hexecutes
  obtain ⟨g, q, -, -, howner, hrel⟩ := (constructObserver t w options).executes hc₀ hexecutes
  have hvoid : (Device.construct w options).void = Device.construct w options := Prog.bind_ret _
  have hruns : (Device.construct w options).void.Runs tr out := hexecutes.runs hended
  rw [hvoid] at hruns
  rw [← hrel.published]
  exact construct_runs w options tr out howner hruns

end

section

attribute [local instance] NativeApi.reference

/-- The safe clock cannot be set: the handle 7 is closed after the unlock. -/
def safeSpeedFails : Trace :=
  [⟨.call (openCall {}), ⟨0, some (7 : Handle), isInt_zero⟩⟩, ⟨.alloc, true⟩,
    ⟨.own (.makeDeviceState (some 7)), (0 : Addr)⟩, ⟨.lock 0, ()⟩,
    ⟨.call (.i2cRelease (some 7)), ⟨-1, (), by decide⟩⟩,
    ⟨.call (.i2cSetSpeed (some 7) 100000), ⟨-2, (), by decide⟩⟩, ⟨.unlock 0, ()⟩,
    ⟨.own .releaseDevice, some (⟨0, some 7⟩ : DeviceState)⟩, ⟨.proc (.close (some 7)), ()⟩,
    ⟨.own (.deleteDevice ⟨0, some 7⟩), ()⟩]

/-- The exception is that of the safe clock, not that of the ignored release. -/
theorem construct_allOrNothing_safeSpeedFails : ∃ c : (system Unit).Config,
    (system Unit).Executes Store.empty () (.construct 0 {}) safeSpeedFails c ∧
      AllOrNothing {} safeSpeedFails
        (.error (statusError (-2) "Setting safe initial I2C speed")) (c.state.deviceSelf 0) := by
  have hidle : (system Unit).ReachableIdle Store.empty Store.empty := .init
  have hstart := Machine.ExecutesAlone.start (system Unit) Store.empty () (.construct 0 {})
    ⟨rfl, fun _ _ _ hop => by cases hop⟩
  have hopened := hstart.perform ⟨0, some (7 : Handle), isInt_zero⟩
    (Store.openScan_ends rfl rfl nofun)
  have hallocated := hopened.perform true rfl
  have hmade := hallocated.perform (0 : Addr) ⟨rfl, rfl⟩
  have hlocked := hmade.perform () ⟨rfl, rfl⟩
  have hreleased := hlocked.perform ⟨-1, (), by decide⟩ rfl
  have hspeed := hreleased.perform ⟨-2, (), by decide⟩ rfl
  have hunlocked := hspeed.perform () rfl
  have hdropped := hunlocked.perform (some (⟨0, some 7⟩ : DeviceState))
    (.inr ⟨0, rfl, not_shared_of_empty fun _ hz => Function.update_of_ne hz _ _, rfl, rfl⟩)
  have hclosed := hdropped.perform () rfl
  have hdeleted := hclosed.perform () rfl
  obtain ⟨c, hexecutes, hended⟩ :=
    hdeleted.ended (.error (statusError (-2) "Setting safe initial I2C speed"))
  have hexecutes := Machine.Reachable.executes hidle hexecutes
  exact ⟨c, hexecutes, construct_allOrNothing hexecutes hended⟩

end

end EasyMcp2221
