import EasyMcp2221.System.Graph
import EasyMcp2221.System.Binding

/-!
# An operation commits once

The program of an operation that changes wrapper objects has one commit on every way to its
normal end and none on a way to an exception.
-/

namespace EasyMcp2221

open Effect

section

variable [NativeApi] {α β : Type}

/-! ## Programs without a commit -/

/-- The program commits nothing. -/
def Silent (p : M α) : Prop := p.Only fun e => e.commits = false

omit [NativeApi] in
theorem lockless_counting : Lockless (Prog.counting (R := Eff.Reply) Eff.commits) :=
  fun _ _ => ⟨⟨trivial, rfl⟩, trivial, rfl⟩

omit [NativeApi] in
theorem silent_own {o : Own} (ho : o.commits = false) : Silent (own o) := ⟨ho, fun _ => trivial⟩

omit [NativeApi] in
theorem silent_proc (p : NativeProc) : Silent (proc p) := ⟨rfl, fun _ => trivial⟩

omit [NativeApi] in
theorem silent_allocate : Silent allocate := by
  refine ⟨rfl, ?_⟩
  rintro (_ | _) <;> trivial

theorem silent_initialiseI2c (state : DeviceState) (i2cSpeedHz : UInt32) :
    Silent (withLock state (initialiseI2c state i2cSpeedHz)) := by
  refine only_withLock (P := fun e => e.commits = false) rfl rfl ?_
  refine ⟨rfl, fun _ => ?_⟩
  have hset : ∀ hz operation, Silent (nativeCall (.i2cSetSpeed state.handle hz) operation) :=
    fun _ _ => only_nativeCall rfl
  refine Prog.Only.bind trivial fun _ => Prog.Only.bind (hset _ _) fun _ => ?_
  split
  · exact hset _ _
  · trivial

omit [NativeApi] in
theorem silent_makeDeviceState (handle : HandlePtr) : Silent (makeDeviceState handle) := by
  refine ⟨rfl, fun ok => ?_⟩
  cases ok with
  | false =>
    by_cases hhandle : handle ≠ none
    · simp only [if_pos hhandle]
      exact Prog.Only.bind (silent_proc _) fun _ => trivial
    · simp only [if_neg hhandle]
      trivial
  | true => exact ⟨rfl, fun _ => trivial⟩

/-- Operations that use the device commit nothing: they leave smart pointers alone. -/
theorem DataCall.silent (x : DataCall) : Silent x.prog := by
  cases htarget : x.target with
  | none =>
    rw [DataCall.prog_noState htarget]
    trivial
  | some target =>
    refine Prog.only_of_wp ?_ (fun _ _ _ => trivial) (DataCall.prog_meets htarget)
    intro q e hallow
    cases e with
    | own => exact hallow.elim
    | _ => rfl

/-! ## One commit -/

/-- One commit on a normal end, none on an exception. -/
def CommitsOnce (p : M α) : Prop :=
  p.wp (Prog.counting Eff.commits) 0 fun out n => n = out.isOk.toNat

/-- A clean-up that neither fails nor commits. -/
def SilentExit (c : M Unit) : Prop :=
  ∀ n, c.wp (Prog.counting Eff.commits) n fun out m => out = .ok () ∧ m = n

omit [NativeApi] in
theorem dropDevice_silent : SilentExit dropDevice := by
  intro n
  refine ⟨trivial, fun last _ => ?_⟩
  cases last with
  | none => exact ⟨rfl, rfl⟩
  | some d =>
    by_cases hhandle : d.handle ≠ none
    · simp only [Prog.ret_bind, if_pos hhandle]
      exact ⟨trivial, fun _ _ => ⟨trivial, fun _ _ => ⟨rfl, rfl⟩⟩⟩
    · simp only [Prog.ret_bind, if_neg hhandle]
      exact ⟨trivial, fun _ _ => ⟨rfl, rfl⟩⟩

omit [NativeApi] in
theorem dropChild_silent : SilentExit dropChild := by
  intro n
  refine ⟨trivial, fun last _ => ?_⟩
  rcases last with _ | ⟨child, kind⟩
  · exact ⟨rfl, rfl⟩
  · cases kind with
    | smbus => exact ⟨trivial, fun _ _ => ⟨trivial, fun _ _ => dropDevice_silent n⟩⟩
    | i2c | poller => exact ⟨trivial, fun _ _ => dropDevice_silent n⟩

namespace CommitsOnce

omit [NativeApi] in
theorem commit {o : Own} (ho : o.commits = true) : CommitsOnce (own o) := by
  refine ⟨trivial, fun r _ => ?_⟩
  simp [Prog.counting, Eff.commits, ho, Except.isOk, Except.toBool]

omit [NativeApi] in
/-- What comes before the commit may fail. -/
theorem after {p : M β} {k : β → M α} (hp : Silent p) (hk : ∀ b, CommitsOnce (k b)) :
    CommitsOnce (p.bind k) := by
  refine Prog.wp_bind.mpr (Prog.wp_mono (Prog.Only.wp_counting hp 0) ?_)
  rintro (e | b) n rfl
  · rfl
  · exact hk b

omit [NativeApi] in
/-- What comes after it may not. -/
theorem cleanup {body : M α} {c : M Unit} (hc : SilentExit c) (h : CommitsOnce body) :
    CommitsOnce (body.cleanup c) := by
  refine Prog.wp_cleanup.mpr (Prog.wp_mono h ?_)
  intro out n hout
  refine Prog.wp_mono (hc n) ?_
  rintro out' m ⟨rfl, rfl⟩
  exact hout

omit [NativeApi] in
/-- An operation on existing wrapper objects begins with its commit. -/
theorem before {o : Own} (ho : o.commits = true) {k : o.Reply → M Unit}
    (hk : ∀ r, SilentExit (k r)) : CommitsOnce ((own o).bind k) := by
  refine ⟨trivial, fun r _ => Prog.wp_mono (hk r _) ?_⟩
  rintro out m ⟨rfl, rfl⟩
  simp [Prog.counting, Eff.commits, ho, Except.isOk, Except.toBool]

end CommitsOnce

/-! ## The operations -/

theorem construct_commitsOnce (w : Var) (options : DeviceOptions) :
    CommitsOnce (Device.construct w options) := by
  apply CommitsOnce.after Prog.only_ofExcept
  intro _
  apply CommitsOnce.after (only_nativeCall rfl)
  intro handle
  apply CommitsOnce.after (silent_makeDeviceState handle)
  intro state
  apply CommitsOnce.cleanup dropDevice_silent
  apply CommitsOnce.after (silent_initialiseI2c state _)
  intro _
  exact CommitsOnce.commit rfl

theorem i2cDevice_commitsOnce (self : Option DeviceState) (dst : Var) (address : UInt8)
    (options : I2cDeviceOptions) : CommitsOnce (Device.i2cDevice self dst address options) := by
  apply CommitsOnce.after Prog.only_ofExcept
  intro d
  apply CommitsOnce.after Prog.only_ofExcept
  intro _
  apply CommitsOnce.after Prog.only_ofExcept
  intro _
  apply CommitsOnce.after silent_allocate
  intro _
  apply CommitsOnce.after (silent_own rfl)
  intro child
  apply CommitsOnce.cleanup dropChild_silent
  apply lockless_counting.wp_withLock
  apply CommitsOnce.after Prog.only_ofExcept
  intro order
  apply CommitsOnce.after Prog.only_ofExcept
  intro width
  apply CommitsOnce.after (only_nativeCall rfl)
  intro _
  exact CommitsOnce.commit rfl

theorem smbusDevice_commitsOnce (self : Option DeviceState) (dst : Var) (address : UInt8) :
    CommitsOnce (Device.smbusDevice self dst address) := by
  apply CommitsOnce.after Prog.only_ofExcept
  intro d
  apply CommitsOnce.after Prog.only_ofExcept
  intro _
  apply CommitsOnce.after silent_allocate
  intro _
  apply CommitsOnce.after (silent_own rfl)
  intro child
  apply CommitsOnce.cleanup dropChild_silent
  apply lockless_counting.wp_withLock
  apply CommitsOnce.after (only_nativeCall rfl)
  intro _
  exact CommitsOnce.commit rfl

omit [NativeApi] in
theorem gpioPoller_commitsOnce (self : Option DeviceState) (dst : Var) :
    CommitsOnce (Device.gpioPoller self dst) := by
  apply CommitsOnce.after Prog.only_ofExcept
  intro d
  apply CommitsOnce.after silent_allocate
  intro _
  apply CommitsOnce.after (silent_own rfl)
  intro child
  apply CommitsOnce.cleanup dropChild_silent
  apply CommitsOnce.after (silent_proc _)
  intro _
  exact CommitsOnce.commit rfl

omit [NativeApi] in
theorem WrapperKind.drop_silent (kind : WrapperKind) : SilentExit kind.drop := by
  cases kind with
  | device => exact dropDevice_silent
  | child => exact dropChild_silent

/-- **Every operation commits once if it ends normally**, and those that only use the device
    commit nothing. -/
theorem Op.prog_commits {T : Type} (s : Store T) (op : Op) :
    (op.resolve s).prog.void.wp (Prog.counting Eff.commits) 0
      fun out n => n = (op.changesGraph && out.isOk).toNat := by
  have hchanges : ∀ {p : M Unit}, CommitsOnce p → op.changesGraph = true →
      p.void.wp (Prog.counting Eff.commits) 0
        fun out n => n = (op.changesGraph && out.isOk).toNat := by
    intro p hp hop
    refine Prog.wp_void.mpr (Prog.wp_mono hp ?_)
    rintro (e | _) n rfl <;> simp [hop, Except.isOk, Except.toBool]
  have huses : ∀ {α : Type} {p : M α}, Silent p → op.changesGraph = false →
      p.void.wp (Prog.counting Eff.commits) 0
        fun out n => n = (op.changesGraph && out.isOk).toNat := by
    intro α p hp hop
    refine Prog.wp_void.mpr (Prog.wp_mono (Prog.Only.wp_counting hp 0) ?_)
    rintro (e | _) n rfl <;> simp [hop]
  cases op with
  | device v op => exact huses (DataCall.silent (.device _ op)) rfl
  | i2c v op => exact huses (DataCall.silent (.i2c _ op)) rfl
  | smbus v op => exact huses (DataCall.silent (.smbus _ op)) rfl
  | poller v op => exact huses (DataCall.silent (.poller _ op)) rfl
  | construct w options => exact hchanges (construct_commitsOnce w options) rfl
  | i2cDevice v dst address options =>
    exact hchanges (i2cDevice_commitsOnce _ dst address options) rfl
  | smbusDevice v dst address => exact hchanges (smbusDevice_commitsOnce _ dst address) rfl
  | gpioPoller v dst => exact hchanges (gpioPoller_commitsOnce _ dst) rfl
  | close v => exact hchanges (CommitsOnce.before rfl fun _ => dropDevice_silent) rfl
  | destroy v => exact hchanges (CommitsOnce.before rfl fun _ => (s.kindOf v).drop_silent) rfl
  | moveConstruct src dst => exact hchanges (CommitsOnce.commit rfl) rfl
  | copyConstruct src dst => exact hchanges (CommitsOnce.commit rfl) rfl
  | moveAssign src dst =>
    exact hchanges (CommitsOnce.before rfl fun _ => (s.kindOf dst).drop_silent) rfl
  | copyAssign src dst =>
    exact hchanges (CommitsOnce.before rfl fun _ => (s.kindOf dst).drop_silent) rfl

end

section

variable [NativeApi] {T : Type} [DecidableEq T]

/-- **An operation takes place exactly once if it returns, and not at all if it throws**:
    while a thread executes an operation that creates, moves, assigns, closes or destroys
    wrapper objects, among any other threads, it leaves exactly one commit if the operation
    ends normally and none if it ends with an exception; an operation that only uses wrapper
    objects leaves none. -/
theorem operation_commits_once {t : T} {op : Op} {tr : Trace} {c : (system T).Config}
    (hexecutes : (system T).Executes Store.empty t op tr c) {out : Except Exn Unit}
    (hended : c.threads t = .ready op (Prog.ofExcept out)) :
    tr.countP (fun ev => ev.1.commits) = (op.changesGraph && out.isOk).toNat := by
  rcases hexecutes.runs hended with ⟨s, hruns⟩
  exact Prog.countP_of_wp (Op.prog_commits s op) hruns

end

section

attribute [local instance] NativeApi.reference

/-- A `Device` is moved: one commit.  A constructor fails for want of memory: none. -/
theorem operation_commits_once_moved :
    (∃ tr c, (system Unit).Executes Store.empty () (.moveConstruct 0 1) tr c ∧
      tr.countP (fun ev => ev.1.commits) = 1) ∧
    ∃ tr c, (system Unit).Executes Store.empty () (.construct 0 {}) tr c ∧
      tr.countP (fun ev => ev.1.commits) = 0 := by
  constructor
  · rcases constructed () with ⟨s, hidle, hdevice, hfree, -⟩
    have hstart := Machine.ExecutesAlone.start (system Unit) s () (.moveConstruct 0 1)
      ⟨⟨by simp [hdevice], hfree⟩, fun _ _ _ hop => by cases hop⟩
    have hmoved := hstart.perform () rfl
    rcases hmoved.ended (.ok ()) with ⟨c, hexecutes, hended⟩
    have hexecutes := Machine.Reachable.executes hidle hexecutes
    exact ⟨_, c, hexecutes, operation_commits_once hexecutes hended⟩
  · have hidle : (system Unit).ReachableIdle Store.empty Store.empty := .init
    have hstart := Machine.ExecutesAlone.start (system Unit) Store.empty () (.construct 0 {})
      ⟨rfl, fun _ _ _ hop => by cases hop⟩
    have hopened := hstart.perform ⟨0, some 7, by decide⟩ (Store.openScan_ends rfl rfl nofun)
    have hfailed := hopened.perform false rfl
    have hclosed := hfailed.perform () rfl
    rcases hclosed.ended (.error Exn.badAlloc) with ⟨c, hexecutes, hended⟩
    have hexecutes := Machine.Reachable.executes hidle hexecutes
    exact ⟨_, c, hexecutes, operation_commits_once hexecutes hended⟩

end

end EasyMcp2221
