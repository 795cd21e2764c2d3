import EasyMcp2221.Effect.Refinement
import EasyMcp2221.Polling
import EasyMcp2221.System.Store

/-!
# The watch behind a poller

What a caller of `GpioPoller` sees is a watch: a filter in terms of pins and edges, the
pins as the last poll found them, and a buffer that is never too small.  The runs of the
code are runs of the watch (`pollers_refine_watches`).
-/

namespace EasyMcp2221

open Effect

/-! ## Watches -/

/-- What a `GpioPoller` stands for. -/
structure Watch (σ : Type) where
  filter : GpioEventFilter := {}
  snapshot : σ

/-- One step of a run: an operation on a wrapper object and what came of it, or the move
    of one wrapper object into another. -/
inductive PollerStep (σ ω : Type) where
  | call (v : Var) (op : PollerOp) (x : Occasion σ ω) (out : Except Exn op.Ret)
  | move (src dst : Var)

section

variable [NativeApi] {σ ω : Type}

namespace Watch

/-- What a buffer with room for `m` events holds after a poll. -/
def report (N : NativePoller σ ω) (watch : Watch σ) (w : ω) (m : Nat) : List GpioEvent :=
  (((N.detect watch.snapshot w).filter watch.filter.selects).take m).map DetectedEdge.event

/-- An operation on the occasion `x` may come to `out` and leave `watch'`. -/
def Performs (N : NativePoller σ ω) (x : Occasion σ ω) (watch : Watch σ) :
    (op : PollerOp) → Except Exn op.Ret → Watch σ → Prop
  | .setFilter filter, out, watch' => out = .ok () ∧ watch' = { watch with filter }
  | .clearFilter, out, watch' => out = .ok () ∧ watch' = { watch with filter := {} }
  | .poll, _, watch' => watch' = { watch with snapshot := N.after x watch.snapshot }
  | .pollEvents m, out, watch' =>
    if x.memory = false ∧ m ≠ 0 then out = .error .badAlloc ∧ watch' = watch
    else
      watch' = { watch with snapshot := N.after x watch.snapshot } ∧
      out = match x.poll with
        | .inl w => .ok (watch.report N w m)
        | .inr (_, status) => .error (statusError status.val "Polling GPIO events")

/-- The watches behind the wrapper objects; a moved-from object has none. -/
inductive Step (N : NativePoller σ ω) :
    (Var → Option (Watch σ)) → PollerStep σ ω → (Var → Option (Watch σ)) → Prop where
  | empty {watches : Var → Option (Watch σ)} {v : Var} (op : PollerOp) (x : Occasion σ ω)
      (hv : watches v = none) :
      Step N watches (.call v op x (.error (.logicError "GpioPoller has no device state"))) watches
  | call {watches : Var → Option (Watch σ)} {v : Var} {op : PollerOp} {x : Occasion σ ω}
      {out : Except Exn op.Ret} {watch watch' : Watch σ} (hv : watches v = some watch)
      (hperforms : watch.Performs N x op out watch') :
      Step N watches (.call v op x out) (Function.update watches v (some watch'))
  | move (watches : Var → Option (Watch σ)) (src dst : Var) :
      Step N watches (.move src dst) (if src = dst then watches else move watches src dst)

end Watch

/-! ## Pollers -/

/-- The smart pointers to the poller states, the device of each, and the native
    structs. -/
structure Pollers (σ : Type) where
  child : Place Unit Empty → Option Addr
  device : Addr → DeviceState
  memory : Addr → PollMemory σ

namespace Pollers

/-- `state_` of a wrapper object. -/
def self (s : Pollers σ) (v : Var) : Option GpioPollerState :=
  (s.child (.wrapper v)).map fun a => ⟨a, some (s.device a)⟩

/-- One step of the code: an operation runs against the poller of the C library, or an
    object is moved. -/
inductive Step (N : NativePoller σ ω) : Pollers σ → PollerStep σ ω → Pollers σ → Prop where
  | call {s : Pollers σ} {v : Var} {op : PollerOp} {x : Occasion σ ω} {out : Except Exn op.Ret}
      {tr : Trace} (hruns : (op.prog (s.self v)).Runs tr out)
      (hrelied : (N.serves x).Relied s.memory tr) :
      Step N s (.call v op x out) { s with memory := (N.serves x).after s.memory tr }
  | moveConstruct {s : Pollers σ} {src dst : Var} (hne : src ≠ dst)
      (hnew : s.child (.wrapper dst) = none) :
      Step N s (.move src dst) { s with child := relocate (.moveConstruct src dst) () s.child }
  -- the poller state that `dst` had is deleted
  | moveAssign (s : Pollers σ) (src dst : Var) :
      Step N s (.move src dst)
        { s with child := drop (relocate (.moveAssign src dst) () s.child) (.temp ()) }

end Pollers

/-! ## The native struct of a watch -/

/-- The native struct in which the code keeps a watch. -/
def Watch.memory (watch : Watch σ) : PollMemory σ :=
  ⟨GpioPoller.filterMask watch.filter, watch.snapshot⟩

/-- A pointer to a struct that holds a watch; without a pointer there is no watch. -/
structure Holds (memory : Addr → PollMemory σ) (pointer : Option Addr)
    (watch? : Option (Watch σ)) : Prop where
  empty : pointer = none → watch? = none
  full : ∀ a, pointer = some a → ∃ watch, watch? = some watch ∧ memory a = watch.memory

/-- The code keeps the watches: no two wrapper objects share a poller state, and the
    struct of each holds its watch. -/
structure Pollers.Keeps (s : Pollers σ) (watches : Var → Option (Watch σ)) : Prop where
  exclusive : Exclusive s.child
  temp : s.child (.temp ()) = none
  watch : ∀ v, Holds s.memory (s.child (.wrapper v)) (watches v)

/-! ## One operation -/

section Operations

variable {index : Fin 4 → GpioEdge → Nat} {N : NativePoller σ ω} {x : Occasion σ ω}
  {memory : Addr → PollMemory σ}

theorem Watch.map_written (hbits : MaskBits index) (watch : Watch σ) (w : ω) (m : Nat) :
    (N.written watch.memory w m).map DetectedEdge.event = watch.report N w m := by
  rw [NativePoller.written, Watch.memory, Watch.report, keeps_filterMask hbits]

/-- **One operation**: it does to the struct what the watch does. -/
theorem PollerOp.prog_serves (hbits : MaskBits index) (op : PollerOp) (d : DeviceState) {a : Addr}
    {watch : Watch σ} (ha : memory a = watch.memory) :
    (op.prog (some ⟨a, some d⟩)).wp (N.serves x) memory fun out memory' =>
      ∃ watch', watch.Performs N x op out watch' ∧
        memory' = Function.update memory a watch'.memory := by
  cases op with
  | setFilter filter =>
    refine Prog.wp_mono (setFilter_serves a d filter) fun out memory' h => ?_
    obtain ⟨hout, rfl⟩ := h
    rw [ha]
    exact ⟨_, ⟨hout, rfl⟩, rfl⟩
  | clearFilter =>
    refine Prog.wp_mono (setFilter_serves a d {}) fun out memory' h => ?_
    obtain ⟨hout, rfl⟩ := h
    rw [ha]
    exact ⟨_, ⟨hout, rfl⟩, rfl⟩
  | poll =>
    refine Prog.wp_mono (poll_serves a d) fun out memory' h => ?_
    refine ⟨{ watch with snapshot := N.after x watch.snapshot }, rfl, ?_⟩
    rw [h, ha]
    rfl
  | pollEvents m =>
    refine Prog.wp_mono (pollEvents_serves a d m) fun out memory' h => ?_
    rw [ha] at h
    by_cases hfull : x.memory = false ∧ m ≠ 0
    · rw [if_pos hfull] at h
      obtain ⟨hout, rfl⟩ := h
      refine ⟨watch, ?_, by rw [← ha, Function.update_eq_self]⟩
      rw [Watch.Performs, if_pos hfull]
      exact ⟨hout, rfl⟩
    · rw [if_neg hfull] at h
      refine ⟨{ watch with snapshot := N.after x watch.snapshot }, ?_, h.1⟩
      rw [Watch.Performs, if_neg hfull]
      refine ⟨rfl, h.2.trans ?_⟩
      cases x.poll with
      | inl w => exact congrArg Except.ok (watch.map_written hbits w m)
      | inr => rfl

/-- A moved-from object refuses every operation. -/
theorem PollerOp.prog_none_serves (op : PollerOp) :
    (op.prog none).wp (N.serves x) memory fun out memory' =>
      out = .error (.logicError "GpioPoller has no device state") ∧ memory' = memory := by
  cases op <;> exact ⟨rfl, rfl⟩

end Operations

/-! ## Moves -/

section Moves

variable {child : Place Unit Empty → Option Addr}

omit [NativeApi] in
theorem wrapper_moveConstruct (src dst v : Var) :
    relocate (.moveConstruct src dst) () child (.wrapper v) =
      move (fun v => child (.wrapper v)) src dst v := by
  simp only [relocate, move, Function.update_apply, Place.wrapper.injEq]

omit [NativeApi] in
theorem wrapper_moveAssign {src dst : Var} (hne : src ≠ dst) (v : Var) :
    drop (relocate (.moveAssign src dst) () child) (.temp ()) (.wrapper v) =
      move (fun v => child (.wrapper v)) src dst v := by
  simp only [relocate, if_neg hne, drop, move, Function.update_apply, Place.wrapper.injEq,
    reduceCtorEq, if_false]
  split_ifs <;> rfl

theorem holds_move {memory : Addr → PollMemory σ} {p : Var → Option Addr}
    {watches : Var → Option (Watch σ)} (h : ∀ v, Holds memory (p v) (watches v)) (src dst v : Var) :
    Holds memory (move p src dst v) (move watches src dst v) := by
  simp only [move, Function.update_apply]
  split
  · exact ⟨fun _ => rfl, fun _ ha => absurd ha.symm (Option.some_ne_none _)⟩
  · split
    · exact h src
    · exact h v

end Moves

/-! ## Runs -/

section Runs

variable {index : Fin 4 → GpioEdge → Nat} {N : NativePoller σ ω} {s s' : Pollers σ}
  {watches : Var → Option (Watch σ)}

omit [NativeApi] in
theorem exclusive_moveAssign {child : Place Unit Empty → Option Addr} (h : Exclusive child)
    (src dst : Var) :
    Exclusive (drop (relocate (.moveAssign src dst) () child) (.temp ())) := by
  refine exclusive_drop ?_
  rw [relocate]
  split
  · exact h
  · rename_i hne
    exact exclusive_move (exclusive_move h nofun) (by simpa using Ne.symm hne)

/-- An operation on one object changes the watch of that object only. -/
theorem Pollers.Keeps.update (h : s.Keeps watches) {v : Var} {a : Addr} {watch : Watch σ}
    (hv : s.child (.wrapper v) = some a) :
    Pollers.Keeps { s with memory := Function.update s.memory a watch.memory }
      (Function.update watches v (some watch)) := by
  refine ⟨h.exclusive, h.temp, fun v' => ?_⟩
  dsimp only
  by_cases hvv : v' = v
  · subst hvv
    rw [Function.update_self, hv]
    refine ⟨nofun, fun a' ha' => ⟨watch, rfl, ?_⟩⟩
    cases ha'
    exact Function.update_self ..
  · rw [Function.update_of_ne hvv]
    refine ⟨(h.watch v').empty, fun a' ha' => ?_⟩
    obtain ⟨watch', hwatch', hmemory⟩ := (h.watch v').full a' ha'
    have hne : a' ≠ a := by
      rintro rfl
      exact hvv (Place.wrapper.inj (h.exclusive _ _ _ ha' hv))
    exact ⟨watch', hwatch', (Function.update_of_ne hne ..).trans hmemory⟩

/-- **Every step of the code is a step of the watches.** -/
theorem Pollers.Step.watched (hbits : MaskBits index) (h : s.Keeps watches)
    {l : PollerStep σ ω} (hstep : Pollers.Step N s l s') :
    ∃ watches', Watch.Step N watches l watches' ∧ s'.Keeps watches' := by
  cases hstep with
  | @call v op x out tr hruns hrelied =>
    rw [Pollers.self] at hruns
    cases hv : s.child (.wrapper v) with
    | none =>
      rw [hv] at hruns
      obtain ⟨-, rfl, hmemory⟩ := Prog.wp_runs op.prog_none_serves hruns hrelied
      rw [hmemory]
      exact ⟨watches, .empty op x ((h.watch v).empty hv), h⟩
    | some a =>
      rw [hv] at hruns
      obtain ⟨watch, hwatch, ha⟩ := (h.watch v).full a hv
      obtain ⟨-, watch', hperforms, hmemory⟩ :=
        Prog.wp_runs (op.prog_serves hbits (s.device a) ha) hruns hrelied
      rw [hmemory]
      exact ⟨_, .call hwatch hperforms, h.update hv⟩
  | @moveConstruct src dst hne hnew =>
    refine ⟨_, .move watches src dst, ?_, h.temp, fun v => ?_⟩
    · exact exclusive_move h.exclusive (by simpa using hne.symm)
    · dsimp only
      rw [if_neg hne, wrapper_moveConstruct]
      exact holds_move h.watch src dst v
  | moveAssign src dst =>
    refine ⟨_, .move watches src dst, exclusive_moveAssign h.exclusive src dst, ?_, fun v => ?_⟩
    · dsimp only
      exact drop_self
    dsimp only
    split
    · rename_i heq
      subst heq
      rw [relocate, if_pos rfl, drop_of_ne (by simp)]
      exact h.watch v
    · rename_i hne
      rw [wrapper_moveAssign hne]
      exact holds_move h.watch src dst v

/-- Every operation comes to an end, whatever happens to it. -/
theorem Pollers.Keeps.answers (hbits : MaskBits index) (h : s.Keeps watches) (v : Var)
    (op : PollerOp) (x : Occasion σ ω) :
    ∃ out s', Pollers.Step N s (.call v op x out) s' := by
  have hruns : ∃ tr out, (op.prog (s.self v)).Runs tr out ∧ (N.serves x).Relied s.memory tr := by
    rw [Pollers.self]
    cases hv : s.child (.wrapper v) with
    | none => exact Prog.wp_live (N.serves_live x) op.prog_none_serves
    | some a =>
      obtain ⟨watch, -, ha⟩ := (h.watch v).full a hv
      exact Prog.wp_live (N.serves_live x) (op.prog_serves hbits (s.device a) ha)
  obtain ⟨tr, out, hruns, hrelied⟩ := hruns
  exact ⟨out, _, .call hruns hrelied⟩

/-- **The runs of the pollers are runs of the watches.**  In every run of operations,
    moves and failures, every operation comes to an end, and every `pollEvents` reports
    what its watch reports: as many as the caller allows of the edges that the filter
    selects, although the buffer of the code holds four. -/
theorem pollers_refine_watches (hbits : MaskBits index) (h : s.Keeps watches)
    {steps : List (PollerStep σ ω)} (hrun : Run (Pollers.Step N) s steps s') :
    (∃ watches', Run (Watch.Step N) watches steps watches' ∧ s'.Keeps watches') ∧
      ∀ v op x, ∃ out s'', Pollers.Step N s' (.call v op x out) s'' := by
  have hsimulate : ∀ (s : Pollers σ) watches l s', s.Keeps watches → Pollers.Step N s l s' →
      ∃ watches', Watch.Step N watches l watches' ∧ s'.Keeps watches' :=
    fun _ _ _ _ h hstep => hstep.watched hbits h
  obtain ⟨watches', hrun', h'⟩ := Run.refines hsimulate h hrun
  exact ⟨⟨watches', hrun', h'⟩, h'.answers hbits⟩

end Runs

end

section

attribute [local instance] NativeApi.reference

/-- Pin 0 rises and pin 2 falls whenever the C library looks. -/
def bouncing : NativePoller Unit Unit where
  detect _ _ := [⟨0, .rising, ⟨0⟩, ⟨0⟩⟩, ⟨2, .falling, ⟨0⟩, ⟨0⟩⟩]
  advance _ _ := ()
  onePerPin _ _ := by decide

/-- One poller, as it is created. -/
def freshPoller : Pollers Unit where
  child p := if p = .wrapper 0 then some 3 else none
  device _ := ⟨0, some 7⟩
  memory _ := ⟨0, ()⟩

theorem freshPoller_keeps :
    freshPoller.Keeps fun v => if v = 0 then some { snapshot := () } else none where
  exclusive := by
    intro x x' y h h'
    simp only [freshPoller, Option.ite_none_right_eq_some] at h h'
    exact h.1.trans h'.1.symm
  temp := rfl
  watch v := by
    by_cases hv : v = 0
    · subst hv
      refine ⟨nofun, fun a ha => ⟨_, rfl, ?_⟩⟩
      rw [Watch.memory, filterMask_empty]
      rfl
    · simp only [freshPoller, Place.wrapper.injEq, if_neg hv]
      exact ⟨fun _ => rfl, nofun⟩

/-- The poller is told to look for rising edges of pin 0 and then for at most nine
    events. -/
theorem pollers_refine_watches_bouncing : ∃ watches',
    Run (Watch.Step bouncing) (fun v => if v = 0 then some { snapshot := () } else none)
      [.call 0 (.setFilter { rising := fun pin => pin = 0 }) ⟨true, .inl ()⟩ (.ok ()),
        .call 0 (.pollEvents 9) ⟨true, .inl ()⟩ (.ok [⟨.gp0, .rising, ⟨0⟩, ⟨0⟩⟩])] watches' := by
  have hbits : MaskBits fun pin edge =>
      if edge = .rising then pin.val else 4 + pin.val := by
    refine ⟨fun pin edge => ?_, fun pin edge pin' edge' h => ?_⟩
    · revert pin
      cases edge <;> decide
    · revert pin pin'
      cases edge <;> cases edge' <;> decide
  have hset : (PollerOp.prog (freshPoller.self 0)
      (.setFilter { rising := fun pin => pin = 0 })).Runs
      [⟨.lock 0, ()⟩, ⟨.proc (.gpioPollSetFilterMask 3 1), ()⟩, ⟨.unlock 0, ()⟩] (.ok ()) :=
    runs_vis (.lock 0) () (runs_vis (.proc (.gpioPollSetFilterMask 3 1)) ()
      (runs_vis (.unlock 0) () (.ret ())))
  have hstep := Pollers.Step.call (N := bouncing) (x := ⟨true, .inl ()⟩) hset
    ⟨trivial, trivial, trivial, trivial⟩
  have hpoll : (PollerOp.prog (freshPoller.self 0) (.pollEvents 9)).Runs
      [⟨.alloc, true⟩, ⟨.lock 0, ()⟩,
        ⟨.call (.gpioPollEvents (some 7) 3 true 4), ⟨1, fun _ => ⟨0, 1, ⟨0⟩, ⟨0⟩⟩, by decide⟩⟩,
        ⟨.unlock 0, ()⟩] (.ok [⟨.gp0, .rising, ⟨0⟩, ⟨0⟩⟩]) :=
    runs_vis .alloc true (runs_vis (.lock 0) ()
      (runs_vis (.call (.gpioPollEvents (some 7) 3 true 4)) _ (runs_vis (.unlock 0) () (.ret _))))
  have hpolled := Pollers.Step.call (N := bouncing) (v := 0) (x := ⟨true, .inl ()⟩)
    (s := { freshPoller with memory := Function.update freshPoller.memory 3 ⟨1, ()⟩ }) hpoll (by
      refine ⟨rfl, trivial, ⟨rfl, fun i d hd => ?_⟩, trivial, trivial⟩
      obtain ⟨_ | i, hi⟩ := i
      · cases hd
        rfl
      · cases hd)
  obtain ⟨⟨watches', hrun, -⟩, -⟩ :=
    pollers_refine_watches hbits freshPoller_keeps (.cons hstep (.cons hpolled (.nil _)))
  exact ⟨watches', hrun⟩

end

end EasyMcp2221
