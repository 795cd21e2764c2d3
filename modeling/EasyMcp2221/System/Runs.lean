import EasyMcp2221.System.Safety

/-!
# Steps and runs of the system

Where each thread of a reachable configuration stands, what one step may do to the
store, and what a whole run keeps.
-/

namespace EasyMcp2221

open Effect

section

variable {T : Type} [DecidableEq T] [NativeApi] {t : T} {op : Op} {s : Store T}
  {c c' : (system T).Config}

/-! ## Where a thread stands -/

omit [DecidableEq T] in
/-- A thread that executes nothing owns nothing; any other one stands at a position. -/
theorem SystemOk.thread {g : T → Phase Eff Op Position} (hok : SystemOk s g) (t : T) :
    (g t = .idle ∧ Quiet s t) ∨ ∃ op q handle, (g t).local? = some (op, q) ∧
      Attached s t op q handle ∧ (handle = none ∨ handle = q.stage.handle) := by
  have hphase := hok.phase t
  cases hg : g t with
  | idle =>
    rw [hg] at hphase
    exact .inl ⟨rfl, hphase⟩
  | ready op q =>
    rw [hg] at hphase
    exact .inr ⟨op, q, _, rfl, hphase, .inr rfl⟩
  | busy op q e =>
    rw [hg] at hphase
    refine .inr ⟨op, q, _, rfl, hphase, ?_⟩
    rw [Position.handleIn]
    split
    · exact .inl rfl
    · exact .inr rfl

omit [DecidableEq T] in
/-- What is known of a thread that stands at a position. -/
theorem SystemOk.attached {g : T → Phase Eff Op Position} (hok : SystemOk s g) {q : Position}
    (h : (g t).local? = some (op, q)) : ∃ handle, Attached s t op q handle := by
  obtain ⟨hidle, -⟩ | ⟨op', q', handle, hlocal, hq, -⟩ := hok.thread t
  · rw [hidle] at h
    cases h
  · rw [hlocal] at h
    cases h
    exact ⟨handle, hq⟩

/-- A thread that performs an effect stands where its protocol permits it. -/
theorem performs_attached {g : T → Phase Eff Op Position} (hok : SystemOk c.state g)
    (htracks : ∀ t, (systemDiscipline T).Tracks (c.threads t) (g t)) {e : Eff}
    (h : c.Performs t op e) :
    ∃ q handle, (g t).local? = some (op, q) ∧ Attached c.state t op q handle ∧
      q.Permits op e := by
  have hposition : ∃ q, (g t).local? = some (op, q) ∧ q.Permits op e := by
    have hmine := htracks t
    obtain ⟨k, hready | hbusy⟩ := h
    · rw [hready] at hmine
      obtain ⟨q, hg, hpermits, -⟩ := Discipline.Tracks.of_ready hmine
      exact ⟨q, by rw [hg, Phase.local?_ready], hpermits⟩
    · rw [hbusy] at hmine
      obtain ⟨q, hg, hpermits, -⟩ := Discipline.Tracks.of_busy hmine
      exact ⟨q, by rw [hg, Phase.local?_busy], hpermits⟩
  obtain ⟨q, hlocal, hpermits⟩ := hposition
  obtain ⟨handle, hq⟩ := hok.attached hlocal
  exact ⟨q, handle, hlocal, hq, hpermits⟩

/-- A thread at rest owns nothing. -/
theorem rests_quiet {g : T → Phase Eff Op Position} (hok : SystemOk c.state g)
    (htracks : ∀ t, (systemDiscipline T).Tracks (c.threads t) (g t)) (h : c.Rests t) :
    Quiet c.state t := by
  have hphase := hok.phase t
  have hmine := htracks t
  rcases h with hidle | ⟨op, out, hready⟩
  · rw [hidle] at hmine
    rw [Discipline.Tracks.of_idle hmine] at hphase
    exact hphase
  · rw [hready] at hmine
    obtain ⟨q, hg, hwp⟩ := Discipline.Tracks.of_ready hmine
    rw [hg] at hphase
    exact Attached.quiet hphase (Prog.wp_ofExcept.mp hwp)

/-! ## One step -/

/-- What one step does to the store: nothing, or one half of an effect that the thread is
    permitted. -/
theorem moves_cases {g g' : T → Phase Eff Op Position} {s' : Store T} (hok : SystemOk s g)
    (hmoves : (systemDiscipline T).Moves s g s' g') :
    s' = s ∨ ∃ t op e q handle, (g t).op? = some op ∧ Attached s t op q handle ∧
      q.Permits op e ∧ Frame t op s s' ∧
      (s' = Store.enters t op s e ∨ ∃ r, s.leaves t op e r s') := by
  cases hmoves with
  | start | stop => exact .inl rfl
  | @enter _ t op q e hready hallow =>
    have hphase := hok.phase t
    rw [hready] at hphase
    exact .inr ⟨t, op, e, q, _, by rw [hready, Phase.op?_ready], hphase, hallow,
      (enters_lands hok.store hphase hallow).frame, .inl rfl⟩
  | @leave _ _ t op q e r hbusy hallow hleave =>
    have hphase := hok.phase t
    rw [hbusy] at hphase
    exact .inr ⟨t, op, e, q, _, by rw [hbusy, Phase.op?_busy], hphase, hallow,
      (leaves_lands hok.store hphase hallow hleave).2.frame, .inr ⟨r, hleave⟩⟩

/-! ## Runs -/

/-- The handle of a `DeviceState` at a later time: it keeps its handle until it dies, and
    its allocation number is not given out again. -/
theorem handle_of_steps (hc : (system T).Reachable Store.empty c)
    (hsteps : (system T).Steps c c') {a : Addr} {h : Handle}
    (hhandle : c.state.handles (.state a) = some h) :
    c'.state.handles (.state a) = some h ∨ c'.state.handles (.state a) = none := by
  obtain ⟨g, hholds⟩ := (systemDiscipline T).reachable hc
  have hstart := hholds.1.store.devices.fresh a
    ((hholds.1.store.devices.owned a).mpr ⟨h, hhandle⟩)
  obtain ⟨-, -, -, hlater⟩ := hholds.run
    (J := fun s _ => a < s.next ∧ (s.handles (.state a) = some h ∨ s.handles (.state a) = none))
    (fun s g s' g' hok hok' hmoves ⟨hlt, hJ⟩ => by
      obtain rfl | ⟨t, op, -, -, -, -, -, -, hframe, -⟩ := moves_cases hok hmoves
      · exact ⟨hlt, hJ⟩
      refine ⟨Nat.lt_of_lt_of_le hlt hframe.next, ?_⟩
      obtain hlive | hdead := hJ
      · have howned := (hok.store.devices.owned a).mpr ⟨h, hlive⟩
        by_cases howned' : Owned s'.dev a
        · exact .inl ((hframe.state a howned howned').trans hlive)
        · refine .inr (Option.eq_none_iff_forall_ne_some.mpr fun h' hh' => ?_)
          exact howned' ((hok'.store.devices.owned a).mpr ⟨h', hh'⟩)
      · exact .inr (hframe.dead a hlt hdead))
    ⟨hstart, .inl hhandle⟩ hsteps
  exact hlater

end

/-! ## A device to work with -/

section

attribute [local instance] NativeApi.reference

/-- A `Device` with the handle 7, constructed by one of the threads. -/
theorem constructed {T : Type} [DecidableEq T] (t : T) :
    ∃ s, (system T).ReachableIdle Store.empty s ∧ s.wrappers 0 = some .device ∧
      s.wrappers 1 = none ∧ s.deviceSelf 0 = some ⟨0, some 7⟩ ∧ s.mutex 0 = none := by
  have hidle : (system T).ReachableIdle Store.empty Store.empty := .init
  have hstart := hidle.start t (.construct 0 {}) ⟨rfl, fun _ _ _ hop => by cases hop⟩
  have hopened := hstart.perform ⟨0, some 7, by decide⟩ (Store.openScan_ends rfl rfl nofun)
  have hallocated := hopened.perform true rfl
  have hmade := hallocated.perform (0 : Addr) ⟨rfl, rfl⟩
  have hlocked := hmade.perform () ⟨rfl, rfl⟩
  have hreleased := hlocked.perform ⟨0, (), by decide⟩ rfl
  have hspeed := hreleased.perform ⟨0, (), by decide⟩ rfl
  have hunlocked := hspeed.perform () rfl
  have hcommitted := hunlocked.perform () rfl
  have hdropped := hcommitted.perform none
    (.inl ⟨rfl, fun a ha => (by cases move_source.symm.trans ha), rfl⟩)
  refine ⟨_, hdropped.stop (.ok ()), rfl, rfl, ?_, rfl⟩
  have hwrapper : (Place.wrapper 0 : Place T Addr) ≠ .temp t := nofun
  exact congrArg (Option.map _) ((drop_of_ne hwrapper).trans ((move_target hwrapper).trans
    (Function.update_self ..)))

end

end EasyMcp2221
