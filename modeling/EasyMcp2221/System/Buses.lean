import EasyMcp2221.System.Binding

/-!
# Every bus is closed once

`mcp2221_smbus_init` makes a bus that borrows the handle of its device, and the body of
`~SmbusDeviceState` closes it.  The history of native calls has one such close for every
`SmbusDevice` state object that is gone, and none for one that is still there.
-/

namespace EasyMcp2221

open Effect

section

variable {T : Type}

/-! ## Closes in the history -/

/-- The entry is a close of the bus of `a`. -/
def Entry.closesBus (a : Addr) : Entry T → Bool
  | .smbusClose _ bus _ => decide (bus = a)
  | _ => false

/-- How often the bus of `a` has been closed. -/
def Store.busCloses (s : Store T) (a : Addr) : Nat := s.log.countP (Entry.closesBus a)

theorem busCloses_append {s : Store T} {a : Addr} {log : List (Entry T)} {e : Entry T}
    (hlog : log = s.log ++ [e]) :
    log.countP (Entry.closesBus a) = s.busCloses a + (e.closesBus a).toNat := by
  rw [hlog, List.countP_append, List.countP_singleton, Store.busCloses]
  cases e.closesBus a <;> rfl

/-- The body of `~SmbusDeviceState` has run. -/
def Stage.closed : Stage → Bool
  | ending _ _ closed => closed
  | _ => false

def Eff.closesBus : Eff → Bool
  | .proc (.smbusClose _) => true
  | _ => false

end

section

variable {T : Type} [NativeApi] {t : T} {op : Op} {s s' : Store T} {q : Position} {a b : Addr}
  {e : Eff}

/-- The thread has begun to close the bus of the child that it deletes. -/
def busBegun : Phase Eff Op Position → Bool
  | .idle => false
  | .ready _ q => q.stage.closed
  | .busy _ q e => q.stage.closed || e.closesBus

omit [NativeApi] in
theorem Stage.closed_of_not_dying {stage : Stage} (h : stage.dying = none) :
    stage.closed = false := by
  cases stage <;> first | rfl | cases h

theorem Stage.next_of_not_dying {stage : Stage} {x : PublicOp} (h : stage.dying = none)
    (r : e.Reply) : (stage.next x e r).closed = false := by
  have hmap : ∀ last : Option (Addr × ChildKind),
      Stage.closed ((last.map fun c => Stage.ending c.1 c.2 false).getD .done) = false := by
    rintro (_ | last) <;> rfl
  have hmap' : ∀ last : Option DeviceState,
      Stage.closed ((last.map Stage.closing).getD .done) = false := by
    rintro (_ | last) <;> rfl
  unfold Stage.next
  split <;> first | rfl | exact hmap _ | exact hmap' _ | cases h | skip
  · split <;> rfl
  · cases x with
    | destroy kind | moveAssign kind | copyAssign kind => cases kind <;> rfl
    | _ => rfl
  · exact closed_of_not_dying h

/-- A thread that deletes no child goes on to no stage in which a bus is closed. -/
theorem next_of_not_dying (h : q.stage.dying = none) (r : e.Reply) :
    (q.next e r).stage.closed = false := by
  have hstage := Stage.next_of_not_dying (x := q.call) h r
  cases e with
  | lock | unlock => exact Stage.closed_of_not_dying h
  | _ => exact hstage

/-- What a thread does that deletes a child: it deletes it, after its bus if it has one, or
    it stays where it is. -/
theorem next_of_dying {x : PublicOp} {kind : ChildKind} {closed held : Bool}
    (hpermits : Position.Permits op ⟨x, .ending a kind closed, held⟩ e) (r : e.Reply) :
    e = .own (.deleteChild a) ∧ (kind = .smbus → closed = true) ∨
      (Position.next ⟨x, .ending a kind closed, held⟩ e r).stage =
          .ending a kind (closed || e.closesBus) ∧ (e.closesBus = true → kind = .smbus) := by
  cases hpermits with
  | alloc =>
    refine .inr ⟨?_, fun h => by cases h⟩
    show Stage.ending a kind closed = .ending a kind (closed || false)
    rw [Bool.or_false]
  | lock hdevice | unlock hdevice => cases hdevice
  | smbusClose => exact .inr ⟨rfl, fun _ => rfl⟩
  | deleteChild hclosed => exact .inl ⟨rfl, hclosed⟩

/-! ## What a step does to the children -/

/-- What has become of the children when an effect is left. -/
structure ChildrenMove (t : T) (e : Eff) (s s' : Store T) : Prop where
  /-- A child is as old as before, or it is new, or its last pointer has been dropped. -/
  lives : ∀ a c', s'.children a = some c' →
    (∃ c, s.children a = some c ∧ c'.kind = c.kind ∧ c'.deleter = c.deleter) ∨
      (a = s.next ∧ c'.deleter = none) ∨
      ∃ c, s.children a = some c ∧ c.deleter = none ∧ c'.kind = c.kind ∧ c'.deleter = some t ∧
        e = .own .releaseChild
  gone : ∀ a, s'.children a = none → s.children a = none ∨ e = .own (.deleteChild a)
  next : s.next ≤ s'.next
  busCloses : ∀ a, s'.busCloses a = s.busCloses a

omit [NativeApi] in
theorem ChildrenMove.same (h : s'.children = s.children) (hnext : s'.next = s.next)
    (hlog : ∀ a, s'.busCloses a = s.busCloses a) : ChildrenMove t e s s' where
  lives _ c' hc' := .inl ⟨c', h ▸ hc', rfl, rfl⟩
  gone _ ha := .inl (h ▸ ha)
  next := Nat.le_of_eq hnext.symm
  busCloses := hlog

omit [NativeApi] in
/-- An initialisation keeps the children, up to what is in the struct. -/
theorem ChildrenMove.setChild {f : Child T → Child T}
    (hf : ∀ c, (f c).kind = c.kind ∧ (f c).deleter = c.deleter) :
    ChildrenMove t e s (s.setChild b f) where
  lives a c' hc' := by
    change Function.update s.children b ((s.children b).map f) a = some c' at hc'
    by_cases ha : a = b
    · subst ha
      rw [Function.update_self] at hc'
      obtain ⟨c, hc, rfl⟩ := Option.map_eq_some_iff.mp hc'
      exact .inl ⟨c, hc, hf c⟩
    · rw [Function.update_of_ne ha] at hc'
      exact .inl ⟨c', hc', rfl, rfl⟩
  gone a h := by
    change Function.update s.children b ((s.children b).map f) a = none at h
    by_cases ha : a = b
    · subst ha
      rw [Function.update_self] at h
      exact .inl (Option.map_eq_none_iff.mp h)
    · rw [Function.update_of_ne ha] at h
      exact .inl h
  next := Nat.le_refl _
  busCloses _ := rfl

variable [DecidableEq T]

theorem callEnds_children {c : NativeCall} {reply : c.Reply} (h : s.callEnds t c reply s') :
    ChildrenMove t (.call c) s s' := by
  cases c with
  | openScan =>
    by_cases hok : reply.status = err .ok
    · obtain ⟨hd, -, -, rfl⟩ := (if_pos hok).mp h
      exact .same rfl rfl fun a => busCloses_append rfl
    · obtain rfl := (if_neg hok).mp h
      exact .same rfl rfl fun a => rfl
  | i2cSlaveInit =>
    obtain ⟨slave, -, rfl⟩ := h
    exact .setChild fun c => ⟨rfl, rfl⟩
  | smbusInit =>
    obtain ⟨bus, -, -, rfl⟩ := h
    exact .setChild fun c => ⟨rfl, rfl⟩
  | _ =>
    obtain rfl := h
    exact .same rfl rfl fun a => rfl

theorem ownEnds_children (hs : StoreOk s) {o : Own} {r : o.Reply}
    (h : s.ownEnds t op o r s') : ChildrenMove t (.own o) s s' := by
  cases o with
  | makeDeviceState =>
    obtain ⟨-, rfl⟩ := h
    exact ⟨fun a c' hc' => .inl ⟨c', hc', rfl, rfl⟩, fun a ha => .inl ha, Nat.le_succ _,
      fun a => rfl⟩
  | makeChild kind device address =>
    obtain ⟨rfl, rfl⟩ := h
    refine ⟨fun a c' hc' => ?_, fun a ha => ?_, Nat.le_succ _, fun a => rfl⟩
    · obtain ⟨rfl, rfl⟩ | ⟨-, hold⟩ := update_some_cases hc'
      · exact .inr (.inl ⟨rfl, rfl⟩)
      · exact .inl ⟨c', hold, rfl, rfl⟩
    · exact .inl (update_some_eq_none ha).2
  | releaseDevice =>
    obtain ⟨-, -, rfl⟩ | ⟨a, -, -, -, rfl⟩ := h <;> exact .same rfl rfl fun a => rfl
  | releaseChild =>
    obtain ⟨-, -, rfl⟩ | ⟨b, c, hb, -, hc, -, rfl⟩ := h
    · exact .same rfl rfl fun a => rfl
    · obtain ⟨c₀, hc₀, hdeleter⟩ := (hs.children.owned b).mp ⟨_, hb⟩
      obtain rfl : c = c₀ := Option.some.inj (hc.symm.trans hc₀)
      refine ⟨fun a c' hc' => ?_, fun a ha => .inl (update_some_eq_none ha).2, Nat.le_refl _,
        fun a => rfl⟩
      obtain ⟨rfl, rfl⟩ | ⟨-, hold⟩ := update_some_cases hc'
      · exact .inr (.inr ⟨c, hc, hdeleter, rfl, rfl, rfl⟩)
      · exact .inl ⟨c', hold, rfl, rfl⟩
  | deleteChild b =>
    obtain rfl := h
    refine ⟨fun a c' hc' => .inl ⟨c', (update_none_eq_some hc').2, rfl, rfl⟩, fun a ha => ?_,
      Nat.le_refl _, fun a => rfl⟩
    by_cases hab : a = b
    · exact .inr (hab ▸ rfl)
    · exact .inl ((Function.update_of_ne hab ..).symm.trans ha)
  | _ =>
    obtain rfl := h
    exact .same rfl rfl fun a => rfl

theorem leaves_children (hs : StoreOk s) {r : e.Reply} (h : s.leaves t op e r s') :
    ChildrenMove t e s s' := by
  cases e with
  | alloc | unlock =>
    obtain rfl := h
    exact .same rfl rfl fun a => rfl
  | lock =>
    obtain ⟨-, rfl⟩ := h
    exact .same rfl rfl fun a => rfl
  | call c => exact callEnds_children h
  | proc p =>
    obtain rfl := h
    cases p <;> exact .same rfl rfl fun a => rfl
  | own o => exact ownEnds_children hs h

/-! ## Every bus is closed once -/

/-- What holds of the buses between any two steps: the bus of a child that lives is not
    closed yet, and a thread that deletes a child has closed its bus once it says so. -/
structure BusesOk (s : Store T) (g : T → Phase Eff Op Position) : Prop where
  fresh : ∀ a, s.next ≤ a → s.busCloses a = 0
  alive : ∀ a c, s.children a = some c → c.deleter = none → s.busCloses a = 0
  dying : ∀ a c t, s.children a = some c → c.deleter = some t →
    s.busCloses a = (busBegun (g t)).toNat
  once : ∀ a, s.busCloses a ≤ 1
  smbus : ∀ t op q, (g t).local? = some (op, q) → q.stage.closed = true →
    ∃ a, q.stage = .ending a .smbus true

omit [NativeApi] [DecidableEq T] in
theorem BusesOk.empty : BusesOk (Store.empty : Store T) fun _ => .idle where
  fresh _ _ := rfl
  alive _ _ _ _ := rfl
  dying _ _ _ hc := by cases hc
  once _ := Nat.zero_le _
  smbus _ _ _ h := by cases h

omit [NativeApi] in
/-- Entering an effect other than a close of a bus. -/
theorem enters_busCloses (t : T) (op : Op) (s : Store T) (h : e.closesBus = false) :
    (Store.enters t op s e).children = s.children ∧ (Store.enters t op s e).next = s.next ∧
      ∀ a, (Store.enters t op s e).busCloses a = s.busCloses a := by
  cases e with
  | call c => exact ⟨rfl, rfl, fun a => busCloses_append rfl⟩
  | proc p =>
    cases p with
    | smbusClose => cases h
    | close => exact ⟨rfl, rfl, fun a => busCloses_append rfl⟩
    | _ => exact ⟨rfl, rfl, fun a => rfl⟩
  | _ => exact ⟨rfl, rfl, fun a => rfl⟩

/-- Only a thread that deletes a child closes a bus, the one of that child. -/
theorem permits_closesBus (hpermits : q.Permits op e) (h : e.closesBus = true) :
    ∃ x a, q = ⟨x, .ending a .smbus false, false⟩ ∧ e = .proc (.smbusClose a) := by
  cases hpermits with
  | @smbusClose x a => exact ⟨x, a, rfl, rfl⟩
  | relocate hop => cases op <;> cases hop <;> cases h
  | _ => cases h

theorem BusesOk.enter {g : T → Phase Eff Op Position} (hok : SystemOk s g) (h : BusesOk s g)
    (hready : g t = .ready op q) (hallow : q.Permits op e) :
    BusesOk (Store.enters t op s e) (Function.update g t (.busy op q e)) := by
  have hphase := hok.phase t
  rw [hready] at hphase
  have hsmbus : ∀ u op' q', (Function.update g t (.busy op q e) u).local? = some (op', q') →
      q'.stage.closed = true → ∃ a, q'.stage = .ending a .smbus true := by
    intro u op' q' hlocal
    by_cases hu : u = t
    · subst hu
      rw [Function.update_self] at hlocal
      exact h.smbus u op' q' (by rw [hready]; exact hlocal)
    · rw [Function.update_of_ne hu] at hlocal
      exact h.smbus u op' q' hlocal
  cases hcloses : e.closesBus with
  | false =>
    obtain ⟨hchildren, hnext, hcount⟩ := enters_busCloses t op s hcloses
    have hbegun : ∀ u, busBegun (Function.update g t (.busy op q e) u) = busBegun (g u) := by
      intro u
      by_cases hu : u = t
      · rw [hu, Function.update_self, hready, busBegun, busBegun, hcloses, Bool.or_false]
      · rw [Function.update_of_ne hu]
    refine ⟨fun a ha => ?_, fun a c hc hdeleter => ?_, fun a c u hc hdeleter => ?_, fun a => ?_,
      hsmbus⟩
    · rw [hcount]
      exact h.fresh a (hnext ▸ ha)
    · rw [hcount]
      exact h.alive a c (hchildren ▸ hc) hdeleter
    · rw [hcount, hbegun]
      exact h.dying a c u (hchildren ▸ hc) hdeleter
    · rw [hcount]
      exact h.once a
  | true =>
    obtain ⟨x, b, rfl, rfl⟩ := permits_closesBus hallow hcloses
    obtain ⟨-, -, c, hc, hdeleter, -⟩ := hphase.stage
    have hbefore : s.busCloses b = 0 := by
      rw [h.dying b c t hc hdeleter, hready]
      rfl
    have hcount : ∀ a, (Store.enters t op s (.proc (.smbusClose b))).busCloses a =
        s.busCloses a + (decide (b = a)).toNat := fun a => busCloses_append rfl
    have hother : ∀ a, a ≠ b → (Store.enters t op s (.proc (.smbusClose b))).busCloses a =
        s.busCloses a := fun a ha => by
      rw [hcount, decide_eq_false (Ne.symm ha), Bool.toNat_false, Nat.add_zero]
    refine ⟨fun a ha => ?_, fun a c' hc' hlives => ?_, fun a c' u hc' hdies => ?_, fun a => ?_,
      hsmbus⟩
    · rw [hother a (Nat.ne_of_gt (Nat.lt_of_lt_of_le (hok.store.children.fresh b c hc) ha))]
      exact h.fresh a ha
    · rw [hother a]
      · exact h.alive a c' hc' hlives
      · rintro rfl
        cases hc.symm.trans hc'
        rw [hdeleter] at hlives
        cases hlives
    · by_cases hab : a = b
      · subst hab
        cases hc.symm.trans hc'
        cases hdeleter.symm.trans hdies
        rw [hcount, hbefore, Function.update_self, decide_eq_true rfl]
        rfl
      · rw [hother a hab, h.dying a c' u hc' hdies]
        have hu : u ≠ t := by
          rintro rfl
          exact hab (Option.some.inj ((hphase.own.dying a c' hc').mp hdies)).symm
        rw [Function.update_of_ne hu]
    · by_cases hab : a = b
      · subst hab
        rw [hcount, hbefore, decide_eq_true rfl]
        rfl
      · rw [hother a hab]
        exact h.once a

theorem BusesOk.leave {g : T → Phase Eff Op Position} {r : e.Reply} (hok : SystemOk s g)
    (h : BusesOk s g) (hbusy : g t = .busy op q e) (hallow : q.Permits op e)
    (hleave : s.leaves t op e r s') :
    BusesOk s' (Function.update g t (.ready op (q.next e r))) := by
  have hphase := hok.phase t
  rw [hbusy] at hphase
  obtain ⟨hlives, -, hnext, hcount⟩ := leaves_children hok.store hleave
  refine ⟨fun a ha => ?_, fun a c' hc' hdeleter => ?_, fun a c' u hc' hdeleter => ?_, fun a => ?_,
    fun u op' q' hlocal hclosed => ?_⟩
  · rw [hcount]
    exact h.fresh a (Nat.le_trans hnext ha)
  · rw [hcount]
    obtain ⟨c, hc, -, hsame⟩ | ⟨rfl, -⟩ | ⟨-, -, -, -, hdies, -⟩ := hlives a c' hc'
    · exact h.alive a c hc (hsame ▸ hdeleter)
    · exact h.fresh _ (Nat.le_refl _)
    · rw [hdies] at hdeleter
      cases hdeleter
  · rw [hcount]
    obtain ⟨c, hc, -, hsame⟩ | ⟨-, hnone⟩ | ⟨c, hc, hlive, -, hdies, rfl⟩ := hlives a c' hc'
    · rw [hsame] at hdeleter
      rw [h.dying a c u hc hdeleter]
      by_cases hu : u = t
      · subst hu
        rw [Function.update_self, hbusy]
        have hdying := (hphase.own.dying a c hc).mp hdeleter
        obtain ⟨x, stage, held⟩ := q
        cases stage with
        | ending b kind closed =>
          cases hdying
          obtain ⟨rfl, -⟩ | ⟨hstage, -⟩ := next_of_dying hallow r
          · obtain rfl := hleave
            exact absurd rfl (update_none_eq_some hc').1
          · rw [busBegun, busBegun, hstage]
            rfl
        | _ => cases hdying
      · rw [Function.update_of_ne hu]
    · rw [hnone] at hdeleter
      cases hdeleter
    · -- the last pointer has just been dropped
      rw [hdies] at hdeleter
      cases hdeleter
      rw [h.alive a c hc hlive, Function.update_self, busBegun]
      have hnot : q.stage.dying = none := by
        cases hallow with
        | relocate hop => cases op <;> cases hop
        | _ => rfl
      rw [next_of_not_dying hnot]
      rfl
  · rw [hcount]
    exact h.once a
  · by_cases hu : u = t
    · subst hu
      rw [Function.update_self] at hlocal
      cases hlocal
      have hold := h.smbus u op q (by rw [hbusy, Phase.local?_busy])
      cases hdying : q.stage.dying with
      | none =>
        rw [next_of_not_dying hdying r] at hclosed
        cases hclosed
      | some b =>
        obtain ⟨x, stage, held⟩ := q
        cases stage with
        | ending b kind closed =>
          obtain ⟨rfl, -⟩ | ⟨hstage, hkind⟩ := next_of_dying hallow r
          · cases hclosed
          · rw [hstage] at hclosed ⊢
            obtain hclosed | hclosed := Bool.or_eq_true_iff.mp hclosed
            · obtain ⟨a, ha⟩ := hold hclosed
              cases ha
              exact ⟨b, rfl⟩
            · rw [hkind hclosed, hclosed, Bool.or_true]
              exact ⟨b, rfl⟩
        | _ => cases hdying
    · rw [Function.update_of_ne hu] at hlocal
      exact h.smbus u op' q' hlocal hclosed

omit [DecidableEq T] in
/-- An idle thread deletes no child. -/
theorem SystemOk.not_dying {g : T → Phase Eff Op Position} (hok : SystemOk s g)
    (hidle : g t = .idle) {c : Child T} (hc : s.children a = some c) : c.deleter ≠ some t := by
  intro hdeleter
  have hphase := hok.phase t
  rw [hidle] at hphase
  cases (hphase.own.dying a c hc).mp hdeleter

/-- Every step keeps the invariant of the buses. -/
theorem BusesOk.moves {g g' : T → Phase Eff Op Position} (hok : SystemOk s g)
    (hok' : SystemOk s' g') (hmoves : (systemDiscipline T).Moves s g s' g') (h : BusesOk s g) :
    BusesOk s' g' := by
  cases hmoves with
  | @start _ u op hidle =>
    refine ⟨h.fresh, h.alive, fun a c t hc hdeleter => ?_, h.once, fun t op' q hlocal hclosed => ?_⟩
    · have ht : t ≠ u := by
        rintro rfl
        exact hok.not_dying hidle hc hdeleter
      rw [Function.update_of_ne ht]
      exact h.dying a c t hc hdeleter
    · by_cases ht : t = u
      · subst ht
        rw [Function.update_self] at hlocal
        cases hlocal
        cases hclosed
      · rw [Function.update_of_ne ht] at hlocal
        exact h.smbus t op' q hlocal hclosed
  | enter hready hallow => exact h.enter hok hready hallow
  | leave hbusy hallow hleave => exact h.leave hok hbusy hallow hleave
  | @stop _ u op q hready =>
    refine ⟨h.fresh, h.alive, fun a c t hc hdeleter => ?_, h.once, fun t op' q hlocal hclosed => ?_⟩
    · have ht : t ≠ u := by
        rintro rfl
        exact hok'.not_dying (Function.update_self ..) hc hdeleter
      rw [Function.update_of_ne ht]
      exact h.dying a c t hc hdeleter
    · by_cases ht : t = u
      · subst ht
        rw [Function.update_self] at hlocal
        cases hlocal
      · rw [Function.update_of_ne ht] at hlocal
        exact h.smbus t op' q hlocal hclosed

/-- What is known of a child of the class `kind` once it has been allocated at `a`. -/
structure Allocated (a : Addr) (kind : ChildKind) (s : Store T) : Prop where
  old : a < s.next
  same : ∀ c, s.children a = some c → c.kind = kind
  gone : s.children a = none → s.busCloses a = if kind = .smbus then 1 else 0

theorem Allocated.moves {g g' : T → Phase Eff Op Position} {kind : ChildKind}
    (hok : SystemOk s g) (hbuses : BusesOk s g) (hmoves : (systemDiscipline T).Moves s g s' g')
    (h : Allocated a kind s) : Allocated a kind s' := by
  cases hmoves with
  | start | stop => exact h
  | @enter _ t op q e hready hallow =>
    cases hcloses : e.closesBus with
    | false =>
      obtain ⟨hchildren, hnext, hcount⟩ := enters_busCloses t op s hcloses
      refine ⟨Nat.lt_of_lt_of_eq h.old hnext.symm, fun c hc => h.same c (hchildren ▸ hc),
        fun hnone => (hcount a).trans (h.gone (hchildren ▸ hnone))⟩
    | true =>
      obtain ⟨x, b, rfl, rfl⟩ := permits_closesBus hallow hcloses
      have hphase := hok.phase t
      rw [hready] at hphase
      obtain ⟨-, -, c, hc, -⟩ := hphase.stage
      refine ⟨h.old, h.same, fun hnone => ?_⟩
      have hab : b ≠ a := by
        rintro rfl
        cases hc.symm.trans hnone
      refine (busCloses_append (e := .smbusClose t b ((s.children b).bind Child.bus)) rfl).trans ?_
      rw [show Entry.closesBus a (.smbusClose t b _) = decide (b = a) from rfl,
        decide_eq_false hab]
      exact h.gone hnone
  | @leave _ _ t op q e r hbusy hallow hleave =>
    obtain ⟨hlives, hgone, hnext, hcount⟩ := leaves_children hok.store hleave
    refine ⟨Nat.lt_of_lt_of_le h.old hnext, fun c' hc' => ?_, fun hnone => ?_⟩
    · obtain ⟨c, hc, hsame, -⟩ | ⟨rfl, -⟩ | ⟨c, hc, -, hsame, -⟩ := hlives a c' hc'
      · exact hsame.trans (h.same c hc)
      · exact absurd h.old (Nat.lt_irrefl _)
      · exact hsame.trans (h.same c hc)
    · rw [hcount]
      obtain hold | rfl := hgone a hnone
      · exact h.gone hold
      · -- the child is deleted by this step
        have hphase := hok.phase t
        rw [hbusy] at hphase
        cases hallow with
        | relocate hop => cases op <;> cases hop
        | @deleteChild x _ kind' closed hclosed =>
          obtain ⟨-, -, c, hc, hdeleter, hkind', -⟩ := hphase.stage
          have hcloses := hbuses.smbus t op _ (by rw [hbusy, Phase.local?_busy])
          rw [hbuses.dying a c t hc hdeleter, hbusy, ← h.same c hc, hkind']
          show (closed || false).toNat = _
          rw [Bool.or_false]
          cases closed with
          | true =>
            obtain ⟨b, hb⟩ := hcloses rfl
            cases hb
            rfl
          | false =>
            rw [if_neg]
            · rfl
            · rintro rfl
              cases hclosed rfl

/-- **Every bus is closed once.**  In every reachable configuration, and along every run from
    it:

    * `mcp2221_smbus_close` has been called at most once for every state object;
    * it has not been called for a child that some pointer still points to;
    * once the state object of an `SmbusDevice` is gone it has been called exactly once,
      also where the factory has failed, and never for another child. -/
theorem bus_closed_once (hc : (system T).Reachable Store.empty c) :
    (∀ a, c.state.busCloses a ≤ 1) ∧
    (∀ a child, c.state.children a = some child → child.deleter = none →
      c.state.busCloses a = 0) ∧
    (∀ c' a child, (system T).Steps c c' → c.state.children a = some child →
      c'.state.children a = none →
        c'.state.busCloses a = if child.kind = .smbus then 1 else 0) := by
  obtain ⟨g, hholds, hbuses⟩ := Discipline.reachable_keeps (J := BusesOk) BusesOk.empty
    (fun _ _ _ _ hok hok' hmoves h => h.moves hok hok' hmoves) hc
  refine ⟨hbuses.once, hbuses.alive, fun c' a child hsteps hchild hnone => ?_⟩
  have hallocated : Allocated a child.kind c.state := by
    refine ⟨hholds.1.store.children.fresh a child hchild, fun d hd => ?_, fun h => ?_⟩
    · cases hchild.symm.trans hd
      rfl
    · rw [hchild] at h
      cases h
  obtain ⟨-, -, -, hend⟩ := hholds.run
    (J := fun s g => BusesOk s g ∧ Allocated a child.kind s)
    (fun _ _ _ _ hok hok' hmoves h => ⟨h.1.moves hok hok' hmoves, h.2.moves hok h.1 hmoves⟩)
    ⟨hbuses, hallocated⟩ hsteps
  exact hend.gone hnone

end

section

attribute [local instance] NativeApi.reference

/-- The native initialisation of an `SmbusDevice` fails, and its bus is closed. -/
theorem bus_closed_once_initFails : ∃ (c c' : (system Unit).Config) (a : Addr),
    (system Unit).Reachable Store.empty c ∧ (system Unit).Steps c c' ∧
      (∃ child, c.state.children a = some child ∧ child.kind = .smbus) ∧
      c'.state.children a = none ∧ c'.state.busCloses a = 1 := by
  obtain ⟨s, hidle, hdevice, hfree, hself, hmutex⟩ := constructed ()
  obtain ⟨g, hok, -⟩ := system_reachable hidle
  have hnew : ¬ Owned s.child s.next := by
    intro howned
    obtain ⟨c, hc, -⟩ := (hok.store.children.owned _).mp howned
    exact Nat.lt_irrefl _ (hok.store.children.fresh _ c hc)
  have hstart := hidle.start () (.smbusDevice 0 1 0x20)
    ⟨⟨hdevice, hfree⟩, fun _ _ _ hop => by cases hop⟩
  have hprog : (system Unit).prog s (.smbusDevice 0 1 0x20) =
      (Device.smbusDevice (some ⟨0, some 7⟩) 1 0x20).void := by
    rw [← hself]
    rfl
  rw [hprog] at hstart
  have hallocated := hstart.perform true rfl
  have hmade := hallocated.perform s.next ⟨rfl, rfl⟩
  let child := (Op.smbusDevice 0 1 0x20).newChild (T := Unit) .smbus (some 7) 0x20
  let rest : M Unit := ((withLock ⟨0, some 7⟩ do
    nativeCall (.smbusInit s.next (some 7) 0 0 0 none 0) "Initializing SMBus target"
    own (.commitChild 1 .smbus)).cleanup dropChild).void
  obtain ⟨s₁, hmine, hchild, hmutex₁, hmade⟩ : ∃ s₁, s₁.child =
        Function.update s.child (.temp ()) (some s.next) ∧ s₁.children s.next = some child ∧
      s₁.mutex 0 = none ∧
      (system Unit).ReachableAlone Store.empty () (.smbusDevice 0 1 0x20) rest s₁ :=
    ⟨_, rfl, Function.update_self .., hmutex, hmade⟩
  have hbegun := Machine.StepsAlone.refl (system Unit) () (.smbusDevice 0 1 0x20) rest s₁
  have hlocked := hbegun.perform () ⟨hmutex₁, rfl⟩
  have hfailed := hlocked.perform ⟨-1, (), by decide⟩
    ⟨none, fun hok => (by cases hok), .inl rfl, rfl⟩
  have hunlocked := hfailed.perform () rfl
  have hlast := hunlocked.perform (some (s.next, .smbus)) (.inr ⟨s.next, _,
    (congrFun hmine _).trans (Function.update_self ..), ?_,
    (Function.update_self ..).trans (congrArg (Option.map _) hchild), rfl, rfl⟩)
  · have hclosed := hlast.perform () rfl
    have hdeleted := hclosed.perform () rfl
    obtain ⟨-, -, hgone⟩ := bus_closed_once hmade
    exact ⟨_, _, s.next, hmade, hdeleted, ⟨child, hchild, rfl⟩, Function.update_self ..,
      hgone _ s.next child hdeleted hchild (Function.update_self ..)⟩
  · rintro ⟨x, hx, hshared⟩
    refine hnew ⟨x, ?_⟩
    rw [← Function.update_of_ne hx (some s.next) s.child, ← hmine]
    exact hshared

end

end EasyMcp2221
