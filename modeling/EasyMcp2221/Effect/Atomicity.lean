import EasyMcp2221.Effect.Interleaving
import EasyMcp2221.Effect.Refinement

/-!
# Accesses that never overlap are atomic

A machine over shared cells.  An access of a cell takes two steps of its thread: the cell is
read when the thread enters the effect and written when the thread leaves it, so that what
another thread writes in between is lost.  `Guards` says that this does not happen, and
`Guards.atomic` that the accesses of each cell then take place one after the other, as if
each were a single step.
-/

namespace Effect

/-- The state of a machine, and the cells that its threads work on. -/
structure Cells (S T K D L : Type) where
  state : S
  cell : K → D
  /-- The cell that a thread is accessing, and what it has read there. -/
  view : T → Option (K × D)
  /-- The accesses of each cell that have ended. -/
  ended : K → List L

/-- The cell that the effect of a thread works on. -/
def Thread.accesses {E : Type} {R : E → Type} {ε Op K : Type} (key : E → Option K) :
    Thread E R ε Op → Option K
  | .busy _ e _ => key e
  | _ => none

namespace Machine

section

variable {E : Type} {R : E → Type} {ε T Op S K D : Type} [DecidableEq T] [DecidableEq K]

/-- The thread `t` leaves an effect that turns what it has read into what it writes. -/
def writeBack (dev : D → Prog.Event R → D → Prop) (t : T) (ev : Prog.Event R) (s' : S)
    (x x' : Cells S T K D (Prog.Event R)) : Prop :=
  match x.view t with
  | none => x' = { x with state := s' }
  | some (k, d) => ∃ d', dev d ev d' ∧
    x' =
      { state := s'
        cell := Function.update x.cell k d'
        view := Function.update x.view t none
        ended := Function.update x.ended k (x.ended k ++ [ev]) }

/-- The machine over cells: `key s e` is the cell that `e` works on, `dev d ev d'` what an
    access may do to one. -/
def withCells (M : Machine E R ε T Op S) (key : S → E → Option K)
    (dev : D → Prog.Event R → D → Prop) :
    Machine E R ε T Op (Cells S T K D (Prog.Event R)) where
  prog x op := M.prog x.state op
  canStart x running t op := M.canStart x.state running t op
  enter t op x e :=
    { x with
      state := M.enter t op x.state e
      view := Function.update x.view t ((key x.state e).map fun k => (k, x.cell k)) }
  leave t op x e r x' := ∃ s', M.leave t op x.state e r s' ∧ writeBack dev t ⟨e, r⟩ s' x x'

variable {M : Machine E R ε T Op S} {key : S → E → Option K} {dev : D → Prog.Event R → D → Prop}

/-- The configuration without the cells. -/
def Config.base (c : (M.withCells key dev).Config) : M.Config := ⟨c.state.state, c.threads⟩

theorem writeBack_state {t : T} {ev : Prog.Event R} {s' : S}
    {x x' : Cells S T K D (Prog.Event R)} (h : writeBack dev t ev s' x x') : x'.state = s' := by
  unfold writeBack at h
  split at h
  · rw [h]
  · rcases h with ⟨d', -, rfl⟩
    rfl

/-- The cells do not matter to what the threads may do. -/
theorem Step.base {c c' : (M.withCells key dev).Config} (h : (M.withCells key dev).Step c c') :
    M.Step c.base c'.base := by
  cases h with
  | start t op hidle hcan => exact .start c.base t op hidle hcan
  | enter t op e k hready => exact .enter c.base t op e k hready
  | leave t op e k r x' hbusy hleave =>
    rcases hleave with ⟨s', hleave, hwrite⟩
    rcases writeBack_state hwrite with rfl
    exact .leave c.base t op e k r _ hbusy hleave
  | stop t op out hready => exact .stop c.base t op out hready

/-- The state before any thread does anything. -/
def cellsInit (s₀ : S) (d₀ : K → D) : Cells S T K D (Prog.Event R) :=
  ⟨s₀, d₀, fun _ => none, fun _ => []⟩

theorem Reachable.base {s₀ : S} {d₀ : K → D} {c : (M.withCells key dev).Config}
    (h : (M.withCells key dev).Reachable (cellsInit s₀ d₀) c) : M.Reachable s₀ c.base := by
  induction h with
  | init => exact .init
  | step _ hstep ih => exact ih.step hstep.base

theorem ExecutesFrom.base {c₀ c : (M.withCells key dev).Config} {t : T} {op : Op}
    {tr : List (Prog.Event R)} (h : (M.withCells key dev).ExecutesFrom c₀ t op tr c) :
    M.ExecutesFrom c₀.base t op tr c.base := by
  induction h with
  | start hidle hcan => exact .start hidle hcan
  | enter _ hready ih => exact .enter ih hready
  | leave _ hbusy hleave ih =>
    rcases hleave with ⟨s', hleave, hwrite⟩
    rcases writeBack_state hwrite with rfl
    exact .leave ih hbusy hleave
  | other _ hstep hsame ih => exact .other ih hstep.base hsame

/-- The cells hold nobody up: what the machine may reach, it may reach over cells whose accesses
    always have a result. -/
theorem Reachable.over_cells {s₀ : S} {d₀ : K → D} (htotal : ∀ d ev, ∃ d', dev d ev d')
    {c : M.Config} (h : M.Reachable s₀ c) : ∃ c' : (M.withCells key dev).Config,
      (M.withCells key dev).Reachable (cellsInit s₀ d₀) c' ∧ c'.base = c := by
  induction h with
  | init => exact ⟨_, .init, rfl⟩
  | step _ hstep ih =>
    rcases ih with ⟨c', hc', rfl⟩
    cases hstep with
    | start t op hidle hcan => exact ⟨_, hc'.step (.start c' t op hidle hcan), rfl⟩
    | enter t op e k hready => exact ⟨_, hc'.step (.enter c' t op e k hready), rfl⟩
    | stop t op out hready => exact ⟨_, hc'.step (.stop c' t op out hready), rfl⟩
    | leave t op e k r s' hbusy hleave =>
      have hwrite : ∃ x' : Cells S T K D (Prog.Event R),
          writeBack dev t ⟨e, r⟩ s' c'.state x' := by
        unfold writeBack
        cases c'.state.view t with
        | none => exact ⟨_, rfl⟩
        | some kd =>
          rcases htotal kd.2 ⟨e, r⟩ with ⟨d', hd'⟩
          exact ⟨_, d', hd', rfl⟩
      rcases hwrite with ⟨x', hwrite⟩
      refine ⟨_, hc'.step (.leave c' t op e k r x' hbusy ⟨s', hleave, hwrite⟩), ?_⟩
      rw [Config.base, writeBack_state hwrite]
      rfl

/-- No two threads are inside accesses of one cell, and an effect works on the same cell from
    its begin to its end. -/
structure Guards (M : Machine E R ε T Op S) (s₀ : S) (key : S → E → Option K) : Prop where
  exclusive : ∀ c : M.Config, M.Reachable s₀ c → ∀ t t' k,
    (c.threads t).accesses (key c.state) = some k →
      (c.threads t').accesses (key c.state) = some k → t = t'
  enter : ∀ (s : S) (t : T) (op : Op) (e : E), key (M.enter t op s e) e = key s e
  stable : ∀ c c' : M.Config, M.Reachable s₀ c → M.Step c c' → ∀ t,
    c'.threads t = c.threads t →
      (c.threads t).accesses (key c'.state) = (c.threads t).accesses (key c.state)

/-- Every thread has read the cell that it accesses, and what it has read is still there. -/
structure Atomic (dev : D → Prog.Event R → D → Prop) (d₀ : K → D)
    (c : (M.withCells key dev).Config) : Prop where
  inside : ∀ t, (c.state.view t).map Prod.fst = (c.threads t).accesses (key c.state.state)
  current : ∀ t k d, c.state.view t = some (k, d) → d = c.state.cell k
  runs : ∀ k, Run dev (d₀ k) (c.state.ended k) (c.state.cell k)

variable {s₀ : S} {d₀ : K → D}

/-- Threads that take no step go on with what they are inside. -/
theorem Guards.inside_update (hguards : Guards M s₀ key) {c : (M.withCells key dev).Config}
    {c' : M.Config} (hc : M.Reachable s₀ c.base) (h : Atomic dev d₀ c) {t : T}
    {x : Thread E R ε Op} (hthreads : c'.threads = Function.update c.threads t x)
    (hstep : M.Step c.base c') {view : T → Option (K × D)}
    (hview : ∀ u, u ≠ t → view u = c.state.view u)
    (hmine : (view t).map Prod.fst = x.accesses (key c'.state)) (u : T) :
    (view u).map Prod.fst = (c'.threads u).accesses (key c'.state) := by
  by_cases hu : u = t
  · subst hu
    rw [hthreads, Function.update_self]
    exact hmine
  · have hsame : c'.threads u = c.threads u := by
      rw [hthreads, Function.update_of_ne hu]
    rw [hview u hu, hsame]
    exact (h.inside u).trans (hguards.stable c.base c' hc hstep u hsame).symm

theorem Atomic.step (hguards : Guards M s₀ key) {c c' : (M.withCells key dev).Config}
    (hc : M.Reachable s₀ c.base) (h : Atomic dev d₀ c) (hstep : (M.withCells key dev).Step c c') :
    Atomic dev d₀ c' := by
  have hbase := hstep.base
  cases hstep with
  | start t op hidle hcan =>
    have hnone : (c.state.view t).map Prod.fst = none := by
      rw [h.inside t, hidle]
      rfl
    exact ⟨hguards.inside_update hc h rfl hbase (fun _ _ => rfl) hnone, h.current, h.runs⟩
  | stop t op out hready =>
    have hnone : (c.state.view t).map Prod.fst = none := by
      rw [h.inside t, hready]
      rfl
    exact ⟨hguards.inside_update hc h rfl hbase (fun _ _ => rfl) hnone, h.current, h.runs⟩
  | enter t op e k hready =>
    have hview : ∀ u, u ≠ t → Function.update c.state.view t
        ((key c.state.state e).map fun k => (k, c.state.cell k)) u = c.state.view u :=
      fun u hu => Function.update_of_ne hu _ _
    have hmine : (Function.update c.state.view t
        ((key c.state.state e).map fun k => (k, c.state.cell k)) t).map Prod.fst =
        key (M.enter t op c.state.state e) e := by
      rw [Function.update_self, Option.map_map, hguards.enter]
      exact Option.map_id'
    refine ⟨hguards.inside_update (x := .busy op e k) hc h rfl hbase hview hmine,
      fun u k' d hd => ?_, h.runs⟩
    by_cases hu : u = t
    · subst hu
      have hd' : Function.update c.state.view u
        ((key c.state.state e).map fun k => (k, c.state.cell k)) u = some (k', d) := hd
      rw [Function.update_self] at hd'
      rcases Option.map_eq_some_iff.mp hd' with ⟨k'', -, heq⟩
      cases heq
      rfl
    · exact h.current u k' d ((hview u hu).symm.trans hd)
  | leave t op e k r x' hbusy hleave =>
    rcases hleave with ⟨s', -, hwrite⟩
    unfold writeBack at hwrite
    cases hread : c.state.view t with
    | none =>
      rw [hread] at hwrite
      cases hwrite
      have hmine : (c.state.view t).map Prod.fst = none := by rw [hread, Option.map_none]
      exact ⟨hguards.inside_update hc h rfl hbase (fun _ _ => rfl) hmine, h.current, h.runs⟩
    | some kd =>
      rcases kd with ⟨k', d⟩
      rw [hread] at hwrite
      rcases hwrite with ⟨d', hdev, rfl⟩
      have hview : ∀ u, u ≠ t → Function.update c.state.view t none u = c.state.view u :=
        fun u hu => Function.update_of_ne hu _ _
      have hmine : (Function.update c.state.view t none t).map Prod.fst = none := by
        rw [Function.update_self, Option.map_none]
      have hcell : ∀ u k'', (c.state.view u).map Prod.fst = some k'' → u ≠ t → k'' ≠ k' := by
        rintro u k'' hu hne rfl
        have hat : (c.state.view t).map Prod.fst = some k'' := by rw [hread, Option.map_some]
        exact hne (hguards.exclusive c.base hc u t k'' ((h.inside u).symm.trans hu)
          ((h.inside t).symm.trans hat))
      refine ⟨hguards.inside_update (x := .ready op (k r)) hc h rfl hbase hview hmine,
        fun u k'' d'' hd => ?_, fun k'' => ?_⟩
      · by_cases hu : u = t
        · subst hu
          have hd' : Function.update c.state.view u none u = some (k'', d'') := hd
          rw [Function.update_self] at hd'
          cases hd'
        · have hd' := (hview u hu).symm.trans hd
          have hne := hcell u k'' (by rw [hd', Option.map_some]) hu
          have hold := h.current u k'' d'' hd'
          exact hold.trans (Function.update_of_ne hne _ _).symm
      · change Run dev (d₀ k'') (Function.update c.state.ended k' _ k'')
          (Function.update c.state.cell k' d' k'')
        by_cases hk : k'' = k'
        · subst hk
          rw [Function.update_self, Function.update_self]
          rw [h.current t k'' d hread] at hdev
          exact (h.runs k'').snoc hdev
        · rw [Function.update_of_ne hk, Function.update_of_ne hk]
          exact h.runs k''

theorem Guards.reachable (hguards : Guards M s₀ key) {c : (M.withCells key dev).Config}
    (h : (M.withCells key dev).Reachable (cellsInit s₀ d₀) c) : Atomic dev d₀ c := by
  induction h with
  | init => exact ⟨fun _ => rfl, fun _ _ _ hview => (by cases hview), fun k => .nil _⟩
  | step hreach hstep ih => exact ih.step hguards (Reachable.base hreach) hstep

/-- **Accesses that are guarded are atomic.** -/
theorem Guards.atomic (hguards : Guards M s₀ key) {c : (M.withCells key dev).Config}
    (h : (M.withCells key dev).Reachable (cellsInit s₀ d₀) c) (k : K) :
    Run dev (d₀ k) (c.state.ended k) (c.state.cell k) :=
  (hguards.reachable h).runs k

/-! ## The instant of an access -/

/-- From the one configuration to the other the accesses of the cell `k` that have ended in
    between took place one after the other. -/
def Evolves (k : K) (c c' : (M.withCells key dev).Config) : Prop :=
  ∃ new, c'.state.ended k = c.state.ended k ++ new ∧
    Run dev (c.state.cell k) new (c'.state.cell k)

variable {c c' : (M.withCells key dev).Config} {k : K}

theorem Evolves.refl (k : K) (c : (M.withCells key dev).Config) : Evolves k c c :=
  ⟨[], (List.append_nil _).symm, .nil _⟩

theorem Evolves.trans {c'' : (M.withCells key dev).Config} (h : Evolves k c c')
    (h' : Evolves k c' c'') : Evolves k c c'' := by
  rcases h with ⟨new, hended, hrun⟩
  rcases h' with ⟨new', hended', hrun'⟩
  refine ⟨new ++ new', ?_, hrun.append hrun'⟩
  rw [hended', hended, List.append_assoc]

/-- The access that a thread leaves, when it has read the cell `k`. -/
theorem writeBack_takes {t : T} {ev : Prog.Event R} {s' : S} {x x' : Cells S T K D (Prog.Event R)}
    {d : D} (hread : x.view t = some (k, d)) (hwrite : writeBack dev t ev s' x x') :
    x'.ended k = x.ended k ++ [ev] ∧ dev d ev (x'.cell k) ∧
      ∀ k', k' ≠ k → x'.ended k' = x.ended k' ∧ x'.cell k' = x.cell k' := by
  rw [writeBack, hread] at hwrite
  rcases hwrite with ⟨d', hdev, rfl⟩
  refine ⟨Function.update_self .., ?_, ?_⟩
  · show dev d ev (Function.update x.cell k d' k)
    rw [Function.update_self]
    exact hdev
  · intro k' hk
    exact ⟨Function.update_of_ne hk .., Function.update_of_ne hk ..⟩

/-- One step. -/
theorem Guards.evolves (hguards : Guards M s₀ key)
    (hc : (M.withCells key dev).Reachable (cellsInit s₀ d₀) c)
    (hstep : (M.withCells key dev).Step c c') (k : K) : Evolves k c c' := by
  cases hstep with
  | start | enter | stop => exact Evolves.refl k c
  | leave t op e k' r x' hbusy hleave =>
    rcases hleave with ⟨s', -, hwrite⟩
    cases hread : c.state.view t with
    | none =>
      rw [writeBack, hread] at hwrite
      rw [hwrite]
      exact Evolves.refl k c
    | some kd =>
      rcases kd with ⟨k₁, d⟩
      rcases writeBack_takes hread hwrite with ⟨hended, hdev, hother⟩
      by_cases hk : k = k₁
      · subst hk
        rw [(hguards.reachable hc).current t k d hread] at hdev
        exact ⟨[⟨e, r⟩], hended, .cons hdev (.nil _)⟩
      · rcases hother k hk with ⟨hsame, hcell⟩
        refine ⟨[], hsame.trans (List.append_nil _).symm, ?_⟩
        show Run dev (c.state.cell k) [] (x'.cell k)
        rw [hcell]
        exact .nil _

/-- Any number of steps. -/
theorem Guards.evolves_steps (hguards : Guards M s₀ key)
    (hc : (M.withCells key dev).Reachable (cellsInit s₀ d₀) c)
    (hsteps : (M.withCells key dev).Steps c c') (k : K) : Evolves k c c' := by
  induction hsteps with
  | refl => exact Evolves.refl k c
  | tail hbefore hstep ih => exact ih.trans (hguards.evolves (hc.steps hbefore) hstep k)

/-- The step from `c₁` to `c₂` in which an execution of `op`, begun by the thread `t` at `c₀`,
    takes its access `ev` of the cell `k`. -/
structure Takes (t : T) (op : Op) (ev : Prog.Event R) (k : K)
    (c₀ c₁ c₂ : (M.withCells key dev).Config) : Prop where
  execution : ∃ tr, (M.withCells key dev).ExecutesFrom c₀ t op tr c₁ ∧
    (M.withCells key dev).ExecutesFrom c₀ t op (tr ++ [ev]) c₂
  step : (M.withCells key dev).Step c₁ c₂
  ended : c₂.state.ended k = c₁.state.ended k ++ [ev]
  access : dev (c₁.state.cell k) ev (c₂.state.cell k)

/-- The access took place at one instant between the begin of the execution at `c₀` and `c`:
    in one step of the execution, which found what the accesses before it had made of the
    cell, and from whose result those after it went on. -/
def AtInstant (d₀ : K → D) (t : T) (op : Op) (ev : Prog.Event R) (k : K)
    (c₀ c : (M.withCells key dev).Config) : Prop :=
  ∃ c₁ c₂, Takes t op ev k c₀ c₁ c₂ ∧ Run dev (d₀ k) (c₁.state.ended k) (c₁.state.cell k) ∧
    Evolves k c₀ c₁ ∧ (M.withCells key dev).Steps c₂ c ∧ Evolves k c₂ c

/-- **Every access of an execution takes place at one instant.** -/
theorem Guards.instant (hguards : Guards M s₀ key) {c₀ : (M.withCells key dev).Config}
    (hc₀ : (M.withCells key dev).Reachable (cellsInit s₀ d₀) c₀) {t : T} {op : Op}
    {tr : List (Prog.Event R)} (h : (M.withCells key dev).ExecutesFrom c₀ t op tr c)
    {ev : Prog.Event R} (hev : ev ∈ tr) {x : K}
    (hkey : ∀ tr₁ (c₁ : M.Config) k, M.ExecutesFrom c₀.base t op tr₁ c₁ →
      c₁.threads t = .busy op ev.1 k → key c₁.state ev.1 = some x) :
    AtInstant d₀ t op ev x c₀ c := by
  rcases h.left hev with ⟨tr₁, c₁, k, x', hbefore, hbusy, hleave, hsteps⟩
  have hc₁ := hc₀.steps hbefore.steps
  have hstep := Step.leave c₁ t op ev.1 k ev.2 x' hbusy hleave
  have hinside : (c₁.state.view t).map Prod.fst = some x := by
    rw [(hguards.reachable hc₁).inside t, hbusy]
    exact hkey tr₁ c₁.base k hbefore.base hbusy
  rcases Option.map_eq_some_iff.mp hinside with ⟨⟨x, d⟩, hread, rfl⟩
  have hafter := hbefore.leave hbusy hleave
  rcases hleave with ⟨s', -, hwrite⟩
  rcases writeBack_takes hread hwrite with ⟨hended, hdev, -⟩
  rw [(hguards.reachable hc₁).current t x d hread] at hdev
  exact ⟨c₁, _, ⟨⟨tr₁, hbefore, hafter⟩, hstep, hended, hdev⟩, hguards.atomic hc₁ x,
    hguards.evolves_steps hc₀ hbefore.steps x, hsteps,
    hguards.evolves_steps (hc₁.step hstep) hsteps x⟩

end

end Machine

end Effect
