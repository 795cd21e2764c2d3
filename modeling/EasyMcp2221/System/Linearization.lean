import EasyMcp2221.System.Graph
import EasyMcp2221.System.Construction
import EasyMcp2221.Effect.History

/-!
# Operations on wrapper objects take place at one step

Several threads construct, hand out, move, copy, close and destroy wrapper objects, each in
many steps.  Seen from outside each such operation takes place in one step, its commit, or
not at all (`operation_commits_once`): the wrapper objects are at every moment what the
commits so far make of them, one after the other (`wrappers_linearize`).
-/

namespace EasyMcp2221

open Effect

section

variable {T : Type} [NativeApi] {t t' : T} {op : Op} {s s' : Store T} {q : Position} {a : Addr}
  {e : Eff}

/-! ## The graph of a store -/

def Store.ref (s : Store T) (a : Addr) : ChildRef :=
  ⟨a, s.memberDevice a, (s.children a).map Child.birth⟩

/-- What a client sees of the store. -/
def Store.graph (s : Store T) : Graph :=
  ⟨s.wrappers, s.deviceSelf, fun v => (s.child (.wrapper v)).map s.ref⟩

/-- A step that does not touch the pointers of wrapper objects does not show. -/
theorem Frame.graph (hf : Frame t op s s') (hs : StoreOk s) (hwrappers : s'.wrappers = s.wrappers)
    (hdev : ∀ v, s'.dev (.wrapper v) = s.dev (.wrapper v))
    (hchild : ∀ v, s'.child (.wrapper v) = s.child (.wrapper v)) : s'.graph = s.graph := by
  have hself : s'.deviceSelf = s.deviceSelf := by
    funext v
    rw [Store.deviceSelf, Store.deviceSelf, hdev v]
    cases h : s.dev (.wrapper v) with
    | none => rfl
    | some a =>
      rw [Option.map_some, Option.map_some, hf.deviceState_eq h ((hdev v).trans h)]
  have href : (fun v => (s'.child (.wrapper v)).map s'.ref) =
      fun v => (s.child (.wrapper v)).map s.ref := by
    funext v
    rw [hchild v]
    cases h : s.child (.wrapper v) with
    | none => rfl
    | some b =>
      rcases (hs.children.owned b).mp ⟨_, h⟩ with ⟨c, hc, -⟩
      have hc' := hf.children b c hc (.inl ⟨.wrapper v, by simp, h⟩)
      rw [Option.map_some, Option.map_some, Store.ref, Store.ref, hf.memberDevice_eq hs hc hc', hc,
        hc']
  rw [Store.graph, Store.graph, hwrappers, hself, href]

variable [DecidableEq T]

omit [NativeApi] in
theorem enters_wrappers (t : T) (op : Op) (s : Store T) (e : Eff) :
    (Store.enters t op s e).wrappers = s.wrappers ∧ (Store.enters t op s e).child = s.child := by
  cases e with
  | proc p => cases p <;> exact ⟨rfl, rfl⟩
  | _ => exact ⟨rfl, rfl⟩

theorem callEnds_wrappers {c : NativeCall} {reply : c.Reply} (h : s.callEnds t c reply s') :
    s'.wrappers = s.wrappers ∧ s'.child = s.child := by
  cases c with
  | openScan =>
    by_cases hok : reply.status = err .ok
    · rcases (if_pos hok).mp h with ⟨hd, -, -, rfl⟩
      exact ⟨rfl, rfl⟩
    · cases (if_neg hok).mp h
      exact ⟨rfl, rfl⟩
  | i2cSlaveInit =>
    rcases h with ⟨slave, -, rfl⟩
    exact ⟨rfl, rfl⟩
  | smbusInit =>
    rcases h with ⟨bus, -, -, rfl⟩
    exact ⟨rfl, rfl⟩
  | _ =>
    cases h
    exact ⟨rfl, rfl⟩

/-- Only a commit changes the pointers of wrapper objects. -/
theorem leaves_wrappers {r : e.Reply} (h : s.leaves t op e r s') (hcommits : e.commits = false) :
    s'.wrappers = s.wrappers ∧ (∀ v, s'.dev (.wrapper v) = s.dev (.wrapper v)) ∧
      ∀ v, s'.child (.wrapper v) = s.child (.wrapper v) := by
  have hsame : s'.wrappers = s.wrappers ∧ s'.dev = s.dev ∧ s'.child = s.child →
      s'.wrappers = s.wrappers ∧ (∀ v, s'.dev (.wrapper v) = s.dev (.wrapper v)) ∧
        ∀ v, s'.child (.wrapper v) = s.child (.wrapper v) := by
    rintro ⟨hwrappers, hdev, hchild⟩
    exact ⟨hwrappers, fun v => by rw [hdev], fun v => by rw [hchild]⟩
  cases e with
  | alloc | unlock =>
    cases h
    exact hsame ⟨rfl, rfl, rfl⟩
  | lock =>
    rcases h with ⟨-, rfl⟩
    exact hsame ⟨rfl, rfl, rfl⟩
  | call c =>
    rcases callEnds_wrappers h with ⟨hwrappers, hchild⟩
    exact hsame ⟨hwrappers, callEnds_dev h, hchild⟩
  | proc p =>
    cases h
    cases p <;> exact hsame ⟨rfl, rfl, rfl⟩
  | own o =>
    have hdev : ∀ o v, Function.update s.dev (.temp t) o (.wrapper v) = s.dev (.wrapper v) :=
      fun o v => Function.update_of_ne (by simp) _ _
    have hmember : ∀ b o v, Function.update s.dev (.member b) o (.wrapper v) =
        s.dev (.wrapper v) :=
      fun b o v => Function.update_of_ne (by simp) _ _
    have hchild : ∀ o v, Function.update s.child (.temp t) o (.wrapper v) = s.child (.wrapper v) :=
      fun o v => Function.update_of_ne (by simp) _ _
    cases o with
    | makeDeviceState =>
      rcases h with ⟨-, rfl⟩
      exact ⟨rfl, hdev (some r), fun v => rfl⟩
    | makeChild kind device =>
      rcases h with ⟨-, rfl⟩
      exact ⟨rfl, hmember r (some device.addr), hchild (some r)⟩
    | releaseDevice =>
      rcases h with ⟨-, -, rfl⟩ | ⟨b, -, -, -, rfl⟩ <;>
        exact ⟨rfl, hdev none, fun v => rfl⟩
    | releaseChild =>
      rcases h with ⟨-, -, rfl⟩ | ⟨b, c, -, -, -, -, rfl⟩ <;>
        exact ⟨rfl, fun v => rfl, hchild none⟩
    | deleteDevice =>
      cases h
      exact hsame ⟨rfl, rfl, rfl⟩
    | deleteChild b =>
      cases h
      have hmove : ∀ v, move s.dev (.member b) (.temp t) (.wrapper v) = s.dev (.wrapper v) :=
        fun v => move_of_ne (by simp) (by simp)
      exact ⟨rfl, hmove, fun v => rfl⟩
    | _ => cases hcommits

/-! ## The steps that do -/

omit [DecidableEq T] [NativeApi] in
/-- What a graph shares is what some wrapper object or the member of some child points to. -/
theorem Store.place_of_shares {v : Var} {d : DeviceState} (h : s.graph.shares v = some d) :
    ∃ x, (∀ t, x ≠ .temp t) ∧ s.dev x = some d.addr ∧ d = s.deviceState d.addr := by
  rcases Option.or_eq_some_iff.mp h with hself | ⟨-, hchild⟩
  · rcases Option.map_eq_some_iff.mp hself with ⟨a, ha, rfl⟩
    exact ⟨.wrapper v, fun t => by simp, ha, rfl⟩
  · rcases Option.bind_eq_some_iff.mp hchild with ⟨r, hr, hdevice⟩
    rcases Option.map_eq_some_iff.mp hr with ⟨b, -, rfl⟩
    rcases Option.map_eq_some_iff.mp hdevice with ⟨a, ha, rfl⟩
    exact ⟨.member b, fun t => by simp, ha, rfl⟩

omit [DecidableEq T] in
/-- A device that only a local variable points to is shared by no wrapper object, and
    neither is its handle. -/
theorem StoreOk.fresh (hs : StoreOk s) {d : DeviceState} (hdev : s.dev (.temp t) = some d.addr)
    (hhandle : d.handle = s.handles (.state d.addr)) (hsole : ¬ Shared s.dev (.temp t) d.addr) :
    s.graph.Fresh d ∧ d.handle ≠ none := by
  rcases (hs.devices.owned d.addr).mp ⟨_, hdev⟩ with ⟨hd, hh⟩
  refine ⟨fun v d' hshares => ?_, by simp [hhandle, hh]⟩
  rcases Store.place_of_shares hshares with ⟨x, hx, hx', heq⟩
  have hne : d'.addr ≠ d.addr := by
    intro hsame
    rw [hsame] at hx'
    exact hsole ⟨x, hx t, hx'⟩
  refine ⟨hne, fun hsame => hne ?_⟩
  have hmine : s.handles (.state d'.addr) = some hd := by
    rw [← hh, ← hhandle, ← hsame, heq]
    rfl
  exact Holder.state.inj (hs.devices.exclusive _ _ hd hmine hh)

omit [DecidableEq T] [NativeApi] in
theorem Store.graph_eq {γ : Graph} (hwrappers : s.wrappers = γ.wrappers)
    (hdevice : ∀ v, s.deviceSelf v = γ.device v)
    (hchild : ∀ v, (s.child (.wrapper v)).map s.ref = γ.child v) : s.graph = γ := by
  rw [Store.graph, hwrappers, funext hdevice, funext hchild]

theorem commitDevice_graph (hs : StoreOk s) {x : PublicOp} {d : DeviceState} {w : Var}
    {options : DeviceOptions} {handle : HandlePtr}
    (h : Attached s t (.construct w options) ⟨x, .building d, false⟩ handle)
    (hsole : ¬ Shared s.dev (.temp t) d.addr)
    (hleave : s.ownEnds t (.construct w options) (.commitDevice w) () s') :
    s.graph.Step (.construct w options) s'.graph := by
  rcases h.stage with ⟨hdev, -, -, hhandle⟩
  rcases hs.fresh hdev hhandle hsole with ⟨hfresh, hopen⟩
  have hmember : ∀ a, s'.memberDevice a = s.memberDevice a := by
    intro a
    cases hleave
    have hkeep : move s.dev (.temp t) (.wrapper w) (.member a) = s.dev (.member a) :=
      move_of_ne (by simp) (by simp)
    exact congrArg (Option.map s.deviceState) hkeep
  have hgraph : s'.graph =
      { s.graph with
        wrappers := Function.update s.graph.wrappers w (some .device)
        device := Function.update s.graph.device w (some d) } := by
    apply Store.graph_eq
    · rw [hleave]
      rfl
    · intro v
      rw [hleave]
      change (move s.dev (.temp t) (.wrapper w) (.wrapper v)).map s.deviceState =
        Function.update s.deviceSelf w (some d) v
      by_cases hv : v = w
      · subst hv
        rw [Function.update_self, move_target (by simp), hdev, Option.map_some, Store.deviceState,
          ← hhandle]
      · rw [Function.update_of_ne hv, move_of_ne (by simp) (by simpa using hv), Store.deviceSelf]
    · intro v
      have href : s'.ref = s.ref := by
        funext a
        rw [Store.ref, Store.ref, hmember, hleave]
      rw [href, hleave]
      rfl
  rw [hgraph]
  exact .construct hfresh hopen

theorem commitChild_graph {x : PublicOp} {held : Bool} {w : Var}
    {kind : ChildKind} {handle : HandlePtr} (h : Attached s t op ⟨x, .making a true, held⟩ handle)
    (hdst : op.dst = some w) (hkind : op.childKind = some kind)
    (hleave : s.ownEnds t op (.commitChild w kind) () s') : s.graph.Step op s'.graph := by
  rcases h.stage with ⟨-, hmine, hsole, target, child, htarget, hmember, hchild, -, hbirth, -⟩
  obtain ⟨v, hreads, hv, hdevice⟩ :=
    Op.receiver hkind (h.resolve (.inl (op.sheds_of_factory (by simp [hkind])))) htarget
  have hself : s.deviceSelf v = some target.device := by
    rw [Store.deviceSelf, hv, Option.map_some, ← hdevice]
  have hnew : ∀ u r, s.graph.child u = some r → r.state ≠ a := by
    intro u r hr heq
    rcases Option.map_eq_some_iff.mp hr with ⟨b, hb, rfl⟩
    cases heq
    exact hsole ⟨.wrapper u, by simp, hb⟩
  have href : s.ref a = ⟨a, some target.device, some ⟨target.device.handle, op.address,
      op.options⟩⟩ := by
    rw [Store.ref, Store.memberDevice, hmember, hchild, Option.map_some, Option.map_some, hbirth,
      ← hdevice]
  have hgraph : s'.graph =
      { s.graph with
        wrappers := Function.update s.graph.wrappers w (some (.child kind))
        child := Function.update s.graph.child w
          (some ⟨a, some target.device,
            some ⟨target.device.handle, op.address, op.options⟩⟩) } := by
    cases hleave
    apply Store.graph_eq
    · rfl
    · exact fun _ => rfl
    · intro u
      change (move s.child (.temp t) (.wrapper w) (.wrapper u)).map s.ref =
        Function.update (fun v => (s.child (.wrapper v)).map s.ref) w _ u
      by_cases hu : u = w
      · subst hu
        rw [Function.update_self, move_target (by simp), hmine, Option.map_some, href]
      · rw [Function.update_of_ne hu, move_of_ne (by simp) (by simpa using hu)]
  rw [hgraph]
  exact .create hkind hdst hreads hself hnew

section Wrappers

variable {X α : Type} [DecidableEq X] {p : Place T X → Option Addr} {f : Addr → α} {v src dst : Var}

omit [NativeApi] in
theorem update_wrapper (o : Option Addr) :
    (fun u => (Function.update p (.wrapper v) o (.wrapper u)).map f) =
      Function.update (fun u => (p (.wrapper u)).map f) v (o.map f) := by
  funext u
  by_cases hu : u = v
  · subst hu
    rw [Function.update_self, Function.update_self]
  · rw [Function.update_of_ne (by simpa using hu), Function.update_of_ne hu]

omit [NativeApi] in
theorem update_temp (o : Option Addr) :
    (fun u => (Function.update p (.temp t) o (.wrapper u)).map f) =
      fun u => (p (.wrapper u)).map f := by
  funext u
  rw [Function.update_of_ne (by simp)]

omit [NativeApi] in
theorem move_temp : (fun u => (move p (.wrapper v) (.temp t) (.wrapper u)).map f) =
    Function.update (fun u => (p (.wrapper u)).map f) v none := by
  rw [move, update_wrapper, update_temp, Option.map_none]

omit [NativeApi] in
theorem move_wrapper : (fun u => (move p (.wrapper src) (.wrapper dst) (.wrapper u)).map f) =
    move (fun u => (p (.wrapper u)).map f) src dst := by
  rw [move, update_wrapper, update_wrapper, Option.map_none, move]

omit [NativeApi] in
/-- Whatever the pointers are, a relocation moves those of wrapper objects as the graph says. -/
theorem relocate_wrapper {o : Own} (hop : op.relocation = some o) :
    (fun u => (relocate o t p (.wrapper u)).map f) =
      Graph.rewire op fun u => (p (.wrapper u)).map f := by
  cases op with
  | close | destroy =>
    cases hop
    exact move_temp
  | moveConstruct src dst =>
    cases hop
    exact move_wrapper
  | copyConstruct src dst =>
    cases hop
    exact update_wrapper _
  | moveAssign src dst =>
    cases hop
    rw [relocate, Graph.rewire]
    by_cases hsame : src = dst
    · simp only [if_pos hsame]
    · simp only [if_neg hsame]
      -- what `dst` pointed to is overwritten
      rw [move_wrapper, move_temp, move, move, Function.update_of_ne hsame, Function.update_idem]
  | copyAssign src dst =>
    cases hop
    rw [relocate, Graph.rewire, update_wrapper, update_temp]
  | _ => cases hop

end Wrappers

theorem relocate_graph (hs : StoreOk s) {x : PublicOp} {handle : HandlePtr}
    (h : Attached s t op ⟨x, .working, false⟩ handle) {o : Own} (hop : op.relocation = some o)
    {r : o.Reply} (hleave : s.ownEnds t op o r s') : s.graph.Step op s'.graph := by
  rcases relocation_ends (x := op.resolve s) hop hleave with ⟨rfl, -⟩
  have hmember : ∀ a, relocate o t s.dev (.member a) = s.dev (.member a) :=
    (relocates hop (h.typed rfl) h.stage.1 fun w hw => (hs.wrappers.empty hw).1).member
  have hgraph : Store.graph { s with
      dev := relocate o t s.dev
      child := relocate o t s.child
      wrappers := retype o s.wrappers } =
      ⟨Graph.reclass op s.graph.wrappers, Graph.rewire op s.graph.device,
        Graph.rewire op s.graph.child⟩ := by
    apply Store.graph_eq
    · cases op <;> cases hop <;> rfl
    · exact congrFun (relocate_wrapper hop)
    · have href : Store.ref { s with
          dev := relocate o t s.dev
          child := relocate o t s.child
          wrappers := retype o s.wrappers } = s.ref :=
        funext fun a => congrArg (fun d => ChildRef.mk a (Option.map s.deviceState d) _) (hmember a)
      rw [href]
      exact congrFun (relocate_wrapper hop)
  rw [hgraph]
  exact .relocate hop

/-! ## The constructor works alone -/

omit [DecidableEq T] [NativeApi] in
theorem PublicOp.dropping_ne_building {x : PublicOp} {d : DeviceState} :
    x.dropping ≠ .building d := by
  cases x with
  | destroy kind | moveAssign kind | copyAssign kind => cases kind <;> exact nofun
  | _ => exact nofun

/-- Nobody else points to the `DeviceState` that a thread has made and still works on. -/
theorem building_sole (hs : StoreOk s) {d : DeviceState} (hpermits : q.Permits op e)
    {r : e.Reply} (hleave : s.leaves t op e r s') (hstage : (q.next e r).stage = .building d)
    (hsole : q.stage = .building d → ¬ Shared s.dev (.temp t) d.addr) :
    ¬ Shared s'.dev (.temp t) d.addr := by
  have hlast : ∀ {α : Type} (f : α → Stage) (last : Option α), (∀ y, f y ≠ .building d) →
      (last.map f).getD .done ≠ .building d := by
    intro α f last hf h
    cases last with
    | none => cases h
    | some y => exact hf y h
  cases hpermits with
  | alloc =>
    cases hleave
    refine hsole ?_
    rcases q with ⟨call, stage, held⟩
    cases stage <;> exact hstage
  | lock =>
    rcases hleave with ⟨-, rfl⟩
    exact hsole hstage
  | unlock =>
    cases hleave
    exact hsole hstage
  | setUp =>
    rw [callEnds_dev hleave]
    exact hsole hstage
  | makeDeviceState =>
    rcases hleave with ⟨rfl, rfl⟩
    cases hstage
    rintro ⟨x, hx, hxa⟩
    have hold : s.dev x = some s.next := (Function.update_of_ne hx _ _).symm.trans hxa
    exact absurd (hs.devices.fresh _ ⟨x, hold⟩) (Nat.lt_irrefl _)
  | openScan =>
    simp only [Position.next, Stage.next] at hstage
    split at hstage <;> cases hstage
  | call =>
    simp only [Position.next, Stage.next] at hstage
    split at hstage <;> cases hstage
  | @relocate x o hop =>
    rcases relocation_ends (x := x) hop hleave with ⟨-, hdropping⟩
    exact absurd (hdropping.symm.trans hstage) PublicOp.dropping_ne_building
  | releaseNew | releaseMade | releaseChild | releaseDevice =>
    exact absurd hstage (hlast _ _ fun y h => by cases h)
  | _ => cases hstage

/-- Only the constructor itself points to the `DeviceState` that it works on. -/
def BuildsAlone (s : Store T) (g : T → Phase Eff Op Position) : Prop :=
  ∀ t op q d, (g t).local? = some (op, q) → q.stage = .building d → ¬ Shared s.dev (.temp t) d.addr

omit [NativeApi] in
/-- A step of the thread `t` that leaves the device pointers alone. -/
theorem BuildsAlone.update {g : T → Phase Eff Op Position} (h : BuildsAlone s g)
    (hdev : s'.dev = s.dev) {x : Phase Eff Op Position}
    (hx : ∀ op q d, x.local? = some (op, q) → q.stage = .building d →
      ¬ Shared s.dev (.temp t) d.addr) : BuildsAlone s' (Function.update g t x) := by
  intro u op q d hu hstage
  rw [hdev]
  by_cases hut : u = t
  · subst hut
    rw [Function.update_self] at hu
    exact hx op q d hu hstage
  · rw [Function.update_of_ne hut] at hu
    exact h u op q d hu hstage

theorem BuildsAlone.leave {g : T → Phase Eff Op Position} (hok : SystemOk s g)
    (hbuilds : BuildsAlone s g) (hbusy : g t = .busy op q e) (hpermits : q.Permits op e)
    {r : e.Reply} (hleave : s.leaves t op e r s') :
    BuildsAlone s' (Function.update g t (.ready op (q.next e r))) := by
  have hlocal : (g t).local? = some (op, q) := by rw [hbusy, Phase.local?_busy]
  rcases hok.attached hlocal with ⟨handle, hq⟩
  intro u op' q' d hu hstage
  by_cases hut : u = t
  · subst hut
    rw [Function.update_self, Phase.local?_ready] at hu
    cases hu
    exact building_sole hok.store hpermits hleave hstage (hbuilds u op q d hlocal)
  · rw [Function.update_of_ne hut] at hu
    rcases hok.attached hu with ⟨handle', hq'⟩
    have hbuilding := hq'.stage
    rw [hstage] at hbuilding
    intro hshared
    exact hbuilds u op' q' d hu hstage
      (leaves_shared hok.store hq hpermits hleave hut ⟨_, hbuilding.1⟩ hshared)

/-! ## Commits -/

/-- What the operation does to the graph when the thread leaves the effect. -/
def commitStep (γ : Graph) (l : Machine.Left Eff.Reply T Op) (γ' : Graph) : Prop :=
  if l.event.1.commits then γ.Step l.op γ' else γ' = γ

/-- **A commit takes the operation's step, and no other effect shows.** -/
theorem leaves_graph {g : T → Phase Eff Op Position} (hok : SystemOk s g)
    (hbuilds : BuildsAlone s g) (hbusy : g t = .busy op q e) (hpermits : q.Permits op e)
    {r : e.Reply} (hleave : s.leaves t op e r s') :
    if e.commits then s.graph.Step op s'.graph else s'.graph = s.graph := by
  have hlocal : (g t).local? = some (op, q) := by rw [hbusy, Phase.local?_busy]
  rcases hok.attached hlocal with ⟨handle, hq⟩
  have hphase := hok.phase t
  rw [hbusy] at hphase
  have hframe := (leaves_lands hok.store hphase hpermits hleave).2.frame
  cases hcommits : e.commits with
  | false =>
    rw [if_neg (by simp)]
    rcases leaves_wrappers hleave hcommits with ⟨hwrappers, hdev, hchild⟩
    exact hframe.graph hok.store hwrappers hdev hchild
  | true =>
    rw [if_pos rfl]
    cases hpermits with
    | commitDevice hop =>
      subst hop
      exact commitDevice_graph hok.store hq (hbuilds t _ _ _ hlocal rfl) hleave
    | commitChild hdst hkind => exact commitChild_graph hq hdst hkind hleave
    | relocate hop => exact relocate_graph hok.store hq hop hleave
    | _ => cases hcommits

/-- How the graph follows the machine: it is the graph of the store. -/
def graphAbstraction (T : Type) [DecidableEq T] :
    Abstraction (systemDiscipline T) commitStep Graph.empty where
  Rel s g γ := γ = s.graph ∧ BuildsAlone s g
  init := by
    refine ⟨rfl, ?_⟩
    intro t op q d hlocal
    cases hlocal
  start s g t op γ hok hidle h := by
    refine ⟨h.1, h.2.update rfl ?_⟩
    intro op' q d hlocal hstage
    cases hlocal
    cases hstage
  enter s g t op q e γ hok hready hpermits h := by
    have hphase := hok.phase t
    rw [hready] at hphase
    have hframe := (enters_lands hok.store hphase hpermits).frame
    have hdev : (Store.enters t op s e).dev = s.dev := enters_dev e
    rcases enters_wrappers t op s e with ⟨hwrappers, hchild⟩
    have hgraph := hframe.graph hok.store hwrappers (fun v => by rw [hdev]) fun v => by rw [hchild]
    refine ⟨h.1.trans hgraph.symm, h.2.update hdev ?_⟩
    intro op' q' d hlocal hstage
    cases hlocal
    exact h.2 t op q d (by rw [hready, Phase.local?_ready]) hstage
  leave s g t op q e r s' γ hok hbusy hpermits hleave h := by
    rcases h with ⟨rfl, hbuilds⟩
    exact ⟨s'.graph, leaves_graph hok hbuilds hbusy hpermits hleave, rfl,
      hbuilds.leave hok hbusy hpermits hleave⟩
  stop s g t op q γ hok hready h := by
    refine ⟨h.1, h.2.update rfl ?_⟩
    intro op' q d hlocal
    cases hlocal

end

section

variable {T : Type} [DecidableEq T] [NativeApi]

/-- **Operations on wrapper objects linearize.**  Whatever any number of threads have done,
    the wrapper objects, the devices they share and the children with what each was created
    with are those of a sequential run, from nothing, of the operations that have committed,
    in the order of their commits. -/
theorem wrappers_linearize {hist : List (Machine.Left Eff.Reply T Op)} {c : (system T).Config}
    (h : (system T).History Store.empty hist c) :
    Run (fun γ (l : Machine.Left Eff.Reply T Op) γ' => γ.Step l.op γ') Graph.empty
      (hist.filter fun l => l.event.1.commits) c.state.graph := by
  rcases (graphAbstraction T).runs h with ⟨g, γ, -, hrun, rfl, -⟩
  apply hrun.filter
  · intro γ l γ' hcommits hstep
    exact (if_pos hcommits).mp hstep
  · intro γ l γ' hcommits hstep
    exact (if_neg (by simp [hcommits])).mp hstep

end

section

attribute [local instance] NativeApi.reference

/-- The history of a construction. -/
theorem wrappers_linearize_constructed : ∃ hist c, (system Unit).History Store.empty hist c ∧
    Run (fun γ (l : Machine.Left Eff.Reply Unit Op) γ' => γ.Step l.op γ') Graph.empty
      (hist.filter fun l => l.event.1.commits) c.state.graph ∧
      c.state.graph.device 0 = some ⟨0, some 7⟩ := by
  rcases constructed () with ⟨s, hidle, -, -, hself, -⟩
  rcases Machine.Reachable.history hidle with ⟨hist, hhist⟩
  exact ⟨hist, _, hhist, wrappers_linearize hhist, hself⟩

end

end EasyMcp2221
