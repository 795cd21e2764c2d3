import EasyMcp2221.System.Runs

/-!
# The handle ledger

Which handles are open, and who keeps them open, in every reachable configuration.
-/

namespace EasyMcp2221

open Effect

section

variable {T : Type} [NativeApi] {t : T} {op : Op} {s : Store T} {h : Handle}

/-- The wrapper object shares the `DeviceState` that will close the handle: it is a
    `Device`, or a child whose state keeps the `DeviceState` alive. -/
def Store.Shares (s : Store T) (v : Var) (h : Handle) : Prop :=
  ∃ a, s.handles (.state a) = some h ∧
    (s.dev (.wrapper v) = some a ∨
      ∃ b, s.child (.wrapper v) = some b ∧ s.dev (.member b) = some a)

/-! ## Who keeps a handle open -/

/-- A handle that some wrapper object shares is open. -/
theorem StoreOk.isOpen_of_shares (hs : StoreOk s) {v : Var} (hshares : s.Shares v h) :
    IsOpen s.log h := by
  obtain ⟨a, ha, -⟩ := hshares
  exact (hs.log.isOpen h).mpr ⟨_, ha⟩

/-- The `Device` of a factory shares the handle of the device state that it works on. -/
theorem Attached.shares_of_factory {q : Position} {handle : HandlePtr} {target : Target}
    {a : Addr} (hq : Attached s t op q handle) (hkind : op.childKind ≠ none)
    (htarget : q.call.target = some target) (ha : target.device.addr = a)
    (hh : s.handles (.state a) = some h) : ∃ v, s.Shares v h := by
  obtain ⟨kind, hkind'⟩ := Option.ne_none_iff_exists'.mp hkind
  obtain ⟨v, -, hv, -⟩ :=
    Op.receiver hkind' (hq.resolve (.inl (op.sheds_of_factory hkind))) htarget
  exact ⟨v, a, hh, .inl (ha ▸ hv)⟩

/-- The device pointer of a thread: its operation drops references, or its object shares
    the handle. -/
theorem Attached.sheds_or_shares_of_dev {q : Position} {handle : HandlePtr} {a : Addr}
    (hq : Attached s t op q handle) (hdev : s.dev (.temp t) = some a)
    (hh : s.handles (.state a) = some h) : op.sheds = true ∨ ∃ v, s.Shares v h := by
  obtain ⟨call, stage, held⟩ := q
  cases stage with
  | building d =>
    obtain ⟨-, -, hsheds, -⟩ := hq.stage
    exact .inl hsheds
  | droppingDevice =>
    obtain ⟨-, hsheds | ⟨hkind, target, htarget, hdev'⟩⟩ := hq.stage
    · exact .inl hsheds
    · exact .inr (hq.shares_of_factory hkind htarget (Option.some.inj (hdev'.symm.trans hdev)) hh)
  | _ =>
    -- the other stages have no device pointer
    obtain ⟨hnone, -⟩ := hq.stage
    rw [hnone] at hdev
    cases hdev

/-- The child of a thread: its operation drops references, or its object shares the
    handle of the device of the child. -/
theorem Attached.sheds_or_shares_of_child {q : Position} {handle : HandlePtr} {a b : Addr}
    (hq : Attached s t op q handle)
    (hchild : s.child (.temp t) = some b ∨ q.stage.dying = some b)
    (hmember : s.dev (.member b) = some a) (hh : s.handles (.state a) = some h) :
    op.sheds = true ∨ ∃ v, s.Shares v h := by
  have hfactory : ∀ target : Target, op.childKind ≠ none → q.call.target = some target →
      s.dev (.member b) = some target.device.addr → op.sheds = true ∨ ∃ v, s.Shares v h := by
    intro target hkind htarget hmember'
    exact .inr (hq.shares_of_factory hkind htarget
      (Option.some.inj (hmember'.symm.trans hmember)) hh)
  have hnone : s.child (.temp t) = none → q.stage.dying = some b :=
    fun hnone => hchild.resolve_left (by simp [hnone])
  obtain ⟨call, stage, held⟩ := q
  cases stage with
  | making b' initialised =>
    obtain ⟨-, hmine, -, target, c, htarget, hmember', -, hkind, -⟩ := hq.stage
    obtain rfl : b' = b := Option.some.inj (hmine.symm.trans (hchild.resolve_right nofun))
    exact hfactory target (by simp [hkind]) htarget hmember'
  | ending b' kind closed =>
    obtain ⟨-, hgone, c, -, -, -, hsheds | ⟨hkind, target, htarget, hmember'⟩⟩ := hq.stage
    · exact .inl hsheds
    · obtain rfl : b' = b := Option.some.inj (hnone hgone)
      exact hfactory target (by simp [hkind]) htarget hmember'
  | droppingChild =>
    obtain ⟨-, ⟨hsheds, -⟩ | ⟨-, hgone⟩⟩ := hq.stage
    · exact .inl hsheds
    · cases hnone hgone
  | droppingDevice =>
    obtain ⟨hgone, -⟩ := hq.stage
    cases hnone hgone
  | working | done =>
    obtain ⟨-, hgone⟩ := hq.stage
    cases hnone hgone
  | scanned | building | closing | deleting =>
    obtain ⟨-, hgone, -⟩ := hq.stage
    cases hnone hgone

/-- A thread with a handle of its own executes an operation that drops references. -/
theorem Attached.sheds_of_handle {q : Position} (hq : Attached s t op q (some h))
    (hstage : q.stage.handle = some h) : op.sheds = true := by
  obtain ⟨call, stage, held⟩ := q
  cases stage with
  | scanned =>
    obtain ⟨-, -, hsheds⟩ := hq.stage
    exact hsheds
  | closing =>
    obtain ⟨-, -, hsheds, -⟩ := hq.stage
    exact hsheds
  | _ => cases hstage

variable [DecidableEq T]

omit [DecidableEq T] in
/-- An open handle has a wrapper object that shares it, unless some thread is in the
    middle of an operation that drops references. -/
theorem SystemOk.kept_open {g : T → Phase Eff Op Position} (hok : SystemOk s g)
    (hopen : IsOpen s.log h) :
    (∃ v, s.Shares v h) ∨ ∃ t op, (g t).op? = some op ∧ op.sheds = true := by
  have hstore := hok.store
  have hthread : ∀ t op q, (g t).local? = some (op, q) → op.sheds = true ∨ (∃ v, s.Shares v h) →
      (∃ v, s.Shares v h) ∨ ∃ t op, (g t).op? = some op ∧ op.sheds = true := by
    rintro t op q hlocal (hsheds | hshares)
    · exact .inr ⟨t, op, Phase.op?_of_local hlocal, hsheds⟩
    · exact .inl hshares
  obtain ⟨a | t, hholder⟩ := (hstore.log.isOpen h).mp hopen
  · obtain ⟨v | t | b, hdev⟩ := (hstore.devices.owned a).mpr ⟨h, hholder⟩
    · exact .inl ⟨v, a, hholder, .inl hdev⟩
    · rcases hok.thread t with ⟨-, hquiet⟩ | ⟨op, q, handle, hlocal, hq, -⟩
      · rw [hquiet.dev] at hdev
        cases hdev
      · exact hthread t op q hlocal (hq.sheds_or_shares_of_dev hdev hholder)
    · -- the handle is kept open by a child
      obtain ⟨c, hc⟩ : ∃ c, s.children b = some c :=
        Option.ne_none_iff_exists'.mp fun hnone => by
          rw [hstore.children.orphan b hnone] at hdev
          cases hdev
      cases hdeleter : c.deleter with
      | none =>
        obtain ⟨v | t | x, hchild⟩ := (hstore.children.owned b).mpr ⟨c, hc, hdeleter⟩
        · exact .inl ⟨v, a, hholder, .inr ⟨b, hchild, hdev⟩⟩
        · rcases hok.thread t with ⟨-, hquiet⟩ | ⟨op, q, handle, hlocal, hq, -⟩
          · rw [hquiet.child] at hchild
            cases hchild
          · exact hthread t op q hlocal (hq.sheds_or_shares_of_child (.inl hchild) hdev hholder)
        · exact x.elim
      | some t =>
        rcases hok.thread t with ⟨-, hquiet⟩ | ⟨op, q, handle, hlocal, hq, -⟩
        · cases (hquiet.own.dying b c hc).mp hdeleter
        · exact hthread t op q hlocal (hq.sheds_or_shares_of_child
            (.inr ((hq.own.dying b c hc).mp hdeleter)) hdev hholder)
  · rcases hok.thread t with ⟨-, hquiet⟩ | ⟨op, q, handle, hlocal, hq, hhandle⟩
    · rw [hquiet.own.handle] at hholder
      cases hholder
    · have hmine : handle = some h := hq.own.handle.symm.trans hholder
      subst hmine
      exact hthread t op q hlocal (.inl (hq.sheds_of_handle (hhandle.resolve_left nofun).symm))

/-! ## The ledger -/

/-- **The handle ledger.**  In every reachable configuration:

    * only new handles are opened, every call that works with a handle began while that
      handle was open, every close was of an open handle and by an operation that drops
      references, and every bus was closed before the handle that it borrows (`Legal`);
    * every handle is closed at most once;
    * a handle that some wrapper object shares is open;
    * an open handle that no wrapper object shares belongs to an operation under way
      that drops references;
    * so between operations a handle is closed exactly when no wrapper object shares it. -/
theorem handle_ledger {c : (system T).Config} (hc : (system T).Reachable Store.empty c) :
    Legal c.state.log ∧
    (∀ h, c.state.log.countP (Entry.closes h) ≤ 1) ∧
    (∀ h v, c.state.Shares v h → IsOpen c.state.log h) ∧
    (∀ h, IsOpen c.state.log h → (∀ v, ¬ c.state.Shares v h) →
      ∃ t op, c.running t = some op ∧ op.sheds = true) ∧
    ((∀ t, c.threads t = .idle) →
      ∀ h, Opened c.state.log h → (Closed c.state.log h ↔ ∀ v, ¬ c.state.Shares v h)) := by
  obtain ⟨g, hok, htracks⟩ := system_reachable hc
  have hstore := hok.store
  have hkept : ∀ h, IsOpen c.state.log h → (∀ v, ¬ c.state.Shares v h) →
      ∃ t op, c.running t = some op ∧ op.sheds = true := by
    intro h hopen hnone
    obtain ⟨v, hv⟩ | ⟨t, op, hop, hsheds⟩ := hok.kept_open hopen
    · exact absurd hv (hnone v)
    · exact ⟨t, op, (htracks t).op?.symm.trans hop, hsheds⟩
  refine ⟨hstore.log.legal, hstore.log.legal.closes_le_one,
    fun h v => hstore.isOpen_of_shares, hkept, fun hidle h hopened => ⟨?_, ?_⟩⟩
  · intro hclosed v hshares
    exact (hstore.isOpen_of_shares hshares).2 hclosed
  · intro hnone
    by_contra hclosed
    obtain ⟨t, op, hop, -⟩ := hkept h ⟨hopened, hclosed⟩ hnone
    rw [Machine.Config.running, hidle t] at hop
    cases hop

end

section

attribute [local instance] NativeApi.reference

/-- The constructor opens the handle 7 and fails to allocate its `DeviceState`. -/
theorem handle_ledger_allocationFails : ∃ c : (system Unit).Config,
    (system Unit).Reachable Store.empty c ∧ (∀ t, c.threads t = .idle) ∧
      Opened c.state.log 7 ∧ Closed c.state.log 7 ∧ ∀ v, ¬ c.state.Shares v 7 := by
  have hidle : (system Unit).ReachableIdle Store.empty Store.empty := .init
  have hstart := hidle.start () (.construct 0 {}) ⟨rfl, fun _ _ _ hop => by cases hop⟩
  have hopened := hstart.perform ⟨0, some 7, by decide⟩ (Store.openScan_ends rfl rfl nofun)
  have hfailed := hopened.perform false rfl
  have hclosed := hfailed.perform () rfl
  have hthrown := hclosed.stop (.error Exn.badAlloc)
  obtain ⟨-, -, -, -, hsettled⟩ := handle_ledger hthrown
  have hclosed' := (hsettled (fun _ => rfl) 7 ⟨(), .tail _ (.head _)⟩).mp
    ⟨(), .construct 0 {}, .tail _ (.tail _ (.head _))⟩
  exact ⟨_, hthrown, fun _ => rfl, ⟨(), .tail _ (.head _)⟩,
    ⟨(), .construct 0 {}, .tail _ (.tail _ (.head _))⟩, hclosed'⟩

end

end EasyMcp2221
