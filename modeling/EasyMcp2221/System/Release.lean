import EasyMcp2221.System.Runs

/-!
# State objects are released

A state object lives exactly while a wrapper object keeps it alive or a thread is in the
middle of an operation on it, so when the threads rest nothing has leaked.
-/

namespace EasyMcp2221

open Effect

section

variable {T : Type} [NativeApi] {t : T} {s s' : Store T} {a b : Addr} {h : Handle}

/-! ## Who keeps a state object alive -/

/-- The wrapper object keeps the `DeviceState` alive: it is a `Device` that points to it, or
    its child state does. -/
def Store.Keeps (s : Store T) (v : Var) (a : Addr) : Prop :=
  s.dev (.wrapper v) = some a ∨ ∃ b, s.child (.wrapper v) = some b ∧ s.dev (.member b) = some a

/-- A child lives because a wrapper object points to it, or because of a thread that works
    on it. -/
theorem StoreOk.child_holder (hs : StoreOk s) {c : Child T} (hc : s.children b = some c) :
    (∃ v, s.child (.wrapper v) = some b) ∨
      ∃ t, s.child (.temp t) = some b ∨ c.deleter = some t := by
  cases hdeleter : c.deleter with
  | some t => exact .inr ⟨t, .inr rfl⟩
  | none =>
    obtain ⟨v | t | x, hchild⟩ := (hs.children.owned b).mpr ⟨c, hc, hdeleter⟩
    · exact .inl ⟨v, hchild⟩
    · exact .inr ⟨t, .inl hchild⟩
    · exact x.elim

/-- A `DeviceState` lives because a wrapper object keeps it alive, or because of a thread
    that works on it or on a child of it. -/
theorem StoreOk.device_holder (hs : StoreOk s) (ha : s.handles (.state a) = some h) :
    (∃ v, s.Keeps v a) ∨ ∃ t, s.dev (.temp t) = some a ∨
      ∃ b c, s.children b = some c ∧ (s.child (.temp t) = some b ∨ c.deleter = some t) := by
  obtain ⟨v | t | b, hdev⟩ := (hs.devices.owned a).mpr ⟨h, ha⟩
  · exact .inl ⟨v, .inl hdev⟩
  · exact .inr ⟨t, .inl hdev⟩
  · cases hc : s.children b with
    | none =>
      rw [hs.children.orphan b hc] at hdev
      cases hdev
    | some c =>
      obtain ⟨v, hv⟩ | ⟨t, ht⟩ := hs.child_holder hc
      · exact .inl ⟨v, .inr ⟨b, hv, hdev⟩⟩
      · exact .inr ⟨t, .inr ⟨b, c, hc, ht⟩⟩

/-- What a wrapper object keeps alive lives. -/
theorem StoreOk.keeps_live (hs : StoreOk s) {v : Var} (hv : s.Keeps v a) :
    ∃ h, s.handles (.state a) = some h := by
  obtain hdev | ⟨b, -, hdev⟩ := hv
  · exact (hs.devices.owned a).mp ⟨_, hdev⟩
  · exact (hs.devices.owned a).mp ⟨_, hdev⟩

/-! ## When the threads rest -/

/-- Nothing lives but what the wrapper objects keep alive, and no mutex is locked. -/
structure Store.Settled (s : Store T) : Prop where
  mutex : ∀ a, s.mutex a = none
  child : ∀ b, s.children b ≠ none ↔ ∃ v, s.child (.wrapper v) = some b
  device : ∀ a, s.handles (.state a) ≠ none ↔ ∃ v, s.Keeps v a
  handle : ∀ h, IsOpen s.log h ↔ ∃ v a, s.Keeps v a ∧ s.handles (.state a) = some h

/-- Where no thread owns anything, nothing has leaked. -/
theorem StoreOk.settled (hs : StoreOk s) (hquiet : ∀ t, Quiet s t) : s.Settled := by
  have hchild : ∀ b c, s.children b = some c → ∃ v, s.child (.wrapper v) = some b := by
    intro b c hc
    obtain hv | ⟨t, htemp | hdeleter⟩ := hs.child_holder hc
    · exact hv
    · rw [(hquiet t).child] at htemp
      cases htemp
    · cases ((hquiet t).own.dying b c hc).mp hdeleter
  have hdevice : ∀ a h, s.handles (.state a) = some h → ∃ v, s.Keeps v a := by
    intro a h ha
    obtain hv | ⟨t, htemp | ⟨b, c, hc, htemp | hdeleter⟩⟩ := hs.device_holder ha
    · exact hv
    · rw [(hquiet t).dev] at htemp
      cases htemp
    · rw [(hquiet t).child] at htemp
      cases htemp
    · cases ((hquiet t).own.dying b c hc).mp hdeleter
  refine ⟨fun a => Option.eq_none_iff_forall_ne_some.mpr fun t ht => ?_,
    fun b => ⟨fun hb => ?_, ?_⟩, fun a => ⟨fun ha => ?_, ?_⟩, fun h => ⟨fun hopen => ?_, ?_⟩⟩
  · cases ((hquiet t).own.mutex a).mp ht
  · obtain ⟨c, hc⟩ := Option.ne_none_iff_exists'.mp hb
    exact hchild b c hc
  · rintro ⟨v, hv⟩
    obtain ⟨c, hc, -⟩ := hs.wrappers.child v b hv
    simp [hc]
  · obtain ⟨h, hh⟩ := Option.ne_none_iff_exists'.mp ha
    exact hdevice a h hh
  · rintro ⟨v, hv⟩
    exact Option.ne_none_iff_exists'.mpr (hs.keeps_live hv)
  · obtain ⟨a | t, hholder⟩ := (hs.log.isOpen h).mp hopen
    · obtain ⟨v, hv⟩ := hdevice a h hholder
      exact ⟨v, a, hv, hholder⟩
    · rw [(hquiet t).own.handle] at hholder
      cases hholder
  · rintro ⟨v, a, -, ha⟩
    exact (hs.log.isOpen h).mpr ⟨_, ha⟩

/-- Without wrapper objects nothing is kept alive. -/
theorem StoreOk.not_keeps (hs : StoreOk s) {v : Var} (hnone : s.wrappers v = none) :
    ¬ s.Keeps v a ∧ s.child (.wrapper v) ≠ some b := by
  have hchild : ∀ b, s.child (.wrapper v) ≠ some b := by
    intro b hb
    obtain ⟨c, -, hkind, -⟩ := hs.wrappers.child v b hb
    rw [hnone] at hkind
    cases hkind
  refine ⟨?_, hchild b⟩
  rintro (hdev | ⟨b', hb', -⟩)
  · rw [hs.wrappers.device v a hdev] at hnone
    cases hnone
  · exact hchild b' hb'

/-- A store without wrapper objects and without threads at work holds nothing, and every
    handle that was opened has been closed. -/
structure Store.Released (s : Store T) : Prop where
  child : ∀ b, s.children b = none
  device : ∀ a, s.handles (.state a) = none
  closed : ∀ h, Opened s.log h → s.log.countP (Entry.closes h) = 1

theorem StoreOk.released (hs : StoreOk s) (hsettled : s.Settled)
    (hnone : ∀ v, s.wrappers v = none) : s.Released where
  child b := by
    by_contra hb
    obtain ⟨v, hv⟩ := (hsettled.child b).mp hb
    exact (hs.not_keeps (a := b) (hnone v)).2 hv
  device a := by
    by_contra ha
    obtain ⟨v, hv⟩ := (hsettled.device a).mp ha
    exact (hs.not_keeps (b := a) (hnone v)).1 hv
  closed h hopened := by
    have hclosed : Closed s.log h := by
      by_contra hopen
      obtain ⟨v, a, hv, -⟩ := (hsettled.handle h).mp ⟨hopened, hopen⟩
      exact (hs.not_keeps (b := a) (hnone v)).1 hv
    obtain ⟨e, he, hcloses⟩ := closed_iff.mp hclosed
    exact Nat.le_antisymm (hs.log.legal.closes_le_one h) (List.countP_pos_iff.mpr ⟨e, he, hcloses⟩)

end

section

variable {T : Type} [DecidableEq T] [NativeApi] {t : T} {c c' : (system T).Config}

/-- **Nothing leaks.**  In every reachable configuration in which every thread has returned
    or thrown:

    * no mutex is locked;
    * a child state lives exactly while a wrapper object points to it, and a `DeviceState`
      exactly while a `Device` or a living child of it does;
    * a handle is open exactly while a wrapper object keeps its `DeviceState` alive;
    * once the last wrapper object is gone, no state object is left and every handle that
      was ever opened has been closed exactly once. -/
theorem nothing_leaks (hc : (system T).Reachable Store.empty c) (hrests : ∀ t, c.Rests t) :
    c.state.Settled ∧ ((∀ v, c.state.wrappers v = none) → c.state.Released) := by
  obtain ⟨g, hok, htracks⟩ := system_reachable hc
  have hsettled := hok.store.settled fun t => rests_quiet hok htracks (hrests t)
  exact ⟨hsettled, hok.store.released hsettled⟩

end

section

attribute [local instance] NativeApi.reference

/-- The constructor opens the handle 7 and fails to allocate its `DeviceState`; nothing is
    left of it. -/
theorem nothing_leaks_allocationFails : ∃ c : (system Unit).Config,
    (system Unit).Reachable Store.empty c ∧ (∀ t, c.Rests t) ∧ Opened c.state.log 7 ∧
      c.state.Settled ∧ c.state.Released := by
  have hidle : (system Unit).ReachableIdle Store.empty Store.empty := .init
  have hstart := hidle.start () (.construct 0 {}) ⟨rfl, fun _ _ _ hop => by cases hop⟩
  have hopened := hstart.perform ⟨0, some 7, by decide⟩ (Store.openScan_ends rfl rfl nofun)
  have hfailed := hopened.perform false rfl
  have hclosed := hfailed.perform () rfl
  have hthrown := hclosed.stop (.error Exn.badAlloc)
  obtain ⟨hsettled, hreleased⟩ := nothing_leaks hthrown fun _ => .inl rfl
  exact ⟨_, hthrown, fun _ => .inl rfl, ⟨(), .tail _ (.head _)⟩, hsettled, hreleased fun _ => rfl⟩

end

end EasyMcp2221
