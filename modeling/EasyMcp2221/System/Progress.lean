import EasyMcp2221.System.Serialisation
import EasyMcp2221.Effect.Progress

/-!
# No operation hangs

A thread waits only for the mutex of a `DeviceState`, and the thread that holds it does not
wait.  So the threads can always go on, and what they have started comes to an end.
-/

namespace EasyMcp2221

open Effect

section

variable {T : Type} [DecidableEq T] [NativeApi] {t t' : T} {op : Op} {s : Store T} {a : Addr}
  {c : (system T).Config}

/-! ## What can be left -/

omit [DecidableEq T] in
/-- The reply with which a call may fail. -/
theorem exists_failure (c : NativeCall) : ∃ reply : c.Reply, reply.status ≠ err .ok := by
  obtain ⟨out⟩ := c.out_nonempty
  refine ⟨⟨1, out, by decide⟩, ?_⟩
  rw [NativeApi.err_ok]
  exact Int.one_ne_zero

/-- Every native call can end. -/
theorem exists_callEnds (s : Store T) (t : T) (c : NativeCall) :
    ∃ reply s', s.callEnds t c reply s' := by
  obtain ⟨reply, hfail⟩ := exists_failure c
  cases c with
  | openScan => exact ⟨reply, s, (if_neg hfail).mpr rfl⟩
  | i2cSlaveInit => exact ⟨reply, _, {}, fun hok => absurd hok hfail, rfl⟩
  | smbusInit => exact ⟨reply, _, none, fun hok => absurd hok hfail, .inl rfl, rfl⟩
  | _ => exact ⟨reply, _, rfl⟩

/-- Every pointer operation can end. -/
theorem exists_ownEnds (hs : StoreOk s) (t : T) (op : Op) (o : Own) :
    ∃ r s', s.ownEnds t op o r s' := by
  classical
  cases o with
  | makeDeviceState | makeChild => exact ⟨s.next, _, rfl, rfl⟩
  | releaseDevice =>
    by_cases hshared : ∀ a, s.dev (.temp t) = some a → Shared s.dev (.temp t) a
    · exact ⟨none, _, .inl ⟨rfl, hshared, rfl⟩⟩
    · simp only [not_forall] at hshared
      obtain ⟨a, ha, hlast⟩ := hshared
      exact ⟨_, _, .inr ⟨a, ha, hlast, rfl, rfl⟩⟩
  | releaseChild =>
    by_cases hshared : ∀ a, s.child (.temp t) = some a → Shared s.child (.temp t) a
    · exact ⟨none, _, .inl ⟨rfl, hshared, rfl⟩⟩
    · simp only [not_forall] at hshared
      obtain ⟨a, ha, hlast⟩ := hshared
      obtain ⟨child, hchild, -⟩ := (hs.children.owned a).mp ⟨_, ha⟩
      exact ⟨_, _, .inr ⟨a, child, ha, hlast, hchild, rfl, rfl⟩⟩
  | _ => exact ⟨(), _, rfl⟩

/-- Every effect can be left, if it is not a lock of a mutex that somebody holds. -/
theorem exists_leaves (hs : StoreOk s) (t : T) (op : Op) (e : Eff)
    (hfree : ∀ a, e = .lock a → s.mutex a = none) : ∃ r s', s.leaves t op e r s' := by
  cases e with
  | alloc => exact ⟨true, _, rfl⟩
  | lock a => exact ⟨(), _, hfree a rfl, rfl⟩
  | unlock | proc => exact ⟨(), _, rfl⟩
  | call c => exact exists_callEnds s t c
  | own o => exact exists_ownEnds hs t op o

/-! ## Who waits for whom -/

/-- A thread waits exactly while it is inside a lock of a mutex that somebody holds. -/
theorem waits_iff (hc : (system T).Reachable Store.empty c) :
    c.Waits t ↔ ∃ op a k, c.threads t = .busy op (.lock a) k ∧ c.state.mutex a ≠ none := by
  obtain ⟨g, hok, -⟩ := system_reachable hc
  rw [Machine.Config.waits_iff]
  constructor
  · rintro ⟨op, e, k, hth, hstuck⟩
    have hheld : ¬ ∀ a, e = .lock a → c.state.mutex a = none := by
      intro hfree
      obtain ⟨r, s', hleave⟩ := exists_leaves hok.store t op e hfree
      exact hstuck r s' hleave
    simp only [not_forall] at hheld
    obtain ⟨a, rfl, ha⟩ := hheld
    exact ⟨op, a, k, hth, ha⟩
  · rintro ⟨op, a, k, hth, hheld⟩
    exact ⟨op, _, k, hth, fun _ _ hleave => hheld hleave.1⟩

/-- The thread that holds a mutex is at work and does not wait. -/
theorem holder_goes_on (hc : (system T).Reachable Store.empty c)
    (hheld : c.state.mutex a = some t) : c.threads t ≠ .idle ∧ ¬ c.Waits t := by
  obtain ⟨g, hok, htracks⟩ := system_reachable hc
  constructor
  · intro hidle
    cases ((rests_quiet hok htracks (.inl hidle)).own.mutex a).mp hheld
  · intro hwaits
    obtain ⟨op, b, k, hth, -⟩ := (waits_iff hc).mp hwaits
    obtain ⟨q, handle, -, hq, hpermits⟩ := performs_attached hok htracks ⟨k, .inr hth⟩
    cases hpermits with
    | lock hdevice hfree =>
      have hmine := (hq.own.mutex a).mp hheld
      rw [Position.mutex, hfree] at hmine
      cases hmine

/-- While a thread is at work, some thread at work can go on. -/
theorem exists_continues (hc : (system T).Reachable Store.empty c)
    (hwork : ∃ t, c.threads t ≠ .idle) : ∃ c', (system T).Continues c c' := by
  have hgo : ∀ t, c.threads t ≠ .idle → ¬ c.Waits t → ∃ c', (system T).Continues c c' := by
    intro t hwork hwaits
    simp only [Machine.Config.Waits, not_and, not_forall] at hwaits
    obtain ⟨c', hstep, hmine⟩ := hwaits hwork
    exact ⟨c', hstep.continues hwork hmine⟩
  obtain ⟨t, hwork⟩ := hwork
  by_cases hwaits : c.Waits t
  · obtain ⟨op, a, k, -, hheld⟩ := (waits_iff hc).mp hwaits
    obtain ⟨t', ht'⟩ := Option.ne_none_iff_exists'.mp hheld
    obtain ⟨hwork', hfree⟩ := holder_goes_on hc ht'
    exact hgo t' hwork' hfree
  · exact hgo t hwork hwaits

/-! ## No deadlock, and no run without end -/

/-- **No deadlock.**  In every reachable configuration of any number of threads:

    * a thread at work cannot go on only while it locks a mutex that somebody holds;
    * whoever holds a mutex is at work and does not wait itself, so nobody waits for a
      thread that waits;
    * while any thread is at work, some thread at work can take a step. -/
theorem operations_never_deadlock (hc : (system T).Reachable Store.empty c) :
    (∀ t, c.Waits t ↔
      ∃ op a k, c.threads t = .busy op (.lock a) k ∧ c.state.mutex a ≠ none) ∧
    (∀ t a, c.state.mutex a = some t → c.threads t ≠ .idle ∧ ¬ c.Waits t) ∧
    ((∃ t, c.threads t ≠ .idle) → ∃ c', (system T).Continues c c') :=
  ⟨fun _ => waits_iff hc, fun _ _ => holder_goes_on hc, exists_continues hc⟩

/-- **Every operation ends.**  However the steps of the threads are ordered and whatever
    the native calls answer:

    * a run without end starts new operations again and again, so that operations that
      have been started cannot keep the threads at work for ever;
    * every reachable configuration has a continuation that starts nothing and leaves
      every thread idle. -/
theorem operations_end (hc : (system T).Reachable Store.empty c) :
    (∀ f : Nat → (system T).Config, f 0 = c → (∀ n, (system T).Step (f n) (f (n + 1))) →
      ∀ n, ∃ m t, n ≤ m ∧ (f m).threads t = .idle ∧ (f (m + 1)).threads t ≠ .idle) ∧
    ∃ c', Relation.ReflTransGen (system T).Continues c c' ∧ ∀ t, c'.threads t = .idle :=
  ⟨fun f hf hsteps => Machine.Reachable.starts f (hf ▸ hc) hsteps,
    hc.completes fun _ => exists_continues⟩

end

section

attribute [local instance] NativeApi.reference

/-- The thread that holds the mutex can go on, and both operations can end. -/
theorem operations_never_deadlock_contended : ∃ c : (system Bool).Config,
    (system Bool).Reachable Store.empty c ∧ c.Waits true ∧ ¬ c.Waits false ∧
      ∃ c', (system Bool).Continues c c' := by
  obtain ⟨c, hc, hheld, -, k, hth⟩ := contended
  obtain ⟨hwaits, hholder, hgo⟩ := operations_never_deadlock hc
  have hwaiting : c.Waits true :=
    (hwaits true).mpr ⟨_, 0, k, hth, by rw [hheld]; exact Option.some_ne_none _⟩
  exact ⟨c, hc, hwaiting, (hholder false 0 hheld).2, hgo ⟨true, hwaiting.1⟩⟩

theorem operations_end_contended : ∃ c : (system Bool).Config,
    (system Bool).Reachable Store.empty c ∧ c.Waits true ∧
      ∃ c', Relation.ReflTransGen (system Bool).Continues c c' ∧ ∀ t, c'.threads t = .idle := by
  obtain ⟨c, hc, hheld, -, k, hth⟩ := contended
  exact ⟨c, hc, (waits_iff hc).mpr ⟨_, 0, k, hth, by rw [hheld]; exact Option.some_ne_none _⟩,
    (operations_end hc).2⟩

end

end EasyMcp2221
