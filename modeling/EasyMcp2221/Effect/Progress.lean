import EasyMcp2221.Effect.Interleaving
import Mathlib.Logic.Hydra

/-!
# Runs that end

A thread at work comes closer to the end of its program with every step of its own, and
only finitely many threads are at work.  So a run that starts no operation ends, whatever
the scheduler and the environment choose: what the threads have left to do is a multiset,
and a step replaces one of its members by a smaller one.

That a run can only end with every thread idle is the other half.  It depends on what the
effects wait for, so it is a hypothesis of `Reachable.completes`.
-/

namespace Effect

namespace Thread

variable {E : Type} {R : E → Type} {ε Op : Type}

/-- What a step of its own leaves of a thread at work. -/
inductive Below : Thread E R ε Op → Thread E R ε Op → Prop where
  | enter (op : Op) (e : E) (k : R e → Prog E R ε Unit) :
      Below (.busy op e k) (.ready op (.vis e k))
  | leave (op : Op) {e : E} (k : R e → Prog E R ε Unit) (r : R e) :
      Below (.ready op (k r)) (.busy op e k)
  | stop (op : Op) (p : Prog E R ε Unit) : Below .idle (.ready op p)

theorem below_acc_idle : Acc Below (.idle : Thread E R ε Op) :=
  .intro _ fun _ h => by cases h

theorem below_acc_ready (op : Op) (p : Prog E R ε Unit) : Acc Below (.ready op p) := by
  induction p with
  | ret | throw =>
    refine .intro _ fun th h => ?_
    cases h
    exact below_acc_idle
  | vis e k ih =>
    refine .intro _ fun th h => ?_
    cases h with
    | enter =>
      refine .intro _ fun th h => ?_
      cases h with
      | leave _ _ r => exact ih r
    | stop => exact below_acc_idle

/-- No thread goes on for ever. -/
theorem below_wf : WellFounded (Below : Thread E R ε Op → Thread E R ε Op → Prop) := by
  refine ⟨fun th => ?_⟩
  cases th with
  | idle => exact below_acc_idle
  | ready op p => exact below_acc_ready op p
  | busy op e k =>
    refine .intro _ fun th h => ?_
    cases h with
    | leave _ _ r => exact below_acc_ready op (k r)

end Thread

namespace Machine

variable {E : Type} {R : E → Type} {ε T Op S : Type} [DecidableEq T]
  {M : Machine E R ε T Op S} {s₀ : S} {c c' : M.Config} {F : Finset T}

/-! ## Steps that start nothing -/

/-- A step that starts no operation. -/
def Continues (M : Machine E R ε T Op S) (c c' : M.Config) : Prop :=
  M.Step c c' ∧ ∀ t, c.threads t = .idle → c'.threads t = .idle

/-- The thread is at work and no step is its own. -/
def Config.Waits (c : M.Config) (t : T) : Prop :=
  c.threads t ≠ .idle ∧ ∀ c', M.Step c c' → c'.threads t = c.threads t

/-- A step changes one thread, which was idle or comes closer to its end. -/
theorem Step.threads (h : M.Step c c') : ∃ t th, c'.threads = Function.update c.threads t th ∧
    (c.threads t = .idle ∧ th ≠ .idle ∨ th.Below (c.threads t)) := by
  cases h with
  | start t op hidle => exact ⟨t, _, rfl, .inl ⟨hidle, fun h => (by cases h)⟩⟩
  | enter t op e k hready => exact ⟨t, _, rfl, .inr (hready ▸ .enter op e k)⟩
  | leave t op e k r s' hbusy => exact ⟨t, _, rfl, .inr (hbusy ▸ .leave op k r)⟩
  | stop t op out hready => exact ⟨t, _, rfl, .inr (hready ▸ .stop op _)⟩

/-- A step of a thread at work starts nothing. -/
theorem Step.continues (h : M.Step c c') {t : T} (hwork : c.threads t ≠ .idle)
    (hmine : c'.threads t ≠ c.threads t) : M.Continues c c' := by
  obtain ⟨t₀, th, hthreads, -⟩ := h.threads
  rw [hthreads] at hmine
  have ht₀ : t₀ = t := by
    by_contra hother
    exact hmine (Function.update_of_ne (Ne.symm hother) ..)
  subst ht₀
  refine ⟨h, fun u hu => ?_⟩
  have hne : u ≠ t₀ := by
    rintro rfl
    exact hwork hu
  rw [hthreads, Function.update_of_ne hne]
  exact hu

/-- A thread waits exactly while it is inside an effect that it cannot leave. -/
theorem Config.waits_iff {t : T} : c.Waits t ↔
    ∃ op e k, c.threads t = .busy op e k ∧ ∀ r s', ¬ M.leave t op c.state e r s' := by
  constructor
  · rintro ⟨hwork, hstuck⟩
    have hmoves : ∀ {s : S} {th : Thread E R ε Op},
        M.Step c ⟨s, Function.update c.threads t th⟩ → th = c.threads t :=
      fun hstep => (Function.update_self t _ c.threads).symm.trans (hstuck _ hstep)
    cases hth : c.threads t with
    | idle => exact absurd hth hwork
    | ready op p =>
      cases p with
      | ret a => cases (hmoves (.stop c t op (.ok a) hth)).trans hth
      | throw x => cases (hmoves (.stop c t op (.error x) hth)).trans hth
      | vis e k => cases (hmoves (.enter c t op e k hth)).trans hth
    | busy op e k =>
      refine ⟨op, e, k, rfl, fun r s' hleave => ?_⟩
      cases (hmoves (.leave c t op e k r s' hth hleave)).trans hth
  · rintro ⟨op, e, k, hth, hstuck⟩
    refine ⟨by rw [hth]; exact fun h => (by cases h), fun c' hstep => ?_⟩
    have hother : ∀ u (th : Thread E R ε Op), u ≠ t →
        Function.update c.threads u th t = c.threads t :=
      fun u th hu => Function.update_of_ne (Ne.symm hu) ..
    cases hstep with
    | start u _ hidle | enter u _ _ _ hidle | stop u _ _ hidle =>
      refine hother u _ ?_
      rintro rfl
      rw [hth] at hidle
      cases hidle
    | leave u op' e' k' r s' hbusy hleave =>
      refine hother u _ ?_
      rintro rfl
      rw [hth] at hbusy
      cases hbusy
      exact hstuck r s' hleave

/-- One thread at work comes closer to its end, and the others stay where they are. -/
theorem Continues.below (h : M.Continues c c') : ∃ t th, c.threads t ≠ .idle ∧
    c'.threads = Function.update c.threads t th ∧ th.Below (c.threads t) := by
  obtain ⟨t, th, hthreads, ⟨hidle, hth⟩ | hbelow⟩ := h.1.threads
  · have hstarted := h.2 t hidle
    rw [hthreads, Function.update_self] at hstarted
    exact absurd hstarted hth
  · refine ⟨t, th, fun hidle => ?_, hthreads, hbelow⟩
    rw [hidle] at hbelow
    cases hbelow

/-! ## The threads at work -/

/-- Only threads in `F` are at work. -/
def Config.Within (c : M.Config) (F : Finset T) : Prop := ∀ t, t ∉ F → c.threads t = .idle

theorem Step.within (h : M.Step c c') (hF : c.Within F) : ∃ F', c'.Within F' := by
  obtain ⟨t, th, hthreads, -⟩ := h.threads
  refine ⟨insert t F, fun u hu => ?_⟩
  rw [Finset.mem_insert, not_or] at hu
  rw [hthreads, Function.update_of_ne hu.1]
  exact hF u hu.2

theorem Continues.within (h : M.Continues c c') (hF : c.Within F) : c'.Within F :=
  fun t ht => h.2 t (hF t ht)

/-- In a reachable configuration only finitely many threads are at work. -/
theorem Reachable.within (h : M.Reachable s₀ c) : ∃ F, c.Within F := by
  induction h with
  | init => exact ⟨∅, fun _ _ => rfl⟩
  | step _ hstep ih =>
    obtain ⟨F, hF⟩ := ih
    exact hstep.within hF

/-! ## Termination -/

/-- What the threads in `F` have left to do. -/
def Config.load (c : M.Config) (F : Finset T) : Multiset (Thread E R ε Op) :=
  F.val.map c.threads

theorem Continues.load (h : M.Continues c c') (hF : c.Within F) :
    Relation.CutExpand Thread.Below (c'.load F) (c.load F) := by
  obtain ⟨t, th, hwork, hthreads, hbelow⟩ := h.below
  have ht : t ∈ F := by
    by_contra ht
    exact hwork (hF t ht)
  have hothers : (F.erase t).val.map c'.threads = (F.erase t).val.map c.threads :=
    Multiset.map_congr rfl fun u hu => by
      rw [hthreads, Function.update_of_ne (Finset.ne_of_mem_erase (Finset.mem_val.mp hu))]
  have hsplit : ∀ d : M.Config, d.load F = (F.erase t).val.map d.threads + {d.threads t} := by
    intro d
    rw [Config.load, add_comm, Multiset.singleton_add, ← Multiset.map_cons, Finset.erase_val,
      Multiset.cons_erase (Finset.mem_val.mpr ht)]
  rw [hsplit, hsplit, hothers, hthreads, Function.update_self]
  exact Relation.cutExpand_add_single _ hbelow

theorem continues_acc (hF : c.Within F) : Acc (fun c' c => M.Continues c c') c := by
  have hload : ∀ x : Multiset (Thread E R ε Op), Acc (Relation.CutExpand Thread.Below) x →
      ∀ c : M.Config, c.Within F → c.load F = x → Acc (fun c' c => M.Continues c c') c := by
    intro x hx
    induction hx with
    | intro x _ ih =>
      rintro c hF rfl
      exact .intro _ fun c' h => ih _ (h.load hF) c' (h.within hF) rfl
  exact hload _ (Thread.below_wf.cutExpand.apply _) c hF rfl

/-- **A run that starts no operation ends**: every run without end starts operations again
    and again. -/
theorem Reachable.starts (f : Nat → M.Config) (h : M.Reachable s₀ (f 0))
    (hsteps : ∀ n, M.Step (f n) (f (n + 1))) (n : Nat) :
    ∃ m t, n ≤ m ∧ (f m).threads t = .idle ∧ (f (m + 1)).threads t ≠ .idle := by
  by_contra hnone
  have hreach : M.Reachable s₀ (f n) := by
    clear hnone
    induction n with
    | zero => exact h
    | succ n ih => exact .step ih (hsteps n)
  have hcontinues : ∀ m, n ≤ m → M.Continues (f m) (f (m + 1)) := by
    refine fun m hm => ⟨hsteps m, fun t ht => ?_⟩
    by_contra ht'
    exact hnone ⟨m, t, hm, ht, ht'⟩
  obtain ⟨F, hF⟩ := hreach.within
  have hend : ∀ c : M.Config, Acc (fun c' c => M.Continues c c') c →
      ∀ m, n ≤ m → f m = c → False := by
    intro c hc
    induction hc with
    | intro c _ ih =>
      rintro m hm rfl
      exact ih _ (hcontinues m hm) (m + 1) (Nat.le_succ_of_le hm) rfl
  exact hend _ (continues_acc hF) n (Nat.le_refl n) rfl

/-- **Every operation can end.**  If the threads at work can always do something, a
    reachable configuration has a continuation that starts nothing and leaves every thread
    idle. -/
theorem Reachable.completes
    (hlive : ∀ c, M.Reachable s₀ c → (∃ t, c.threads t ≠ .idle) → ∃ c', M.Continues c c')
    (h : M.Reachable s₀ c) :
    ∃ c', Relation.ReflTransGen M.Continues c c' ∧ ∀ t, c'.threads t = .idle := by
  obtain ⟨F, hF⟩ := h.within
  induction continues_acc hF with
  | intro c _ ih =>
    by_cases hidle : ∀ t, c.threads t = .idle
    · exact ⟨c, .refl, hidle⟩
    · obtain ⟨c₁, hcontinues⟩ := hlive c h (not_forall.mp hidle)
      obtain ⟨c', hsteps, hidle'⟩ :=
        ih c₁ hcontinues (h.step hcontinues.1) (hcontinues.within hF)
      exact ⟨c', .head hcontinues hsteps, hidle'⟩

end Machine

end Effect
