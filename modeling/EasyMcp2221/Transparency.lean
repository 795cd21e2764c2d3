import EasyMcp2221.Audit
import EasyMcp2221.Unwinding

/-!
# Error transparency

Every status that a native call returns either is a success or ends the operation
with exactly that status.  The statement is about the runs of every public operation:
`Transparent` says what a failed status does to the rest of a run, and what remains
possible when no status failed.
-/

namespace EasyMcp2221

open Effect

section

variable [NativeApi]

/-! ## What a run shows -/

/-- The run changes no wrapper object. -/
def WritesNoWrapper (tr : Trace) : Prop := ∀ ev ∈ tr, ev.1.wrappers = []

/-- The run makes no call that returns a status. -/
def MakesNoCall (tr : Trace) : Prop := ∀ c reply, (⟨.call c, reply⟩ : Prog.Event Eff.Reply) ∉ tr

/-- The C++ layer refuses the operation before its first native call: the object has
    no state, or the arguments are out of domain. -/
def PublicOp.Refuses {α : Type} (p : PublicOp) (tr : Trace) (out : Except Exn α) : Prop :=
  MakesNoCall tr ∧
    ((¬ p.HasState ∧ ∃ what, out = .error (.logicError what)) ∨
      (p.HasState ∧ ¬ p.InDomain ∧ ∃ message, out = .error (invalidError message)))

structure Transparent {α : Type} (p : PublicOp) (tr : Trace) (out : Except Exn α) : Prop where
  /-- A failed status is the outcome; after it there is only clean-up, and no object
      is changed by the operation. -/
  failure : ∀ before c reply after, tr = before ++ ⟨.call c, reply⟩ :: after →
    p.ignores c = false → ¬ c.Succeeded reply →
    (∃ message, out = .error (.error (toErrorCode reply.status) reply.status message)) ∧
      (∀ ev ∈ after, ev.1.isCleanup = true) ∧ WritesNoWrapper tr
  /-- When no status failed, an exception has another cause. -/
  success : (∀ c reply, ⟨.call c, reply⟩ ∈ tr → p.ignores c = true ∨ c.Succeeded reply) →
    (∃ a, out = .ok a) ∨ (OutOfMemory tr ∧ out = .error .badAlloc) ∨ p.Refuses tr out ∨
      ∃ c reply, ⟨.call c, reply⟩ ∈ tr ∧ c.Malformed reply

/-! ## Data operations -/

omit [NativeApi] in
theorem mem_nativeEvents {tr : Trace} {c : NativeCall} {reply : c.Reply} :
    ⟨.call c, reply⟩ ∈ nativeEvents tr ↔ (⟨.call c, reply⟩ : Prog.Event Eff.Reply) ∈ tr := by
  simp [nativeEvents, Eff.isNative]

omit [NativeApi] in
theorem makesNoCall_of_nativeEvents {tr : Trace} (h : nativeEvents tr = []) :
    MakesNoCall tr := by
  intro c reply hmem
  rw [← mem_nativeEvents, h] at hmem
  exact List.not_mem_nil hmem

/-- The one native event of a data operation, when the status is that of a failure. -/
theorem Request.result_of_failed {α : Type} {req : Request α} (hanswers : req.Answers)
    {c : NativeCall} {reply : c.Reply} {reply' : req.effect.Reply}
    (hevent : (⟨.call c, reply⟩ : Prog.Event Eff.Reply) = ⟨req.effect, reply'⟩)
    (hfailed : ¬ c.Succeeded reply) :
    ∃ operation, req.result reply' = .error (statusError reply.status operation) := by
  cases req with
  | proc f value => cases hevent
  | call c' operation decode =>
    cases hevent
    have hstatus : reply.status ≠ err .ok := by
      simpa [NativeCall.Succeeded, hanswers.1] using hfailed
    exact ⟨operation, if_neg hstatus⟩
  | count c' operation decode =>
    cases hevent
    have hstatus : ¬ 0 ≤ reply.status := by
      simpa [NativeCall.Succeeded, hanswers.1] using hfailed
    exact ⟨operation, if_neg hstatus⟩

/-- A successful answer that is not malformed becomes a value. -/
theorem Request.result_of_succeeded {α : Type} {req : Request α} (hanswers : req.Answers)
    {reply : req.effect.Reply}
    (hsucceeded : ∀ c r, (⟨req.effect, reply⟩ : Prog.Event Eff.Reply) = ⟨.call c, r⟩ →
      c.Succeeded r ∧ ¬ c.Malformed r) : ∃ a, req.result reply = .ok a := by
  cases req with
  | proc f value => exact ⟨value, rfl⟩
  | call c operation decode =>
    obtain ⟨hstatus, hwell⟩ := hsucceeded c reply rfl
    have hok : reply.status = err .ok := by
      simpa [NativeCall.Succeeded, hanswers.1] using hstatus
    cases hanswers.2 reply with
    | reject h => exact absurd hwell h
    | accept _ a hx => exact ⟨a, (if_pos hok).trans hx⟩
  | count c operation decode =>
    obtain ⟨hstatus, hwell⟩ := hsucceeded c reply rfl
    have hcount : 0 ≤ reply.status := by
      simpa [NativeCall.Succeeded, hanswers.1] using hstatus
    cases hanswers.2 reply hcount with
    | reject h => exact absurd hwell h
    | accept _ a hx => exact ⟨a, (if_pos hcount).trans hx⟩

omit [NativeApi] in
theorem DataCall.noState_eq (x : DataCall) : ∃ what, x.noState = .logicError what := by
  cases x <;> exact ⟨_, rfl⟩

omit [NativeApi] in
/-- Around the only native event of a run there is no other. -/
theorem nativeEvents_split {before after : Trace} {c : NativeCall} {reply : c.Reply}
    {ev : Prog.Event Eff.Reply}
    (h : nativeEvents (before ++ ⟨.call c, reply⟩ :: after) = [ev]) :
    ⟨.call c, reply⟩ = ev ∧ nativeEvents after = [] := by
  have hcons : nativeEvents (before ++ ⟨.call c, reply⟩ :: after) =
      nativeEvents before ++ ⟨.call c, reply⟩ :: nativeEvents after := by
    simp [nativeEvents, Eff.isNative]
  rw [hcons] at h
  obtain ⟨-, hrest⟩ | ⟨-, hrest⟩ := List.append_eq_singleton_iff.mp h
  · exact ⟨(List.cons.inj hrest).1, (List.cons.inj hrest).2⟩
  · cases hrest

omit [NativeApi] in
theorem isCleanup_of_nativeEvents {tr : Trace} (h : nativeEvents tr = []) :
    ∀ ev ∈ tr, ev.1.isCleanup = true := by
  intro ev hev
  have hnative : ev.1.isNative = false := by
    have hfilter := List.filter_eq_nil_iff.mp h ev hev
    simpa using hfilter
  cases hev : ev.1 <;> simp_all [Eff.isNative, Eff.isCleanup]

omit [NativeApi] in
theorem KeepsState.writesNoWrapper {tr : Trace} (h : KeepsState tr) : WritesNoWrapper tr := by
  intro ev hev
  cases heff : ev.1 with
  | own o => exact absurd heff (h ev hev o)
  | alloc | lock | unlock | call | proc => rfl

/-- A data operation whose native call failed. -/
theorem DataCall.failure {x : DataCall} {tr : Trace} {out : Except Exn x.Ret}
    (houtcome : x.Outcome tr out) {before after : Trace} {c : NativeCall} {reply : c.Reply}
    (htr : tr = before ++ ⟨.call c, reply⟩ :: after) (hfailed : ¬ c.Succeeded reply) :
    (∃ operation, out = .error (statusError reply.status operation)) ∧
      ∀ ev ∈ after, ev.1.isCleanup = true := by
  have hcall : nativeEvents tr ≠ [] := by
    intro hnil
    refine makesNoCall_of_nativeEvents hnil c reply ?_
    rw [htr]
    exact List.mem_append_right _ List.mem_cons_self
  cases houtcome with
  | outOfMemory hnative => exact absurd hnative hcall
  | rejected y hrequest hnative => exact absurd hnative hcall
  | answered req reply' hrequest hnative =>
    rw [htr] at hnative
    obtain ⟨hevent, hafter⟩ := nativeEvents_split hnative
    exact ⟨Request.result_of_failed (x.request_answers req hrequest) hevent hfailed,
      isCleanup_of_nativeEvents hafter⟩
  | noRoom req reply' a hrequest hnative hresult =>
    rw [htr] at hnative
    obtain ⟨hevent, -⟩ := nativeEvents_split hnative
    obtain ⟨operation, hthrows⟩ :=
      Request.result_of_failed (x.request_answers req hrequest) hevent hfailed
    rw [hresult] at hthrows
    cases hthrows

/-- A data operation none of whose calls failed. -/
theorem DataCall.success {x : DataCall} {target : Target} (htarget : x.target = some target)
    {tr : Trace} {out : Except Exn x.Ret} (houtcome : x.Outcome tr out)
    (hsucceeded : ∀ c reply, ⟨.call c, reply⟩ ∈ tr → c.Succeeded reply) :
    (∃ a, out = .ok a) ∨ (OutOfMemory tr ∧ out = .error .badAlloc) ∨
      (PublicOp.data x).Refuses tr out ∨
      ∃ c reply, ⟨.call c, reply⟩ ∈ tr ∧ c.Malformed reply := by
  cases houtcome with
  | outOfMemory _ hmemory => exact .inr (.inl ⟨hmemory, rfl⟩)
  | noRoom _ _ _ _ _ _ hmemory => exact .inr (.inl ⟨hmemory, rfl⟩)
  | rejected y hrequest hnative =>
    refine .inr (.inr (.inl ⟨makesNoCall_of_nativeEvents hnative, .inr ⟨?_, ?_⟩⟩))
    · exact fun hnone => Option.some_ne_none _ (htarget.symm.trans hnone)
    · cases request_gate htarget with
      | accept _ _ hx =>
        rw [hrequest] at hx
        cases hx
      | reject hno message hx =>
        rw [hrequest] at hx
        cases hx
        exact ⟨hno, message, rfl⟩
  | answered req reply hrequest hnative =>
    by_cases hbad : ∃ c r, (⟨req.effect, reply⟩ : Prog.Event Eff.Reply) = ⟨.call c, r⟩ ∧
        c.Malformed r
    · obtain ⟨c, r, hevent, hmalformed⟩ := hbad
      refine .inr (.inr (.inr ⟨c, r, ?_, hmalformed⟩))
      rw [← mem_nativeEvents, hnative, hevent]
      exact List.mem_singleton_self _
    · refine .inl (Request.result_of_succeeded (x.request_answers req hrequest) ?_)
      intro c r hevent
      refine ⟨hsucceeded c r ?_, fun hmalformed => hbad ⟨c, r, hevent, hmalformed⟩⟩
      rw [← mem_nativeEvents, hnative, hevent]
      exact List.mem_singleton_self _

theorem DataCall.transparent {x : DataCall} {tr : Trace} {out : Except Exn x.Ret}
    (hruns : x.prog.Runs tr out) : Transparent (.data x) tr out := by
  cases htarget : x.target with
  | none =>
    rw [prog_noState htarget] at hruns
    obtain ⟨rfl, rfl⟩ := Prog.runs_throw.mp hruns
    obtain ⟨what, hwhat⟩ := x.noState_eq
    refine ⟨fun before c reply after htr => by simp at htr, fun _ => .inr (.inr (.inl ?_))⟩
    exact ⟨fun c reply => List.not_mem_nil, .inl ⟨fun h => h htarget, what, by rw [hwhat]⟩⟩
  | some target =>
    obtain ⟨hkeeps, -, houtcome⟩ := DataCall.run htarget hruns
    constructor
    · intro before c reply after htr _ hfailed
      obtain ⟨⟨operation, hout⟩, hafter⟩ := DataCall.failure houtcome htr hfailed
      exact ⟨⟨_, hout⟩, hafter, hkeeps.writesNoWrapper⟩
    · intro hsucceeded
      refine DataCall.success htarget houtcome fun c reply hmem => ?_
      exact (hsucceeded c reply hmem).resolve_left nofun

/-! ## The other operations -/

section Unwinding

variable {p : PublicOp} {q : Standing} {tr : Trace}

/-- After a failure there is only clean-up. -/
theorem unwinding_failed {status : Int} (hfailed : q.failed = some status)
    (hallowed : (unwinding p).Allowed q tr) :
    (∀ ev ∈ tr, ev.1.isCleanup = true) ∧ WritesNoWrapper tr ∧
      ((unwinding p).after q tr).failed = some status ∧
      ((unwinding p).after q tr).published = q.published := by
  induction tr generalizing q with
  | nil => exact ⟨by simp, by simp [WritesNoWrapper], hfailed, rfl⟩
  | cons ev tr ih =>
    obtain ⟨e, r⟩ := ev
    obtain ⟨hnow, hrest⟩ := hallowed
    have hno : q.failed ≠ none := by simp [hfailed]
    have hstep : e.isCleanup = true ∧ e.wrappers = [] ∧
        ((unwinding p).next q e r).failed = some status ∧
        ((unwinding p).next q e r).published = q.published := by
      cases e with
      | alloc => exact ⟨rfl, rfl, hfailed, rfl⟩
      | lock m => exact ⟨rfl, rfl, hfailed, rfl⟩
      | unlock m => exact ⟨rfl, rfl, hfailed, rfl⟩
      | call c => exact absurd hnow.2.1 hno
      | proc f => exact ⟨hnow.resolve_left hno, rfl, hfailed, rfl⟩
      | own o =>
        have hlocal : o.wrappers = [] := hnow.resolve_left hno
        exact ⟨rfl, hlocal, hfailed, by simp [hlocal]⟩
    obtain ⟨hcleanup, hwrites, hfailed', hpublished'⟩ := hstep
    obtain ⟨ihcleanup, ihwrites, ihfailed, ihpublished⟩ := ih hfailed' hrest
    exact ⟨List.forall_mem_cons.mpr ⟨hcleanup, ihcleanup⟩,
      List.forall_mem_cons.mpr ⟨hwrites, ihwrites⟩, ihfailed, ihpublished.trans hpublished'⟩

/-- As long as nothing is published, no wrapper object has been written. -/
theorem unwinding_unpublished (h : ((unwinding p).after q tr).published = false) :
    q.published = false ∧ WritesNoWrapper tr := by
  induction tr generalizing q with
  | nil => exact ⟨h, by simp [WritesNoWrapper]⟩
  | cons ev tr ih =>
    obtain ⟨e, r⟩ := ev
    obtain ⟨hnext, hwrites⟩ := ih h
    have hstep : q.published = false ∧ e.wrappers = [] := by
      cases e with
      | alloc | lock | unlock | proc => exact ⟨hnext, rfl⟩
      | call c =>
        simp only [unwinding] at hnext
        split at hnext <;> exact ⟨hnext, rfl⟩
      | own o => simpa [Eff.wrappers] using hnext
    exact ⟨hstep.1, List.forall_mem_cons.mpr ⟨hstep.2, hwrites⟩⟩

/-- Without a failed status the protocol has recorded none. -/
theorem unwinding_succeeded (hq : q.failed = none)
    (hsucceeded : ∀ c reply, ⟨.call c, reply⟩ ∈ tr → p.ignores c = true ∨ c.Succeeded reply) :
    ((unwinding p).after q tr).failed = none := by
  induction tr generalizing q with
  | nil => exact hq
  | cons ev tr ih =>
    obtain ⟨e, r⟩ := ev
    refine ih ?_ fun c reply hmem => hsucceeded c reply (List.mem_cons_of_mem _ hmem)
    cases e with
    | alloc | lock | unlock | proc | own => exact hq
    | call c =>
      have hnow := hsucceeded c r List.mem_cons_self
      simp only [unwinding, if_pos hnow]
      exact hq

theorem unwinding_starved :
    ((unwinding p).after q tr).starved = true ↔ q.starved = true ∨ OutOfMemory tr := by
  induction tr generalizing q with
  | nil => simp [OutOfMemory]
  | cons ev tr ih =>
    obtain ⟨e, r⟩ := ev
    rw [Protocol.after_cons, ih]
    cases e with
    | alloc => cases r <;> simp [unwinding, OutOfMemory]
    | lock | unlock | proc | own => simp [unwinding, OutOfMemory]
    | call c =>
      simp only [unwinding]
      split <;> simp [OutOfMemory]

theorem unwinding_called (h : ((unwinding p).after q tr).called = false) :
    q.called = false ∧ MakesNoCall tr := by
  induction tr generalizing q with
  | nil => exact ⟨h, fun c reply => List.not_mem_nil⟩
  | cons ev tr ih =>
    obtain ⟨e, r⟩ := ev
    obtain ⟨hnext, hnone⟩ := ih h
    have hstep : q.called = false ∧ ∀ c, e ≠ .call c := by
      cases e with
      | alloc | lock | unlock | proc | own => exact ⟨hnext, by simp⟩
      | call c =>
        simp only [unwinding] at hnext
        split at hnext <;> cases hnext
    refine ⟨hstep.1, fun c reply hmem => ?_⟩
    rcases List.mem_cons.mp hmem with heq | hmem
    · exact hstep.2 c (congrArg Sigma.fst heq).symm
    · exact hnone c reply hmem

/-- What `unwinding` says about a run, in terms of its events. -/
theorem transparent_of_unwinds {prog : M Unit} {out : Except Exn Unit}
    (hwp : prog.wp (unwinding p) {} (Unwound p)) (hruns : prog.Runs tr out) :
    Transparent p tr out := by
  obtain ⟨hallowed, hpost⟩ :=
    Prog.wp_runs hwp hruns (Protocol.relied_of_forall (fun _ _ _ => trivial) _ tr)
  constructor
  · intro before c reply after htr hchecked hfailed
    rw [htr, Protocol.allowed_append] at hallowed
    obtain ⟨-, ⟨-, -, hpublished⟩, hafter⟩ := hallowed
    have hnext : (unwinding p).next ((unwinding p).after {} before) (.call c) reply =
        { (unwinding p).after {} before with called := true, failed := some reply.status } :=
      if_neg (by simp [hchecked, hfailed])
    obtain ⟨hcleanup, hwrites, hstatus, -⟩ := unwinding_failed (by rw [hnext]) hafter
    obtain ⟨-, hbefore⟩ := unwinding_unpublished hpublished
    rw [htr, Protocol.after_append, Protocol.after_cons] at hpost
    unfold Unwound at hpost
    rw [hstatus] at hpost
    obtain ⟨-, operation, rfl⟩ := hpost
    refine ⟨⟨_, rfl⟩, hcleanup, ?_⟩
    rw [htr]
    exact List.forall_mem_append.mpr ⟨hbefore, List.forall_mem_cons.mpr ⟨rfl, hwrites⟩⟩
  · intro hsucceeded
    unfold Unwound at hpost
    rw [unwinding_succeeded rfl hsucceeded] at hpost
    rcases hpost with rfl | ⟨hstarved, rfl⟩ | ⟨hcalled, -, hrefused⟩
    · exact .inl ⟨(), rfl⟩
    · exact .inr (.inl ⟨(unwinding_starved.mp hstarved).resolve_left nofun, rfl⟩)
    · exact .inr (.inr (.inl ⟨(unwinding_called hcalled).2, hrefused⟩))

end Unwinding

/-! ## Every operation -/

theorem PublicOp.transparent (p : PublicOp) {tr : Trace} {out : Except Exn p.Ret}
    (hruns : p.prog.Runs tr out) : Transparent p tr out :=
  p.run_cases (C := fun _ p tr out => Transparent p tr out)
    (fun _ _ _ hdata => DataCall.transparent hdata)
    (fun _ _ _ _ hwp hprog => transparent_of_unwinds hwp hprog) hruns

/-- **Error transparency.**  In every run of every public operation a failed status is
    thrown unchanged as the outcome, is followed by nothing but clean-up and leaves every
    object as it was; an exception without a failed status has another cause; and the
    translation of codes keeps the listed ones apart and sends the others to `Generic`. -/
theorem error_transparency (p : PublicOp) (tr : Trace) (out : Except Exn p.Ret)
    (hruns : p.prog.Runs tr out) :
    Transparent p tr out ∧
      (∀ e e', e ≠ .ok → e' ≠ .ok → toErrorCode (err e) = toErrorCode (err e') → e = e') ∧
      ∀ code, (∀ e, code ≠ err e) → toErrorCode code = .generic := by
  refine ⟨p.transparent hruns, fun e e' he he' h => ?_, fun code h => toErrorCode_unlisted h⟩
  rw [toErrorCode_err, toErrorCode_err] at h
  exact NativeError.toErrorCode_injective he he' h

end

section

attribute [local instance] NativeApi.reference

/-- A constructor that cannot open the device. -/
theorem error_transparency_open :
    Transparent (.construct 0 {})
        [⟨.call (.openScan 0x04D8 0x00DD 0 none 500 3 0 0 0), ⟨-13, none, by decide⟩⟩]
        (.error (statusError (-13) "Opening MCP2221") : Except Exn Unit) ∧
      (∀ e e', e ≠ .ok → e' ≠ .ok → toErrorCode (err e) = toErrorCode (err e') → e = e') ∧
      ∀ code, (∀ e, code ≠ err e) → toErrorCode code = .generic := by
  refine error_transparency (.construct 0 {}) _ _ ?_
  exact runs_vis (.call (.openScan 0x04D8 0x00DD 0 none 500 3 0 0 0)) _ (.throw _)

end

end EasyMcp2221
