import EasyMcp2221.Acceptance

/-!
# Bad arguments and bad answers

A caller retries on `Protocol` and takes `Invalid` for its own mistake.  `Classified`
says that an operation tells the two apart.  The block operations of `SmbusDevice`
report an impossible block length with `throwInvalid`, so the operations are
classified exactly in the runs without such an answer (`classified_iff`).
-/

namespace EasyMcp2221

open Effect

section

variable [NativeApi]

/-! ## The classification -/

/-- No native call of the run reported a failure (the ignored release aside). -/
def AllSucceeded (p : PublicOp) (tr : Trace) : Prop :=
  ∀ c reply, ⟨.call c, reply⟩ ∈ tr → p.ignores c = true ∨ c.Succeeded reply

structure Classified {α : Type} (p : PublicOp) (tr : Trace) (out : Except Exn α) : Prop where
  /-- An `Invalid` of the C++ layer is about the arguments, and nothing was called. -/
  invalid : AllSucceeded p tr → ∀ native message, out = .error (.error .invalid native message) →
    ¬ p.InDomain ∧ MakesNoCall tr
  /-- A malformed answer is a `Protocol` error, and the object keeps its state. -/
  malformed : ∀ c reply, ⟨.call c, reply⟩ ∈ tr → c.Succeeded reply → c.Malformed reply →
    (∃ message, out = .error (.error .protocol (err .protocol) message)) ∧ KeepsState tr
  /-- A well-formed answer is no `Protocol` error. -/
  wellFormed : AllSucceeded p tr → (∀ c reply, ⟨.call c, reply⟩ ∈ tr → ¬ c.Malformed reply) →
    ∀ native message, out ≠ .error (.error .protocol native message)

/-- The C library reported success and a block longer than any SMBus block. -/
def OversizedBlock (tr : Trace) : Prop :=
  ∃ c reply, ⟨.call c, reply⟩ ∈ tr ∧ c.readsBlock = true ∧ c.Succeeded reply ∧ c.Malformed reply

/-! ## The outcome of a malformed answer -/

/-- A request complains about a malformed answer in the way of its native call. -/
theorem Request.result_of_malformed {α : Type} {req : Request α} (hanswers : req.Answers)
    {c : NativeCall} {reply : c.Reply} {reply' : req.effect.Reply}
    (hevent : (⟨.call c, reply⟩ : Prog.Event Eff.Reply) = ⟨req.effect, reply'⟩)
    (hsucceeded : c.Succeeded reply) (hmalformed : c.Malformed reply) :
    ∃ message, req.result reply' = .error (c.complain message) := by
  cases req with
  | proc f value => cases hevent
  | call c' operation decode =>
    cases hevent
    have hstatus : reply.status = err .ok := by
      simpa [NativeCall.Succeeded, hanswers.1] using hsucceeded
    cases hanswers.2 reply with
    | accept hwell => exact absurd hmalformed hwell
    | reject _ message hx => exact ⟨message, (if_pos hstatus).trans hx⟩
  | count c' operation decode =>
    cases hevent
    have hstatus : 0 ≤ reply.status := by
      simpa [NativeCall.Succeeded, hanswers.1] using hsucceeded
    cases hanswers.2 reply hstatus with
    | accept hwell => exact absurd hmalformed hwell
    | reject _ message hx => exact ⟨message, (if_pos hstatus).trans hx⟩

omit [NativeApi] in
/-- The only native event of a run that makes a native call. -/
theorem nativeEvents_unique {tr : Trace} {ev : Prog.Event Eff.Reply} {c : NativeCall}
    {reply : c.Reply} (hnative : nativeEvents tr = [ev])
    (hmem : (⟨.call c, reply⟩ : Prog.Event Eff.Reply) ∈ tr) : ⟨.call c, reply⟩ = ev := by
  rw [← mem_nativeEvents, hnative] at hmem
  exact List.mem_singleton.mp hmem

theorem DataCall.malformed {x : DataCall} {tr : Trace} {out : Except Exn x.Ret}
    (houtcome : x.Outcome tr out) {c : NativeCall} {reply : c.Reply}
    (hmem : ⟨.call c, reply⟩ ∈ tr) (hsucceeded : c.Succeeded reply)
    (hmalformed : c.Malformed reply) : ∃ message, out = .error (c.complain message) := by
  cases houtcome with
  | outOfMemory hnative => exact absurd hmem (makesNoCall_of_nativeEvents hnative c reply)
  | rejected y hrequest hnative =>
    exact absurd hmem (makesNoCall_of_nativeEvents hnative c reply)
  | answered req reply' hrequest hnative =>
    exact Request.result_of_malformed (x.request_answers req hrequest)
      (nativeEvents_unique hnative hmem) hsucceeded hmalformed
  | noRoom req reply' a hrequest hnative hresult =>
    obtain ⟨message, hthrows⟩ := Request.result_of_malformed (x.request_answers req hrequest)
      (nativeEvents_unique hnative hmem) hsucceeded hmalformed
    rw [hresult] at hthrows
    cases hthrows

/-! ## Every operation -/

/-- No answer to a call of the constructor or a factory can be malformed. -/
theorem not_malformed_of_isSetup {c : NativeCall} (hsetup : c.isSetup = true) (reply : c.Reply) :
    ¬ c.Malformed reply := by
  cases c <;> first | exact id | cases hsetup

omit [NativeApi] in
theorem isSetup_of_ignores {p : PublicOp} {c : NativeCall} (h : p.ignores c = true) :
    c.isSetup = true := by
  unfold PublicOp.ignores at h
  split at h
  · rfl
  · cases h

theorem unwinding_isSetup {p : PublicOp} {q : Standing} {tr : Trace}
    (hallowed : (unwinding p).Allowed q tr) {c : NativeCall} {reply : c.Reply}
    (hmem : ⟨.call c, reply⟩ ∈ tr) : c.isSetup = true := by
  induction tr generalizing q with
  | nil => cases hmem
  | cons ev tr ih =>
    obtain ⟨hnow, hrest⟩ := hallowed
    rcases List.mem_cons.mp hmem with rfl | hmem
    · exact hnow.1
    · exact ih hrest hmem

/-- In an operation that is not a data operation no answer is malformed. -/
theorem not_malformed_of_unwinds {p : PublicOp} {prog : M Unit} {tr : Trace}
    {out : Except Exn Unit} (hwp : prog.wp (unwinding p) {} (Unwound p))
    (hruns : prog.Runs tr out) {c : NativeCall} {reply : c.Reply}
    (hmem : ⟨.call c, reply⟩ ∈ tr) : ¬ c.Malformed reply :=
  not_malformed_of_isSetup
    (unwinding_isSetup
      (Prog.wp_runs hwp hruns (Protocol.relied_of_forall (fun _ _ _ => trivial) _ tr)).1 hmem)
    reply

theorem DataCall.malformed_run {x : DataCall} {tr : Trace} {out : Except Exn x.Ret}
    (hruns : x.prog.Runs tr out) {c : NativeCall} {reply : c.Reply} (hmem : ⟨.call c, reply⟩ ∈ tr)
    (hsucceeded : c.Succeeded reply) (hmalformed : c.Malformed reply) :
    (∃ message, out = .error (c.complain message)) ∧ KeepsState tr := by
  cases htarget : x.target with
  | none =>
    rw [prog_noState htarget] at hruns
    obtain ⟨rfl, -⟩ := Prog.runs_throw.mp hruns
    cases hmem
  | some target =>
    obtain ⟨hkeeps, -, houtcome⟩ := DataCall.run htarget hruns
    exact ⟨DataCall.malformed houtcome hmem hsucceeded hmalformed, hkeeps⟩

/-- A malformed answer ends the operation with the complaint about its call. -/
theorem PublicOp.malformed (p : PublicOp) {tr : Trace} {out : Except Exn p.Ret}
    (hruns : p.prog.Runs tr out) {c : NativeCall} {reply : c.Reply} (hmem : ⟨.call c, reply⟩ ∈ tr)
    (hsucceeded : c.Succeeded reply) (hmalformed : c.Malformed reply) :
    (∃ message, out = .error (c.complain message)) ∧ KeepsState tr :=
  p.run_cases
    (C := fun _ _ tr out => ⟨.call c, reply⟩ ∈ tr →
      (∃ message, out = .error (c.complain message)) ∧ KeepsState tr)
    (fun _ _ _ hdata hmem => DataCall.malformed_run hdata hmem hsucceeded hmalformed)
    (fun _ _ _ _ hwp hprog hmem =>
      absurd hmalformed (not_malformed_of_unwinds hwp hprog hmem)) hruns hmem

/-- Without an oversized block every operation is classified. -/
theorem PublicOp.classified (p : PublicOp) {tr : Trace} {out : Except Exn p.Ret}
    (hruns : p.prog.Runs tr out) (hblock : ¬ OversizedBlock tr) : Classified p tr out := by
  have hprotocol : ∀ c reply, ⟨.call c, reply⟩ ∈ tr → c.Succeeded reply → c.Malformed reply →
      (∃ message, out = .error (protocolError message)) ∧ KeepsState tr := by
    intro c reply hmem hsucceeded hmalformed
    obtain ⟨⟨message, hout⟩, hkeeps⟩ := p.malformed hruns hmem hsucceeded hmalformed
    have hread : ¬ c.readsBlock = true :=
      fun hread => hblock ⟨c, reply, hmem, hread, hsucceeded, hmalformed⟩
    rw [NativeCall.complain, if_neg hread] at hout
    exact ⟨⟨message, hout⟩, hkeeps⟩
  have hcause := (p.transparent hruns).success
  constructor
  · intro hall native message hout
    rcases hcause hall with ⟨a, hok⟩ | ⟨-, hmemory⟩ | ⟨hnone, hrefused⟩ | hbad
    · cases hout.symm.trans hok
    · cases hout.symm.trans hmemory
    · obtain ⟨-, what, hlogic⟩ | ⟨-, hdomain, -⟩ := hrefused
      · cases hout.symm.trans hlogic
      · exact ⟨hdomain, hnone⟩
    · obtain ⟨c, reply, hmem, hmalformed⟩ := hbad
      have hsucceeded : c.Succeeded reply := (hall c reply hmem).resolve_left fun hignored =>
        not_malformed_of_isSetup (isSetup_of_ignores hignored) reply hmalformed
      obtain ⟨⟨message', hout'⟩, -⟩ := hprotocol c reply hmem hsucceeded hmalformed
      cases hout.symm.trans hout'
  · exact hprotocol
  · intro hall hwell native message hout
    rcases hcause hall with ⟨a, hok⟩ | ⟨-, hmemory⟩ | ⟨-, hrefused⟩ | ⟨c, reply, hmem, hbad⟩
    · cases hout.symm.trans hok
    · cases hout.symm.trans hmemory
    · obtain ⟨-, what, hlogic⟩ | ⟨-, -, message', hinvalid⟩ := hrefused
      · cases hout.symm.trans hlogic
      · cases hout.symm.trans hinvalid
    · exact hwell c reply hmem hbad

/-- **Classification.**  A run of any operation tells bad arguments and bad answers
    apart exactly when the C library did not report an SMBus block longer than 255
    bytes as a success. -/
theorem classified_iff (p : PublicOp) (tr : Trace) (out : Except Exn p.Ret)
    (hruns : p.prog.Runs tr out) : Classified p tr out ↔ ¬ OversizedBlock tr := by
  refine ⟨fun hclassified => ?_, p.classified hruns⟩
  rintro ⟨c, reply, hmem, hread, hsucceeded, hmalformed⟩
  obtain ⟨⟨message, hout⟩, -⟩ := p.malformed hruns hmem hsucceeded hmalformed
  rw [NativeCall.complain, if_pos hread] at hout
  obtain ⟨⟨message', hout'⟩, -⟩ := hclassified.malformed c reply hmem hsucceeded hmalformed
  cases hout.symm.trans hout'

end

section

attribute [local instance] NativeApi.reference

/-- A successful block read of 256 bytes through a live adapter. -/
def oversizedRead : Trace :=
  [⟨.lock 0, ()⟩,
    ⟨.call (.smbusReadBlockData 1 0x20 0x05), ⟨0, (Vector.replicate 255 0, 256), by decide⟩⟩,
    ⟨.unlock 0, ()⟩]

theorem oversizedRead_runs :
    (PublicOp.data (.smbus (some ⟨1, some ⟨0, some 7⟩, 0x20⟩) (.readBlockData 0x05))).prog.Runs
      oversizedRead
      (.error (invalidError "SMBus target returned an invalid block length")) := by
  refine runs_vis (.lock 0) () ?_
  refine runs_vis (.call (.smbusReadBlockData 1 0x20 0x05)) _ ?_
  exact runs_vis (.unlock 0) () (.throw _)

theorem classified_iff_oversizedRead :
    Classified (.data (.smbus (some ⟨1, some ⟨0, some 7⟩, 0x20⟩) (.readBlockData 0x05)))
      oversizedRead
      (.error (invalidError "SMBus target returned an invalid block length") : Except Exn Bytes) ↔
      ¬ OversizedBlock oversizedRead :=
  classified_iff (.data (.smbus (some ⟨1, some ⟨0, some 7⟩, 0x20⟩) (.readBlockData 0x05)))
    oversizedRead _ oversizedRead_runs

/-- The source does not always tell them apart. -/
theorem not_always_classified :
    ¬ ∀ (p : PublicOp) (tr : Trace) (out : Except Exn p.Ret), p.prog.Runs tr out →
      Classified p tr out := by
  intro hall
  have hclassified := hall _ _ _ oversizedRead_runs
  have hmem : ⟨.call (.smbusReadBlockData 1 0x20 0x05),
      ⟨0, (Vector.replicate 255 0, 256), by decide⟩⟩ ∈ oversizedRead :=
    List.mem_cons_of_mem _ List.mem_cons_self
  obtain ⟨⟨message, hout⟩, -⟩ := hclassified.malformed _ _ hmem rfl
    (show (256 : Nat) > 255 by decide)
  cases hout

end

end EasyMcp2221
