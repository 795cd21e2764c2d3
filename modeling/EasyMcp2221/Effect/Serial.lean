import EasyMcp2221.Effect.Reentrancy
import EasyMcp2221.Effect.Refinement
import Mathlib.Data.List.FinRange

/-!
# Reentrant calls, one after the other

An operation is prompt if all its effects come before its first signal.  Calls of prompt
operations may be nested in any way, and still they leave the state, and do themselves,
what they would if they were made one after the other, in the order in which they began
(`Dispatcher.Reachable.serial`).
-/

namespace Effect

variable {E : Type} {R : E → Type} {Sg ε α β : Type}

/-! ## Prompt programs -/

def Act.isSignal : Act E Sg → Bool
  | .effect _ => false
  | .signal _ => true

/-- The program only emits. -/
def Prog.Emits (p : Prog (Act E Sg) (Act.Reply R) ε α) : Prop :=
  p.Only fun a => a.isSignal = true

/-- The program emits nothing. -/
def Prog.Mute (p : Prog (Act E Sg) (Act.Reply R) ε α) : Prop :=
  p.Only fun a => a.isSignal = false

/-- On every path the effects of the program come before its signals. -/
def Prog.Prompt : Prog (Act E Sg) (Act.Reply R) ε α → Prop
  | .ret _ => True
  | .throw _ => True
  | .vis (.effect _) k => ∀ r, (k r).Prompt
  | .vis (.signal _) k => (k ()).Emits

namespace Prog

variable {p : Prog (Act E Sg) (Act.Reply R) ε α}

theorem Mute.prompt (h : p.Mute) : p.Prompt := by
  induction p with
  | ret a => trivial
  | throw x => trivial
  | vis a k ih =>
    rcases h with ⟨ha, hrest⟩
    cases a with
    | effect e => exact fun r => ih r (hrest r)
    | signal sg => cases ha

theorem Emits.prompt (h : p.Emits) : p.Prompt := by
  cases p with
  | ret a => trivial
  | throw x => trivial
  | vis a k =>
    rcases h with ⟨ha, hrest⟩
    cases a with
    | effect e => cases ha
    | signal sg => exact hrest ()

/-- What comes after a part without signals. -/
theorem Mute.bind_prompt {f : α → Prog (Act E Sg) (Act.Reply R) ε β} (h : p.Mute)
    (hf : ∀ a, (f a).Prompt) : (p.bind f).Prompt := by
  induction p with
  | ret a => exact hf a
  | throw x => trivial
  | vis a k ih =>
    rcases h with ⟨ha, hrest⟩
    cases a with
    | effect e => exact fun r => ih r (hrest r)
    | signal sg => cases ha

theorem Emits.handle {h : ε → Prog (Act E Sg) (Act.Reply R) ε α} (hp : p.Emits)
    (hh : ∀ x, (h x).Emits) : (p.handle h).Emits := by
  induction p with
  | ret a => trivial
  | throw x => exact hh x
  | vis a k ih => exact ⟨hp.1, fun r => ih r (hp.2 r)⟩

/-- A handler that only emits. -/
theorem Prompt.handle {h : ε → Prog (Act E Sg) (Act.Reply R) ε α} (hp : p.Prompt)
    (hh : ∀ x, (h x).Emits) : (p.handle h).Prompt := by
  induction p with
  | ret a => trivial
  | throw x => exact (hh x).prompt
  | vis a k ih =>
    cases a with
    | effect e => exact fun r => ih r (hp r)
    | signal sg => exact Emits.handle hp hh

/-- What only emits comes to an end. -/
theorem Emits.ends (h : p.Emits) :
    ∃ tr out, p.Runs tr out ∧ ∀ ev ∈ tr, ev.1.isSignal = true := by
  have hends : ∃ tr out, p.Runs tr out := by
    induction p with
    | ret a => exact ⟨[], _, .ret a⟩
    | throw x => exact ⟨[], _, .throw x⟩
    | vis a k ih =>
      rcases h with ⟨ha, hrest⟩
      cases a with
      | effect e => cases ha
      | signal sg =>
        rcases ih () (hrest ()) with ⟨tr, out, hruns⟩
        exact ⟨⟨.signal sg, ()⟩ :: tr, out, .vis _ hruns⟩
  rcases hends with ⟨tr, out, hruns⟩
  exact ⟨tr, out, hruns, h.runs hruns⟩

end Prog

/-! ## Effects and signals of a trace -/

/-- The effects of a trace. -/
def effectsOf (tr : List (ActEvent R Sg)) : List (ActEvent R Sg) :=
  tr.filter fun ev => !ev.1.isSignal

theorem effectsOf_append (tr tr' : List (ActEvent R Sg)) :
    effectsOf (tr ++ tr') = effectsOf tr ++ effectsOf tr' := List.filter_append ..

theorem effectsOf_of_emits {tr : List (ActEvent R Sg)}
    (h : ∀ ev ∈ tr, ev.1.isSignal = true) : effectsOf tr = [] := by
  apply List.filter_eq_nil_iff.mpr
  intro ev hev
  simp [h ev hev]

namespace Dispatcher

variable {Op S : Type} {D : Dispatcher E R Sg ε Op S}

/-- What an event does to the state: a signal nothing. -/
def does (D : Dispatcher E R Sg ε Op S) (s : S) : ActEvent R Sg → S → Prop
  | ⟨.effect e, r⟩, s' => D.effect s e r s'
  | ⟨.signal _, _⟩, s' => s' = s

/-- A call as a whole. -/
structure Turn (D : Dispatcher E R Sg ε Op S) where
  op : Op
  did : List (ActEvent R Sg)
  out : Except ε Unit

/-- A call whose signals nobody receives. -/
def alone (D : Dispatcher E R Sg ε Op S) (s : S) (turn : D.Turn) (s' : S) : Prop :=
  (D.prog turn.op).Runs turn.did turn.out ∧ Run D.does s turn.did s'

/-- Signals do not count. -/
theorem does_effectsOf {s s' : S} {tr : List (ActEvent R Sg)} :
    Run D.does s (effectsOf tr) s' ↔ Run D.does s tr s' := by
  constructor
  · intro h
    induction tr generalizing s with
    | nil => exact h
    | cons ev tr ih =>
      rcases ev with ⟨e | sg, r⟩
      · rcases h with _ | ⟨hfirst, hrest⟩
        exact .cons hfirst (ih hrest)
      · exact .cons rfl (ih h)
  · intro h
    apply h.erase fun ev => ev.1.isSignal
    rintro s ⟨e | sg, r⟩ s' hsignal hstep
    · cases hsignal
    · exact hstep

/-! ## The order of the effects -/

/-- The effects of the first `n` calls, call by call. -/
def grouped (n : Nat) (log : List D.Entry) : List (ActEvent R Sg) :=
  (List.range n).flatMap fun i => effectsOf (history i log)

theorem grouped_congr {n : Nat} {log log' : List D.Entry}
    (h : ∀ i < n, effectsOf (history i log) = effectsOf (history i log')) :
    grouped n log = grouped n log' := by
  apply List.flatMap_congr
  intro i hi
  exact h i (List.mem_range.mp hi)

theorem grouped_succ (n : Nat) (log : List D.Entry) :
    grouped (n + 1) log = grouped n log ++ effectsOf (history n log) := by
  simp [grouped, List.range_succ]

/-- An effect of the last call comes last. -/
theorem grouped_effect (n : Nat) (log : List D.Entry) (e : E) (r : R e) :
    grouped (n + 1) (log ++ [.did n ⟨.effect e, r⟩]) =
      grouped (n + 1) log ++ [⟨.effect e, r⟩] := by
  have hbefore : grouped n (log ++ [.did n ⟨.effect e, r⟩]) = grouped n log := by
    apply grouped_congr
    intro i hi
    rw [history_append_of_ne log (Nat.ne_of_gt hi)]
  rw [grouped_succ, grouped_succ, hbefore, history_append_did, effectsOf_append,
    List.append_assoc]
  rfl

theorem grouped_signal (n id : Nat) (log : List D.Entry) (sg : Sg) :
    grouped n (log ++ [.did id ⟨.signal sg, ()⟩]) = grouped n log := by
  apply grouped_congr
  intro i _
  by_cases hi : id = i
  · subst hi
    rw [history_append_did, effectsOf_append]
    exact List.append_nil _
  · rw [history_append_of_ne (x := .did id ⟨.signal sg, ()⟩) log hi]

/-- A new call has done nothing yet. -/
theorem grouped_called {n : Nat} {log : List D.Entry} (hnew : ∀ x ∈ log, x.id < n) (op : Op) :
    grouped (n + 1) (log ++ [.called n op]) = grouped n log := by
  have hnone : effectsOf (history n (log ++ [.called n op])) = [] := by
    rw [history_append_call, history_eq_nil hnew]
    rfl
  rw [grouped_succ, hnone, List.append_nil]
  apply grouped_congr
  intro i _
  rw [history_append_call]

theorem grouped_ended (n id : Nat) (log : List D.Entry) (out : Except ε Unit) :
    grouped n (log ++ [.ended id out]) = grouped n log := by
  apply grouped_congr
  intro i _
  rw [history_append_ended]

/-- The effects of calls that are known call by call. -/
theorem grouped_eq {n : Nat} {log : List D.Entry} {turn : Fin n → D.Turn}
    (h : ∀ i, effectsOf (turn i).did = effectsOf (history i log)) :
    grouped n log = (List.finRange n).flatMap fun i => effectsOf (turn i).did := by
  rw [grouped, ← List.map_coe_finRange_eq_range, List.flatMap_map]
  apply List.flatMap_congr
  intro i _
  exact (h i).symm

/-- A call that has not emitted is the last one, and the state is what the effects of the
    calls make of it, call by call. -/
structure Config.Serial (s₀ : S) (c : D.Config) : Prop where
  named : ∀ i < c.next, ∃ op, .called i op ∈ c.log
  top : ∀ f ∈ c.stack.head?, f.rest.Emits ∨
    (f.delivering = false ∧ f.rest.Prompt ∧ f.id + 1 = c.next)
  below : ∀ f ∈ c.stack.tail, f.rest.Emits
  run : Run D.does s₀ (grouped c.next c.log) c.state

variable {s₀ : S} {c : D.Config}

theorem Reachable.serialised (hprompt : ∀ op, (D.prog op).Prompt) (h : D.Reachable s₀ c) :
    c.Serial s₀ := by
  induction h with
  | init =>
    refine ⟨?_, ?_, ?_, .nil s₀⟩
    · intro i hi
      cases hi
    · intro f hf
      cases hf
    · intro f hf
      cases hf
  | @step c c' hc hstep ih =>
    have hnames : ∀ {x : D.Entry}, ∀ i < c.next, ∃ op, .called i op ∈ c.log ++ [x] := by
      intro x i hi
      rcases ih.named i hi with ⟨op, hop⟩
      exact ⟨op, List.mem_append_left _ hop⟩
    cases hstep with
    | call s fs n log op hopen =>
      refine ⟨?_, ?_, ?_, ?_⟩
      · intro i hi
        rcases Nat.lt_succ_iff_lt_or_eq.mp hi with hlt | rfl
        · exact hnames i hlt
        · exact ⟨op, by simp⟩
      · intro f hf
        cases hf
        exact .inr ⟨rfl, hprompt op, rfl⟩
      · intro f hf
        have hf : f ∈ fs := hf
        cases fs with
        | nil => cases hf
        | cons g gs =>
          rcases List.mem_cons.mp hf with rfl | hgs
          · rcases ih.top f rfl with hemits | ⟨hidle, -, -⟩
            · exact hemits
            · rw [hopen f rfl] at hidle
              cases hidle
          · exact ih.below f hgs
      · show Run D.does s₀ (grouped (n + 1) (log ++ [.called n op])) s
        rw [grouped_called hc.ok.below]
        exact ih.run
    | effect s fs n log id op e k r s' heffect =>
      rcases ih.top _ rfl with hemits | ⟨-, hrest, hlast⟩
      · cases hemits.1
      · have hlast : id + 1 = n := hlast
        subst hlast
        refine ⟨hnames, ?_, ih.below, ?_⟩
        · intro f hf
          cases hf
          exact .inr ⟨rfl, hrest r, rfl⟩
        · show Run D.does s₀ (grouped (id + 1) (log ++ [.did id ⟨.effect e, r⟩])) s'
          rw [grouped_effect]
          exact ih.run.snoc heffect
    | emit s fs n log id op sg k =>
      refine ⟨hnames, ?_, ih.below, ?_⟩
      · intro f hf
        cases hf
        rcases ih.top _ rfl with hemits | ⟨-, hrest, -⟩
        · exact .inl (hemits.2 ())
        · exact .inl hrest
      · show Run D.does s₀ (grouped n (log ++ [.did id ⟨.signal sg, ()⟩])) s
        rw [grouped_signal]
        exact ih.run
    | received s fs n log id op p =>
      refine ⟨ih.named, ?_, ih.below, ih.run⟩
      intro f hf
      cases hf
      rcases ih.top _ rfl with hemits | ⟨hidle, -, -⟩
      · exact .inl hemits
      · cases hidle
    | stop s fs n log id op out =>
      refine ⟨hnames, ?_, ?_, ?_⟩
      · intro f hf
        exact .inl (ih.below f (List.mem_of_mem_head? hf))
      · intro f hf
        exact ih.below f (List.mem_of_mem_tail hf)
      · show Run D.does s₀ (grouped n (log ++ [.ended id out])) s
        rw [grouped_ended]
        exact ih.run

/-! ## One call after the other -/

/-- The turn is that of the call `i`, as far as the call has come. -/
structure Turn.Tells (turn : D.Turn) (i : Nat) (log : List D.Entry) : Prop where
  called : .called i turn.op ∈ log
  begun : history i log <+: turn.did
  effects : effectsOf turn.did = effectsOf (history i log)
  ended : ∀ out, .ended i out ∈ log → history i log = turn.did ∧ out = turn.out

/-- Only the last call may have an effect before it, and not while operations may be called. -/
theorem Config.Serial.emits (hserial : c.Serial s₀) {f : D.Frame} (hf : f ∈ c.stack)
    (h : c.Open ∨ f.id + 1 ≠ c.next) : f.rest.Emits := by
  rcases c with ⟨s, fs, n, log⟩
  cases fs with
  | nil => cases hf
  | cons g gs =>
    rcases List.mem_cons.mp hf with rfl | hgs
    · rcases hserial.top f rfl with hemits | ⟨hidle, -, hlast⟩
      · exact hemits
      · rcases h with hopen | hne
        · rw [hopen f rfl] at hidle
          cases hidle
        · exact absurd hlast hne
    · exact hserial.below f hgs

theorem Reachable.turn (hprompt : ∀ op, (D.prog op).Prompt) (h : D.Reachable s₀ c) {i : Nat}
    (hi : i < c.next) (hpast : c.Open ∨ i + 1 ≠ c.next) :
    ∃ turn : D.Turn, turn.Tells i c.log ∧ (D.prog turn.op).Runs turn.did turn.out := by
  have hserial := h.serialised hprompt
  rcases hserial.named i hi with ⟨op, hop⟩
  rcases h.ok.accounted i op hop with ⟨f, hf, rfl⟩ | ⟨out, hout⟩
  · rcases h.ok.running f hf with ⟨hcalled, hreaches⟩
    rcases (hserial.emits hf hpast).ends with ⟨sgs, out, hruns, hsgs⟩
    refine ⟨⟨f.op, history f.id c.log ++ sgs, out⟩, ⟨hcalled, List.prefix_append .., ?_, ?_⟩,
      hreaches.runs hruns⟩
    · rw [effectsOf_append, effectsOf_of_emits hsgs, List.append_nil]
    · intro out' hended
      exact absurd rfl ((h.ok.ended _ _ hended).1 f hf)
  · have hruns := h.ended hop hout
    refine ⟨⟨op, history i c.log, out⟩, ⟨hop, List.prefix_rfl, rfl, ?_⟩, hruns⟩
    intro out' hended
    exact ⟨rfl, (h.ended hop hended).outcome_unique hruns⟩

/-- **Reentrant calls are calls one after the other.**  Let the operations be prompt.  However
    the calls were nested, whenever further ones may be made the state is what the calls make
    of it one after the other, in the order in which they began and with signals that nobody
    receives; each call does and did in that run what it does and did in its own frame. -/
theorem Reachable.serial (hprompt : ∀ op, (D.prog op).Prompt) (h : D.Reachable s₀ c)
    (hopen : c.Open) :
    ∃ turn : Fin c.next → D.Turn, (∀ i, (turn i).Tells i c.log) ∧
      Run D.alone s₀ (List.ofFn turn) c.state := by
  have hturn : ∀ i : Fin c.next, ∃ turn : D.Turn, turn.Tells i c.log ∧
      (D.prog turn.op).Runs turn.did turn.out := fun i => h.turn hprompt i.isLt (.inl hopen)
  choose turn htells hruns using hturn
  refine ⟨turn, htells, ?_⟩
  have hrun := (h.serialised hprompt).run
  rw [grouped_eq fun i => (htells i).effects] at hrun
  rw [List.ofFn_eq_map]
  refine hrun.flatMap ?_
  intro i s s' hblock
  exact ⟨hruns i, does_effectsOf.mp hblock⟩

/-! ## The effects, one call after the other -/

/-- The effects are performed call by call. -/
theorem Reachable.effects_grouped (hprompt : ∀ op, (D.prog op).Prompt) (h : D.Reachable s₀ c) :
    effectsOf (events c.log) = grouped c.next c.log := by
  induction h with
  | init => rfl
  | step hc hstep ih =>
    have hserial := hc.serialised hprompt
    cases hstep with
    | call s fs n log op hopen =>
      rw [events_called]
      exact ih.trans (grouped_called hc.ok.below op).symm
    | effect s fs n log id op e k r s' heffect =>
      rcases hserial.top _ rfl with hemits | ⟨-, -, hlast⟩
      · cases hemits.1
      · have hlast : id + 1 = n := hlast
        subst hlast
        have ih : effectsOf (events log) = grouped (id + 1) log := ih
        show effectsOf (events (log ++ [.did id ⟨.effect e, r⟩])) = grouped (id + 1) _
        rw [events_did, effectsOf_append, grouped_effect, ih]
        rfl
    | emit s fs n log id op sg k =>
      have ih : effectsOf (events log) = grouped n log := ih
      show effectsOf (events (log ++ [.did id ⟨.signal sg, ()⟩])) = grouped n _
      rw [events_did, effectsOf_append, grouped_signal, ih]
      exact List.append_nil _
    | received => exact ih
    | stop s fs n log id op out =>
      rw [events_ended]
      exact ih.trans (grouped_ended n id log out).symm

/-- **The effects of a thread are those of complete calls.**  Let the operations be prompt.
    However the calls were nested, at any time the effects of the thread are the beginning of
    the effects of runs of the operations called, one after the other; they are all of them
    whenever further operations may be called. -/
theorem Reachable.effects_serial (hreply : ∀ e, Nonempty (R e))
    (hprompt : ∀ op, (D.prog op).Prompt) (h : D.Reachable s₀ c) :
    ∃ turn : Fin c.next → D.Turn,
      (∀ i : Fin c.next, .called i (turn i).op ∈ c.log ∧ history i c.log <+: (turn i).did ∧
        (D.prog (turn i).op).Runs (turn i).did (turn i).out) ∧
      effectsOf (events c.log) <+: (List.ofFn turn).flatMap (fun turn => effectsOf turn.did) ∧
      (c.Open →
        effectsOf (events c.log) = (List.ofFn turn).flatMap fun turn => effectsOf turn.did) := by
  have hturn : ∀ i : Fin c.next, ∃ turn : D.Turn,
      (.called i turn.op ∈ c.log ∧ history i c.log <+: turn.did ∧
        (D.prog turn.op).Runs turn.did turn.out) ∧
      (c.Open ∨ i + 1 ≠ c.next → effectsOf turn.did = effectsOf (history i c.log)) := by
    intro i
    by_cases hpast : c.Open ∨ i + 1 ≠ c.next
    · rcases h.turn hprompt i.isLt hpast with ⟨turn, htells, hruns⟩
      exact ⟨turn, ⟨htells.called, htells.begun, hruns⟩, fun _ => htells.effects⟩
    · rcases (h.serialised hprompt).named i i.isLt with ⟨op, hcalled⟩
      rcases h.begun hreply hcalled with ⟨rest, out, hruns⟩
      exact ⟨⟨op, _, out⟩, ⟨hcalled, List.prefix_append .., hruns⟩, fun hin => absurd hin hpast⟩
  choose turn htells heffects using hturn
  have hofFn : (List.ofFn turn).flatMap (fun turn => effectsOf turn.did) =
      (List.finRange c.next).flatMap fun i => effectsOf (turn i).did := by
    rw [List.ofFn_eq_map, List.flatMap_map]
  refine ⟨turn, htells, ?_⟩
  rw [hofFn, h.effects_grouped hprompt]
  refine ⟨?_, fun hopen => grouped_eq fun i => heffects i (.inl hopen)⟩
  rcases c with ⟨s, fs, n, log⟩
  cases n with
  | zero => exact List.prefix_rfl
  | succ n =>
    have hbefore : grouped n log =
        (List.finRange n).flatMap fun i => effectsOf (turn i.castSucc).did := by
      apply grouped_eq
      intro i
      exact heffects i.castSucc (.inr (Nat.ne_of_lt (Nat.succ_lt_succ i.isLt)))
    have hlast : effectsOf (history n log) <+: effectsOf (turn (Fin.last n)).did :=
      (htells (Fin.last n)).2.1.filter _
    show grouped (n + 1) log <+: _
    rw [grouped_succ, List.finRange_succ_last, List.flatMap_append, List.flatMap_map, hbefore]
    simpa using hlast

end Dispatcher

end Effect
