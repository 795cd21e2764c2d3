import EasyMcp2221.Effect.Protocol

/-!
# Reentrant operations

One thread runs operations that emit signals.  Whoever receives a signal may run further
operations before the emission returns, and these may emit again: the thread has a stack
of frames, and only the frame on top moves.

What a frame does is a run of its own program, whatever happens inside its emissions
(`Dispatcher.Reachable.ended`, `Dispatcher.Reachable.running`), so a fact about the runs
of a program is a fact about each of its frames.  `Dispatcher.Reachable.guarded` is the
rule for what they share: an invariant that holds at every emission.
-/

namespace Effect

/-- A plain effect, or a signal. -/
inductive Act (E Sg : Type) where
  | effect (e : E)
  | signal (sg : Sg)

@[reducible] def Act.Reply {E Sg : Type} (R : E → Type) : Act E Sg → Type
  | .effect e => R e
  | .signal _ => Unit

abbrev ActEvent {E : Type} (R : E → Type) (Sg : Type) : Type := Prog.Event (@Act.Reply E Sg R)

/-- What each operation does, and what its plain effects do to the state. -/
structure Dispatcher (E : Type) (R : E → Type) (Sg ε Op S : Type) where
  prog : Op → Prog (Act E Sg) (Act.Reply R) ε Unit
  effect : S → (e : E) → R e → S → Prop

namespace Dispatcher

variable {E : Type} {R : E → Type} {Sg ε Op S : Type}

/-- One call of an operation; `delivering` while a signal of it is being received. -/
structure Frame (D : Dispatcher E R Sg ε Op S) where
  id : Nat
  op : Op
  rest : Prog (Act E Sg) (Act.Reply R) ε Unit
  delivering : Bool

/-- What can be observed of the frame `id`. -/
inductive Entry (D : Dispatcher E R Sg ε Op S) where
  | called (id : Nat) (op : Op)
  | did (id : Nat) (ev : ActEvent R Sg)
  | ended (id : Nat) (out : Except ε Unit)

structure Config (D : Dispatcher E R Sg ε Op S) where
  state : S
  stack : List D.Frame
  next : Nat
  log : List D.Entry

variable {D : Dispatcher E R Sg ε Op S}

/-- One step.  An operation is called when no other one runs, or by a receiver of a
    signal. -/
inductive Step (D : Dispatcher E R Sg ε Op S) : D.Config → D.Config → Prop where
  | call (s : S) (fs : List D.Frame) (n : Nat) (log : List D.Entry) (op : Op)
      (hopen : ∀ f ∈ fs.head?, f.delivering = true) :
      Step D ⟨s, fs, n, log⟩ ⟨s, ⟨n, op, D.prog op, false⟩ :: fs, n + 1, log ++ [.called n op]⟩
  | effect (s : S) (fs : List D.Frame) (n : Nat) (log : List D.Entry) (id : Nat) (op : Op) (e : E)
      (k : R e → Prog (Act E Sg) (Act.Reply R) ε Unit) (r : R e) (s' : S)
      (heffect : D.effect s e r s') :
      Step D ⟨s, ⟨id, op, .vis (.effect e) k, false⟩ :: fs, n, log⟩
        ⟨s', ⟨id, op, k r, false⟩ :: fs, n, log ++ [.did id ⟨.effect e, r⟩]⟩
  | emit (s : S) (fs : List D.Frame) (n : Nat) (log : List D.Entry) (id : Nat) (op : Op) (sg : Sg)
      (k : Unit → Prog (Act E Sg) (Act.Reply R) ε Unit) :
      Step D ⟨s, ⟨id, op, .vis (.signal sg) k, false⟩ :: fs, n, log⟩
        ⟨s, ⟨id, op, k (), true⟩ :: fs, n, log ++ [.did id ⟨.signal sg, ()⟩]⟩
  | received (s : S) (fs : List D.Frame) (n : Nat) (log : List D.Entry) (id : Nat) (op : Op)
      (p : Prog (Act E Sg) (Act.Reply R) ε Unit) :
      Step D ⟨s, ⟨id, op, p, true⟩ :: fs, n, log⟩ ⟨s, ⟨id, op, p, false⟩ :: fs, n, log⟩
  -- a receiver does not let the exception of an operation pass
  | stop (s : S) (fs : List D.Frame) (n : Nat) (log : List D.Entry) (id : Nat) (op : Op)
      (out : Except ε Unit) :
      Step D ⟨s, ⟨id, op, Prog.ofExcept out, false⟩ :: fs, n, log⟩
        ⟨s, fs, n, log ++ [.ended id out]⟩

/-- What the thread may reach from the state `s₀`. -/
inductive Reachable (D : Dispatcher E R Sg ε Op S) (s₀ : S) : D.Config → Prop where
  | init : Reachable D s₀ ⟨s₀, [], 0, []⟩
  | step {c c' : D.Config} : Reachable D s₀ c → D.Step c c' → Reachable D s₀ c'

/-! ## Building a run -/

section Build

variable {D : Dispatcher E R Sg ε Op S} {s₀ s s' : S} {f : D.Frame} {fs : List D.Frame}
  {n id : Nat} {log : List D.Entry} {op : Op}

theorem Reachable.call (h : D.Reachable s₀ ⟨s, fs, n, log⟩) (op : Op)
    (hopen : ∀ f ∈ fs.head?, f.delivering = true) :
    D.Reachable s₀ ⟨s, ⟨n, op, D.prog op, false⟩ :: fs, n + 1, log ++ [.called n op]⟩ :=
  .step h (.call s fs n log op hopen)

theorem Reachable.effect {e : E} {k : R e → Prog (Act E Sg) (Act.Reply R) ε Unit}
    (h : D.Reachable s₀ ⟨s, ⟨id, op, .vis (.effect e) k, false⟩ :: fs, n, log⟩) (r : R e)
    (heffect : D.effect s e r s') :
    D.Reachable s₀ ⟨s', ⟨id, op, k r, false⟩ :: fs, n, log ++ [.did id ⟨.effect e, r⟩]⟩ :=
  .step h (.effect s fs n log id op e k r s' heffect)

theorem Reachable.emit {sg : Sg} {k : Unit → Prog (Act E Sg) (Act.Reply R) ε Unit}
    (h : D.Reachable s₀ ⟨s, ⟨id, op, .vis (.signal sg) k, false⟩ :: fs, n, log⟩) :
    D.Reachable s₀ ⟨s, ⟨id, op, k (), true⟩ :: fs, n, log ++ [.did id ⟨.signal sg, ()⟩]⟩ :=
  .step h (.emit s fs n log id op sg k)

theorem Reachable.received {p : Prog (Act E Sg) (Act.Reply R) ε Unit}
    (h : D.Reachable s₀ ⟨s, ⟨id, op, p, true⟩ :: fs, n, log⟩) :
    D.Reachable s₀ ⟨s, ⟨id, op, p, false⟩ :: fs, n, log⟩ :=
  .step h (.received s fs n log id op p)

theorem Reachable.stop (out : Except ε Unit)
    (h : D.Reachable s₀ ⟨s, ⟨id, op, Prog.ofExcept out, false⟩ :: fs, n, log⟩) :
    D.Reachable s₀ ⟨s, fs, n, log ++ [.ended id out]⟩ :=
  .step h (.stop s fs n log id op out)

end Build

/-! ## The history of a frame -/

namespace Entry

def id : D.Entry → Nat
  | called id _ => id
  | did id _ => id
  | ended id _ => id

/-- The event of the frame `i`, if the entry is one. -/
def event? (i : Nat) : D.Entry → Option (ActEvent R Sg)
  | did j ev => if j = i then some ev else none
  | _ => none

theorem event?_of_ne {i : Nat} {x : D.Entry} (h : x.id ≠ i) : x.event? i = none := by
  cases x with
  | did j ev => exact if_neg h
  | called | ended => rfl

end Entry

/-- What the frame `i` has done. -/
def history (i : Nat) (log : List D.Entry) : List (ActEvent R Sg) :=
  log.filterMap (Entry.event? i)

theorem history_append (i : Nat) (log : List D.Entry) (x : D.Entry) :
    history i (log ++ [x]) = history i log ++ (x.event? i).toList := by
  cases h : x.event? i <;> simp [history, h]

theorem history_append_of_ne {i : Nat} (log : List D.Entry) {x : D.Entry} (h : x.id ≠ i) :
    history i (log ++ [x]) = history i log := by
  rw [history_append, Entry.event?_of_ne h]
  exact List.append_nil _

theorem history_append_did (i : Nat) (log : List D.Entry)
    (ev : ActEvent R Sg) :
    history i (log ++ [.did i ev]) = history i log ++ [ev] := by
  simp [history_append, Entry.event?]

theorem history_append_call (i : Nat) (log : List D.Entry) (n : Nat) (op : Op) :
    history i (log ++ [.called n op]) = history i log := by
  simp [history_append, Entry.event?]

theorem history_append_ended (i : Nat) (log : List D.Entry) (n : Nat) (out : Except ε Unit) :
    history i (log ++ [.ended n out]) = history i log := by
  simp [history_append, Entry.event?]

/-- Nobody has done anything under a name that is not given out yet. -/
theorem history_eq_nil {i : Nat} {log : List D.Entry} (h : ∀ x ∈ log, x.id < i) :
    history i log = [] :=
  List.filterMap_eq_nil_iff.mpr fun x hx => Entry.event?_of_ne (Nat.ne_of_lt (h x hx))

/-! ## Frames -/

/-- Every frame has a name of its own, and has done what its program does. -/
structure Config.Ok (c : D.Config) : Prop where
  below : ∀ x ∈ c.log, x.id < c.next
  callers : ∀ i op op', .called i op ∈ c.log → .called i op' ∈ c.log → op = op'
  names : (c.stack.map Frame.id).Nodup
  running : ∀ f ∈ c.stack, .called f.id f.op ∈ c.log ∧
    (D.prog f.op).Reaches (history f.id c.log) f.rest
  ended : ∀ i out, .ended i out ∈ c.log → (∀ f ∈ c.stack, f.id ≠ i) ∧
    ∃ op, .called i op ∈ c.log ∧ (D.prog op).Runs (history i c.log) out
  accounted : ∀ i op, .called i op ∈ c.log →
    (∃ f ∈ c.stack, f.id = i) ∨ ∃ out, .ended i out ∈ c.log

/-- A new entry of a frame on the stack, which goes on with `rest`. -/
theorem Config.Ok.advance {s s' : S} {fs : List D.Frame} {n : Nat} {log : List D.Entry}
    {f : D.Frame} (h : Config.Ok ⟨s, f :: fs, n, log⟩) (a : Act E Sg) (r : Act.Reply R a)
    (rest : Prog (Act E Sg) (Act.Reply R) ε Unit) (delivering : Bool)
    (hrest : (D.prog f.op).Reaches (history f.id log ++ [⟨a, r⟩]) rest) :
    Config.Ok ⟨s', ⟨f.id, f.op, rest, delivering⟩ :: fs, n, log ++ [.did f.id ⟨a, r⟩]⟩ := by
  obtain ⟨hcalled, -⟩ := h.running f List.mem_cons_self
  have hname : f.id < n := h.below _ hcalled
  have hold : ∀ x : D.Entry, (∀ i ev, x ≠ .did i ev) → x ∈ log ++ [.did f.id ⟨a, r⟩] → x ∈ log := by
    intro x hx hmem
    obtain hmem | hmem := List.mem_append.mp hmem
    · exact hmem
    · exact absurd (List.mem_singleton.mp hmem) (hx _ _)
  have hother : ∀ i, i ≠ f.id → history i (log ++ [.did f.id ⟨a, r⟩]) = history i log :=
    fun i hi => history_append_of_ne log (Ne.symm hi)
  refine ⟨?_, ?_, h.names, ?_, ?_, ?_⟩
  · intro x hx
    obtain hx | hx := List.mem_append.mp hx
    · exact h.below x hx
    · rw [List.mem_singleton.mp hx]
      exact hname
  · exact fun i op op' hi hi' => h.callers i op op' (hold _ nofun hi) (hold _ nofun hi')
  · intro g hg
    obtain rfl | hg := List.mem_cons.mp hg
    · refine ⟨List.mem_append_left _ hcalled, ?_⟩
      rw [history_append_did]
      exact hrest
    · obtain ⟨hgcalled, hreaches⟩ := h.running g (List.mem_cons_of_mem _ hg)
      have hne : g.id ≠ f.id := fun heq =>
        (List.nodup_cons.mp h.names).1 (List.mem_map.mpr ⟨g, hg, heq⟩)
      refine ⟨List.mem_append_left _ hgcalled, ?_⟩
      rw [hother _ hne]
      exact hreaches
  · intro i out hi
    obtain ⟨hgone, op, hop, hruns⟩ := h.ended i out (hold _ nofun hi)
    have hne : i ≠ f.id := (hgone f List.mem_cons_self).symm
    refine ⟨fun g hg => ?_, op, List.mem_append_left _ hop, ?_⟩
    · obtain rfl | hg := List.mem_cons.mp hg
      · exact hne.symm
      · exact hgone g (List.mem_cons_of_mem _ hg)
    · rw [hother _ hne]
      exact hruns
  · intro i op hi
    obtain ⟨g, hg, hid⟩ | ⟨out, hout⟩ := h.accounted i op (hold _ nofun hi)
    · obtain rfl | hg := List.mem_cons.mp hg
      · exact .inl ⟨_, List.mem_cons_self, hid⟩
      · exact .inl ⟨g, List.mem_cons_of_mem _ hg, hid⟩
    · exact .inr ⟨out, List.mem_append_left _ hout⟩

theorem Config.Ok.call {s : S} {fs : List D.Frame} {n : Nat} {log : List D.Entry}
    (h : Config.Ok ⟨s, fs, n, log⟩) (op : Op) :
    Config.Ok ⟨s, ⟨n, op, D.prog op, false⟩ :: fs, n + 1, log ++ [.called n op]⟩ := by
  have hnew : ∀ i op', .called i op' ∈ log → i ≠ n :=
    fun i op' hi => Nat.ne_of_lt (h.below _ hi)
  refine ⟨?_, ?_, ?_, ?_, ?_, ?_⟩
  · intro x hx
    obtain hx | hx := List.mem_append.mp hx
    · exact Nat.lt_succ_of_lt (h.below x hx)
    · rw [List.mem_singleton.mp hx]
      exact Nat.lt_succ_self n
  · intro i op₁ op₂ h₁ h₂
    obtain h₁ | h₁ := List.mem_append.mp h₁ <;> obtain h₂ | h₂ := List.mem_append.mp h₂
    · exact h.callers i op₁ op₂ h₁ h₂
    · cases List.mem_singleton.mp h₂
      exact absurd rfl (hnew _ _ h₁)
    · cases List.mem_singleton.mp h₁
      exact absurd rfl (hnew _ _ h₂)
    · cases List.mem_singleton.mp h₁
      cases List.mem_singleton.mp h₂
      rfl
  · refine List.nodup_cons.mpr ⟨fun hmem => ?_, h.names⟩
    obtain ⟨f, hf, hid⟩ := List.mem_map.mp hmem
    exact hnew _ _ (h.running f hf).1 hid
  · intro f hf
    rw [history_append_call]
    obtain rfl | hf := List.mem_cons.mp hf
    · refine ⟨List.mem_append_right _ List.mem_cons_self, ?_⟩
      rw [history_eq_nil h.below]
      exact .refl _
    · obtain ⟨hcalled, hreaches⟩ := h.running f hf
      exact ⟨List.mem_append_left _ hcalled, hreaches⟩
  · intro i out hi
    obtain hi | hi := List.mem_append.mp hi
    · obtain ⟨hgone, op', hop', hruns⟩ := h.ended i out hi
      refine ⟨fun f hf => ?_, op', List.mem_append_left _ hop', ?_⟩
      · obtain rfl | hf := List.mem_cons.mp hf
        · exact (hnew _ _ hop').symm
        · exact hgone f hf
      · rw [history_append_call]
        exact hruns
    · cases List.mem_singleton.mp hi
  · intro i op' hi
    obtain hi | hi := List.mem_append.mp hi
    · obtain ⟨f, hf, hid⟩ | ⟨out, hout⟩ := h.accounted i op' hi
      · exact .inl ⟨f, List.mem_cons_of_mem _ hf, hid⟩
      · exact .inr ⟨out, List.mem_append_left _ hout⟩
    · cases List.mem_singleton.mp hi
      exact .inl ⟨_, List.mem_cons_self, rfl⟩

theorem Config.Ok.stop {s : S} {fs : List D.Frame} {n : Nat} {log : List D.Entry} {id : Nat}
    {op : Op} {out : Except ε Unit}
    (h : Config.Ok ⟨s, ⟨id, op, Prog.ofExcept out, false⟩ :: fs, n, log⟩) :
    Config.Ok ⟨s, fs, n, log ++ [.ended id out]⟩ := by
  obtain ⟨hcalled, hreaches⟩ := h.running _ List.mem_cons_self
  have hname : id < n := h.below _ hcalled
  obtain ⟨hfresh, hnames⟩ := List.nodup_cons.mp h.names
  have hold : ∀ i op', .called i op' ∈ log ++ [.ended id out] → .called i op' ∈ log := by
    intro i op' hi
    obtain hi | hi := List.mem_append.mp hi
    · exact hi
    · cases List.mem_singleton.mp hi
  refine ⟨?_, ?_, hnames, ?_, ?_, ?_⟩
  · intro x hx
    obtain hx | hx := List.mem_append.mp hx
    · exact h.below x hx
    · rw [List.mem_singleton.mp hx]
      exact hname
  · exact fun i op₁ op₂ h₁ h₂ => h.callers i op₁ op₂ (hold _ _ h₁) (hold _ _ h₂)
  · intro f hf
    obtain ⟨hfcalled, hfreaches⟩ := h.running f (List.mem_cons_of_mem _ hf)
    rw [history_append_ended]
    exact ⟨List.mem_append_left _ hfcalled, hfreaches⟩
  · intro i out' hi
    obtain hi | hi := List.mem_append.mp hi
    · obtain ⟨hgone, op', hop', hruns⟩ := h.ended i out' hi
      rw [history_append_ended]
      exact ⟨fun f hf => hgone f (List.mem_cons_of_mem _ hf), op',
        List.mem_append_left _ hop', hruns⟩
    · cases List.mem_singleton.mp hi
      refine ⟨fun f hf heq => hfresh (List.mem_map.mpr ⟨f, hf, heq⟩), op,
        List.mem_append_left _ hcalled, ?_⟩
      have hruns := hreaches.runs (Prog.runs_ofExcept out)
      rw [List.append_nil] at hruns
      rw [history_append_ended]
      exact hruns
  · intro i op' hi
    obtain ⟨f, hf, hid⟩ | ⟨out', hout'⟩ := h.accounted i op' (hold _ _ hi)
    · obtain rfl | hf := List.mem_cons.mp hf
      · exact .inr ⟨out, hid ▸ List.mem_append_right _ List.mem_cons_self⟩
      · exact .inl ⟨f, hf, hid⟩
    · exact .inr ⟨out', List.mem_append_left _ hout'⟩

theorem Config.Ok.step {c c' : D.Config} (h : c.Ok) (hstep : D.Step c c') : c'.Ok := by
  cases hstep with
  | call s fs n log op _ => exact h.call op
  | effect s fs n log id op e k r s' _ =>
    exact h.advance (.effect e) r (k r) false ((h.running _ List.mem_cons_self).2.snoc r)
  | emit s fs n log id op sg k =>
    exact h.advance (.signal sg) () (k ()) true ((h.running _ List.mem_cons_self).2.snoc ())
  | received s fs n log id op p =>
    refine ⟨h.below, h.callers, h.names, fun f hf => ?_, fun i out hi => ?_, fun i op' hi => ?_⟩
    · obtain rfl | hf := List.mem_cons.mp hf
      · exact h.running ⟨id, op, p, true⟩ List.mem_cons_self
      · exact h.running f (List.mem_cons_of_mem _ hf)
    · obtain ⟨hgone, hruns⟩ := h.ended i out hi
      refine ⟨fun f hf => ?_, hruns⟩
      obtain rfl | hf := List.mem_cons.mp hf
      · exact hgone ⟨id, op, p, true⟩ List.mem_cons_self
      · exact hgone f (List.mem_cons_of_mem _ hf)
    · obtain ⟨f, hf, hid⟩ | hout := h.accounted i op' hi
      · obtain rfl | hf := List.mem_cons.mp hf
        · exact .inl ⟨_, List.mem_cons_self, hid⟩
        · exact .inl ⟨f, List.mem_cons_of_mem _ hf, hid⟩
      · exact .inr hout
  | stop s fs n log id op out => exact h.stop

variable {s₀ : S} {c : D.Config}

theorem Reachable.ok (h : D.Reachable s₀ c) : c.Ok := by
  induction h with
  | init => exact ⟨nofun, nofun, List.nodup_nil, nofun, nofun, nofun⟩
  | step _ hstep ih => exact ih.step hstep

/-- **What a frame that has ended did is a run of its program**, whatever else was run in
    the meantime. -/
theorem Reachable.ended (h : D.Reachable s₀ c) {i : Nat} {op : Op} {out : Except ε Unit}
    (hcalled : .called i op ∈ c.log) (hended : .ended i out ∈ c.log) :
    (D.prog op).Runs (history i c.log) out := by
  obtain ⟨-, op', hop', hruns⟩ := h.ok.ended i out hended
  rw [h.ok.callers i op op' hcalled hop']
  exact hruns

/-- What any frame has done is the beginning of a run of its program. -/
theorem Reachable.begun (hreply : ∀ e, Nonempty (R e)) (h : D.Reachable s₀ c) {i : Nat} {op : Op}
    (hcalled : .called i op ∈ c.log) :
    ∃ rest out, (D.prog op).Runs (history i c.log ++ rest) out := by
  obtain ⟨f, hf, rfl⟩ | ⟨out, hout⟩ := h.ok.accounted i op hcalled
  · obtain ⟨hfcalled, hreaches⟩ := h.ok.running f hf
    rw [h.ok.callers _ _ _ hcalled hfcalled]
    refine hreaches.complete fun a => ?_
    cases a with
    | effect e => exact hreply e
    | signal => exact ⟨()⟩
  · refine ⟨[], out, ?_⟩
    rw [List.append_nil]
    exact h.ended hcalled hout

/-! ## Guards -/

/-- The events of all frames, in their order. -/
def events (log : List D.Entry) : List (ActEvent R Sg) :=
  log.filterMap fun
    | .did _ ev => some ev
    | _ => none

@[simp] theorem events_called (log : List D.Entry) (i : Nat) (op : Op) :
    events (log ++ [.called i op]) = events log := by
  simp [events]

@[simp] theorem events_ended (log : List D.Entry) (i : Nat) (out : Except ε Unit) :
    events (log ++ [.ended i out]) = events log := by
  simp [events]

@[simp] theorem events_did (log : List D.Entry) (i : Nat)
    (ev : ActEvent R Sg) :
    events (log ++ [.did i ev]) = events log ++ [ev] := by
  simp [events]

/-- Further operations may be called. -/
def Config.Open (c : D.Config) : Prop := ∀ f ∈ c.stack.head?, f.delivering = true

/-- An invariant of what the operations share.  Each operation follows a protocol that
    begins at `rest`, is at `rest` again when a signal is received, and may end where the
    invariant of `rest` holds. -/
structure Guard (D : Dispatcher E R Sg ε Op S) (s₀ : S) (Q : Type) where
  protocol : Protocol (Act E Sg) (Act.Reply R) Q
  rest : Q
  inv : Q → S → List (ActEvent R Sg) → Prop
  initial : inv rest s₀ []
  final : Op → Except ε Unit → Q → Prop
  keeps : ∀ op, (D.prog op).wp protocol rest (final op)
  settle : ∀ op out q s evs, final op out q → inv q s evs → inv rest s evs
  effect : ∀ q s evs e r s', inv q s evs → protocol.allow q (.effect e) → D.effect s e r s' →
    protocol.rely q (.effect e) r ∧ inv (protocol.next q (.effect e) r) s' (evs ++ [⟨.effect e, r⟩])
  signal : ∀ q s evs sg, inv q s evs → protocol.allow q (.signal sg) →
    protocol.rely q (.signal sg) () ∧ protocol.next q (.signal sg) () = rest ∧
      inv rest s (evs ++ [⟨.signal sg, ()⟩])

namespace Guard

variable {Q : Type} {G : Guard D s₀ Q}

/-- The rest of a frame keeps to the protocol. -/
def Follows (G : Guard D s₀ Q) (q : Q) (f : D.Frame) : Prop :=
  f.rest.wp G.protocol q (G.final f.op)

/-- The frame on top stands at `q`, the others stand at `rest` inside an emission. -/
structure Holds (G : Guard D s₀ Q) (c : D.Config) (q : Q) : Prop where
  inv : G.inv q c.state (events c.log)
  rest : c.Open → q = G.rest
  top : ∀ f ∈ c.stack.head?, G.Follows q f
  below : ∀ f ∈ c.stack.tail, f.delivering = true ∧ G.Follows G.rest f

theorem Holds.step {c c' : D.Config} {q : Q} (h : G.Holds c q) (hstep : D.Step c c') :
    ∃ q', G.Holds c' q' := by
  cases hstep with
  | call s fs n log op hopen =>
    obtain rfl := h.rest hopen
    refine ⟨G.rest, by simpa using h.inv, fun _ => rfl, fun f hf => ?_, fun f hf => ?_⟩
    · cases hf
      exact G.keeps op
    · have hf : f ∈ fs := hf
      cases fs with
      | nil => cases hf
      | cons g gs =>
        obtain rfl | hf := List.mem_cons.mp hf
        · exact ⟨hopen f rfl, h.top f rfl⟩
        · exact h.below f hf
  | effect s fs n log id op e k r s' heffect =>
    have htop : (Prog.vis (.effect e) k).wp G.protocol q (G.final op) := h.top _ rfl
    obtain ⟨hallow, hrest⟩ := htop
    obtain ⟨hrely, hinv⟩ := G.effect q s _ e r s' h.inv hallow heffect
    refine ⟨_, by simpa using hinv, fun hopen => ?_, fun f hf => ?_, h.below⟩
    · exact absurd (hopen _ rfl) Bool.false_ne_true
    · cases hf
      exact hrest r hrely
  | emit s fs n log id op sg k =>
    have htop : (Prog.vis (.signal sg) k).wp G.protocol q (G.final op) := h.top _ rfl
    obtain ⟨hallow, hrest⟩ := htop
    obtain ⟨hrely, hnext, hinv⟩ := G.signal q s _ sg h.inv hallow
    refine ⟨G.rest, by simpa using hinv, fun _ => rfl, fun f hf => ?_, h.below⟩
    cases hf
    exact hnext ▸ hrest () hrely
  | received s fs n log id op p =>
    obtain rfl := h.rest fun f hf => by cases hf; rfl
    refine ⟨G.rest, h.inv, fun _ => rfl, fun f hf => ?_, h.below⟩
    cases hf
    exact h.top ⟨id, op, p, true⟩ rfl
  | stop s fs n log id op out =>
    have htop : (Prog.ofExcept out : Prog (Act E Sg) (Act.Reply R) ε Unit).wp G.protocol q
        (G.final op) := h.top _ rfl
    have hinv := G.settle op out q s _ (Prog.wp_ofExcept.mp htop) h.inv
    refine ⟨G.rest, by simpa using hinv, fun _ => rfl, fun f hf => ?_, fun f hf => ?_⟩
    · exact (h.below f (List.mem_of_mem_head? hf)).2
    · exact h.below f (List.mem_of_mem_tail hf)

/-- **The guard holds in every reachable configuration.** -/
theorem reachable (G : Guard D s₀ Q) (h : D.Reachable s₀ c) : ∃ q, G.Holds c q := by
  induction h with
  | init => exact ⟨G.rest, G.initial, fun _ => rfl, nofun, nofun⟩
  | step _ hstep ih =>
    obtain ⟨q, hq⟩ := ih
    exact hq.step hstep

end Guard

end Dispatcher

end Effect
