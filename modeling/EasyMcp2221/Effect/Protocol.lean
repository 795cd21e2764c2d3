import EasyMcp2221.Effect.Program

/-!
# Protocols and weakest preconditions

A protocol is a local typestate: the states `Q` an executing program passes
through, the effects it may perform in each of them (`allow`), what the
environment promises about a reply (`rely`), and the next state (`next`).
`Prog.wp P p q Φ` says that `p`, started in `q`, performs only allowed effects
whatever relied-upon replies it gets, and ends in an outcome and a state that
satisfy `Φ`.  It is defined by recursion on the program, so the rules for
sequencing, scopes and handlers are equivalences, and `wp_runs` turns it into a
statement about every trace.
-/

namespace Effect

/-- A typestate over the effects `E` with replies `R`. -/
structure Protocol (E : Type) (R : E → Type) (Q : Type) where
  allow : Q → E → Prop
  rely : Q → (e : E) → R e → Prop
  next : Q → (e : E) → R e → Q

namespace Protocol

variable {E : Type} {R : E → Type} {Q : Type}

/-- The state after a trace. -/
def after (P : Protocol E R Q) (q : Q) : List (Prog.Event R) → Q
  | [] => q
  | ⟨e, r⟩ :: tr => P.after (P.next q e r) tr

/-- Every reply of the trace is one the environment promised. -/
def Relied (P : Protocol E R Q) : Q → List (Prog.Event R) → Prop
  | _, [] => True
  | q, ⟨e, r⟩ :: tr => P.rely q e r ∧ P.Relied (P.next q e r) tr

/-- Every effect of the trace is one the protocol permits. -/
def Allowed (P : Protocol E R Q) : Q → List (Prog.Event R) → Prop
  | _, [] => True
  | q, ⟨e, r⟩ :: tr => P.allow q e ∧ P.Allowed (P.next q e r) tr

@[simp] theorem after_nil (P : Protocol E R Q) (q : Q) : P.after q [] = q := rfl

@[simp] theorem after_cons (P : Protocol E R Q) (q : Q) (e : E) (r : R e)
    (tr : List (Prog.Event R)) :
    P.after q (⟨e, r⟩ :: tr) = P.after (P.next q e r) tr := rfl

@[simp] theorem relied_nil (P : Protocol E R Q) (q : Q) : P.Relied q [] := trivial

@[simp] theorem relied_cons (P : Protocol E R Q) (q : Q) (e : E) (r : R e)
    (tr : List (Prog.Event R)) :
    P.Relied q (⟨e, r⟩ :: tr) ↔ P.rely q e r ∧ P.Relied (P.next q e r) tr := Iff.rfl

theorem after_append (P : Protocol E R Q) (q : Q) (tr tr' : List (Prog.Event R)) :
    P.after q (tr ++ tr') = P.after (P.after q tr) tr' := by
  induction tr generalizing q with
  | nil => rfl
  | cons ev tr ih => exact ih _

theorem allowed_append (P : Protocol E R Q) (q : Q) (tr tr' : List (Prog.Event R)) :
    P.Allowed q (tr ++ tr') ↔ P.Allowed q tr ∧ P.Allowed (P.after q tr) tr' := by
  induction tr generalizing q with
  | nil => exact (iff_of_eq (true_and _)).symm
  | cons ev tr ih =>
    simp only [List.cons_append, Allowed, ih, and_assoc]
    rfl

theorem relied_append (P : Protocol E R Q) (q : Q) (tr tr' : List (Prog.Event R)) :
    P.Relied q (tr ++ tr') ↔ P.Relied q tr ∧ P.Relied (P.after q tr) tr' := by
  induction tr generalizing q with
  | nil => exact (iff_of_eq (true_and _)).symm
  | cons ev tr ih =>
    simp only [List.cons_append, Relied, ih, and_assoc]
    rfl

/-- A protocol that relies on nothing is relied upon by every trace. -/
theorem relied_of_forall {P : Protocol E R Q} (h : ∀ q e r, P.rely q e r) (q : Q)
    (tr : List (Prog.Event R)) : P.Relied q tr := by
  induction tr generalizing q with
  | nil => trivial
  | cons ev tr ih => exact ⟨h q ev.1 ev.2, ih _⟩

end Protocol

namespace Prog

variable {E : Type} {R : E → Type} {ε α β Q Q' : Type}

/-- Postconditions over the outcome and the last state. -/
abbrev Post (ε α Q : Type) : Type := Except ε α → Q → Prop

/-- The weakest precondition of `p` under the protocol `P`. -/
def wp (P : Protocol E R Q) : Prog E R ε α → Q → Post ε α Q → Prop
  | .ret a, q, Φ => Φ (.ok a) q
  | .throw x, q, Φ => Φ (.error x) q
  | .vis e k, q, Φ => P.allow q e ∧ ∀ r, P.rely q e r → (k r).wp P (P.next q e r) Φ

section Rules

variable {P : Protocol E R Q}

@[simp] theorem wp_ret {a : α} {q : Q} {Φ : Post ε α Q} :
    (ret a : Prog E R ε α).wp P q Φ ↔ Φ (.ok a) q := Iff.rfl

@[simp] theorem wp_throw {x : ε} {q : Q} {Φ : Post ε α Q} :
    (throw x : Prog E R ε α).wp P q Φ ↔ Φ (.error x) q := Iff.rfl

@[simp] theorem wp_vis {e : E} {k : R e → Prog E R ε α} {q : Q} {Φ : Post ε α Q} :
    (vis e k).wp P q Φ ↔
      P.allow q e ∧ ∀ r, P.rely q e r → (k r).wp P (P.next q e r) Φ := Iff.rfl

@[simp] theorem wp_perform {e : E} {q : Q} {Φ : Post ε (R e) Q} :
    (perform e : Prog E R ε (R e)).wp P q Φ ↔
      P.allow q e ∧ ∀ r, P.rely q e r → Φ (.ok r) (P.next q e r) := Iff.rfl

@[simp] theorem wp_ofExcept {x : Except ε α} {q : Q} {Φ : Post ε α Q} :
    (ofExcept x : Prog E R ε α).wp P q Φ ↔ Φ x q := by
  cases x <;> rfl

/-- What a continuation owes to the outcome of the program before it. -/
def andThen (P : Protocol E R Q) (f : α → Prog E R ε β) (Φ : Post ε β Q) : Post ε α Q
  | .ok a, q => (f a).wp P q Φ
  | .error x, q => Φ (.error x) q

@[simp] theorem andThen_ok {f : α → Prog E R ε β} {Φ : Post ε β Q} {a : α} {q : Q} :
    andThen P f Φ (.ok a) q ↔ (f a).wp P q Φ := Iff.rfl

@[simp] theorem andThen_error {f : α → Prog E R ε β} {Φ : Post ε β Q} {x : ε} {q : Q} :
    andThen P f Φ (.error x) q ↔ Φ (.error x) q := Iff.rfl

theorem wp_bind {p : Prog E R ε α} {f : α → Prog E R ε β} {q : Q} {Φ : Post ε β Q} :
    (p.bind f).wp P q Φ ↔ p.wp P q (andThen P f Φ) := by
  induction p generalizing q with
  | ret a => rfl
  | throw x => rfl
  | vis e k ih => simp only [vis_bind, wp_vis, ih]

/-- A check that succeeds. -/
theorem wp_require {x : Except ε α} {a : α} {f : α → Prog E R ε β} {q : Q} {Φ : Post ε β Q}
    (hx : x = .ok a) (h : (f a).wp P q Φ) : ((ofExcept x).bind f).wp P q Φ := by
  subst hx
  exact h

/-- The consequence rule. -/
theorem wp_mono {p : Prog E R ε α} {q : Q} {Φ Ψ : Post ε α Q}
    (h : p.wp P q Φ) (himp : ∀ out q', Φ out q' → Ψ out q') : p.wp P q Ψ := by
  induction p generalizing q with
  | ret a => exact himp _ _ h
  | throw x => exact himp _ _ h
  | vis e k ih => exact ⟨h.1, fun r hr => ih r (h.2 r hr)⟩

/-- What a clean-up owes to the outcome of the scope it ends: on its normal end
    the outcome of the scope stands. -/
def onExit (P : Protocol E R Q) (c : Prog E R ε Unit) (Φ : Post ε α Q) : Post ε α Q :=
  fun out q => c.wp P q fun cout q' =>
    match cout with
    | .ok _ => Φ out q'
    | .error x => Φ (.error x) q'

theorem wp_cleanup {p : Prog E R ε α} {c : Prog E R ε Unit} {q : Q} {Φ : Post ε α Q} :
    (p.cleanup c).wp P q Φ ↔ p.wp P q (onExit P c Φ) := by
  induction p generalizing q with
  | ret a =>
    simp only [cleanup, wp_bind, wp_ret, onExit]
    constructor <;>
      exact fun h => wp_mono h fun out q' => by cases out <;> exact id
  | throw x =>
    simp only [cleanup, wp_bind, wp_throw, onExit]
    constructor <;>
      exact fun h => wp_mono h fun out q' => by cases out <;> exact id
  | vis e k ih => simp only [cleanup, wp_vis, ih]

theorem wp_handle {p : Prog E R ε α} {h : ε → Prog E R ε α} {q : Q} {Φ : Post ε α Q} :
    (p.handle h).wp P q Φ ↔ p.wp P q fun out q' =>
      match out with
      | .ok a => Φ (.ok a) q'
      | .error x => (h x).wp P q' Φ := by
  induction p generalizing q with
  | ret a => rfl
  | throw x => rfl
  | vis e k ih => simp only [handle, wp_vis, ih]

theorem wp_void {p : Prog E R ε α} {q : Q} {Φ : Post ε Unit Q} :
    p.void.wp P q Φ ↔ p.wp P q fun out q' =>
      match out with
      | .ok _ => Φ (.ok ()) q'
      | .error x => Φ (.error x) q' := by
  rw [void, wp_bind]
  constructor <;> exact fun h => wp_mono h fun out q' => by cases out <;> exact id

end Rules

/-- **Adequacy.**  On every trace whose replies the environment promised, a
    program that satisfies its weakest precondition performed only allowed effects
    and ended as its postcondition says. -/
theorem wp_runs {P : Protocol E R Q} {p : Prog E R ε α} {q : Q} {Φ : Post ε α Q}
    (h : p.wp P q Φ) {tr : List (Event R)} {out : Except ε α} (hruns : p.Runs tr out)
    (hrely : P.Relied q tr) : P.Allowed q tr ∧ Φ out (P.after q tr) := by
  induction hruns generalizing q with
  | ret a => exact ⟨trivial, h⟩
  | throw x => exact ⟨trivial, h⟩
  | vis r _ ih =>
    obtain ⟨hrest, hpost⟩ := ih (h.2 r hrely.1) hrely.2
    exact ⟨⟨h.1, hrest⟩, hpost⟩

/-- On the way, too, a program keeps to the protocol. -/
theorem wp_reaches {P : Protocol E R Q} {p p' : Prog E R ε α} {q : Q} {Φ : Post ε α Q}
    (h : p.wp P q Φ) {tr : List (Event R)} (hreaches : p.Reaches tr p') (hrely : P.Relied q tr) :
    p'.wp P (P.after q tr) Φ := by
  induction hreaches generalizing q with
  | refl => exact h
  | vis r _ ih => exact ih (h.2 r hrely.1) hrely.2

/-- A program that performs only allowed effects, each of which has a promised reply,
    has a run. -/
theorem wp_live {P : Protocol E R Q} (hlive : ∀ q e, P.allow q e → ∃ r, P.rely q e r)
    {p : Prog E R ε α} {q : Q} {Φ : Post ε α Q} (h : p.wp P q Φ) :
    ∃ tr out, p.Runs tr out ∧ P.Relied q tr := by
  induction p generalizing q with
  | ret a => exact ⟨[], _, .ret a, trivial⟩
  | throw x => exact ⟨[], _, .throw x, trivial⟩
  | vis e k ih =>
    obtain ⟨r, hr⟩ := hlive q e h.1
    obtain ⟨tr, out, hruns, hrelied⟩ := ih r (h.2 r hr)
    exact ⟨⟨e, r⟩ :: tr, out, .vis r hruns, hr, hrelied⟩

/-- What the protocol permits at all bounds the effects of a program that keeps to it. -/
theorem only_of_wp {P : Protocol E R Q} {A : E → Prop} (hallow : ∀ q e, P.allow q e → A e)
    (hrely : ∀ q e r, P.rely q e r) {p : Prog E R ε α} {q : Q} {Φ : Post ε α Q}
    (h : p.wp P q Φ) : p.Only A := by
  induction p generalizing q with
  | ret | throw => trivial
  | vis e k ih => exact ⟨hallow q e h.1, fun r => ih r (h.2 r (hrely q e r))⟩

/-- **Transport between protocols.**  When every state of `P` is matched by a
    state of `P'` that allows at least as much and relies on no more, and the match
    survives each step, a program disciplined under `P` is disciplined under `P'`. -/
theorem wp_transport {P : Protocol E R Q} {P' : Protocol E R Q'} (Rel : Q → Q' → Prop)
    (hallow : ∀ q q' e, Rel q q' → P.allow q e → P'.allow q' e)
    (hrely : ∀ q q' e r, Rel q q' → P'.rely q' e r → P.rely q e r)
    (hnext : ∀ q q' e r, Rel q q' → P.allow q e → P'.rely q' e r →
      Rel (P.next q e r) (P'.next q' e r))
    {p : Prog E R ε α} {q : Q} {q' : Q'} {Φ : Post ε α Q} (hq : Rel q q')
    (h : p.wp P q Φ) : p.wp P' q' fun out s' => ∃ s, Rel s s' ∧ Φ out s := by
  induction p generalizing q q' with
  | ret a => exact ⟨q, hq, h⟩
  | throw x => exact ⟨q, hq, h⟩
  | vis e k ih =>
    refine ⟨hallow q q' e hq h.1, fun r hr => ?_⟩
    exact ih r (hnext q q' e r hq h.1 hr) (h.2 r (hrely q q' e r hq hr))

/-! ## Counting -/

/-- Everything is allowed; the state counts the effects that `p` marks. -/
def counting (p : E → Bool) : Protocol E R Nat where
  allow _ _ := True
  rely _ _ _ := True
  next n e _ := n + (p e).toNat

theorem counting_after (p : E → Bool) (n : Nat) (tr : List (Event R)) :
    (counting p).after n tr = n + tr.countP fun ev => p ev.1 := by
  induction tr generalizing n with
  | nil => rfl
  | cons ev tr ih =>
    rcases ev with ⟨e, r⟩
    have hnext : (counting p).next n e r = n + (p e).toNat := rfl
    rw [Protocol.after_cons, ih, hnext, List.countP_cons]
    cases hp : p e with
    | false => simp
    | true =>
      simp only [Bool.toNat_true, if_true]
      omega

/-- A program without marked effects. -/
theorem Only.wp_counting {p : E → Bool} {prog : Prog E R ε α} (h : prog.Only fun e => p e = false)
    (n : Nat) : prog.wp (counting p) n fun _ m => m = n := by
  induction prog generalizing n with
  | ret | throw => rfl
  | vis e k ih =>
    refine ⟨trivial, fun r _ => ?_⟩
    have hsame : (counting p).next n e r = n := by
      simp [counting, h.1]
    rw [hsame]
    exact ih r (h.2 r) n

/-- A run counts what its program counts. -/
theorem countP_of_wp {p : E → Bool} {prog : Prog E R ε α} {Φ : Post ε α Nat}
    (h : prog.wp (counting p) 0 Φ) {tr : List (Event R)} {out : Except ε α}
    (hruns : prog.Runs tr out) : Φ out (tr.countP fun ev => p ev.1) := by
  rcases wp_runs h hruns (Protocol.relied_of_forall (fun _ _ _ => trivial) 0 tr) with ⟨-, hpost⟩
  rw [counting_after, Nat.zero_add] at hpost
  exact hpost

end Prog

end Effect
