import EasyMcp2221.System.Serialisation

/-!
# Native structs are not raced

The `slave`, `bus` or `poll` of a child is a plain C struct without a lock of its own.  A
thread works on it in one of three ways: under the mutex of its device, before any other
thread can reach it, or after no other thread can reach it any more.
-/

namespace EasyMcp2221

open Effect

section

variable {T : Type} [NativeApi] {t t' : T} {op : Op} {s : Store T} {q : Position} {a : Addr}

/-- The native struct that an effect works on, or whose state object it deletes. -/
def Eff.struct? : Eff → Option Addr
  | .call c => c.struct?
  | .proc p => p.struct?
  | .own (.deleteChild a) => some a
  | _ => none

/-! ## The three ways to work on a struct -/

/-- How the thread `t` comes to work on the struct of the child at `a`. -/
inductive WorksOn (s : Store T) (t : T) (a : Addr) : Prop where
  /-- A wrapper object points to the child, and the thread holds the mutex of its device. -/
  | locked {v : Var} {d : Addr} (hpoints : s.child (.wrapper v) = some a)
      (hdev : s.dev (.member a) = some d) (hmutex : s.mutex d = some t)
  /-- Only the thread points to the child. -/
  | sole (hmine : s.child (.temp t) = some a) (hsole : ¬ Shared s.child (.temp t) a)
  /-- Nobody points to the child, and the thread deletes it. -/
  | dying {c : Child T} (hchild : s.children a = some c) (hdeleter : c.deleter = some t)

/-- The call that initialises a struct gets this struct. -/
theorem Op.IsInit.struct {d : DeviceState} {b : Addr} {c : NativeCall} (h : op.IsInit d b c) :
    c.struct? = some b := by
  cases op with
  | i2cDevice =>
    rcases h with ⟨width, order, -, -, rfl⟩
    rfl
  | smbusDevice =>
    cases h
    rfl
  | _ => exact h.elim

/-- A data operation works on the struct of its object under the mutex of the device. -/
theorem Attached.worksOn_locked {y : DataCall} {target : Target} {handle : HandlePtr}
    (h : Attached s t op ⟨.data y, .working, true⟩ handle) (htarget : y.target = some target)
    (hstruct : target.struct = some a) : WorksOn s t a := by
  obtain ⟨v, -, -, hpoints, hmember⟩ := Op.struct_of_target (h.resolve (.inr rfl)) htarget hstruct
  rcases Option.map_eq_some_iff.mp hmember with ⟨d, hdev, hd⟩
  have hdevice : (⟨.data y, .working, true⟩ : Position).device = some target.device :=
    congrArg (Option.map Target.device) htarget
  have hmutex := h.holds hdevice rfl
  rw [← hd] at hmutex
  exact .locked hpoints hdev hmutex

/-- **A thread works on a struct in one of three ways.** -/
theorem Attached.worksOn {handle : HandlePtr} (h : Attached s t op q handle) {e : Eff}
    (hpermits : q.Permits op e) (he : e.struct? = some a) : WorksOn s t a := by
  cases hpermits with
  | call htarget hserves => exact h.worksOn_locked htarget (hserves.2.1.symm.trans he)
  | setMask htarget =>
    cases he
    exact h.worksOn_locked htarget rfl
  | initChild htarget hinit =>
    cases hinit.struct.symm.trans he
    rcases h.stage with ⟨-, hmine, hsole, -⟩
    exact .sole hmine hsole
  | initPoller =>
    cases he
    rcases h.stage with ⟨-, hmine, hsole, -⟩
    exact .sole hmine hsole
  | smbusClose | deleteChild =>
    cases he
    rcases h.stage with ⟨-, -, c, hchild, hdeleter, -⟩
    exact .dying hchild hdeleter
  | setUp hdev hstruct =>
    cases hstruct.symm.trans he
  | relocate hop => cases op <;> cases hop <;> cases he
  | _ => cases he

/-! ## Exclusion -/

omit [NativeApi] in
/-- What some wrapper object or some other thread points to is not the thread's alone. -/
theorem shared_of_place {x : Place T Empty} (hx : s.child x = some a) (hne : x ≠ .temp t) :
    Shared s.child (.temp t) a :=
  ⟨x, hne, hx⟩

/-- A child that somebody points to is deleted by nobody. -/
theorem StoreOk.not_dying (hs : StoreOk s) {x : Place T Empty} (hx : s.child x = some a)
    {c : Child T} (hc : s.children a = some c) : c.deleter ≠ some t := by
  intro hdeleter
  rcases (hs.children.owned a).mp ⟨x, hx⟩ with ⟨c', hc', hnone⟩
  cases hc.symm.trans hc'
  rw [hdeleter] at hnone
  cases hnone

/-- Two threads that work on one struct are the same thread. -/
theorem WorksOn.exclusive (hs : StoreOk s) (h : WorksOn s t a) (h' : WorksOn s t' a) : t = t' := by
  cases h with
  | locked hpoints hdev hmutex =>
    cases h' with
    | locked _ hdev' hmutex' =>
      cases hdev.symm.trans hdev'
      exact Option.some.inj (hmutex.symm.trans hmutex')
    | sole _ hsole => exact absurd (shared_of_place hpoints (by simp)) hsole
    | dying hchild hdeleter => exact absurd hdeleter (hs.not_dying hpoints hchild)
  | sole hmine hsole =>
    cases h' with
    | locked hpoints => exact absurd (shared_of_place hpoints (by simp)) hsole
    | sole hmine' =>
      by_contra hne
      refine hsole (shared_of_place hmine' ?_)
      intro heq
      cases heq
      exact hne rfl
    | dying hchild hdeleter => exact absurd hdeleter (hs.not_dying hmine hchild)
  | dying hchild hdeleter =>
    cases h' with
    | locked hpoints => exact absurd hdeleter (hs.not_dying hpoints hchild)
    | sole hmine => exact absurd hdeleter (hs.not_dying hmine hchild)
    | dying hchild' hdeleter' =>
      cases hchild.symm.trans hchild'
      exact Option.some.inj (hdeleter.symm.trans hdeleter')

/-- The struct that a thread works on is there, and so is the device that it borrows. -/
theorem WorksOn.live (hs : StoreOk s) (h : WorksOn s t a) : ∃ c d hd, s.children a = some c ∧
    s.dev (.member a) = some d ∧ s.handles (.state d) = some hd ∧ c.birth.handle = some hd ∧
      IsOpen s.log hd := by
  have hchild : ∃ c, s.children a = some c := by
    cases h with
    | locked hpoints =>
      rcases (hs.children.owned a).mp ⟨_, hpoints⟩ with ⟨c, hc, -⟩
      exact ⟨c, hc⟩
    | sole hmine =>
      rcases (hs.children.owned a).mp ⟨_, hmine⟩ with ⟨c, hc, -⟩
      exact ⟨c, hc⟩
    | dying hc => exact ⟨_, hc⟩
  rcases hchild with ⟨c, hc⟩
  rcases hs.children.member a c hc with ⟨d, hd, hbirth⟩
  rcases (hs.devices.owned d).mp ⟨_, hd⟩ with ⟨hd', hhandle⟩
  exact ⟨c, d, hd', hc, hd, hhandle, hbirth.symm.trans hhandle,
    (hs.log.isOpen hd').mpr ⟨_, hhandle⟩⟩

end

section

variable {T : Type} [DecidableEq T] [NativeApi] {c : (system T).Config}

/-- **No native struct is raced or used after its end.**  In every reachable configuration
    of any number of threads:

    * an effect on the `slave`, `bus` or `poll` of a child finds the child alive, and alive
      with it the `DeviceState` whose open handle the child was created with;
    * at most one thread is about to perform such an effect on a given struct or is inside
      one, the deletion of the child included;
    * while a wrapper object points to the child, that thread holds the mutex of its
      device. -/
theorem structs_never_raced (hc : (system T).Reachable Store.empty c) :
    (∀ t op e a, c.Performs t op e → e.struct? = some a →
      ∃ child d hd, c.state.children a = some child ∧ c.state.dev (.member a) = some d ∧
        c.state.handles (.state d) = some hd ∧ child.birth.handle = some hd ∧
        IsOpen c.state.log hd) ∧
    (∀ t t' op op' e e' a, c.Performs t op e → c.Performs t' op' e' → e.struct? = some a →
      e'.struct? = some a → t = t') ∧
    (∀ t op e a v, c.Performs t op e → e.struct? = some a → c.state.child (.wrapper v) = some a →
      ∃ d, c.state.dev (.member a) = some d ∧ c.state.mutex d = some t) := by
  obtain ⟨g, hok, htracks⟩ := system_reachable hc
  have hworks : ∀ {t op e a}, c.Performs t op e → e.struct? = some a → WorksOn c.state t a := by
    intro t op e a h he
    rcases performs_attached hok htracks h with ⟨q, handle, -, hq, hpermits⟩
    exact hq.worksOn hpermits he
  constructor
  · intro t op e a h he
    exact (hworks h he).live hok.store
  constructor
  · intro t t' op op' e e' a h h' he he'
    exact (hworks h he).exclusive hok.store (hworks h' he')
  · intro t op e a v h he hpoints
    cases hworks h he with
    | locked _ hdev hmutex => exact ⟨_, hdev, hmutex⟩
    | sole _ hsole => exact absurd (shared_of_place hpoints (by simp)) hsole
    | dying hchild hdeleter => exact absurd hdeleter (hok.store.not_dying hpoints hchild)

end

section

attribute [local instance] NativeApi.reference

/-- A factory is about to initialise the `slave` of a new `I2cDevice`. -/
theorem structs_never_raced_i2cDevice : ∃ (c : (system Unit).Config) (e : Eff) (a : Addr),
    (system Unit).Reachable Store.empty c ∧ c.Performs () (.i2cDevice 0 1 0x20 {}) e ∧
      e.struct? = some a ∧ ∃ child hd, c.state.children a = some child ∧
        child.birth.handle = some hd ∧ IsOpen c.state.log hd := by
  obtain ⟨s, hidle, hdevice, hfree, hself, hmutex⟩ := constructed ()
  have hstart := hidle.start () (.i2cDevice 0 1 0x20 {})
    ⟨⟨hdevice, hfree⟩, fun _ _ _ hop => by cases hop⟩
  have hprog : (system Unit).prog s (.i2cDevice 0 1 0x20 {}) =
      (Device.i2cDevice (some ⟨0, some 7⟩) 1 0x20 {}).void := by
    rw [← hself]
    rfl
  rw [hprog] at hstart
  have hallocated := hstart.perform true rfl
  have hmade := hallocated.perform s.next ⟨rfl, rfl⟩
  have hlocked := hmade.perform () ⟨hmutex, rfl⟩
  obtain ⟨c, hc, -, hperforms, -⟩ := hlocked.performs
  obtain ⟨hlive, -, -⟩ := structs_never_raced hc
  obtain ⟨child, -, hd, hchild, -, -, hbirth, hopen⟩ := hlive () _ _ s.next hperforms rfl
  exact ⟨c, _, s.next, hc, hperforms, rfl, child, hd, hchild, hbirth, hopen⟩

end

end EasyMcp2221
