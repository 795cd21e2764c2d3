import EasyMcp2221.System.Runs

/-!
# A child stays bound to what it was created with

What a call of a child works with, who can change its struct, and what a run keeps:
whatever happens to the `Device`, to other children and to the copies of the child.
-/

namespace EasyMcp2221

open Effect

/-- The address argument of a call on an SMBus struct. -/
def NativeCall.address? : NativeCall → Option UInt8
  | .smbusReadByte _ address => some address
  | .smbusWriteByte _ address _ => some address
  | .smbusReadByteData _ address _ => some address
  | .smbusWriteByteData _ address _ _ => some address
  | .smbusReadWordData _ address _ => some address
  | .smbusWriteWordData _ address _ _ => some address
  | .smbusProcessCall _ address _ _ => some address
  | .smbusReadBlockData _ address _ => some address
  | .smbusWriteBlockData _ address _ _ _ => some address
  | .smbusBlockProcessCall _ address _ _ _ => some address
  | .smbusReadI2cBlockData _ address _ _ => some address
  | .smbusWriteI2cBlockData _ address _ _ _ => some address
  | _ => none

section

variable {T : Type} [DecidableEq T] [NativeApi] {t : T} {op : Op} {s s' : Store T} {q : Position}
  {handle : HandlePtr} {c c' : (system T).Config}

/-! ## The calls of a child -/

omit [DecidableEq T] in
/-- Every call of an SMBus operation is for the address of its state. -/
theorem SmbusOp.address_of_request {self : Option SmbusDeviceState} {op : SmbusOp}
    {req : Request op.Ret} {x : NativeCall}
    (hrequest : (DataCall.smbus self op).request = .ok req) (heffect : req.effect = .call x) :
    ∃ state, self = some state ∧ x.address? = some state.address := by
  obtain _ | ⟨bus, _ | d, address⟩ := self
  · cases hrequest
  · cases hrequest
  refine ⟨_, rfl, ?_⟩
  change op.request ⟨bus, some d, address⟩ = .ok req at hrequest
  cases op with
  | writeBlockData command data | blockProcessCall command data | writeI2cBlockData command data =>
    simp only [request, SmbusDevice.validateWriteBuffer] at hrequest
    split at hrequest
    · cases hrequest
    · cases hrequest
      cases heffect
      rfl
  | readI2cBlockData command size =>
    simp only [request, rejectIf] at hrequest
    split at hrequest
    · cases hrequest
    · cases hrequest
      cases heffect
      rfl
  | _ =>
    cases hrequest
    cases heffect
    rfl

omit [DecidableEq T] in
/-- The call of an operation on a child works on the struct of the child, with the handle
    and the address that the child was created with. -/
theorem Attached.call_bound (hs : StoreOk s) (h : Attached s t op q handle) {x : NativeCall}
    (hpermits : q.Permits op (.call x)) {v : Var} (hv : op.childVar = some v) :
    ∃ a child, s.child (.wrapper v) = some a ∧ s.children a = some child ∧ child.Bound ∧
      x.struct? = some a ∧ s.accesses x = some child.birth.handle ∧
      (∃ hd, child.birth.handle = some hd ∧ IsOpen s.log hd) ∧
      (child.kind = .smbus → x.address? = some child.birth.address) := by
  have hpermits' := hpermits
  cases hpermits with
  | @call y target req _ htarget hserves hrequest heffect =>
    have hresolve := h.resolve (.inr rfl)
    obtain ⟨a, ha⟩ : ∃ a, target.struct = some a := by
      cases op with
      | i2c u | smbus u | poller u =>
        cases hresolve
        obtain ⟨child, -, htarget⟩ := Option.bind_eq_some_iff.mp htarget
        obtain ⟨d, -, rfl⟩ := Option.map_eq_some_iff.mp htarget
        exact ⟨_, rfl⟩
      | _ => cases hv
    obtain ⟨u, hu, -, hwrapper, hmember⟩ := Op.struct_of_target hresolve htarget ha
    obtain rfl : u = v := Option.some.inj (hu.symm.trans hv)
    obtain ⟨child, hchild, hkind, hbound⟩ := hs.wrappers.child u a hwrapper
    obtain ⟨d, hd, hbirth⟩ := hs.children.member a child hchild
    rw [Store.memberDevice, hd, Option.map_some, Option.some_inj] at hmember
    have hstruct : x.struct? = some a := hserves.2.1.trans ha
    -- the call gets the handle as an argument or through its struct
    obtain ⟨dev, hdev⟩ : ∃ dev, s.accesses x = some dev := by
      rw [Store.accesses]
      cases x.dev? with
      | some dev => exact ⟨dev, rfl⟩
      | none =>
        rw [hstruct, Option.bind_some, hchild]
        exact ⟨_, rfl⟩
    obtain ⟨d', hd', hdevice, -, rfl, hstate⟩ := h.accesses hs hpermits' hdev
    have hhandle : child.birth.handle = some hd' := by
      have hdevice' : target.device = d' := by
        rw [Position.device, Stage.device, PublicOp.target, htarget] at hdevice
        exact Option.some.inj hdevice
      rw [← hbirth, ← hstate, ← hdevice', ← hmember]
      rfl
    refine ⟨a, child, hwrapper, hchild, hbound, hstruct, hdev.trans (congrArg some hhandle.symm),
      ⟨hd', hhandle, (hs.log.isOpen hd').mpr ⟨_, hstate⟩⟩, fun hsmbus => ?_⟩
    have htyped := h.typed rfl
    cases op with
    | smbus u' op =>
      cases hresolve
      cases hv
      have haddress : ((s.children a).map Child.address).getD 0 = child.birth.address := by
        rw [Child.Bound, hsmbus] at hbound
        rw [hchild]
        exact hbound.2
      obtain ⟨state, hself, hpassed⟩ := SmbusOp.address_of_request hrequest heffect
      rw [Store.smbusSelf, hwrapper, Option.map_some, Option.some_inj] at hself
      rw [hpassed, ← haddress, ← hself]
      rfl
    | i2c u' | poller u' =>
      cases hv
      rw [show s.wrappers u = _ from htyped, hsmbus] at hkind
      cases hkind
    | _ => cases hv
  | openScan hop =>
    rw [hop] at hv
    cases hv
  | setUp =>
    obtain ⟨-, -, hsheds, -⟩ := h.stage
    cases op with
    | i2c | smbus | poller => cases hsheds
    | _ => cases hv
  | initChild htarget hinit => cases op <;> first | exact hinit.elim | cases hv

/-! ## The creation of a child -/

omit [DecidableEq T] in
/-- What a factory hands out: a child that nobody else points to, created with the handle
    of the `Device` that the factory was called on, and bound. -/
theorem Attached.commit_bound (hs : StoreOk s) (h : Attached s t op q handle) {w : Var}
    {kind : ChildKind} (hpermits : q.Permits op (.own (.commitChild w kind))) :
    op.dst = some w ∧ op.childKind = some kind ∧ ∃ initialised v d hd a child,
      q.stage = .making a initialised ∧
      op.reads = [v] ∧ s.dev (.wrapper v) = some d ∧ s.handles (.state d) = some hd ∧
      s.child (.temp t) = some a ∧ ¬ Shared s.child (.temp t) a ∧ s.children a = some child ∧
      child.kind = kind ∧ child.birth = ⟨some hd, op.address, op.options⟩ ∧ child.Bound := by
  cases hpermits with
  | commitChild hdst hkind =>
    obtain ⟨-, hmine, hsole, target, child, htarget, hmember, hchild, hkind', hbirth, -, hbound⟩ :=
      h.stage
    obtain ⟨v, hreads, hv, hdevice⟩ :=
      Op.receiver hkind (h.resolve (.inl (op.sheds_of_factory (by simp [hkind])))) htarget
    obtain ⟨hd, hhandle⟩ := (hs.devices.owned _).mp ⟨_, hv⟩
    refine ⟨hdst, hkind, true, v, _, hd, _, child, rfl, hreads, hv, hhandle, hmine, hsole, hchild,
      Option.some.inj (hkind'.symm.trans hkind), ?_, hbound rfl⟩
    rw [hbirth, ← hhandle]
    exact congrArg (Birth.mk · op.address op.options) (congrArg DeviceState.handle hdevice)
  | relocate hop => cases op <;> cases hop

/-! ## What a step keeps -/

omit [DecidableEq T] [NativeApi] in
theorem update_birth {children : Addr → Option (Child T)} {a b : Addr} {x : Option (Child T)}
    {child : Child T}
    (hx : ∀ c, x = some c → ∃ c₀, children b = some c₀ ∧ c.kind = c₀.kind ∧ c.birth = c₀.birth)
    (hchild : Function.update children b x a = some child) :
    ∃ child₀, children a = some child₀ ∧ child.kind = child₀.kind ∧
      child.birth = child₀.birth := by
  by_cases hab : a = b
  · subst hab
    rw [Function.update_self] at hchild
    exact hx child hchild
  · rw [Function.update_of_ne hab] at hchild
    exact ⟨child, hchild, rfl, rfl⟩

/-- A step keeps the class and the birth of every child that survives it. -/
theorem leaves_birth {e : Eff} {r : e.Reply} (hleave : s.leaves t op e r s') {a : Addr}
    (hlt : a < s.next) {child : Child T} (hchild : s'.children a = some child) :
    ∃ child₀, s.children a = some child₀ ∧ child.kind = child₀.kind ∧
      child.birth = child₀.birth := by
  have hsame : s'.children = s.children → ∃ child₀, s.children a = some child₀ ∧
      child.kind = child₀.kind ∧ child.birth = child₀.birth :=
    fun heq => ⟨child, heq ▸ hchild, rfl, rfl⟩
  cases e with
  | alloc | unlock =>
    obtain rfl := hleave
    exact hsame rfl
  | lock b =>
    obtain ⟨-, rfl⟩ := hleave
    exact hsame rfl
  | proc p =>
    obtain rfl := hleave
    cases p <;> exact hsame rfl
  | call x =>
    cases x with
    | openScan =>
      simp only [Store.leaves, Store.callEnds] at hleave
      split at hleave
      · obtain ⟨hd, -, -, rfl⟩ := hleave
        exact hsame rfl
      · obtain rfl := hleave
        exact hsame rfl
    | i2cSlaveInit b =>
      obtain ⟨slave, -, rfl⟩ := hleave
      refine update_birth (fun c hc => ?_) hchild
      obtain ⟨c₀, hc₀, rfl⟩ := Option.map_eq_some_iff.mp hc
      exact ⟨c₀, hc₀, rfl, rfl⟩
    | smbusInit b =>
      obtain ⟨bus, -, -, rfl⟩ := hleave
      refine update_birth (fun c hc => ?_) hchild
      obtain ⟨c₀, hc₀, rfl⟩ := Option.map_eq_some_iff.mp hc
      exact ⟨c₀, hc₀, rfl, rfl⟩
    | _ =>
      obtain rfl := hleave
      exact hsame rfl
  | own o =>
    cases o with
    | makeDeviceState =>
      obtain ⟨-, rfl⟩ := hleave
      exact hsame rfl
    | makeChild =>
      -- the new child gets a new number
      obtain ⟨rfl, rfl⟩ := hleave
      simp only [Function.update_of_ne (Nat.ne_of_lt hlt)] at hchild
      exact ⟨child, hchild, rfl, rfl⟩
    | releaseDevice =>
      obtain ⟨-, -, rfl⟩ | ⟨b, -, -, -, rfl⟩ := hleave <;> exact hsame rfl
    | releaseChild =>
      obtain ⟨-, -, rfl⟩ | ⟨b, dying, -, -, hdying, -, rfl⟩ := hleave
      · exact hsame rfl
      · refine update_birth (fun c hc => ?_) hchild
        obtain rfl := Option.some.inj hc
        exact ⟨dying, hdying, rfl, rfl⟩
    | deleteChild b =>
      obtain rfl := hleave
      refine update_birth (fun c hc => ?_) hchild
      cases hc
    | _ =>
      obtain rfl := hleave
      exact hsame rfl

/-- The poll struct that an effect changes. -/
def Eff.polls : Eff → Option Addr
  | .call (.gpioPoll _ a) => some a
  | .call (.gpioPollEvents _ a _ _) => some a
  | .proc (.gpioPollInit a) => some a
  | .proc (.gpioPollSetFilterMask a _) => some a
  | _ => none

/-- Every other poll struct stays as it is. -/
theorem leaves_poll {e : Eff} {r : e.Reply} (hleave : s.leaves t op e r s') {a : Addr}
    (hpolls : e.polls ≠ some a) : s'.poll a = s.poll a := by
  have hne : ∀ b, e.polls = some b → a ≠ b := by
    rintro b hb rfl
    exact hpolls hb
  cases e with
  | alloc | unlock =>
    obtain rfl := hleave
    rfl
  | lock b =>
    obtain ⟨-, rfl⟩ := hleave
    rfl
  | proc p =>
    obtain rfl := hleave
    cases p with
    | gpioPollInit b | gpioPollSetFilterMask b => exact Function.update_of_ne (hne b rfl) _ _
    | close | smbusClose => rfl
  | call x =>
    cases x with
    | openScan =>
      simp only [Store.leaves, Store.callEnds] at hleave
      split at hleave
      · obtain ⟨hd, -, -, rfl⟩ := hleave
        rfl
      · obtain rfl := hleave
        rfl
    | i2cSlaveInit =>
      obtain ⟨slave, -, rfl⟩ := hleave
      rfl
    | smbusInit =>
      obtain ⟨bus, -, -, rfl⟩ := hleave
      rfl
    | gpioPoll dev b =>
      obtain rfl := hleave
      exact Function.update_of_ne (hne b rfl) _ _
    | gpioPollEvents dev b =>
      obtain rfl := hleave
      exact Function.update_of_ne (hne b rfl) _ _
    | _ =>
      obtain rfl := hleave
      rfl
  | own o =>
    cases o with
    | makeDeviceState | makeChild =>
      obtain ⟨-, rfl⟩ := hleave
      rfl
    | releaseDevice =>
      obtain ⟨-, -, rfl⟩ | ⟨b, -, -, -, rfl⟩ := hleave <;> rfl
    | releaseChild =>
      obtain ⟨-, -, rfl⟩ | ⟨b, dying, -, -, hdying, -, rfl⟩ := hleave <;> rfl
    | _ =>
      obtain rfl := hleave
      rfl

omit [NativeApi] in
theorem NativeCall.struct_of_polls {x : NativeCall} {a : Addr}
    (h : Eff.polls (.call x) = some a) : x.struct? = some a := by
  cases x <;> first | exact h | cases h

omit [NativeApi] in
theorem enters_poll (e : Eff) : (Store.enters t op s e).poll = s.poll := by
  unfold Store.enters
  split <;> rfl

/-- While a wrapper object points to a child, no step changes the child, and only an
    operation on a wrapper object with the same struct changes the poll struct. -/
theorem moves_struct {g g' : T → Phase Eff Op Position} (hok : SystemOk s g)
    (hmoves : (systemDiscipline T).Moves s g s' g') {v : Var} {a : Addr}
    (hv : s.child (.wrapper v) = some a) :
    s'.children a = s.children a ∧ (s'.poll a = s.poll a ∨
      ∃ t op w, (g t).op? = some op ∧ op.childVar = some w ∧ s.child (.wrapper w) = some a) := by
  obtain rfl | ⟨t, op, e, q, handle, hop, hq, hpermits, hframe, hstep⟩ := moves_cases hok hmoves
  · exact ⟨rfl, .inl rfl⟩
  obtain ⟨child, hchild, -⟩ := hok.store.wrappers.child v a hv
  have hshared : Shared s.child (.temp t) a := ⟨.wrapper v, by simp, hv⟩
  refine ⟨(hframe.children a child hchild (.inl hshared)).trans hchild.symm, ?_⟩
  obtain rfl | ⟨r, hleave⟩ := hstep
  · exact .inl (congrFun (enters_poll e) a)
  by_cases hpolls : e.polls = some a
  · have hmine : ∀ {y : DataCall} {target : Target}, q.call = .data y → q.stage = .working →
        y.target = some target → target.struct = some a → ∃ t op w, (g t).op? = some op ∧
          op.childVar = some w ∧ s.child (.wrapper w) = some a := by
      intro y target hcall hstage htarget hstruct
      obtain ⟨u, hu, -, hwrapper, -⟩ :=
        Op.struct_of_target ((hq.resolve (.inr hstage)).trans hcall) htarget hstruct
      exact ⟨t, op, u, hop, hu, hwrapper⟩
    cases hpermits with
    | call htarget hserves =>
      exact .inr (hmine rfl rfl htarget
        (hserves.2.1.symm.trans (NativeCall.struct_of_polls hpolls)))
    | setMask htarget => exact .inr (hmine rfl rfl htarget hpolls)
    | setUp hdev hstruct => cases hstruct.symm.trans (NativeCall.struct_of_polls hpolls)
    | initChild htarget hinit =>
      cases op with
      | i2cDevice =>
        obtain ⟨width, order, -, -, rfl⟩ := hinit
        cases hpolls
      | smbusDevice =>
        obtain rfl := hinit
        cases hpolls
      | _ => exact hinit.elim
    | initPoller =>
      obtain ⟨-, -, hsole, -⟩ := hq.stage
      cases hpolls
      exact absurd hshared hsole
    | _ => cases hpolls
  · exact .inl (leaves_poll hleave hpolls)

/-! ## What a run keeps -/

/-- A child keeps its class and its birth as long as it lives, and its number is not
    given out again. -/
theorem birth_of_steps (hc : (system T).Reachable Store.empty c) (hsteps : (system T).Steps c c')
    {a : Addr} {child child' : Child T} (hchild : c.state.children a = some child)
    (hchild' : c'.state.children a = some child') :
    child'.kind = child.kind ∧ child'.birth = child.birth := by
  obtain ⟨g, hholds⟩ := (systemDiscipline T).reachable hc
  obtain ⟨-, -, -, hlater⟩ := hholds.run
    (J := fun s _ => a < s.next ∧ ∀ child', s.children a = some child' →
      child'.kind = child.kind ∧ child'.birth = child.birth)
    (fun s g s' g' hok _ hmoves ⟨hlt, hJ⟩ => by
      obtain rfl | ⟨t, op, e, q, handle, -, -, -, hframe, hstep⟩ := moves_cases hok hmoves
      · exact ⟨hlt, hJ⟩
      refine ⟨Nat.lt_of_lt_of_le hlt hframe.next, fun child' hchild' => ?_⟩
      obtain rfl | ⟨r, hleave⟩ := hstep
      · refine hJ child' ?_
        rw [← hchild']
        unfold Store.enters
        split <;> rfl
      · obtain ⟨child₀, hchild₀, hkind, hbirth⟩ := leaves_birth hleave hlt hchild'
        obtain ⟨hkind₀, hbirth₀⟩ := hJ child₀ hchild₀
        exact ⟨hkind.trans hkind₀, hbirth.trans hbirth₀⟩)
    ⟨hholds.1.store.children.fresh a child hchild, fun child' h => by
      rw [hchild] at h
      cases h
      exact ⟨rfl, rfl⟩⟩ hsteps
  exact hlater child' hchild'

omit [NativeApi] in
theorem PublicOp.dropping_ne_making {x : PublicOp} {a : Addr} {initialised : Bool} :
    x.dropping ≠ .making a initialised := by
  cases x with
  | destroy kind | moveAssign kind | copyAssign kind => cases kind <;> exact nofun
  | _ => exact nofun

/-- A thread comes to work on a new child only by making it. -/
theorem next_making {x : PublicOp} {stage : Stage} {e : Eff} {r : e.Reply} {a : Addr}
    {initialised : Bool} (h : stage.next x e r = .making a initialised)
    (hleave : s.leaves t op e r s') :
    (∃ initialised', stage = .making a initialised') ∨ a = s.next := by
  have hlast : ∀ {α : Type} (f : α → Stage) (last : Option α), (∀ y, f y ≠ .making a initialised) →
      (last.map f).getD .done ≠ .making a initialised := by
    intro α f last hf
    cases last with
    | none => exact nofun
    | some y => exact hf y
  unfold Stage.next at h
  split at h
  case h_1 => split at h <;> cases h
  case h_2 =>
    obtain ⟨hnew, -⟩ := hleave
    cases h
    exact .inr hnew
  case h_3 => exact absurd h PublicOp.dropping_ne_making
  case h_7 | h_11 | h_12 | h_15 => exact absurd h (hlast _ _ fun y => nofun)
  case h_8 | h_9 =>
    cases h
    exact .inl ⟨_, rfl⟩
  case h_18 => exact .inl ⟨_, h⟩
  all_goals cases h

/-- The struct of a child that some wrapper object points to is never handed out again. -/
theorem struct_of_commit_ne (hc : (system T).Reachable Store.empty c)
    (hsteps : (system T).Steps c c') {v : Var} {a : Addr}
    (hv : c.state.child (.wrapper v) = some a) {w : Var} {kind : ChildKind}
    (hcommit : c'.Performs t op (.own (.commitChild w kind))) {a' : Addr}
    (ha' : c'.state.child (.temp t) = some a') : a' ≠ a := by
  obtain ⟨g, hholds⟩ := (systemDiscipline T).reachable hc
  obtain ⟨child, hchild, -⟩ := hholds.1.store.wrappers.child v a hv
  -- nobody makes the child now, and whoever makes one later gets another number
  obtain ⟨g', hholds', -, hnobody⟩ := hholds.run
    (J := fun s g => a < s.next ∧ ∀ t op q, (g t).local? = some (op, q) →
      ∀ initialised, q.stage ≠ .making a initialised)
    (fun s g s' g' hok _ hmoves ⟨hlt, hJ⟩ => by
      refine ⟨?_, ?_⟩
      · obtain rfl | ⟨t, op, -, -, -, -, -, -, hframe, -⟩ := moves_cases hok hmoves
        · exact hlt
        · exact Nat.lt_of_lt_of_le hlt hframe.next
      have hupdate : ∀ t (x : Phase Eff Op Position), (∀ op q, x.local? = some (op, q) →
          ∀ initialised, q.stage ≠ .making a initialised) → ∀ t' op q,
          (Function.update g t x t').local? = some (op, q) →
            ∀ initialised, q.stage ≠ .making a initialised := by
        intro t x hx t' op q hlocal
        by_cases ht : t' = t
        · rw [ht, Function.update_self] at hlocal
          exact hx op q hlocal
        · rw [Function.update_of_ne ht] at hlocal
          exact hJ t' op q hlocal
      cases hmoves with
      | start op hidle =>
        refine hupdate _ _ fun op' q hlocal => ?_
        cases hlocal
        exact nofun
      | enter hready hallow =>
        refine hupdate _ _ fun op' q hlocal => ?_
        cases hlocal
        exact hJ _ _ _ (by rw [hready, Phase.local?_ready])
      | @leave _ _ t op q e r hbusy hallow hleave =>
        refine hupdate _ _ fun op' q' hlocal initialised hmaking => ?_
        cases hlocal
        have hbefore := hJ t op q (by rw [hbusy, Phase.local?_busy])
        have hnext : q.stage = .making a initialised ∨
            q.stage.next q.call e r = .making a initialised := by
          cases e with
          | lock | unlock => exact .inl hmaking
          | _ => exact .inr hmaking
        obtain hsame | hnext := hnext
        · exact hbefore _ hsame
        · obtain ⟨initialised', hsame⟩ | rfl := next_making hnext hleave
          · exact hbefore _ hsame
          · exact Nat.lt_irrefl _ hlt
      | stop hready =>
        refine hupdate _ _ fun op' q hlocal => ?_
        cases hlocal)
    ⟨hholds.1.store.children.fresh a child hchild, fun t op q hlocal initialised hmaking => by
      obtain ⟨handle, hq⟩ := hholds.1.attached hlocal
      obtain ⟨call, stage, held⟩ := q
      obtain rfl : stage = _ := hmaking
      obtain ⟨-, -, hsole, -⟩ := hq.stage
      exact hsole ⟨.wrapper v, by simp, hv⟩⟩ hsteps
  rintro rfl
  obtain ⟨q, handle, hlocal, hq, hpermits⟩ := performs_attached hholds'.1 hholds'.2 hcommit
  obtain ⟨-, -, initialised, -, -, -, b, -, hmaking, -, -, -, hmine, -⟩ :=
    hq.commit_bound hholds'.1.store hpermits
  obtain rfl : b = a' := Option.some.inj (hmine.symm.trans ha')
  exact hnobody t op q hlocal _ hmaking

/-! ## Copies and moves -/

/-- The wrapper objects between which an operation transfers a pointer. -/
def Own.transfer : Own → Option (Var × Var)
  | .moveConstruct src dst => some (src, dst)
  | .copyConstruct src dst => some (src, dst)
  | .moveAssign src dst => some (src, dst)
  | .copyAssign src dst => some (src, dst)
  | _ => none

/-- The operation leaves its source empty. -/
def Own.isMove : Own → Bool
  | .moveConstruct .. => true
  | .moveAssign .. => true
  | _ => false

/-- The target of a copy or a move points to what the source pointed to, and the source of
    a move to another object is empty. -/
theorem Attached.transfer (h : Attached s t op q handle) {o : Own} {r : o.Reply} {src dst : Var}
    (hpermits : q.Permits op (.own o)) (ho : o.transfer = some (src, dst))
    (hleave : s.leaves t op (.own o) r s') :
    s'.child (.wrapper dst) = s.child (.wrapper src) ∧
      (o.isMove = true → src ≠ dst → s'.child (.wrapper src) = none) := by
  have hplace : ∀ {u w : Var}, u ≠ w → (.wrapper u : Place T Empty) ≠ .wrapper w :=
    fun hne heq => hne (Place.wrapper.inj heq)
  cases hpermits with
  | @relocate x o hop =>
    have htyped := h.typed rfl
    obtain ⟨rfl, -⟩ := relocation_ends (x := x) hop hleave
    cases op with
    | moveConstruct src' dst' =>
      cases hop
      cases ho
      have hne : src ≠ dst := by
        rintro rfl
        exact htyped.1 htyped.2
      exact ⟨move_target (hplace hne.symm), fun _ _ => move_source⟩
    | copyConstruct src' dst' =>
      cases hop
      cases ho
      exact ⟨Function.update_self .., fun hmove => absurd hmove Bool.false_ne_true⟩
    | moveAssign src' dst' =>
      cases hop
      cases ho
      by_cases heq : src = dst
      · subst heq
        exact ⟨congrFun (if_pos rfl) _, fun _ hne => absurd rfl hne⟩
      · simp only [relocate, if_neg heq]
        refine ⟨(move_target (hplace (Ne.symm heq))).trans ?_, fun _ _ => move_source⟩
        exact move_of_ne (hplace heq) (by simp)
    | copyAssign src' dst' =>
      cases hop
      cases ho
      exact ⟨Function.update_self .., fun hmove => absurd hmove Bool.false_ne_true⟩
    | _ => cases hop <;> cases ho
  | _ => cases ho

omit [DecidableEq T] in
/-- Every wrapper object of a child reports the address that the child was created with. -/
theorem StoreOk.address_reported (hs : StoreOk s) {v : Var} {a : Addr}
    (hv : s.child (.wrapper v) = some a) :
    ∃ child, s.children a = some child ∧ child.birth.address ≤ constants.maxI2cAddress ∧
      (s.wrappers v = some (.child .i2c) →
        I2cDevice.address (s.i2cSelf v) = child.birth.address) ∧
      (s.wrappers v = some (.child .smbus) →
        SmbusDevice.address (s.smbusSelf v) = child.birth.address) := by
  obtain ⟨child, hchild, hkind, hbound⟩ := hs.wrappers.child v a hv
  refine ⟨child, hchild, hs.children.address a child hchild, fun hi2c => ?_, fun hsmbus => ?_⟩
  · have hk : child.kind = .i2c :=
      WrapperKind.child.inj (Option.some.inj (hkind.symm.trans hi2c))
    rw [Child.Bound, hk] at hbound
    obtain ⟨width, order, -, -, hslave⟩ := hbound
    rw [Store.i2cSelf, hv]
    simp only [Option.map_some, I2cDevice.address, Store.i2cState, hchild, Option.getD_some, hslave]
  · have hk : child.kind = .smbus :=
      WrapperKind.child.inj (Option.some.inj (hkind.symm.trans hsmbus))
    rw [Child.Bound, hk] at hbound
    rw [Store.smbusSelf, hv]
    simp only [Option.map_some, SmbusDevice.address, Store.smbusState, hchild, Option.getD_some,
      hbound.2]

omit [DecidableEq T] in
/-- A child that was moved from makes no call: its operations throw at once. -/
theorem prog_of_empty {v : Var} (hv : op.childVar = some v) (hempty : s.child (.wrapper v) = none) :
    ∃ x, (op.resolve s).prog.void = .throw x := by
  have hdata : ∀ x : DataCall, op.resolve s = .data x → x.target = none →
      ∃ x, (op.resolve s).prog.void = .throw x := by
    intro x hx htarget
    rw [hx]
    exact ⟨x.noState, by
      rw [show (PublicOp.data x).prog = x.prog from rfl, DataCall.prog_noState htarget]
      rfl⟩
  cases op with
  | i2c u op =>
    cases hv
    exact hdata _ rfl (by simp [DataCall.target, Store.i2cSelf, hempty])
  | smbus u op =>
    cases hv
    exact hdata _ rfl (by simp [DataCall.target, Store.smbusSelf, hempty])
  | poller u op =>
    cases hv
    exact hdata _ rfl (by simp [DataCall.target, Store.pollerSelf, hempty])
  | _ => cases hv

/-! ## The binding -/

/-- A child is bound to what it was created with, in the configuration `c` and in what
    follows. -/
structure ChildrenBound (c : (system T).Config) : Prop where
  /-- A factory hands out a struct that nobody else points to, created with the handle of
      the `Device` that it was called on, and with its own arguments. -/
  created : ∀ t op w kind, c.Performs t op (.own (.commitChild w kind)) →
    op.dst = some w ∧ op.childKind = some kind ∧ ∃ v d hd a child,
      op.reads = [v] ∧ c.state.dev (.wrapper v) = some d ∧ c.state.handles (.state d) = some hd ∧
      c.state.child (.temp t) = some a ∧ ¬ Shared c.state.child (.temp t) a ∧
      c.state.children a = some child ∧ child.kind = kind ∧
      child.birth = ⟨some hd, op.address, op.options⟩ ∧ child.Bound ∧
      ∀ s', c.state.leaves t op (.own (.commitChild w kind)) () s' →
        s'.child (.wrapper w) = some a ∧ s'.children a = some child
  /-- Every call of a child works on its struct, with the open handle and the address
      that it was created with; the struct keeps them and the register layout
      (`Child.Bound`). -/
  calls : ∀ t op v x, c.Performs t op (.call x) → op.childVar = some v →
    ∃ a child, c.state.child (.wrapper v) = some a ∧ c.state.children a = some child ∧
      child.Bound ∧ x.struct? = some a ∧ c.state.accesses x = some child.birth.handle ∧
      (∃ hd, child.birth.handle = some hd ∧ IsOpen c.state.log hd) ∧
      (child.kind = .smbus → x.address? = some child.birth.address)
  /-- Whatever wrapper object points to the struct later finds the same child. -/
  kept : ∀ c' v v' a, (system T).Steps c c' → c.state.child (.wrapper v) = some a →
    c'.state.child (.wrapper v') = some a → ∃ child child',
      c.state.children a = some child ∧ c'.state.children a = some child' ∧
      child'.kind = child.kind ∧ child'.birth = child.birth ∧ child.Bound ∧ child'.Bound
  /-- No factory hands the struct out again. -/
  separate : ∀ c' v a t op w kind a', (system T).Steps c c' →
    c.state.child (.wrapper v) = some a → c'.Performs t op (.own (.commitChild w kind)) →
    c'.state.child (.temp t) = some a' → a' ≠ a
  /-- No step changes the slave or the bus of a child in use, and only an operation on one
      of its wrapper objects changes its poll struct. -/
  frame : ∀ c' v a, (system T).Step c c' → c.state.child (.wrapper v) = some a →
    c'.state.children a = c.state.children a ∧ (c'.state.poll a = c.state.poll a ∨
      ∃ t op w, c.running t = some op ∧ op.childVar = some w ∧
        c.state.child (.wrapper w) = some a)
  /-- All wrapper objects of a child report the 7-bit address that it was created with. -/
  address : ∀ v a, c.state.child (.wrapper v) = some a →
    ∃ child, c.state.children a = some child ∧
      child.birth.address ≤ constants.maxI2cAddress ∧
      (c.state.wrappers v = some (.child .i2c) →
        I2cDevice.address (c.state.i2cSelf v) = child.birth.address) ∧
      (c.state.wrappers v = some (.child .smbus) →
        SmbusDevice.address (c.state.smbusSelf v) = child.birth.address)
  /-- A copy or a move hands on the struct of its source, and a move empties the source. -/
  transferred : ∀ t op o r src dst s', c.Performs t op (.own o) → o.transfer = some (src, dst) →
    c.state.leaves t op (.own o) r s' →
    s'.child (.wrapper dst) = c.state.child (.wrapper src) ∧
      (o.isMove = true → src ≠ dst → s'.child (.wrapper src) = none)
  /-- A child that was moved from makes no call, and its address is 0. -/
  movedFrom : ∀ v op, op.childVar = some v → c.state.child (.wrapper v) = none →
    (∃ x, (system T).prog c.state op = .throw x) ∧
      I2cDevice.address (c.state.i2cSelf v) = 0 ∧ SmbusDevice.address (c.state.smbusSelf v) = 0

/-- **A child stays bound to what it was created with**, in every reachable
    configuration. -/
theorem children_bound (hc : (system T).Reachable Store.empty c) : ChildrenBound c := by
  obtain ⟨g, hholds⟩ := (systemDiscipline T).reachable hc
  have hstore := hholds.1.store
  exact
    { created := fun t op w kind h => by
        obtain ⟨q, handle, -, hq, hpermits⟩ := performs_attached hholds.1 hholds.2 h
        obtain ⟨hdst, hkind, -, v, d, hd, a, child, -, hreads, hdev, hhandle, hmine, hsole, hchild,
          hbirth⟩ := hq.commit_bound hstore hpermits
        refine ⟨hdst, hkind, v, d, hd, a, child, hreads, hdev, hhandle, hmine, hsole, hchild,
          hbirth.1, hbirth.2.1, hbirth.2.2, ?_⟩
        rintro s' rfl
        have htarget : move c.state.child (.temp t) (.wrapper w) (.wrapper w) = some a :=
          (move_target (by simp)).trans hmine
        exact ⟨htarget, hchild⟩
      calls := fun t op v x h hv => by
        obtain ⟨q, handle, -, hq, hpermits⟩ := performs_attached hholds.1 hholds.2 h
        exact hq.call_bound hstore hpermits hv
      kept := fun c' v v' a hsteps hv hv' => by
        obtain ⟨g', hholds'⟩ := (systemDiscipline T).reachable (hc.steps hsteps)
        obtain ⟨child, hchild, -, hbound⟩ := hstore.wrappers.child v a hv
        obtain ⟨child', hchild', -, hbound'⟩ := hholds'.1.store.wrappers.child v' a hv'
        obtain ⟨hkind, hbirth⟩ := birth_of_steps hc hsteps hchild hchild'
        exact ⟨child, child', hchild, hchild', hkind, hbirth, hbound, hbound'⟩
      separate := fun c' v a t op w kind a' hsteps hv h ha' =>
        struct_of_commit_ne hc hsteps hv h ha'
      frame := fun c' v a hstep hv => by
        obtain ⟨g', hmoves, -⟩ := hholds.step hstep
        obtain ⟨hchildren, hpoll⟩ := moves_struct hholds.1 hmoves hv
        refine ⟨hchildren, hpoll.imp_right ?_⟩
        rintro ⟨t, op, w, hop, hw, hmine⟩
        exact ⟨t, op, w, (hholds.2 t).op?.symm.trans hop, hw, hmine⟩
      address := fun v a hv => hstore.address_reported hv
      transferred := fun t op o r src dst s' h ho hleave => by
        obtain ⟨q, handle, -, hq, hpermits⟩ := performs_attached hholds.1 hholds.2 h
        exact hq.transfer hpermits ho hleave
      movedFrom := fun v op hv hempty => by
        refine ⟨prog_of_empty hv hempty, ?_, ?_⟩
        · rw [Store.i2cSelf, hempty]
          rfl
        · rw [Store.smbusSelf, hempty]
          rfl }

end

section

attribute [local instance] NativeApi.reference

/-- The factory is about to hand out an `I2cDevice` for the address 0x20. -/
theorem handing_out : ∃ s k, (system Unit).ReachableAlone Store.empty () (.i2cDevice 0 1 0x20 {})
      (.vis (.own (.commitChild 1 .i2c)) k) s ∧ s.child (.temp ()) ≠ none ∧
    s.deviceSelf 0 = some ⟨0, some 7⟩ := by
  obtain ⟨s, hidle, hdevice, hfree, hself, hmutex⟩ := constructed ()
  have hstart := hidle.start () (.i2cDevice 0 1 0x20 {})
    ⟨⟨hdevice, hfree⟩, fun _ _ _ hop => by cases hop⟩
  have hprog : (system Unit).prog s (.i2cDevice 0 1 0x20 {}) =
      (Device.i2cDevice (some ⟨0, some 7⟩) 1 0x20 {}).void := by
    rw [← hself]
    rfl
  rw [hprog] at hstart
  have hallocated := hstart.perform true rfl
  have hmade := hallocated.perform s.next ⟨rfl, rfl⟩
  have hlocked := hmade.perform () ⟨hmutex, rfl⟩
  have hinitialised := hlocked.perform ⟨0, (), by decide⟩ ⟨_, fun _ => rfl, rfl⟩
  exact ⟨_, _, hinitialised, Option.some_ne_none _, hself⟩

/-- The new `I2cDevice` is bound to the handle 7 and the address 0x20. -/
theorem children_bound_i2cDevice : ∃ c : (system Unit).Config,
    (system Unit).Reachable Store.empty c ∧
      c.Performs () (.i2cDevice 0 1 0x20 {}) (.own (.commitChild 1 .i2c)) ∧
      ∃ a child, c.state.children a = some child ∧ child.birth = ⟨some 7, 0x20, {}⟩ ∧
        child.Bound := by
  obtain ⟨s, k, hinitialised, -, hself⟩ := handing_out
  obtain ⟨c, hc, rfl, hperforms, -⟩ := hinitialised.performs
  obtain ⟨-, -, v, d, hd, a, child, hreads, hdev, hhandle, -, -, hchild, -, hbirth, hbound, -⟩ :=
    (children_bound hc).created () _ _ _ hperforms
  cases hreads
  have hseven : c.state.deviceSelf 0 = some ⟨d, some hd⟩ :=
    Option.map_eq_some_iff.mpr ⟨d, hdev, congrArg (DeviceState.mk d) hhandle⟩
  rw [hself] at hseven
  cases hseven
  exact ⟨c, hc, hperforms, a, child, hchild, hbirth, hbound⟩

end

end EasyMcp2221
