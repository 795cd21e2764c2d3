import EasyMcp2221.System.DeviceSteps

/-!
# The steps on children

A factory makes a child, initialises its struct and commits it to a wrapper object; the
thread that drops the last pointer to it deletes it.
-/

namespace EasyMcp2221

open Effect

variable {T : Type} [DecidableEq T] [NativeApi] {t : T} {op : Op} {s s' : Store T}
  {x : PublicOp} {handle : HandlePtr}

omit [DecidableEq T] [NativeApi] in
/-- No child has the next allocation number. -/
theorem ChildrenOk.next_none {child : Place T Empty → Option Addr}
    {children : Addr → Option (Child T)} {dev : Place T Addr → Option Addr}
    {handles : Holder T → Option Handle} {next : Addr}
    (h : ChildrenOk child children dev handles next) : children next = none :=
  Option.eq_none_iff_forall_ne_some.mpr fun c hc => Nat.lt_irrefl _ (h.fresh next c hc)

omit [DecidableEq T] [NativeApi] in
theorem ChildrenOk.ne_next {child : Place T Empty → Option Addr}
    {children : Addr → Option (Child T)} {dev : Place T Addr → Option Addr}
    {handles : Holder T → Option Handle} {next : Addr}
    (h : ChildrenOk child children dev handles next) {a : Addr} (ha : Owned child a) :
    a ≠ next := by
  obtain ⟨c, hc, -⟩ := (h.owned a).mp ha
  exact Nat.ne_of_lt (h.fresh a c hc)

omit [NativeApi] in
/-- A new child joins the others. -/
theorem ChildrenOk.make {child : Place T Empty → Option Addr}
    {children : Addr → Option (Child T)} {dev : Place T Addr → Option Addr}
    {handles : Holder T → Option Handle} {next d : Addr} {c : Child T}
    (h : ChildrenOk child children dev handles next) (hfree : child (.temp t) = none)
    (hmember : handles (.state d) = c.birth.handle) (hbus : c.bus = none)
    (hdeleter : c.deleter = none) (haddress : c.birth.address ≤ constants.maxI2cAddress) :
    ChildrenOk (Function.update child (.temp t) (some next))
      (Function.update children next (some c)) (Function.update dev (.member next) (some d))
      handles (next + 1) := by
  have hkeep : ∀ a, a ≠ next →
      Function.update dev (.member next) (some d) (.member a) = dev (.member a) :=
    fun a ha => Function.update_of_ne (by simpa using ha) _ _
  have hothers : ∀ a, a ≠ next → Function.update children next (some c) a = children a :=
    fun a ha => Function.update_of_ne ha _ _
  refine ⟨fun a => ?_, fun a c' hc' => ?_, fun a c' hc' => ?_, fun a ha => ?_, fun a c' hc' => ?_,
    fun a c' hc' => ?_⟩
  · rw [owned_update hfree]
    by_cases ha : a = next
    · subst ha
      simp [hdeleter]
    · rw [hothers a ha, h.owned]
      simp [ha]
  · obtain ⟨rfl, -⟩ | ⟨-, hc⟩ := update_some_cases hc'
    · exact Nat.lt_succ_self _
    · exact Nat.lt_succ_of_lt (h.fresh a c' hc)
  · obtain ⟨rfl, rfl⟩ | ⟨ha, hc⟩ := update_some_cases hc'
    · exact ⟨d, Function.update_self .., hmember⟩
    · rw [hkeep a ha]
      exact h.member a c' hc
  · obtain ⟨hne, hnone⟩ := update_some_eq_none ha
    exact (hkeep a hne).trans (h.orphan a hnone)
  · obtain ⟨-, rfl⟩ | ⟨-, hc⟩ := update_some_cases hc'
    · exact .inl hbus
    · exact h.bus a c' hc
  · obtain ⟨-, rfl⟩ | ⟨-, hc⟩ := update_some_cases hc'
    · exact haddress
    · exact h.address a c' hc

/-- A factory has made a child. -/
theorem makeChild_lands (hs : StoreOk s) (h : Attached s t op ⟨x, .working, false⟩ none)
    {target : Target} {kind : ChildKind} (hkind : op.childKind = some kind)
    (htarget : x.target = some target) (haddress : op.address ≤ constants.maxI2cAddress) :
    Lands t op s
      { s with
        child := Function.update s.child (.temp t) (some s.next)
        dev := Function.update s.dev (.member s.next) (some target.device.addr)
        children := Function.update s.children s.next
          (some (op.newChild kind target.device.handle op.storedAddress))
        next := s.next + 1 } ⟨x, .making s.next false, false⟩ none := by
  obtain ⟨hdev, hchild⟩ := h.stage
  obtain ⟨v, -, hv, hdevice⟩ := Op.receiver hkind (h.resolve (.inr rfl)) htarget
  have hhandle : s.handles (.state target.device.addr) = target.device.handle :=
    (congrArg DeviceState.handle hdevice).symm
  have hnone := hs.children.next_none
  obtain ⟨c, hc⟩ : ∃ c : Child T, c = op.newChild kind target.device.handle op.storedAddress :=
    ⟨_, rfl⟩
  rw [← hc]
  have hdeleter : c.deleter = none := by rw [hc]; rfl
  have hkeep : ∀ z, z ≠ .member s.next →
      Function.update s.dev (.member s.next) (some target.device.addr) z = s.dev z :=
    fun z hz => Function.update_of_ne hz _ _
  have hkeep' : ∀ z, z ≠ .temp t →
      Function.update s.child (.temp t) (some s.next) z = s.child z :=
    fun z hz => Function.update_of_ne hz _ _
  have hnew : Function.update s.child (.temp t) (some s.next) (.temp t) = some s.next :=
    Function.update_self ..
  have hothers : ∀ a, a ≠ s.next → Function.update s.children s.next (some c) a = s.children a :=
    fun a ha => Function.update_of_ne ha _ _
  have hdying : ∀ a c' (t' : T), Function.update s.children s.next (some c) a = some c' →
      c'.deleter = some t' → s.children a = some c' := by
    intro a c' t' hc' hd
    obtain ⟨-, rfl⟩ | ⟨-, hc'⟩ := update_some_cases hc'
    · rw [hdeleter] at hd
      cases hd
    · exact hc'
  have howned : ∀ a, Owned (Function.update s.dev (.member s.next) (some target.device.addr)) a ↔
      Owned s.dev a := fun a =>
    (owned_update (hs.children.orphan _ hnone)).trans
      (or_iff_left_of_imp fun ha => ⟨.wrapper v, ha ▸ hv⟩)
  have hwrappers : WrappersOk s.wrappers
      (Function.update s.dev (.member s.next) (some target.device.addr))
      (Function.update s.child (.temp t) (some s.next))
      (Function.update s.children s.next (some c)) :=
    hs.wrappers.congr (fun v => hkeep (.wrapper v) (by simp))
      (fun v => hkeep' (.wrapper v) (by simp))
      fun v a ha => hothers a (hs.children.ne_next ⟨.wrapper v, ha⟩)
  have hsole : ¬ Shared (Function.update s.child (.temp t) (some s.next)) (.temp t) s.next :=
    fun ⟨z, hz, hzs⟩ => hs.children.ne_next ⟨z, (hkeep' z hz).symm.trans hzs⟩ rfl
  refine
    { store :=
        { devices :=
            { owned := fun a => (howned a).trans (hs.devices.owned a)
              exclusive := hs.devices.exclusive
              fresh := fun a ha => Nat.lt_succ_of_lt (hs.devices.fresh a ((howned a).mp ha)) }
          children := hs.children.make hchild (by rw [hhandle, hc]; rfl) (by rw [hc]; rfl) hdeleter
            (by rw [hc]; exact haddress)
          wrappers := hwrappers
          log := hs.log }
      own :=
        { own := ⟨h.own.mutex, h.own.handle, fun a c' hc' => ?_⟩
          resolve := fun _ => h.resolve_factory (by simp [hkind]) fun v =>
            congrArg (Option.map s.deviceState) (hkeep (.wrapper v) (by simp))
          typed := fun _ => h.typed rfl
          stage := ⟨(hkeep (.temp t) (by simp)).trans hdev, hnew, hsole, target, c, htarget,
            Function.update_self .., Function.update_self .., ?_, ?_, ?_, nofun⟩ }
      frame :=
        { Frame.refl t op s with
          dev_temp := fun t' _ => hkeep (.temp t') (by simp)
          child_temp := fun t' hne => hkeep' (.temp t') (by simpa using hne)
          dev_wrapper := fun v _ => hkeep (.wrapper v) (by simp)
          child_wrapper := fun v _ => hkeep' (.wrapper v) (by simp)
          state := fun _ _ _ => rfl
          next := Nat.le_succ _
          member := fun a ha _ => ?_
          children := fun a c' hc' _ =>
            (hothers a (Nat.ne_of_lt (hs.children.fresh a c' hc'))).trans hc'
          deleter := fun t' _ a c' hc' hd => ⟨c', hdying a c' t' hc' hd, hd⟩
          sole := fun t' _ a ha ⟨z, hz, hza⟩ => ⟨z, hz, (hkeep' z ?_).symm.trans hza⟩ } }
  · refine ⟨fun hd => ?_, nofun⟩
    exact (h.own.dying a c' (hdying a c' t hc' hd)).mp hd
  · rw [hkind, hc]
    rfl
  · rw [hc]
    rfl
  · rw [hc]
    rfl
  · have hne : a ≠ s.next := fun heq => ha (heq ▸ hnone)
    exact hkeep (.member a) (by simpa using hne)
  · rintro rfl
    exact hs.children.ne_next ha (Option.some.inj (hza.symm.trans hnew))

omit [DecidableEq T] [NativeApi] in
/-- A child changes, and with it perhaps who owns what. -/
theorem ChildrenOk.replace {child child' : Place T Empty → Option Addr}
    {children : Addr → Option (Child T)} {dev : Place T Addr → Option Addr}
    {handles : Holder T → Option Handle} {next a : Addr} {c c' : Child T}
    (h : ChildrenOk child children dev handles next) (hc : children a = some c)
    (howned : ∀ b, Owned child' b ↔
      ∃ e, Function.update children a (some c') b = some e ∧ e.deleter = none)
    (hbirth : c'.birth = c.birth) (hbus : c'.bus = none ∨ c'.bus = c'.birth.handle) :
    ChildrenOk child' (Function.update children a (some c')) dev handles next where
  owned := howned
  fresh b e he := by
    obtain ⟨rfl, -⟩ | ⟨-, he⟩ := update_some_cases he
    · exact h.fresh b c hc
    · exact h.fresh b e he
  member b e he := by
    obtain ⟨rfl, rfl⟩ | ⟨-, he⟩ := update_some_cases he
    · rw [hbirth]
      exact h.member b c hc
    · exact h.member b e he
  orphan b hb := h.orphan b (update_some_eq_none hb).2
  bus b e he := by
    obtain ⟨-, rfl⟩ | ⟨-, he⟩ := update_some_cases he
    · exact hbus
    · exact h.bus b e he
  address b e he := by
    obtain ⟨rfl, rfl⟩ | ⟨-, he⟩ := update_some_cases he
    · rw [hbirth]
      exact h.address b c hc
    · exact h.address b e he

omit [DecidableEq T] [NativeApi] in
/-- The struct of a child changes. -/
theorem ChildrenOk.init {child : Place T Empty → Option Addr} {children : Addr → Option (Child T)}
    {dev : Place T Addr → Option Addr} {handles : Holder T → Option Handle} {next a : Addr}
    {c c' : Child T} (h : ChildrenOk child children dev handles next) (hc : children a = some c)
    (hbirth : c'.birth = c.birth) (hdeleter : c'.deleter = c.deleter)
    (hbus : c'.bus = none ∨ c'.bus = c'.birth.handle) :
    ChildrenOk child (Function.update children a (some c')) dev handles next := by
  refine h.replace hc (fun b => ?_) hbirth hbus
  rw [h.owned]
  by_cases hb : b = a
  · subst hb
    simp [hc, hdeleter]
  · rw [Function.update_of_ne hb]

omit [DecidableEq T] in
/-- The factory has initialised the struct of its child, or failed to. -/
theorem initChild_lands (hs : StoreOk s) {a : Addr} {held : Bool} {c c' : Child T}
    (h : Attached s t op ⟨x, .making a false, held⟩ none) (hc : s.children a = some c)
    (hkind : c'.kind = c.kind) (hbirth : c'.birth = c.birth) (hdeleter : c'.deleter = c.deleter)
    (haddress : c'.address = c.address) (hbus : c'.bus = none ∨ c'.bus = c'.birth.handle)
    {initialised : Bool} (hbound : initialised = true → c'.Bound) :
    Lands t op s { s with children := Function.update s.children a (some c') }
      ⟨x, .making a initialised, held⟩ none := by
  obtain ⟨hdev, hmine, hsole, target, c₀, htarget, hmember, hc₀, hkind₀, hbirth₀, haddress₀, -⟩ :=
    h.stage
  obtain rfl : c₀ = c := Option.some.inj (hc₀.symm.trans hc)
  have hothers : ∀ b, b ≠ a → Function.update s.children a (some c') b = s.children b :=
    fun b hb => Function.update_of_ne hb _ _
  have hself : Function.update s.children a (some c') a = some c' := Function.update_self ..
  have hlive : c₀.deleter = none := by
    obtain ⟨c₁, hc₁, hnone⟩ := (hs.children.owned a).mp ⟨_, hmine⟩
    rw [hc] at hc₁
    rw [Option.some.inj hc₁, hnone]
  have hdying : ∀ b e (t' : T), Function.update s.children a (some c') b = some e →
      e.deleter = some t' → s.children b = some e := by
    intro b e t' he hd
    obtain ⟨-, rfl⟩ | ⟨-, he⟩ := update_some_cases he
    · rw [hdeleter, hlive] at hd
      cases hd
    · exact he
  -- nobody else can reach the child
  have hwrappers : WrappersOk s.wrappers s.dev s.child
      (Function.update s.children a (some c')) := by
    refine hs.wrappers.congr (fun _ => rfl) (fun _ => rfl) fun v b hb => hothers b ?_
    rintro rfl
    exact hsole ⟨.wrapper v, by simp, hb⟩
  refine
    { store := ⟨hs.devices, hs.children.init hc hbirth hdeleter hbus, hwrappers, hs.log⟩
      own :=
        { own := ⟨h.own.mutex, h.own.handle, fun b e he => ?_⟩
          resolve := fun _ => h.resolve_factory (by simp [hkind₀]) fun _ => rfl
          typed := fun _ => h.typed rfl
          stage := ⟨hdev, hmine, hsole, target, c', htarget, hmember, hself,
            hkind₀.trans (congrArg some hkind.symm), hbirth.trans hbirth₀,
            haddress.trans haddress₀, hbound⟩ }
      frame :=
        { Frame.refl t op s with
          member := fun _ _ _ => rfl
          children := fun b e he hkeep => (hothers b ?_).trans he
          deleter := fun t' _ b e he hd => ⟨e, hdying b e t' he hd, hd⟩ } }
  · exact ⟨fun hd => (h.own.dying b e (hdying b e t he hd)).mp hd, nofun⟩
  · rintro rfl
    rw [hc] at he
    cases he
    obtain hshared | ⟨t', -, hd⟩ := hkeep
    · exact hsole hshared
    · rw [hlive] at hd
      cases hd

/-- The wrapper object of the child comes to life. -/
theorem commitChild_lands (hs : StoreOk s) {a : Addr} {held : Bool} {w : Var} {kind : ChildKind}
    (hdst : op.dst = some w) (hkind : op.childKind = some kind)
    (h : Attached s t op ⟨x, .making a true, held⟩ none) :
    Lands t op s
      { s with
        child := move s.child (.temp t) (.wrapper w)
        wrappers := Function.update s.wrappers w (some (.child kind)) }
      ⟨x, .droppingChild, held⟩ none := by
  obtain ⟨hdev, hmine, hsole, target, c, htarget, hmember, hc, hkind', hbirth, haddress, hbound⟩ :=
    h.stage
  obtain rfl : c.kind = kind := Option.some.inj (hkind'.symm.trans hkind)
  have hnew : s.wrappers w = none := by
    have htyped := h.typed rfl
    cases op with
    | i2cDevice | smbusDevice | gpioPoller =>
      cases hdst
      exact htyped.2
    | _ => cases hdst
  obtain ⟨hempty, hempty'⟩ := hs.wrappers.empty hnew
  have hwrapper : ∀ v, v ≠ w → move s.child (.temp t) (.wrapper w) (.wrapper v) =
      s.child (.wrapper v) := fun v hv => move_of_ne (by simp) (by simpa using hv)
  have htarget' : move s.child (.temp t) (.wrapper w) (.wrapper w) = some a :=
    (move_target (by simp)).trans hmine
  have hwrappers : WrappersOk (Function.update s.wrappers w (some (.child c.kind))) s.dev
      (move s.child (.temp t) (.wrapper w)) s.children := by
    refine ⟨fun v b hb => ?_, fun v b hb => ?_⟩
    · have hv : v ≠ w := by
        rintro rfl
        rw [hempty] at hb
        cases hb
      rw [Function.update_of_ne hv]
      exact hs.wrappers.device v b hb
    · by_cases hv : v = w
      · subst hv
        rw [htarget'] at hb
        cases hb
        exact ⟨c, hc, Function.update_self .., hbound rfl⟩
      · rw [Function.update_of_ne hv]
        exact hs.wrappers.child v b ((hwrapper v hv).symm.trans hb)
  have hwrites : ∀ v, v ∉ op.writes → v ≠ w := by
    rintro v hmem rfl
    cases op with
    | i2cDevice | smbusDevice | gpioPoller =>
      cases hdst
      simp [Op.writes] at hmem
    | _ => cases hdst
  exact
    { store :=
        { devices := hs.devices
          children :=
            { hs.children with
              owned := fun b => (owned_move (by simp) hempty').trans (hs.children.owned b) }
          wrappers := hwrappers
          log := hs.log }
      own :=
        { own := ⟨h.own.mutex, h.own.handle, h.own.dying⟩
          resolve := fun _ => h.resolve_factory (by simp [hkind]) fun _ => rfl
          typed := fun hearly => absurd hearly Bool.false_ne_true
          stage := ⟨hdev, .inr ⟨by simp [hkind], move_source⟩⟩ }
      frame :=
        { Frame.refl t op s with
          child_temp := fun t' hne => move_of_ne (by simpa using hne) (by simp)
          child_wrapper := fun v hmem => hwrapper v (hwrites v hmem)
          wrapper := fun v hmem => Function.update_of_ne (hwrites v hmem) _ _
          sole := fun t' hne b _ => shared_of_move (by simpa using hne.symm) } }

/-! ## The end of a child -/

/-- Another pointer to the child remains. -/
theorem releaseSharedChild_lands (hs : StoreOk s) {stage : Stage}
    (h : Attached s t op ⟨x, stage, false⟩ none) (hdying : stage.dying = none)
    (hdev : s.dev (.temp t) = none) (hcause : op.sheds = true ∨ op.childKind ≠ none)
    (hshared : ∀ a, s.child (.temp t) = some a → Shared s.child (.temp t) a) :
    Lands t op s { s with child := drop s.child (.temp t) } ⟨x, .done, false⟩ none := by
  have hquiet := h.own.dying
  rw [show (⟨x, stage, false⟩ : Position).stage.dying = none from hdying] at hquiet
  have hkeep : ∀ z, z ≠ .temp t → drop s.child (.temp t) z = s.child z :=
    fun z hz => drop_of_ne hz
  exact
    { store :=
        { devices := hs.devices
          children :=
            { hs.children with
              owned := fun a => (owned_drop hshared).trans (hs.children.owned a) }
          wrappers := hs.wrappers.congr (fun _ => rfl) (fun v => hkeep (.wrapper v) (by simp))
            fun _ _ _ => rfl
          log := hs.log }
      own :=
        { own := ⟨h.own.mutex, h.own.handle, hquiet⟩
          resolve := fun hearly => h.resolve_factory
            (hcause.resolve_left (by simp [hearly.resolve_right nofun])) fun _ => rfl
          typed := nofun
          stage := ⟨hdev, drop_self⟩ }
      frame :=
        { Frame.refl t op s with
          child_temp := fun t' hne => hkeep (.temp t') (by simpa using hne)
          child_wrapper := fun v _ => hkeep (.wrapper v) (by simp)
          sole := fun _ _ _ _ => shared_of_drop } }

omit [NativeApi] in
/-- The last pointer to a child goes, and a thread will delete it. -/
theorem ChildrenOk.release {child : Place T Empty → Option Addr}
    {children : Addr → Option (Child T)} {dev : Place T Addr → Option Addr}
    {handles : Holder T → Option Handle} {next a : Addr} {c c' : Child T}
    (h : ChildrenOk child children dev handles next) (ha : child (.temp t) = some a)
    (hlast : ¬ Shared child (.temp t) a) (hc : children a = some c)
    (hc' : c' = { c with deleter := some t }) :
    ChildrenOk (drop child (.temp t)) (Function.update children a (some c')) dev handles next := by
  subst hc'
  refine h.replace hc (fun b => ?_) rfl (h.bus a c hc)
  rw [owned_drop_last ha hlast]
  by_cases hb : b = a
  · subst hb
    simp
  · rw [Function.update_of_ne hb, h.owned]
    simp [hb]

/-- The last pointer to the child is gone, and the thread will delete it. -/
theorem releaseLastChild_lands (hs : StoreOk s) {stage : Stage}
    (h : Attached s t op ⟨x, stage, false⟩ none) (hdying : stage.dying = none)
    (hdev : s.dev (.temp t) = none) {a : Addr} {c : Child T}
    (ha : s.child (.temp t) = some a) (hlast : ¬ Shared s.child (.temp t) a)
    (hc : s.children a = some c)
    (hcause : op.sheds = true ∨ op.childKind = some c.kind ∧
      ∃ target, x.target = some target ∧ s.dev (.member a) = some target.device.addr) :
    Lands t op s
      { s with
        child := drop s.child (.temp t)
        children := Function.update s.children a (some { c with deleter := some t }) }
      ⟨x, .ending a c.kind false, false⟩ none := by
  have hquiet := h.own.dying
  rw [show (⟨x, stage, false⟩ : Position).stage.dying = none from hdying] at hquiet
  have hkeep : ∀ z, z ≠ .temp t → drop s.child (.temp t) z = s.child z :=
    fun z hz => drop_of_ne hz
  obtain ⟨c', hc'⟩ : ∃ c', c' = { c with deleter := some t } := ⟨_, rfl⟩
  rw [← hc']
  have hdeleter : c'.deleter = some t := by rw [hc']
  have hkind : c'.kind = c.kind := by rw [hc']
  have hlive : c.deleter = none := by
    obtain ⟨c₁, hc₁, hnone⟩ := (hs.children.owned a).mp ⟨_, ha⟩
    rw [hc] at hc₁
    rw [Option.some.inj hc₁, hnone]
  have hothers : ∀ b, b ≠ a → Function.update s.children a (some c') b = s.children b :=
    fun b hb => Function.update_of_ne hb _ _
  have hself : Function.update s.children a (some c') a = some c' := Function.update_self ..
  have hwrappers : WrappersOk s.wrappers s.dev (drop s.child (.temp t))
      (Function.update s.children a (some c')) := by
    refine hs.wrappers.congr (fun _ => rfl) (fun v => hkeep (.wrapper v) (by simp))
      fun v b hb => hothers b ?_
    rintro rfl
    exact hlast ⟨.wrapper v, by simp, hb⟩
  refine
    { store := ⟨hs.devices, hs.children.release ha hlast hc hc', hwrappers, hs.log⟩
      own :=
        { own := ⟨h.own.mutex, h.own.handle, fun b e he => ?_⟩
          resolve := fun hearly => ?_
          typed := nofun
          stage := ⟨hdev, drop_self, c', hself, hdeleter, hkind, hcause⟩ }
      frame :=
        { Frame.refl t op s with
          child_temp := fun t' hne => hkeep (.temp t') (by simpa using hne)
          child_wrapper := fun v _ => hkeep (.wrapper v) (by simp)
          member := fun _ _ _ => rfl
          children := fun b e he hreach => (hothers b ?_).trans he
          deleter := fun t' hne b e he hd => ?_
          sole := fun _ _ _ _ => shared_of_drop } }
  · obtain ⟨rfl, rfl⟩ | ⟨hb, he⟩ := update_some_cases he
    · exact iff_of_true hdeleter rfl
    · refine iff_of_false (fun hd => ?_) fun hd => hb (Option.some.inj hd).symm
      cases (hquiet b e he).mp hd
  · have hkind := (hcause.resolve_left (by simp [hearly.resolve_right nofun])).1
    exact h.resolve_factory (by simp [hkind]) fun _ => rfl
  · rintro rfl
    rw [hc] at he
    cases he
    obtain hshared | ⟨t', -, hd⟩ := hreach
    · exact hlast hshared
    · rw [hlive] at hd
      cases hd
  · obtain ⟨-, rfl⟩ | ⟨-, he⟩ := update_some_cases he
    · rw [hdeleter] at hd
      exact absurd (Option.some.inj hd).symm hne
    · exact ⟨e, he, hd⟩

omit [DecidableEq T] in
/-- `mcp2221_smbus_close` begins; a handle that the bus borrows is open. -/
theorem enterSmbusClose_lands (hs : StoreOk s) {q : Position} (h : Attached s t op q handle)
    (a : Addr) :
    Lands t op s
      { s with log := s.log ++ [.smbusClose t a ((s.children a).bind Child.bus)] } q handle where
  store :=
    { devices := hs.devices
      children := hs.children
      wrappers := hs.wrappers
      log :=
        { legal := hs.log.legal.snoc fun hd hbus => by
            obtain ⟨c, hc, hbus⟩ := Option.bind_eq_some_iff.mp hbus
            obtain hnone | hbirth := hs.children.bus a c hc
            · rw [hnone] at hbus
              cases hbus
            · obtain ⟨d, -, hhandle⟩ := hs.children.member a c hc
              exact (hs.log.isOpen hd).mpr ⟨_, hhandle.trans (hbirth.symm.trans hbus)⟩
          isOpen := fun hd => by
            simpa [IsOpen, opened_append, closed_append] using hs.log.isOpen hd } }
  own := ⟨⟨h.own.mutex, h.own.handle, h.own.dying⟩, h.resolve, h.typed, h.stage⟩
  frame := { Frame.refl t op s with }

omit [DecidableEq T] in
theorem smbusClosed_lands (hs : StoreOk s) {a : Addr} {kind : ChildKind} {closed : Bool}
    (h : Attached s t op ⟨x, .ending a kind closed, false⟩ none) :
    Lands t op s s ⟨x, .ending a kind true, false⟩ none :=
  ⟨hs, ⟨⟨h.own.mutex, h.own.handle, h.own.dying⟩,
    fun hearly => h.resolve (.inl (hearly.resolve_right nofun)), nofun, h.stage⟩,
    Frame.refl t op s⟩

omit [NativeApi] in
/-- A child without owner is deleted, and its member goes to a local pointer. -/
theorem ChildrenOk.delete {child : Place T Empty → Option Addr}
    {children : Addr → Option (Child T)} {dev : Place T Addr → Option Addr}
    {handles : Holder T → Option Handle} {next a : Addr}
    (h : ChildrenOk child children dev handles next) (hunowned : ¬ Owned child a) :
    ChildrenOk child (Function.update children a none) (move dev (.member a) (.temp t)) handles
      next where
  owned b := by
    by_cases hb : b = a
    · subst hb
      simp [hunowned]
    · rw [Function.update_of_ne hb]
      exact h.owned b
  fresh b e he := h.fresh b e (update_none_eq_some he).2
  member b e he := by
    obtain ⟨hb, he⟩ := update_none_eq_some he
    rw [move_of_ne (by simpa using hb) (by simp)]
    exact h.member b e he
  orphan b hb := by
    by_cases hba : b = a
    · rw [hba]
      exact move_source
    · rw [move_of_ne (by simpa using hba) (by simp)]
      exact h.orphan b ((Function.update_of_ne hba _ _).symm.trans hb)
  bus b e he := h.bus b e (update_none_eq_some he).2
  address b e he := h.address b e (update_none_eq_some he).2

/-- The child is deleted, and its `device` member moves to the local pointer. -/
theorem deleteChild_lands (hs : StoreOk s) {a : Addr} {kind : ChildKind} {closed : Bool}
    (h : Attached s t op ⟨x, .ending a kind closed, false⟩ none) :
    Lands t op s
      { s with
        dev := move s.dev (.member a) (.temp t)
        children := Function.update s.children a none }
      ⟨x, .droppingDevice, false⟩ none := by
  obtain ⟨hdev, hchild, c, hc, hdeleter, hkind, hcause⟩ := h.stage
  have hunowned : ¬ Owned s.child a := fun howned => by
    obtain ⟨c₁, hc₁, hnone⟩ := (hs.children.owned a).mp howned
    rw [hc] at hc₁
    rw [← Option.some.inj hc₁, hdeleter] at hnone
    cases hnone
  have hkeep : ∀ z, z ≠ .member a → z ≠ .temp t →
      move s.dev (.member a) (.temp t) z = s.dev z := fun z hz hz' => move_of_ne hz hz'
  have htemp : move s.dev (.member a) (.temp t) (.temp t) = s.dev (.member a) :=
    move_target (by simp)
  have hothers : ∀ b, b ≠ a → Function.update s.children a none b = s.children b :=
    fun b hb => Function.update_of_ne hb _ _
  have hwrappers : WrappersOk s.wrappers (move s.dev (.member a) (.temp t)) s.child
      (Function.update s.children a none) := by
    refine hs.wrappers.congr (fun v => hkeep (.wrapper v) (by simp) (by simp)) (fun _ => rfl)
      fun v b hb => hothers b ?_
    rintro rfl
    exact hunowned ⟨.wrapper v, hb⟩
  refine
    { store :=
        { devices := hs.devices.congr (fun b => owned_move (by simp) hdev) (fun _ => rfl)
            hs.devices.exclusive
          children := hs.children.delete hunowned
          wrappers := hwrappers
          log := hs.log }
      own :=
        { own := ⟨h.own.mutex, h.own.handle, fun b e he => ?_⟩
          resolve := fun hearly => ?_
          typed := nofun
          stage := ⟨hchild, hcause.imp id fun ⟨hkind, target, htarget, hmember⟩ =>
            ⟨by simp [hkind], target, htarget, htemp.trans hmember⟩⟩ }
      frame :=
        { Frame.refl t op s with
          dev_temp := fun t' hne => hkeep (.temp t') (by simp) (by simpa using hne)
          dev_wrapper := fun v _ => hkeep (.wrapper v) (by simp) (by simp)
          state := fun _ _ _ => rfl
          member := fun b _ hb => hkeep (.member b) ?_ (by simp)
          children := fun b e he hreach => (hothers b ?_).trans he
          deleter := fun t' _ b e he hd => ⟨e, (update_none_eq_some he).2, hd⟩ } }
  · obtain ⟨hb, he⟩ := update_none_eq_some he
    refine iff_of_false (fun hd => ?_) nofun
    exact hb (Option.some.inj ((h.own.dying b e he).mp hd)).symm
  · have hkind := (hcause.resolve_left (by simp [hearly.resolve_right nofun])).1
    refine h.resolve_factory (by simp [hkind]) fun v => ?_
    exact congrArg (Option.map s.deviceState) (hkeep (.wrapper v) (by simp) (by simp))
  · have hne : b ≠ a := by
      rintro rfl
      exact hb (Function.update_self ..)
    simpa using hne
  · rintro rfl
    rw [hc] at he
    cases he
    obtain ⟨z, -, hz⟩ | ⟨t', hne, hd⟩ := hreach
    · exact hunowned ⟨z, hz⟩
    · rw [hdeleter] at hd
      exact hne (Option.some.inj hd).symm

end EasyMcp2221
