import EasyMcp2221.System.Binding
import EasyMcp2221.Correspondence

/-!
# Default and explicit register layouts

An `I2cDevice` stores the register layout it was created with, and the overloads
without a layout leave the choice to the C library.  They agree with the overloads
that name the layout of the creation.
-/

namespace EasyMcp2221

open Effect

section

variable [NativeApi]

/-! ## What the C library does with a layout -/

/-- The register layout that a call uses: a width of 0 and the default order stand for
    what `mcp2221_i2c_slave_init` has stored. -/
def NativeSlave.effective (slave : NativeSlave) (width : Int) (order : NativeByteOrder) :
    Int × NativeByteOrder :=
  (if width = 0 then slave.regBytes else width,
    if order = .default then slave.regByteOrder else order)

/-- Two events that are the same, or calls that transfer the same bytes to and from the
    same register of a slave and get the same answer. -/
inductive SameTransfer (slave : NativeSlave) :
    Prog.Event Eff.Reply → Prog.Event Eff.Reply → Prop where
  | refl (ev : Prog.Event Eff.Reply) : SameTransfer slave ev ev
  | read {a : Addr} {reg : UInt32} {size : Nat} {width width' : Int}
      {order order' : NativeByteOrder}
      (heffective : slave.effective width order = slave.effective width' order')
      (r : NativeCall.Reply (.i2cSlaveReadRegister a reg size width order)) :
      SameTransfer slave ⟨.call (.i2cSlaveReadRegister a reg size width order), r⟩
        ⟨.call (.i2cSlaveReadRegister a reg size width' order'), ⟨r.status, r.out, r.isInt⟩⟩
  | write {a : Addr} {reg : UInt32} {data : BytePtr} {size : Nat} {width width' : Int}
      {order order' : NativeByteOrder}
      (heffective : slave.effective width order = slave.effective width' order')
      (r : NativeCall.Reply (.i2cSlaveWriteRegister a reg data size width order)) :
      SameTransfer slave ⟨.call (.i2cSlaveWriteRegister a reg data size width order), r⟩
        ⟨.call (.i2cSlaveWriteRegister a reg data size width' order'),
          ⟨r.status, r.out, r.isInt⟩⟩

/-! ## The two copies of the translation -/

theorem I2cDevice.toNativeRegisterWidth_eq (x : CppEnum RegisterWidth) :
    I2cDevice.toNativeRegisterWidth x = EasyMcp2221.toNativeRegisterWidth x := by
  cases x with
  | named width => cases width <;> rfl
  | unnamed => rfl

theorem I2cDevice.toNativeByteOrder_eq (x : CppEnum ByteOrder) :
    I2cDevice.toNativeByteOrder x = EasyMcp2221.toNativeByteOrder x := by
  cases x with
  | named order => cases order <;> rfl
  | unnamed => rfl

/-- No explicit width is taken for the stored one. -/
theorem toNativeRegisterWidth_ne_zero {x : CppEnum RegisterWidth} {width : Int}
    (h : toNativeRegisterWidth x = .ok width) : width ≠ 0 := by
  cases x with
  | named x => cases x <;> cases h <;> decide
  | unnamed => cases h

/-- No explicit order is taken for the stored one. -/
theorem toNativeByteOrder_ne_default {x : CppEnum ByteOrder} {order : NativeByteOrder}
    (h : toNativeByteOrder x = .ok order) : order ≠ .default := by
  cases x with
  | named x => cases x <;> cases h <;> decide
  | unnamed => cases h

/-- The slave stores the layout `w`, `o`. -/
def NativeSlave.Stores (slave : NativeSlave) (w : CppEnum RegisterWidth) (o : CppEnum ByteOrder) :
    Prop :=
  toNativeRegisterWidth w = .ok slave.regBytes ∧ toNativeByteOrder o = .ok slave.regByteOrder

/-- The layout of the creation, given explicitly, has the effect of the stored one. -/
theorem NativeSlave.Stores.effective {slave : NativeSlave} {w : CppEnum RegisterWidth}
    {o : CppEnum ByteOrder} (h : slave.Stores w o) :
    slave.effective 0 .default = slave.effective slave.regBytes slave.regByteOrder := by
  simp [NativeSlave.effective, toNativeRegisterWidth_ne_zero h.1, toNativeByteOrder_ne_default h.2]

/-! ## The overloads -/

variable {self : Option I2cDeviceState} {slave : NativeSlave} {w : CppEnum RegisterWidth}
  {o : CppEnum ByteOrder}

/-- The calls of the two read overloads. -/
theorem readRegister_agrees (hstores : slave.Stores w o) (reg : UInt32) (size : Nat) :
    Prog.Sim (SameTransfer slave) Eq (I2cDevice.readRegister self reg size)
      (I2cDevice.readRegisterLayout self reg size w o) := by
  have hwidth := (I2cDevice.toNativeRegisterWidth_eq w).trans hstores.1
  have horder := (I2cDevice.toNativeByteOrder_eq o).trans hstores.2
  refine .bind_same .refl _ (fun _ => rfl) fun ⟨state, device⟩ => ?_
  refine .bind_same .refl _ (fun _ => rfl) fun _ => ?_
  refine .bind_same .refl _ (fun _ => rfl) fun _ => ?_
  refine sim_withLock .refl ?_ device
  simp only [hwidth, horder, Prog.liftM_eq, Prog.bind_eq, Prog.ofExcept, Prog.ret_bind]
  exact sim_nativeCall (.i2cSlaveReadRegister state.addr reg size 0 .default)
    (.i2cSlaveReadRegister state.addr reg size slave.regBytes slave.regByteOrder)
    Function.surjective_id _ (.read hstores.effective) (fun _ => rfl) fun out => .ret rfl

theorem writeRegister_agrees (hstores : slave.Stores w o) (reg : UInt32) (data : BytePtr)
    (size : Nat) :
    Prog.Sim (SameTransfer slave) Eq (I2cDevice.writeRegister self reg data size)
      (I2cDevice.writeRegisterLayout self reg data size w o) := by
  have hwidth := (I2cDevice.toNativeRegisterWidth_eq w).trans hstores.1
  have horder := (I2cDevice.toNativeByteOrder_eq o).trans hstores.2
  refine .bind_same .refl _ (fun _ => rfl) fun ⟨state, device⟩ => ?_
  refine .bind_same .refl _ (fun _ => rfl) fun _ => ?_
  refine .bind_same .refl _ (fun _ => rfl) fun _ => ?_
  refine sim_withLock .refl ?_ device
  simp only [hwidth, horder, Prog.liftM_eq, Prog.bind_eq, Prog.ofExcept, Prog.ret_bind]
  exact sim_nativeCall_last (.i2cSlaveWriteRegister state.addr reg data size 0 .default)
    (.i2cSlaveWriteRegister state.addr reg data size slave.regBytes slave.regByteOrder)
    Function.surjective_id _ (.write hstores.effective) (fun _ => rfl) fun out => rfl

/-! ## Every later call of the adapter -/

variable {T : Type} [DecidableEq T] {t : T} {c c' : (system T).Config}

/-- The native slave that an `I2cDevice` works on. -/
def Store.slaveOf {T : Type} (s : Store T) (v : Var) : NativeSlave :=
  ((s.i2cSelf v).map I2cDeviceState.slave).getD {}

/-- The slave of an adapter, at any later time, stores the layout that the adapter was
    created with. -/
theorem stores_of_created (hc : (system T).Reachable Store.empty c) {u dst v : Var}
    {address : UInt8} {options : I2cDeviceOptions} {a : Addr}
    (hcreated : c.Performs t (.i2cDevice u dst address options) (.own (.commitChild dst .i2c)))
    (ha : c.state.child (.temp t) = some a) (hsteps : (system T).Steps c c')
    (hv : c'.state.child (.wrapper v) = some a) :
    (c'.state.slaveOf v).Stores options.registerWidth options.byteOrder := by
  obtain ⟨g, hok, htracks⟩ := system_reachable hc
  obtain ⟨g', hok', -⟩ := system_reachable (hc.steps hsteps)
  obtain ⟨q, handle, -, hq, hpermits⟩ := performs_attached hok htracks hcreated
  obtain ⟨-, -, -, -, -, hd, b, child, -, -, -, -, hmine, -, hchild, hkind, hbirth, -⟩ :=
    hq.commit_bound hok.store hpermits
  obtain rfl : b = a := Option.some.inj (hmine.symm.trans ha)
  obtain ⟨child', hchild', -, hbound⟩ := hok'.store.wrappers.child v b hv
  obtain ⟨hkind', hbirth'⟩ := birth_of_steps hc hsteps hchild hchild'
  rw [Child.Bound, hkind'.trans hkind, hbirth'.trans hbirth] at hbound
  obtain ⟨width, order, hwidth, horder, hslave⟩ := hbound
  have hslaveOf : c'.state.slaveOf v = child'.slave := by
    simp only [Store.slaveOf, Store.i2cSelf, hv, Option.map_some, Store.i2cState, hchild',
      Option.getD_some]
  rw [hslaveOf, hslave]
  exact ⟨hwidth, horder⟩

/-- **Default and explicit register layouts agree.**  Once a factory has succeeded with
    some options, then after any further run the overloads without a layout and those
    with the layout of the options proceed in step, on every wrapper object of the new
    adapter: they reject the same arguments, transfer the same bytes to and from the same
    register of the slave, and return or throw the same. -/
theorem register_layouts_agree (hc : (system T).Reachable Store.empty c) {u dst v : Var}
    {address : UInt8} {options : I2cDeviceOptions} {a : Addr}
    (hcreated : c.Performs t (.i2cDevice u dst address options) (.own (.commitChild dst .i2c)))
    (ha : c.state.child (.temp t) = some a) (hsteps : (system T).Steps c c')
    (hv : c'.state.child (.wrapper v) = some a ∨ c'.state.child (.wrapper v) = none)
    (reg : UInt32) (size : Nat) (pointer : BytePtr) (data : Bytes) :
    Prog.Sim (SameTransfer (c'.state.slaveOf v)) Eq
      (I2cDevice.readRegister (c'.state.i2cSelf v) reg size)
      (I2cDevice.readRegisterLayout (c'.state.i2cSelf v) reg size options.registerWidth
        options.byteOrder) ∧
    Prog.Sim (SameTransfer (c'.state.slaveOf v)) Eq
      (I2cDevice.writeRegister (c'.state.i2cSelf v) reg pointer size)
      (I2cDevice.writeRegisterLayout (c'.state.i2cSelf v) reg pointer size options.registerWidth
        options.byteOrder) ∧
    Prog.Sim (SameTransfer (c'.state.slaveOf v)) Eq
      (I2cDevice.writeRegisterVector (c'.state.i2cSelf v) reg data)
      (I2cDevice.writeRegisterLayout (c'.state.i2cSelf v) reg (vectorData data) data.length
        options.registerWidth options.byteOrder) := by
  obtain hv | hempty := hv
  · have hstores := stores_of_created hc hcreated ha hsteps hv
    exact ⟨readRegister_agrees hstores reg size, writeRegister_agrees hstores reg pointer size,
      writeRegister_agrees hstores reg (vectorData data) data.length⟩
  · -- an adapter that was moved from throws in each of them
    have hnone : c'.state.i2cSelf v = none := by rw [Store.i2cSelf, hempty, Option.map_none]
    rw [hnone]
    exact ⟨.throw rfl, .throw rfl, .throw rfl⟩

end

section

attribute [local instance] NativeApi.reference

/-- A register read of the new `I2cDevice`, with and without the layout it was created
    with. -/
theorem register_layouts_agree_i2cDevice : ∃ c : (system Unit).Config,
    (system Unit).Reachable Store.empty c ∧ c.state.child (.wrapper 1) ≠ none ∧
      Prog.Sim (SameTransfer (c.state.slaveOf 1)) Eq
        (I2cDevice.readRegister (c.state.i2cSelf 1) 0x10 2)
        (I2cDevice.readRegisterLayout (c.state.i2cSelf 1) 0x10 2 (.named .bits8)
          (.named .bigEndian)) := by
  obtain ⟨s, k, hinitialised, hmade, -⟩ := handing_out
  obtain ⟨a, ha⟩ := Option.ne_none_iff_exists'.mp hmade
  obtain ⟨c, hc, rfl, hperforms, hnext⟩ := hinitialised.performs
  obtain ⟨c', hsteps, hstate⟩ := hnext () _ rfl
  have hv : c'.state.child (.wrapper 1) = some a := by
    have hmoved : move c.state.child (.temp ()) (.wrapper 1) (.wrapper 1) = some a :=
      (move_target (by simp)).trans ha
    rw [hstate]
    exact hmoved
  obtain ⟨hread, -⟩ := register_layouts_agree hc hperforms ha hsteps (.inl hv) 0x10 2 none []
  exact ⟨c', hc.steps hsteps, by simp [hv], hread⟩

end

end EasyMcp2221
