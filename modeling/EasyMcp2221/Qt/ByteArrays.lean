import EasyMcp2221.I2cDevice
import EasyMcp2221.SmbusDevice
import EasyMcp2221.Audit
import EasyMcp2221.Correspondence

/-!
# The byte-array functions of the Qt layer

`qt/I2c.cpp` and `qt/Smbus.cpp`.  A `QByteArray` is a sequence of signed characters; the
functions convert it, call the core, and convert the answer.  `Refines` compares such a
function with the operation of the core on the converted argument.
-/

namespace EasyMcp2221

open Effect

/-- A `QByteArray`. -/
abbrev QByteArray : Type := List Int8

namespace Qt

/-! ## Conversions -/

/-- `checkedSize`; the two files differ in the text. -/
def checkedSize (message : String) (size : Int) : Except Exn Nat :=
  if size < 0 then .error (.invalidArgument message) else .ok size.toNat

/-- The bytes of an array, as the core reads them. -/
def unsigned (data : QByteArray) : Bytes := data.map Int8.toUInt8

/-- The bytes of a vector, as Qt reads them. -/
def signed (data : Bytes) : QByteArray := data.map UInt8.toInt8

/-- `byteData`. -/
def byteData (data : QByteArray) : BytePtr := if data = [] then none else some (unsigned data)

/-- `toQByteArray`; an empty array needs no memory. -/
def toQByteArray (data : Bytes) : M QByteArray := do
  allocateVector data.length
  pure (signed data)

/-- `toVector`. -/
def toVector (data : QByteArray) : M Bytes := do
  allocateVector data.length
  pure (unsigned data)

theorem signed_unsigned (data : QByteArray) : signed (unsigned data) = data := by
  rw [signed, unsigned, List.map_map]
  exact List.map_id data

theorem unsigned_signed (data : Bytes) : unsigned (signed data) = data := by
  rw [signed, unsigned, List.map_map]
  exact List.map_id data

section

variable [NativeApi]

/-! ## `qt/I2c.cpp` -/

def read (device : Option I2cDeviceState) (size : Int) : M QByteArray := do
  let size ← checkedSize "I2C byte count must not be negative" size
  let data ← I2cDevice.read device size
  toQByteArray data

def write (device : Option I2cDeviceState) (data : QByteArray) : M Unit :=
  I2cDevice.write device (byteData data) data.length

def readRegister (device : Option I2cDeviceState) (reg : UInt32) (size : Int) : M QByteArray := do
  let size ← checkedSize "I2C byte count must not be negative" size
  let data ← I2cDevice.readRegister device reg size
  toQByteArray data

/-- The overload with an explicit register layout. -/
def readRegisterLayout (device : Option I2cDeviceState) (reg : UInt32) (size : Int)
    (registerWidth : CppEnum RegisterWidth) (byteOrder : CppEnum ByteOrder) : M QByteArray := do
  let size ← checkedSize "I2C byte count must not be negative" size
  let data ← I2cDevice.readRegisterLayout device reg size registerWidth byteOrder
  toQByteArray data

def writeRegister (device : Option I2cDeviceState) (reg : UInt32) (data : QByteArray) : M Unit :=
  I2cDevice.writeRegister device reg (byteData data) data.length

/-- The overload with an explicit register layout. -/
def writeRegisterLayout (device : Option I2cDeviceState) (reg : UInt32) (data : QByteArray)
    (registerWidth : CppEnum RegisterWidth) (byteOrder : CppEnum ByteOrder) : M Unit :=
  I2cDevice.writeRegisterLayout device reg (byteData data) data.length registerWidth byteOrder

/-! ## `qt/Smbus.cpp` -/

def readBlockData (device : Option SmbusDeviceState) (command : UInt8) : M QByteArray := do
  let data ← SmbusDevice.readBlockData device command
  toQByteArray data

def writeBlockData (device : Option SmbusDeviceState) (command : UInt8) (data : QByteArray) :
    M Unit := do
  let data ← toVector data
  SmbusDevice.writeBlockData device command data

def blockProcessCall (device : Option SmbusDeviceState) (command : UInt8) (data : QByteArray) :
    M QByteArray := do
  let data ← toVector data
  let answer ← SmbusDevice.blockProcessCall device command data
  toQByteArray answer

def readI2cBlockData (device : Option SmbusDeviceState) (command : UInt8) (size : Int) :
    M QByteArray := do
  let size ← checkedSize "SMBus byte count must not be negative" size
  let data ← SmbusDevice.readI2cBlockData device command size
  toQByteArray data

def writeI2cBlockData (device : Option SmbusDeviceState) (command : UInt8) (data : QByteArray) :
    M Unit := do
  let data ← toVector data
  SmbusDevice.writeI2cBlockData device command data

end

end Qt

/-! ## Counterparts -/

/-- Two events that are the same, or two writes of no bytes to the same register, whose
    pointers may differ, with the same answer. -/
inductive SameCall : Prog.Event Eff.Reply → Prog.Event Eff.Reply → Prop where
  | refl (ev : Prog.Event Eff.Reply) : SameCall ev ev
  | emptyWrite {a : Addr} {reg : UInt32} {data data' : BytePtr} {width : Int}
      {order : NativeByteOrder}
      (r : NativeCall.Reply (.i2cSlaveWriteRegister a reg data 0 width order)) :
      SameCall ⟨.call (.i2cSlaveWriteRegister a reg data 0 width order), r⟩
        ⟨.call (.i2cSlaveWriteRegister a reg data' 0 width order), ⟨r.status, r.out, r.isInt⟩⟩

/-- The exception without its text. -/
def Exn.sansMessage : Exn → Exn
  | .error code nativeCode _ => .error code nativeCode ""
  | .logicError _ => .logicError ""
  | .invalidArgument _ => .invalidArgument ""
  | .badAlloc => .badAlloc

/-- The same value, converted, or the same exception up to its text. -/
def SameOutcome {α β : Type} (convert : β → α) : Except Exn α → Except Exn β → Prop
  | .ok a, .ok b => a = convert b
  | .error x, .error y => x.sansMessage = y.sansMessage
  | _, _ => False

/-- The native events of two runs correspond. -/
def SameCalls (tr tr' : Trace) : Prop := List.Forall₂ SameCall (nativeEvents tr) (nativeEvents tr')

/-- `p` does what the operation `core` does.  Only memory can run out in `p` where it does
    not in `core`: for the converted argument before any call, or for the converted
    result after them. -/
structure Refines {α β : Type} (convert : β → α) (p : M α) (core : M β) : Prop where
  forth : ∀ tr out, p.Runs tr out → ∃ tr' out', core.Runs tr' out' ∧
    (SameCalls tr tr' ∧ SameOutcome convert out out' ∨
      OutOfMemory tr ∧ out = .error .badAlloc ∧ (nativeEvents tr = [] ∨ SameCalls tr tr'))
  back : ∀ tr' out', core.Runs tr' out' → ∃ tr out, p.Runs tr out ∧
    SameCalls tr tr' ∧ SameOutcome convert out out'

theorem SameCall.isNative {ev ev' : Prog.Event Eff.Reply} (h : SameCall ev ev') :
    ev.1.isNative = ev'.1.isNative := by
  cases h <;> rfl

theorem sameCalls_of_forall₂ {tr tr' : Trace} (h : List.Forall₂ SameCall tr tr') :
    SameCalls tr tr' :=
  List.rel_filter (fun _ _ hev => iff_of_eq (congrArg (· = true) hev.isNative)) h

theorem SameCalls.refl (tr : Trace) : SameCalls tr tr :=
  List.forall₂_same.mpr fun ev _ => .refl ev

@[simp] theorem nativeEvents_vectorMemory (size : Nat) (tr : Trace) :
    nativeEvents (vectorMemory size ++ tr) = nativeEvents tr := by
  unfold vectorMemory
  split <;> rfl

@[simp] theorem nativeEvents_append_vectorMemory (size : Nat) (tr : Trace) :
    nativeEvents (tr ++ vectorMemory size) = nativeEvents tr := by
  unfold vectorMemory
  split <;> simp [nativeEvents, Eff.isNative]

namespace Refines

variable {α β : Type} {convert : β → α} {p : M α} {core : M β}

/-- Operations that proceed in step. -/
theorem of_sim (h : Prog.Sim SameCall (SameOutcome convert) p core) : Refines convert p core where
  forth tr out hruns := by
    obtain ⟨tr', out', hruns', htr, hout⟩ := h.runs hruns
    exact ⟨tr', out', hruns', .inl ⟨sameCalls_of_forall₂ htr, hout⟩⟩
  back tr' out' hruns := by
    obtain ⟨tr, out, hruns', htr, hout⟩ := h.runs_back hruns
    exact ⟨tr, out, hruns', sameCalls_of_forall₂ htr, hout⟩

/-- Memory that is taken first. -/
theorem allocate_first (h : Refines convert p core) (size : Nat) :
    Refines convert ((allocateVector size).bind fun _ => p) core where
  forth tr out hruns := by
    obtain ⟨x, hmemory, rfl⟩ | ⟨tr₁, tr₂, _, rfl, hmemory, hrest⟩ := Prog.runs_bind.mp hruns
    · obtain ⟨-, hx⟩ | ⟨-, rfl, hx⟩ := runs_allocateVector.mp hmemory
      · cases hx
      · cases hx
        obtain ⟨tr', out', hcore⟩ := (Prog.Reaches.refl core).complete Eff.reply_nonempty
        exact ⟨tr', out', hcore, .inr ⟨.head _, rfl, .inl rfl⟩⟩
    · obtain ⟨rfl, -⟩ | ⟨-, -, hx⟩ := runs_allocateVector.mp hmemory
      · obtain ⟨tr', out', hcore, hsame⟩ := h.forth _ _ hrest
        refine ⟨tr', out', hcore, ?_⟩
        simp only [SameCalls, nativeEvents_vectorMemory] at hsame ⊢
        obtain hsame | ⟨hmem, hout, hcalls⟩ := hsame
        · exact .inl hsame
        · exact .inr ⟨List.mem_append_right _ hmem, hout, hcalls⟩
      · cases hx
  back tr' out' hruns := by
    obtain ⟨tr, out, hp, hcalls, hout⟩ := h.back _ _ hruns
    refine ⟨_, out, Prog.runs_bind.mpr (.inr ⟨_, tr, (), rfl,
      runs_allocateVector.mpr (.inl ⟨rfl, rfl⟩), hp⟩), ?_, hout⟩
    rwa [SameCalls, nativeEvents_vectorMemory]

theorem toVector_first {data : QByteArray} {k : Bytes → M α}
    (h : Refines convert (k (Qt.unsigned data)) core) :
    Refines convert ((Qt.toVector data).bind k) core := by
  have hfirst := h.allocate_first data.length
  rwa [Qt.toVector, Prog.bind_eq, Prog.bind_assoc]

/-- The bytes of the core, converted. -/
theorem toQByteArray_last (core : M Bytes) :
    Refines Qt.signed (core.bind Qt.toQByteArray) core where
  forth tr out hruns := by
    obtain ⟨x, hx, rfl⟩ | ⟨tr₁, tr₂, data, rfl, hcore, hrest⟩ := Prog.runs_bind.mp hruns
    · exact ⟨tr, _, hx, .inl ⟨.refl tr, rfl⟩⟩
    · refine ⟨tr₁, _, hcore, ?_⟩
      obtain ⟨x, hmemory, rfl⟩ | ⟨tr₃, tr₄, _, rfl, hmemory, hlast⟩ := Prog.runs_bind.mp hrest
      · obtain ⟨-, hx⟩ | ⟨-, rfl, hx⟩ := runs_allocateVector.mp hmemory
        · cases hx
        · cases hx
          refine .inr ⟨List.mem_append_right _ (.head _), rfl, .inr ?_⟩
          simpa [SameCalls, nativeEvents, Eff.isNative] using SameCalls.refl tr₁
      · obtain ⟨rfl, -⟩ | ⟨-, -, hx⟩ := runs_allocateVector.mp hmemory
        · obtain ⟨rfl, rfl⟩ := Prog.runs_ret.mp hlast
          refine .inl ⟨?_, rfl⟩
          rw [SameCalls, List.append_nil, nativeEvents_append_vectorMemory]
          exact SameCalls.refl tr₁
        · cases hx
  back tr' out' hruns := by
    cases out' with
    | error x => exact ⟨tr', _, Prog.runs_bind.mpr (.inl ⟨x, hruns, rfl⟩), .refl tr', rfl⟩
    | ok data =>
      have hlast : (Qt.toQByteArray data).Runs (vectorMemory data.length ++ [])
          (.ok (Qt.signed data)) :=
        Prog.runs_bind.mpr (.inr ⟨_, _, (), rfl, runs_allocateVector.mpr (.inl ⟨rfl, rfl⟩), .ret _⟩)
      refine ⟨_, _, Prog.runs_bind.mpr (.inr ⟨tr', _, data, rfl, hruns, hlast⟩), ?_, rfl⟩
      rw [SameCalls, List.append_nil, nativeEvents_append_vectorMemory]
      exact SameCalls.refl tr'

end Refines

/-! ## The functions -/

/-- A function with a size: a negative one throws before anything else, and any other is
    that of the operation of the core. -/
structure RefinesSized (size : Int) (p : M QByteArray) (core : Nat → M Bytes) : Prop where
  negative : size < 0 → ∀ tr out, p.Runs tr out →
    tr = [] ∧ ∃ what, out = .error (.invalidArgument what)
  size : 0 ≤ size → Refines Qt.signed p (core size.toNat)

theorem refinesSized (message : String) (size : Int) (core : Nat → M Bytes) :
    RefinesSized size ((Prog.ofExcept (Qt.checkedSize message size)).bind fun size =>
      (core size).bind Qt.toQByteArray) core := by
  unfold Qt.checkedSize
  constructor
  · intro hsize tr out hruns
    rw [if_pos hsize] at hruns
    obtain ⟨rfl, rfl⟩ := Prog.runs_throw.mp hruns
    exact ⟨rfl, message, rfl⟩
  · intro hsize
    rw [if_neg (Int.not_lt.mpr hsize)]
    exact .toQByteArray_last (core size.toNat)

section

variable [NativeApi]

/-- Either nothing is to be written, or the two pointers are the same. -/
theorem byteData_cases (data : QByteArray) :
    data = [] ∨ Qt.byteData data = vectorData (Qt.unsigned data) ∧
      data.length = (Qt.unsigned data).length := by
  by_cases hdata : data = []
  · exact .inl hdata
  · refine .inr ⟨?_, (List.length_map _).symm⟩
    have hbytes : Qt.unsigned data ≠ [] := mt List.map_eq_nil_iff.mp hdata
    rw [Qt.byteData, vectorData, if_neg hdata, if_neg hbytes]

omit [NativeApi] in
theorem sim_refl (p : M Unit) : Prog.Sim SameCall (SameOutcome id) p p :=
  .refl .refl (fun out => by cases out <;> rfl) p

/-- The core rejects an empty write for its pointer or for its size. -/
theorem write_sim (device : Option I2cDeviceState) (data : QByteArray) :
    Prog.Sim SameCall (SameOutcome id) (Qt.write device data)
      (I2cDevice.writeVector device (Qt.unsigned data)) := by
  obtain rfl | ⟨hpointer, hlength⟩ := byteData_cases data
  · refine .bind_same .refl _ (fun _ => rfl) fun ⟨state, d⟩ => ?_
    by_cases hnull : vectorData (Qt.unsigned []) = none
    · rw [hnull]
      exact .throw rfl
    · simp only [rejectIf, if_neg hnull]
      exact .throw rfl
  · unfold Qt.write I2cDevice.writeVector
    rw [hpointer, hlength]
    exact sim_refl _

/-- A register write of no bytes passes both checks of the core, whatever its pointer. -/
theorem emptyWrite_sim {S : Except Exn Unit → Except Exn Unit → Prop} {body body' : M Unit}
    (h : Prog.Sim SameCall S body body') (pointer pointer' : BytePtr) (message message' : String) :
    Prog.Sim SameCall S
      ((Prog.ofExcept (rejectIf (pointer = none ∧ ([] : Bytes).length ≠ 0) message)).bind fun _ =>
        (Prog.ofExcept (rejectIf (([] : Bytes).length > 256) message')).bind fun _ => body)
      ((Prog.ofExcept (rejectIf (pointer' = none ∧ ([] : Bytes).length ≠ 0) message)).bind fun _ =>
        (Prog.ofExcept (rejectIf (([] : Bytes).length > 256) message')).bind fun _ => body') := by
  have hpass : ∀ pointer : BytePtr,
      rejectIf (pointer = none ∧ ([] : Bytes).length ≠ 0) message = .ok () :=
    fun pointer => if_neg fun hno => hno.2 rfl
  rw [hpass, hpass]
  exact h

theorem writeRegister_sim (device : Option I2cDeviceState) (reg : UInt32) (data : QByteArray) :
    Prog.Sim SameCall (SameOutcome id) (Qt.writeRegister device reg data)
      (I2cDevice.writeRegisterVector device reg (Qt.unsigned data)) := by
  obtain rfl | ⟨hpointer, hlength⟩ := byteData_cases data
  · refine .bind_same .refl _ (fun _ => rfl) fun ⟨state, d⟩ => ?_
    refine emptyWrite_sim (sim_withLock .refl ?_ d) none (vectorData []) _ _
    exact sim_nativeCall_last (.i2cSlaveWriteRegister state.addr reg none 0 0 .default)
      (.i2cSlaveWriteRegister state.addr reg (vectorData []) 0 0 .default)
      Function.surjective_id _ .emptyWrite (fun _ => rfl) fun _ => rfl
  · unfold Qt.writeRegister I2cDevice.writeRegisterVector
    rw [hpointer, hlength]
    exact sim_refl _

theorem writeRegisterLayout_sim (device : Option I2cDeviceState) (reg : UInt32)
    (data : QByteArray) (w : CppEnum RegisterWidth) (o : CppEnum ByteOrder) :
    Prog.Sim SameCall (SameOutcome id) (Qt.writeRegisterLayout device reg data w o)
      (I2cDevice.writeRegisterLayout device reg (vectorData (Qt.unsigned data))
        (Qt.unsigned data).length w o) := by
  obtain rfl | ⟨hpointer, hlength⟩ := byteData_cases data
  · refine .bind_same .refl _ (fun _ => rfl) fun ⟨state, d⟩ => ?_
    refine emptyWrite_sim (sim_withLock .refl ?_ d) none (vectorData []) _ _
    refine .bind_same .refl _ (fun _ => rfl) fun width => ?_
    refine .bind_same .refl _ (fun _ => rfl) fun order => ?_
    exact sim_nativeCall_last (.i2cSlaveWriteRegister state.addr reg none 0 width order)
      (.i2cSlaveWriteRegister state.addr reg (vectorData []) 0 width order)
      Function.surjective_id _ .emptyWrite (fun _ => rfl) fun _ => rfl
  · unfold Qt.writeRegisterLayout
    rw [hpointer, hlength]
    exact sim_refl _

/-- The functions of `qt/I2c.cpp` do what the core does. -/
structure RefinesI2c (device : Option I2cDeviceState) : Prop where
  read : ∀ size, RefinesSized size (Qt.read device size) (I2cDevice.read device)
  write : ∀ data, Refines id (Qt.write device data)
    (I2cDevice.writeVector device (Qt.unsigned data))
  readRegister : ∀ reg size, RefinesSized size (Qt.readRegister device reg size)
    (I2cDevice.readRegister device reg)
  readRegisterLayout : ∀ reg size w o, RefinesSized size (Qt.readRegisterLayout device reg size w o)
    fun size => I2cDevice.readRegisterLayout device reg size w o
  writeRegister : ∀ reg data, Refines id (Qt.writeRegister device reg data)
    (I2cDevice.writeRegisterVector device reg (Qt.unsigned data))
  writeRegisterLayout : ∀ reg data w o, Refines id (Qt.writeRegisterLayout device reg data w o)
    (I2cDevice.writeRegisterLayout device reg (vectorData (Qt.unsigned data))
      (Qt.unsigned data).length w o)

/-- The functions of `qt/Smbus.cpp` do what the core does. -/
structure RefinesSmbus (device : Option SmbusDeviceState) : Prop where
  readBlockData : ∀ command, Refines Qt.signed (Qt.readBlockData device command)
    (SmbusDevice.readBlockData device command)
  writeBlockData : ∀ command data, Refines id (Qt.writeBlockData device command data)
    (SmbusDevice.writeBlockData device command (Qt.unsigned data))
  blockProcessCall : ∀ command data, Refines Qt.signed (Qt.blockProcessCall device command data)
    (SmbusDevice.blockProcessCall device command (Qt.unsigned data))
  readI2cBlockData : ∀ command size, RefinesSized size (Qt.readI2cBlockData device command size)
    (SmbusDevice.readI2cBlockData device command)
  writeI2cBlockData : ∀ command data, Refines id (Qt.writeI2cBlockData device command data)
    (SmbusDevice.writeI2cBlockData device command (Qt.unsigned data))

/-- **The byte-array functions refine the core.**  Whatever the state of the adapter, each
    of them makes the native calls of the core operation on the converted argument and
    ends with the same bytes or the same exception; the conversions are inverse to each
    other.  Only a negative size is the Qt layer's own business. -/
theorem qt_refines_core :
    (∀ device, RefinesI2c device) ∧ (∀ device, RefinesSmbus device) ∧
      (∀ data, Qt.signed (Qt.unsigned data) = data) ∧
      ∀ data, Qt.unsigned (Qt.signed data) = data := by
  refine ⟨fun device => ?_, fun device => ?_, Qt.signed_unsigned, Qt.unsigned_signed⟩
  · exact
      { read := fun size => refinesSized _ size _
        write := fun data => .of_sim (write_sim device data)
        readRegister := fun reg size => refinesSized _ size _
        readRegisterLayout := fun reg size w o => refinesSized _ size _
        writeRegister := fun reg data => .of_sim (writeRegister_sim device reg data)
        writeRegisterLayout := fun reg data w o =>
          .of_sim (writeRegisterLayout_sim device reg data w o) }
  · exact
      { readBlockData := fun command => .toQByteArray_last _
        writeBlockData := fun command data => .toVector_first (.of_sim (sim_refl _))
        blockProcessCall := fun command data => .toVector_first (.toQByteArray_last _)
        readI2cBlockData := fun command size => refinesSized _ size _
        writeI2cBlockData := fun command data => .toVector_first (.of_sim (sim_refl _)) }

end

section

attribute [local instance] NativeApi.reference

/-- A register write of no bytes, sent with a null pointer, is a write of the core. -/
theorem qt_refines_core_emptyWrite :
    let device : Option I2cDeviceState := some ⟨3, some ⟨0, some 7⟩, {}⟩
    let tr : Trace := [⟨.lock 0, ()⟩,
      ⟨.call (.i2cSlaveWriteRegister 3 0x11 none 0 0 .default), ⟨0, (), by decide⟩⟩,
      ⟨.unlock 0, ()⟩]
    ∃ tr' out', (I2cDevice.writeRegisterVector device 0x11 []).Runs tr' out' ∧
      SameCalls tr tr' ∧ SameOutcome id (.ok ()) out' := by
  intro device tr
  have hruns : (Qt.writeRegister device 0x11 []).Runs tr (.ok ()) :=
    runs_vis (.lock 0) () (runs_vis (.call (.i2cSlaveWriteRegister 3 0x11 none 0 0 .default)) _
      (runs_vis (.unlock 0) () (.ret ())))
  obtain ⟨tr', out', hcore, hsame | ⟨-, hno, -⟩⟩ :=
    ((qt_refines_core.1 device).writeRegister 0x11 []).forth tr _ hruns
  · exact ⟨tr', out', hcore, hsame⟩
  · cases hno

end

end EasyMcp2221
