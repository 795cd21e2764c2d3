import EasyMcp2221.Audit
import Mathlib.Data.Fintype.Card
import Mathlib.Data.Nat.Bitwise

/-!
# Polling for GPIO events

`pollEvents` asks the C library for at most four events, whatever the caller allows.
The module states what the C library's poller is assumed to do, runs the operations of
`GpioPoller` against it, and shows that the runs are those of a watch: a poller
with a filter in terms of pins and edges and a buffer as large as the caller allows.
-/

namespace EasyMcp2221

open Effect

/-! ## Edges and masks -/

/-- An edge that the C library has detected. -/
structure DetectedEdge where
  pin : Fin 4
  edge : GpioEdge
  time : Double
  previousTime : Double

def Pin.ofIndex (pin : Fin 4) : Pin :=
  match pin with
  | 0 => .gp0
  | 1 => .gp1
  | 2 => .gp2
  | 3 => .gp3

/-- The edge as `GpioPoller` reports it. -/
def DetectedEdge.event (d : DetectedEdge) : GpioEvent where
  pin := Pin.ofIndex d.pin
  edge := d.edge
  time := d.time
  previousTime := d.previousTime

/-- The filter names the edge of the pin. -/
def GpioEventFilter.names (filter : GpioEventFilter) (pin : Fin 4) (edge : GpioEdge) : Bool :=
  match edge with
  | .rising => filter.rising pin
  | .falling => filter.falling pin

/-- The filter selects the edge: it names it, or it names none. -/
def GpioEventFilter.selects (filter : GpioEventFilter) (d : DetectedEdge) : Bool :=
  decide (filter = {}) || filter.names d.pin d.edge

section

variable [NativeApi]

/-- The edge as the C library reports it. -/
def DetectedEdge.native (d : DetectedEdge) : NativeGpioEvent where
  gpio := d.pin.val.toUInt8
  type :=
    match d.edge with
    | .rising => NativeApi.gpioEventRise
    | .falling => NativeApi.gpioEventFall
  time := d.time
  lastTime := d.previousTime

/-- The mask bit of an edge. -/
def maskBit (pin : Fin 4) (edge : GpioEdge) : UInt16 :=
  match edge with
  | .rising => NativeApi.gpioPollMaskRise pin
  | .falling => NativeApi.gpioPollMaskFall pin

/-- The eight mask bits are distinct. -/
structure MaskBits (index : Fin 4 → GpioEdge → Nat) : Prop where
  bit : ∀ pin edge, (maskBit pin edge).toNat = 2 ^ index pin edge
  distinct : ∀ pin edge pin' edge', index pin edge = index pin' edge' → pin = pin' ∧ edge = edge'

/-- The C library keeps the edges whose bit is in the mask, and all of them when the
    mask is 0. -/
def keeps (mask : UInt16) (d : DetectedEdge) : Bool :=
  decide (mask = 0) || decide (mask &&& maskBit d.pin d.edge ≠ 0)

/-! ### The mask of a filter -/

omit [NativeApi] in
theorem testBit_orIf (b : Bool) (mask bit : UInt16) (k : Nat) :
    (if b then mask ||| bit else mask).toNat.testBit k =
      (mask.toNat.testBit k || b && bit.toNat.testBit k) := by
  cases b <;> simp

/-- The bits of a filter mask are those of the edges that the filter names. -/
theorem filterMask_testBit {index : Fin 4 → GpioEdge → Nat} (hbits : MaskBits index)
    (filter : GpioEventFilter) (k : Nat) :
    (GpioPoller.filterMask filter).toNat.testBit k = true ↔
      ∃ pin edge, filter.names pin edge = true ∧ index pin edge = k := by
  have hrise : ∀ pin, (NativeApi.gpioPollMaskRise pin).toNat = 2 ^ index pin .rising :=
    fun pin => hbits.bit pin .rising
  have hfall : ∀ pin, (NativeApi.gpioPollMaskFall pin).toNat = 2 ^ index pin .falling :=
    fun pin => hbits.bit pin .falling
  have hedges : ∀ P : GpioEdge → Prop, (∃ edge, P edge) ↔ P .rising ∨ P .falling := by
    intro P
    constructor
    · rintro ⟨_ | _, h⟩
      · exact .inl h
      · exact .inr h
    · rintro (h | h) <;> exact ⟨_, h⟩
  simp only [GpioPoller.filterMask, testBit_orIf, hrise, hfall, Nat.testBit_two_pow, hedges,
    Fin.exists_fin_succ, GpioEventFilter.names, Bool.or_eq_true, Bool.and_eq_true,
    decide_eq_true_eq]
  simp [or_assoc]

/-- The bit of an edge is in the mask of a filter exactly when the filter names the
    edge. -/
theorem filterMask_and_maskBit {index : Fin 4 → GpioEdge → Nat} (hbits : MaskBits index)
    (filter : GpioEventFilter) (pin : Fin 4) (edge : GpioEdge) :
    GpioPoller.filterMask filter &&& maskBit pin edge ≠ 0 ↔ filter.names pin edge = true := by
  have hand : (GpioPoller.filterMask filter &&& maskBit pin edge).toNat = 2 ^ index pin edge *
      ((GpioPoller.filterMask filter).toNat.testBit (index pin edge)).toNat := by
    rw [UInt16.toNat_and, hbits.bit, Nat.land_comm, Nat.two_pow_and]
  have hzero : GpioPoller.filterMask filter &&& maskBit pin edge = 0 ↔
      (GpioPoller.filterMask filter).toNat.testBit (index pin edge) = false := by
    rw [← UInt16.toNat_inj, hand]
    cases (GpioPoller.filterMask filter).toNat.testBit (index pin edge) <;> simp
  rw [Ne, hzero, Bool.not_eq_false, filterMask_testBit hbits]
  constructor
  · rintro ⟨pin', edge', hnames, hindex⟩
    obtain ⟨rfl, rfl⟩ := hbits.distinct _ _ _ _ hindex
    exact hnames
  · exact fun hnames => ⟨pin, edge, hnames, rfl⟩

theorem filterMask_empty : GpioPoller.filterMask {} = 0 := by
  simp [GpioPoller.filterMask]

/-- Only the empty filter has the mask 0. -/
theorem filterMask_eq_zero {index : Fin 4 → GpioEdge → Nat} (hbits : MaskBits index)
    (filter : GpioEventFilter) : GpioPoller.filterMask filter = 0 ↔ filter = {} := by
  constructor
  · intro hzero
    have hnone : ∀ pin edge, filter.names pin edge = false := by
      intro pin edge
      have hbit := mt (filterMask_and_maskBit hbits filter pin edge).mpr
      rw [hzero, UInt16.zero_and] at hbit
      exact Bool.eq_false_iff.mpr (hbit (not_not_intro rfl))
    obtain ⟨rising, falling⟩ := filter
    exact congrArg₂ GpioEventFilter.mk (funext fun pin => hnone pin .rising)
      (funext fun pin => hnone pin .falling)
  · rintro rfl
    exact filterMask_empty

/-- **The mask of a filter keeps what the filter selects.** -/
theorem keeps_filterMask {index : Fin 4 → GpioEdge → Nat} (hbits : MaskBits index)
    (filter : GpioEventFilter) : keeps (GpioPoller.filterMask filter) = filter.selects := by
  funext d
  simp only [keeps, GpioEventFilter.selects, filterMask_eq_zero hbits,
    filterMask_and_maskBit hbits, Bool.decide_eq_true]

end

/-! ## The poller of the C library -/

/-- What a poll detects between the snapshot of the last one and the pins as it reads
    them, and the snapshot that it leaves.  A pin has at most one edge in a poll. -/
structure NativePoller (σ ω : Type) where
  detect : σ → ω → List DetectedEdge
  advance : σ → ω → σ
  onePerPin : ∀ s w, ((detect s w).map DetectedEdge.pin).Nodup

/-- A poll detects at most four edges. -/
theorem NativePoller.length_detect {σ ω : Type} (N : NativePoller σ ω) (s : σ) (w : ω) :
    (N.detect s w).length ≤ 4 := by
  have h := (N.onePerPin s w).length_le_card
  rwa [List.length_map, Fintype.card_fin] at h

/-- A `mcp2221_gpio_poll_state_t`. -/
structure PollMemory (σ : Type) where
  mask : UInt16
  snapshot : σ

/-- What happens to one operation: whether an allocation succeeds, and what the poll
    reads or how it fails. -/
structure Occasion (σ ω : Type) where
  memory : Bool
  poll : ω ⊕ (σ × {status : Int // IsInt status ∧ status < 0})

section

variable [NativeApi] {σ ω : Type}

/-- The snapshot after a poll; what a failed one leaves is up to the C library. -/
def NativePoller.after (N : NativePoller σ ω) (x : Occasion σ ω) (snapshot : σ) : σ :=
  match x.poll with
  | .inl w => N.advance snapshot w
  | .inr (left, _) => left

/-- What the C library writes into a buffer with room for `capacity` events. -/
def NativePoller.written (N : NativePoller σ ω) (memory : PollMemory σ) (w : ω) (capacity : Nat) :
    List DetectedEdge :=
  ((N.detect memory.snapshot w).filter (keeps memory.mask)).take capacity

theorem NativePoller.length_kept (N : NativePoller σ ω) (memory : PollMemory σ) (w : ω) :
    ((N.detect memory.snapshot w).filter (keeps memory.mask)).length ≤ 4 :=
  (List.length_filter_le _ _).trans (N.length_detect _ _)

/-- The poller of the C library as the environment of one operation. -/
def NativePoller.serves (N : NativePoller σ ω) (x : Occasion σ ω) :
    Protocol Eff Eff.Reply (Addr → PollMemory σ) where
  allow _
    | .alloc => True
    | .lock _ => True
    | .unlock _ => True
    | .call (.gpioPoll _ _) => True
    | .call (.gpioPollEvents _ _ hasBuffer capacity) => capacity ≠ 0 → hasBuffer = true
    | .proc (.gpioPollSetFilterMask _ _) => True
    | _ => False
  rely memory
    | .alloc, ok => ok = x.memory
    | .call (.gpioPoll _ _), reply =>
      match x.poll with
      | .inl _ => reply.status = err .ok
      | .inr (_, status) => reply.status = status.val
    | .call (.gpioPollEvents _ a _ capacity), reply =>
      match x.poll with
      | .inl w =>
        reply.status = (N.written (memory a) w capacity).length ∧
          ∀ i : Fin 4, ∀ d, (N.written (memory a) w capacity)[i.val]? = some d →
            reply.out i = d.native
      | .inr (_, status) => reply.status = status.val
    | _, _ => True
  next memory
    | .call (.gpioPoll _ a), _ =>
      Function.update memory a { memory a with snapshot := N.after x (memory a).snapshot }
    | .call (.gpioPollEvents _ a _ _), _ =>
      Function.update memory a { memory a with snapshot := N.after x (memory a).snapshot }
    | .proc (.gpioPollSetFilterMask a mask), _ =>
      Function.update memory a { memory a with mask }
    | _, _ => memory

/-- The poller answers whatever it permits. -/
theorem NativePoller.serves_live (N : NativePoller σ ω) (x : Occasion σ ω)
    (memory : Addr → PollMemory σ) (e : Eff) (h : (N.serves x).allow memory e) :
    ∃ r, (N.serves x).rely memory e r := by
  obtain ⟨ok, poll⟩ := x
  cases e with
  | alloc => exact ⟨ok, rfl⟩
  | lock | unlock => exact ⟨(), trivial⟩
  | own => exact h.elim
  | proc p =>
    cases p with
    | gpioPollSetFilterMask => exact ⟨(), trivial⟩
    | close | smbusClose | gpioPollInit => exact h.elim
  | call c =>
    cases c with
    | gpioPoll =>
      cases poll with
      | inl w => exact ⟨⟨err .ok, fun _ => default, by rw [NativeApi.err_ok]; decide⟩, rfl⟩
      | inr failure => exact ⟨⟨failure.2.val, fun _ => default, failure.2.property.1⟩, rfl⟩
    | gpioPollEvents dev a hasBuffer capacity =>
      cases poll with
      | inl w =>
        have hint : IsInt (N.written (memory a) w capacity).length := by
          have hlength := (List.length_take_le' capacity _).trans (N.length_kept (memory a) w)
          rw [IsInt, NativePoller.written]
          omega
        refine ⟨⟨_, fun i => ((N.written (memory a) w capacity)[i.val]?.map
          DetectedEdge.native).getD default, hint⟩, rfl, fun i d hd => ?_⟩
        dsimp only
        rw [hd]
        rfl
      | inr failure => exact ⟨⟨failure.2.val, fun _ => default, failure.2.property.1⟩, rfl⟩
    | _ => exact h.elim

/-! ## Decoding -/

theorem toPin_index (pin : Fin 4) :
    GpioPoller.toPin pin.val.toUInt8 = .ok (Pin.ofIndex pin) := by
  match pin with
  | 0 | 1 | 2 | 3 => rfl

/-- What the C library reports of an edge is decoded to the edge. -/
theorem toGpioEvent_native (d : DetectedEdge) : GpioPoller.toGpioEvent d.native = .ok d.event := by
  have hpin : GpioPoller.toPin d.native.gpio = .ok (Pin.ofIndex d.pin) := toPin_index d.pin
  have hedge : GpioPoller.toEdge d.native.type = .ok d.edge := by
    rw [DetectedEdge.native]
    cases d.edge with
    | rising => exact if_pos rfl
    | falling => exact (if_neg NativeApi.gpioEvent_distinct.symm).trans (if_pos rfl)
  rw [GpioPoller.toGpioEvent, hpin, hedge]
  rfl

theorem toGpioEvents_native {capacity : Nat} (hcapacity : capacity ≤ 4)
    {edges : List DetectedEdge} (hlength : edges.length ≤ capacity)
    {native : Fin 4 → NativeGpioEvent}
    (hnative : ∀ i : Fin 4, ∀ d, edges[i.val]? = some d → native i = d.native) :
    GpioPoller.toGpioEvents capacity hcapacity edges.length native =
      .ok (edges.map DetectedEdge.event) := by
  have hsize : toSize edges.length = edges.length := by
    rw [toSize_of_nonneg (by omega) (by omega), Int.toNat_natCast]
  have hlt : ∀ i : Fin (toSize edges.length), i.val < edges.length := fun i =>
    Nat.lt_of_lt_of_eq i.isLt hsize
  have hloop : arrayM (toSize edges.length) (fun i => GpioPoller.toGpioEvent
      (native ⟨i.val, by have := hlt i; omega⟩)) =
      .ok fun i => (edges.get ⟨i.val, hlt i⟩).event := by
    refine arrayM_eq_ok.mpr fun i => ?_
    rw [hnative ⟨i.val, by have := hlt i; omega⟩ _ (List.getElem?_eq_getElem (hlt i))]
    exact toGpioEvent_native _
  rw [GpioPoller.toGpioEvents, dif_neg (by omega), hloop]
  refine congrArg Except.ok (List.ext_getElem (by simp [hsize]) fun i h h' => ?_)
  simp

/-- The limit of `pollEvents` is no limit: no poll detects more. -/
theorem written_pollCapacity (N : NativePoller σ ω) (memory : PollMemory σ) (w : ω) (m : Nat) :
    N.written memory w (GpioPoller.pollCapacity m) = N.written memory w m := by
  have hlength := N.length_kept memory w
  unfold NativePoller.written GpioPoller.pollCapacity GpioPoller.maxEventsPerPoll
  split
  · rfl
  · rw [List.take_of_length_le hlength, List.take_of_length_le (by omega)]

/-! ## The operations against the poller -/

variable {α : Type} {N : NativePoller σ ω} {x : Occasion σ ω} {memory : Addr → PollMemory σ}

theorem lockless_serves : Lockless (N.serves x) :=
  fun _ _ => ⟨⟨trivial, rfl⟩, trivial, rfl⟩

theorem setFilter_serves (a : Addr) (d : DeviceState) (filter : GpioEventFilter) :
    (GpioPoller.setFilter (some ⟨a, some d⟩) filter).wp (N.serves x) memory
      fun out memory' => out = .ok () ∧ memory' =
        Function.update memory a { memory a with mask := GpioPoller.filterMask filter } :=
  lockless_serves.wp_withLock ⟨trivial, fun _ _ => ⟨rfl, rfl⟩⟩

theorem poll_serves (a : Addr) (d : DeviceState) :
    (GpioPoller.poll (some ⟨a, some d⟩)).wp (N.serves x) memory
      fun _ memory' => memory' = Function.update memory a
        { memory a with snapshot := N.after x (memory a).snapshot } := by
  refine Prog.wp_require rfl (Prog.wp_bind.mpr (lockless_serves.wp_withLock ?_))
  refine Prog.wp_bind.mpr ⟨trivial, fun reply _ => ?_⟩
  refine Prog.wp_bind.mpr (Prog.wp_ofExcept.mpr ?_)
  cases checkError reply.status "Polling GPIO changes" with
  | ok => exact Prog.wp_ofExcept.mpr rfl
  | error => exact rfl

/-- What `pollEvents` makes of its call. -/
theorem pollEvents_call_serves (a : Addr) (d : DeviceState) (m : Nat) :
    (do
      let reply ← withLock d
        (Prog.perform (E := Eff) (.call (.gpioPollEvents d.handle a
          (decide (GpioPoller.pollCapacity m ≠ 0)) (GpioPoller.pollCapacity m))))
      if reply.status < 0 then
        checkError reply.status "Polling GPIO events"
      GpioPoller.toGpioEvents (GpioPoller.pollCapacity m) (GpioPoller.pollCapacity_le m)
        reply.status reply.out : M (List GpioEvent)).wp (N.serves x) memory
      fun out memory' =>
        memory' = Function.update memory a
          { memory a with snapshot := N.after x (memory a).snapshot } ∧
        out = match x.poll with
          | .inl w => .ok ((N.written (memory a) w m).map DetectedEdge.event)
          | .inr (_, status) => .error (statusError status.val "Polling GPIO events") := by
  refine Prog.wp_bind.mpr (lockless_serves.wp_withLock
    ⟨fun h => decide_eq_true h, fun reply hreply => ?_⟩)
  obtain ⟨ok, poll⟩ := x
  cases poll with
  | inl w =>
    obtain ⟨hstatus, hout⟩ := hreply
    rw [written_pollCapacity] at hstatus hout
    have hcount : (N.written (memory a) w m).length ≤ GpioPoller.pollCapacity m := by
      rw [← written_pollCapacity]
      exact List.length_take_le _ _
    refine Prog.wp_ret.mpr (Prog.andThen_ok.mpr ?_)
    dsimp only
    rw [if_neg (by omega), hstatus,
      toGpioEvents_native (GpioPoller.pollCapacity_le m) hcount hout]
    exact ⟨rfl, rfl⟩
  | inr failure =>
    obtain ⟨left, status, hint, hneg⟩ := failure
    have hstatus : reply.status = status := hreply
    refine Prog.wp_ret.mpr (Prog.andThen_ok.mpr ?_)
    dsimp only
    rw [hstatus, if_pos hneg, checkError_of_ne (err_ne_ok_of_neg hneg)]
    exact ⟨rfl, rfl⟩

/-- **What `pollEvents` returns**: as many of the detected edges that pass the mask as the
    caller allows, in their order. -/
theorem pollEvents_serves (a : Addr) (d : DeviceState) (m : Nat) :
    (GpioPoller.pollEvents (some ⟨a, some d⟩) m).wp (N.serves x) memory
      fun out memory' =>
        if x.memory = false ∧ m ≠ 0 then out = .error .badAlloc ∧ memory' = memory
        else
          memory' = Function.update memory a
            { memory a with snapshot := N.after x (memory a).snapshot } ∧
          out = match x.poll with
            | .inl w => .ok ((N.written (memory a) w m).map DetectedEdge.event)
            | .inr (_, status) => .error (statusError status.val "Polling GPIO events") := by
  have hcapacity : GpioPoller.pollCapacity m = 0 ↔ m = 0 := by
    unfold GpioPoller.pollCapacity GpioPoller.maxEventsPerPoll
    split <;> omega
  refine Prog.wp_require rfl (Prog.wp_bind.mpr ?_)
  by_cases hm : m = 0
  · rw [allocateVector, if_pos (hcapacity.mpr hm)]
    refine Prog.wp_ret.mpr (Prog.andThen_ok.mpr ?_)
    refine Prog.wp_mono (pollEvents_call_serves a d m) fun out memory' hout => ?_
    rwa [if_neg fun h : _ ∧ m ≠ 0 => h.2 hm]
  · rw [allocateVector, if_neg (mt hcapacity.mp hm)]
    refine ⟨trivial, fun ok hok => ?_⟩
    have hok : ok = x.memory := hok
    subst hok
    beta_reduce
    by_cases hmemory : x.memory = true
    · rw [if_pos hmemory]
      refine Prog.wp_ret.mpr (Prog.andThen_ok.mpr ?_)
      refine Prog.wp_mono (pollEvents_call_serves a d m) fun out memory' hout => ?_
      rwa [if_neg fun h : x.memory = false ∧ m ≠ 0 => Bool.false_ne_true (h.1.symm.trans hmemory)]
    · rw [if_neg hmemory]
      refine Prog.wp_throw.mpr (Prog.andThen_error.mpr ?_)
      rw [if_pos ⟨Bool.eq_false_iff.mpr hmemory, hm⟩]
      exact ⟨rfl, rfl⟩

end

end EasyMcp2221
