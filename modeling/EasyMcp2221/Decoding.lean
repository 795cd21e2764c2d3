import EasyMcp2221.System.Watch
import EasyMcp2221.Answer

/-!
# Decoding the answers of a poll

`Decodes` relates what `poll` and `pollEvents` return to the raw entries of the C
library, field by field; the decoders accept exactly the entries that stand for
something.  The two operations are brought into a form in which each of their effects is
visible (`poll_eq`, `pollEvents_eq`): all memory is taken before the native call, so
running out of it costs no poll.
-/

namespace EasyMcp2221

open Effect

/-! ## What the entries stand for -/

/-- The level of a pin as the C library reports it; a pin that is no GPIO is -1. -/
def nativeLevel : Option Bool → Int
  | none => -1
  | some false => 0
  | some true => 1

structure GpioChange.Decodes (change : GpioChange) (native : NativeGpioChange) : Prop where
  oldValue : nativeLevel change.oldValue = native.oldValue
  newValue : nativeLevel change.newValue = native.newValue
  changed : change.changed = decide (native.changed ≠ 0)

section

variable [NativeApi]

def GpioEdge.native : GpioEdge → Int
  | .rising => NativeApi.gpioEventRise
  | .falling => NativeApi.gpioEventFall

structure GpioEvent.Decodes (event : GpioEvent) (native : NativeGpioEvent) : Prop where
  pin : Enumeration.underlying event.pin = native.gpio.toNat
  edge : event.edge.native = native.type
  time : event.time = native.time
  previousTime : event.previousTime = native.lastTime

/-! ## The decoders -/

namespace GpioPoller

theorem toOptionalGpioValue_eq_ok {value : Int} {operation : String} {level : Option Bool} :
    toOptionalGpioValue value operation = .ok level ↔ nativeLevel level = value := by
  unfold toOptionalGpioValue
  split_ifs with hnone hlow hhigh
  · subst hnone
    rcases level with _ | _ | _ <;> simp [nativeLevel]
  · subst hlow
    rcases level with _ | _ | _ <;> simp [nativeLevel]
  · subst hhigh
    rcases level with _ | _ | _ <;> simp [nativeLevel]
  · rcases level with _ | _ | _ <;> simp [nativeLevel] <;> omega

theorem toPin_eq_ok {gpio : UInt8} {pin : Pin} :
    toPin gpio = .ok pin ↔ Enumeration.underlying pin = gpio.toNat := by
  unfold toPin
  split_ifs with h0 h1 h2 h3
  · subst h0
    cases pin <;> simp [Enumeration.underlying]
  · subst h1
    cases pin <;> simp [Enumeration.underlying]
  · subst h2
    cases pin <;> simp [Enumeration.underlying]
  · subst h3
    cases pin <;> simp [Enumeration.underlying]
  · have hother : ∀ n : UInt8, gpio ≠ n → (n.toNat : Int) ≠ gpio.toNat := fun n hne heq =>
      hne (UInt8.toNat_inj.mp (Int.ofNat.inj heq.symm))
    have hzero := hother 0 h0
    have hone := hother 1 h1
    have htwo := hother 2 h2
    have hthree := hother 3 h3
    cases pin <;> simp_all [Enumeration.underlying]

theorem toEdge_eq_ok {type : Int} {edge : GpioEdge} :
    toEdge type = .ok edge ↔ edge.native = type := by
  have hdistinct := NativeApi.gpioEvent_distinct
  unfold toEdge
  split_ifs with hrise hfall
  · subst hrise
    cases edge <;> simp [GpioEdge.native, hdistinct.symm]
  · subst hfall
    cases edge <;> simp [GpioEdge.native, hdistinct]
  · cases edge <;> simp [GpioEdge.native, Ne.symm hrise, Ne.symm hfall]

/-- An entry is decoded to the event that it stands for, and to no other. -/
theorem toGpioEvent_eq_ok {native : NativeGpioEvent} {event : GpioEvent} :
    toGpioEvent native = .ok event ↔ event.Decodes native := by
  rw [toGpioEvent, bind_eq_ok]
  constructor
  · rintro ⟨pin, hpin, hrest⟩
    obtain ⟨edge, hedge, hlast⟩ := bind_eq_ok.mp hrest
    cases hlast
    exact ⟨toPin_eq_ok.mp hpin, toEdge_eq_ok.mp hedge, rfl, rfl⟩
  · rintro ⟨hpin, hedge, htime, hprevious⟩
    refine ⟨event.pin, toPin_eq_ok.mpr hpin,
      bind_eq_ok.mpr ⟨event.edge, toEdge_eq_ok.mpr hedge, ?_⟩⟩
    rw [← htime, ← hprevious]
    rfl

theorem toGpioChange_eq_ok {native : NativeGpioChange} {change : GpioChange} :
    toGpioChange native = .ok change ↔ change.Decodes native := by
  rw [toGpioChange, bind_eq_ok]
  constructor
  · rintro ⟨oldValue, hold, hrest⟩
    obtain ⟨newValue, hnew, hlast⟩ := bind_eq_ok.mp hrest
    cases hlast
    exact ⟨toOptionalGpioValue_eq_ok.mp hold, toOptionalGpioValue_eq_ok.mp hnew, rfl⟩
  · rintro ⟨hold, hnew, hchanged⟩
    refine ⟨change.oldValue, toOptionalGpioValue_eq_ok.mpr hold,
      bind_eq_ok.mpr ⟨change.newValue, toOptionalGpioValue_eq_ok.mpr hnew, ?_⟩⟩
    obtain ⟨oldValue, newValue, changed⟩ := change
    cases hchanged
    rfl

end GpioPoller

/-! ## The operations, effect by effect -/

namespace GpioPoller

/-- What `pollEvents` makes of the answer of its call. -/
def polledEvents (maxEvents : Nat) (status : Int) (native : Fin 4 → NativeGpioEvent) :
    Except Exn (List GpioEvent) :=
  if status < 0 then .error (statusError status "Polling GPIO events")
  else toGpioEvents (pollCapacity maxEvents) (pollCapacity_le maxEvents) status native

theorem pollEvents_eq (a : Addr) (d : DeviceState) (maxEvents : Nat) :
    pollEvents (some ⟨a, some d⟩) maxEvents =
      (allocateVector (pollCapacity maxEvents)).bind fun _ => .vis (.lock d.addr) fun _ =>
        .vis (.call (.gpioPollEvents d.handle a (decide (pollCapacity maxEvents ≠ 0))
          (pollCapacity maxEvents))) fun reply => .vis (.unlock d.addr) fun _ =>
            Prog.ofExcept (polledEvents maxEvents reply.status reply.out) := by
  show (allocateVector _).bind _ = _
  congr 1
  funext _
  show Prog.vis _ _ = _
  congr 1
  funext _
  show Prog.vis _ _ = _
  congr 1
  funext reply
  show Prog.vis _ _ = _
  congr 1
  funext _
  unfold polledEvents
  split_ifs with hneg
  · simp only [Prog.ret_bind]
    rw [if_pos hneg, checkError_of_ne (err_ne_ok_of_neg hneg)]
    rfl
  · simp only [Prog.ret_bind]
    rw [if_neg hneg]
    rfl

/-- What `poll` makes of the answer of its call. -/
def polledChanges (status : Int) (native : Fin 4 → NativeGpioChange) :
    Except Exn (Fin 4 → GpioChange) :=
  if status = err .ok then PollerOp.decodeChanges native
  else .error (statusError status "Polling GPIO changes")

theorem poll_eq (a : Addr) (d : DeviceState) :
    poll (some ⟨a, some d⟩) = .vis (.lock d.addr) fun _ =>
      .vis (.call (.gpioPoll d.handle a)) fun reply => .vis (.unlock d.addr) fun _ =>
        Prog.ofExcept (polledChanges reply.status reply.out) := by
  show Prog.vis _ _ = _
  congr 1
  funext _
  show Prog.vis _ _ = _
  congr 1
  funext reply
  unfold polledChanges
  by_cases hok : reply.status = err .ok
  · simp only [Prog.ret_bind, hok, checkError_ok, if_true]
    rfl
  · simp only [Prog.ret_bind, checkError_of_ne hok, if_neg hok]
    rfl

end GpioPoller

/-! ## Runs of the operations -/

/-- A run that makes one native call under the lock. -/
def lockedCall (mutex : Addr) (c : NativeCall) (reply : c.Reply) : Trace :=
  [⟨.lock mutex, ()⟩, ⟨.call c, reply⟩, ⟨.unlock mutex, ()⟩]

omit [NativeApi] in
theorem runs_lockedCall {α : Type} {mutex : Addr} {c : NativeCall} {f : c.Reply → Except Exn α}
    {tr : Trace} {out : Except Exn α} :
    (Prog.vis (.lock mutex) fun _ => .vis (.call c) fun reply => .vis (.unlock mutex) fun _ =>
        Prog.ofExcept (f reply) : M α).Runs tr out ↔
      ∃ reply, tr = lockedCall mutex c reply ∧ out = f reply := by
  constructor
  · rintro (_ | _ | ⟨_, _ | _ | ⟨reply, _ | _ | ⟨_, hrest⟩⟩⟩)
    obtain ⟨rfl, rfl⟩ := Prog.runs_ofExcept_iff.mp hrest
    exact ⟨reply, rfl, rfl⟩
  · rintro ⟨reply, rfl, rfl⟩
    exact runs_vis (.lock mutex) () (runs_vis (.call c) reply
      (runs_vis (.unlock mutex) () (Prog.runs_ofExcept _)))

/-- The native call of `pollEvents`. -/
abbrev eventsCall (a : Addr) (d : DeviceState) (maxEvents : Nat) : NativeCall :=
  .gpioPollEvents d.handle a (decide (GpioPoller.pollCapacity maxEvents ≠ 0))
    (GpioPoller.pollCapacity maxEvents)

omit [NativeApi] in
theorem pollCapacity_eq (maxEvents : Nat) :
    GpioPoller.pollCapacity maxEvents = min maxEvents 4 := by
  unfold GpioPoller.pollCapacity GpioPoller.maxEventsPerPoll
  split <;> omega

/-- The memory that `pollEvents` takes for its result. -/
def resultMemory (maxEvents : Nat) : Trace := vectorMemory (GpioPoller.pollCapacity maxEvents)

/-- **The runs of `pollEvents`**: it runs out of memory before anything else, or takes
    what it needs and makes one call. -/
theorem pollEvents_runs (a : Addr) (d : DeviceState) (maxEvents : Nat) {tr : Trace}
    {out : Except Exn (List GpioEvent)} :
    (GpioPoller.pollEvents (some ⟨a, some d⟩) maxEvents).Runs tr out ↔
      (maxEvents ≠ 0 ∧ tr = [⟨.alloc, false⟩] ∧ out = .error .badAlloc) ∨
        ∃ reply : (eventsCall a d maxEvents).Reply,
          tr = resultMemory maxEvents ++ lockedCall d.addr (eventsCall a d maxEvents) reply ∧
            out = GpioPoller.polledEvents maxEvents reply.status reply.out := by
  have hcapacity : GpioPoller.pollCapacity maxEvents ≠ 0 ↔ maxEvents ≠ 0 := by
    rw [pollCapacity_eq]
    omega
  rw [GpioPoller.pollEvents_eq, Prog.runs_bind]
  constructor
  · rintro (⟨x, hmemory, rfl⟩ | ⟨tr₁, tr₂, _, rfl, hmemory, hrest⟩)
    · obtain ⟨-, hx⟩ | ⟨hsize, rfl, hx⟩ := runs_allocateVector.mp hmemory
      · cases hx
      · cases hx
        exact .inl ⟨hcapacity.mp hsize, rfl, rfl⟩
    · obtain ⟨rfl, -⟩ | ⟨-, -, hx⟩ := runs_allocateVector.mp hmemory
      · obtain ⟨reply, rfl, rfl⟩ := runs_lockedCall.mp hrest
        exact .inr ⟨reply, rfl, rfl⟩
      · cases hx
  · rintro (⟨hm, rfl, rfl⟩ | ⟨reply, rfl, rfl⟩)
    · exact .inl ⟨_, runs_allocateVector.mpr (.inr ⟨hcapacity.mpr hm, rfl, rfl⟩), rfl⟩
    · exact .inr ⟨_, _, (), rfl, runs_allocateVector.mpr (.inl ⟨rfl, rfl⟩),
        runs_lockedCall.mpr ⟨reply, rfl, rfl⟩⟩

/-- **The runs of `poll`**: one call, and no memory. -/
theorem poll_runs (a : Addr) (d : DeviceState) {tr : Trace}
    {out : Except Exn (Fin 4 → GpioChange)} :
    (GpioPoller.poll (some ⟨a, some d⟩)).Runs tr out ↔
      ∃ reply, tr = lockedCall d.addr (.gpioPoll d.handle a) reply ∧
        out = GpioPoller.polledChanges reply.status reply.out := by
  rw [GpioPoller.poll_eq]
  exact runs_lockedCall

/-! ## Exactness -/

/-- What becomes of the answer of a call with room for `capacity` events. -/
structure EventsExact (capacity : Nat) (status : Int) (native : Fin 4 → NativeGpioEvent)
    (out : Except Exn (List GpioEvent)) : Prop where
  failed : status < 0 → out = .error (statusError status "Polling GPIO events")
  tooMany : (capacity : Int) < status → ∃ message, out = .error (protocolError message)
  malformed : ∀ i : Fin 4, (i : Int) < status → ¬ (native i).WellFormed →
    ∃ message, out = .error (protocolError message)
  decoded : 0 ≤ status → status ≤ capacity →
    (∀ i : Fin 4, (i : Int) < status → (native i).WellFormed) →
    ∃ events, out = .ok events ∧ (events.length : Int) = status ∧
      ∀ i : Fin 4, ∀ event, events[i.val]? = some event → event.Decodes (native i)

/-- What becomes of the answer of a poll. -/
structure ChangesExact (status : Int) (native : Fin 4 → NativeGpioChange)
    (out : Except Exn (Fin 4 → GpioChange)) : Prop where
  failed : status ≠ err .ok → out = .error (statusError status "Polling GPIO changes")
  malformed : ∀ i, status = err .ok →
    ¬ (IsGpioValue (native i).oldValue ∧ IsGpioValue (native i).newValue) →
    ∃ message, out = .error (protocolError message)
  decoded : status = err .ok →
    (∀ i, IsGpioValue (native i).oldValue ∧ IsGpioValue (native i).newValue) →
    ∃ changes, out = .ok changes ∧ ∀ i, (changes i).Decodes (native i)

theorem GpioPoller.toGpioEvents_decodes {capacity : Nat} {hcapacity : capacity ≤ 4} {count : Int}
    (hcount : 0 ≤ count) (hint : IsInt count) {native : Fin 4 → NativeGpioEvent}
    {events : List GpioEvent} (h : toGpioEvents capacity hcapacity count native = .ok events) :
    (events.length : Int) = count ∧
      ∀ i : Fin 4, ∀ event, events[i.val]? = some event → event.Decodes (native i) := by
  have hsize : (toSize count : Int) = count := by
    rw [toSize_of_nonneg hcount (by have := hint.2; omega)]
    omega
  unfold toGpioEvents at h
  split_ifs at h with htoo
  obtain ⟨decoded, hloop, hlast⟩ := bind_eq_ok.mp h
  cases hlast
  refine ⟨by rw [List.length_ofFn, hsize], fun i event hevent => ?_⟩
  obtain ⟨hi, rfl⟩ := List.getElem?_eq_some_iff.mp hevent
  rw [List.length_ofFn] at hi
  rw [List.getElem_ofFn]
  exact toGpioEvent_eq_ok.mp (arrayM_eq_ok.mp hloop ⟨i.val, hi⟩)

/-- **Events are decoded exactly, or not at all.** -/
theorem GpioPoller.polledEvents_exact (a : Addr) (d : DeviceState) (maxEvents : Nat)
    (reply : (eventsCall a d maxEvents).Reply) :
    EventsExact (min maxEvents 4) reply.status reply.out
      (polledEvents maxEvents reply.status reply.out) := by
  have hgate : 0 ≤ reply.status → Gate protocolError (¬ NativeCall.Malformed _ reply)
      (toGpioEvents (pollCapacity maxEvents) (pollCapacity_le maxEvents) reply.status reply.out) :=
    gate_toGpioEvents _ _ _ _ _ reply
  have hrejected : 0 ≤ reply.status → NativeCall.Malformed _ reply →
      ∃ message, polledEvents maxEvents reply.status reply.out =
        .error (protocolError message) := by
    intro hstatus hbad
    rw [polledEvents, if_neg (by omega)]
    cases hgate hstatus with
    | accept hwell => exact absurd hbad hwell
    | reject _ message hx => exact ⟨message, hx⟩
  rw [← pollCapacity_eq]
  refine ⟨fun hneg => by rw [polledEvents, if_pos hneg], fun htoo => ?_, fun i hi hbad => ?_,
    fun hstatus hle hwell => ?_⟩
  · exact hrejected (by omega) (.inl htoo)
  · exact hrejected (by omega) (.inr ⟨i, hi, hbad⟩)
  · rw [polledEvents, if_neg (by omega)]
    cases hgate hstatus with
    | accept _ events hx =>
      exact ⟨events, hx, toGpioEvents_decodes hstatus reply.isInt hx⟩
    | reject hno =>
      refine absurd ?_ hno
      rintro (htoo | ⟨i, hi, hbad⟩)
      · omega
      · exact hbad (hwell i hi)

/-- **Changes are decoded exactly, or not at all.** -/
theorem GpioPoller.polledChanges_exact (d : DeviceState) (a : Addr)
    (reply : (NativeCall.gpioPoll d.handle a).Reply) :
    ChangesExact reply.status reply.out (polledChanges reply.status reply.out) := by
  have hgate := gate_decodeChanges d.handle a reply
  refine ⟨fun hstatus => if_neg hstatus, fun i hstatus hbad => ?_, fun hstatus hgood => ?_⟩
  · rw [polledChanges, if_pos hstatus]
    cases hgate with
    | accept hwell => exact absurd ⟨i, not_and_or.mp hbad⟩ hwell
    | reject _ message hx => exact ⟨message, hx⟩
  · rw [polledChanges, if_pos hstatus]
    cases hgate with
    | accept _ changes hx =>
      exact ⟨changes, hx, fun i => toGpioChange_eq_ok.mp (arrayM_eq_ok.mp hx i)⟩
    | reject hno =>
      refine absurd ?_ hno
      rintro ⟨i, hbad⟩
      exact not_and_or.mpr hbad (hgood i)

/-- The entries from the count on do not matter. -/
theorem GpioPoller.polledEvents_congr {maxEvents : Nat} {status : Int} (hint : IsInt status)
    {native native' : Fin 4 → NativeGpioEvent}
    (h : ∀ i : Fin 4, (i : Int) < status → native i = native' i) :
    polledEvents maxEvents status native = polledEvents maxEvents status native' := by
  unfold polledEvents
  split_ifs with hneg
  · rfl
  · have hsize : (toSize status : Int) = status := by
      rw [toSize_of_nonneg (by omega) (by have := hint.2; omega)]
      omega
    unfold toGpioEvents
    split_ifs with htoo
    · rfl
    · congr 2
      funext i
      have hi := i.isLt
      rw [h ⟨i.val, _⟩ (by dsimp only; omega)]

/-! ## The loop on its two buffers -/

/-- The loop of `pollEvents` with checked indices, from index `i` on for `n` entries:
    `none` is an access outside of `native` or of `result`. -/
def GpioPoller.fillEvents (native : List NativeGpioEvent) :
    (n i : Nat) → (result : List GpioEvent) → Option (Except Exn (List GpioEvent))
  | 0, _, result => some (.ok result)
  | n + 1, i, result =>
    match native[i]? with
    | none => none
    | some entry =>
      match toGpioEvent entry with
      | .error x => some (.error x)
      | .ok event =>
        if i < result.length then fillEvents native n (i + 1) (result.set i event) else none

/-- The loop stays in both buffers and fills the result from `i` on. -/
theorem GpioPoller.fillEvents_eq {native : List NativeGpioEvent} {n i : Nat}
    {result : List GpioEvent} (hnative : i + n ≤ native.length) (hresult : i + n ≤ result.length) :
    fillEvents native n i result =
      some ((arrayM n fun j => toGpioEvent (native.get ⟨i + j.val, by omega⟩)).map fun events =>
        result.take i ++ List.ofFn events ++ result.drop (i + n)) := by
  induction n generalizing i result with
  | zero => simp [fillEvents, arrayM, Except.map]
  | succ n ih =>
    have hget : native[i]? = some (native.get ⟨i, by omega⟩) := List.getElem?_eq_getElem (by omega)
    simp only [fillEvents, hget, arrayM, Fin.val_zero, Nat.add_zero]
    cases toGpioEvent (native.get ⟨i, by omega⟩) with
    | error x => rfl
    | ok event =>
      have hset : i + 1 + n ≤ (result.set i event).length := by
        rw [List.length_set]
        omega
      dsimp only
      rw [if_pos (by omega), ih (by omega) hset]
      have hshift : (fun j : Fin n => toGpioEvent (native.get ⟨i + 1 + j.val, by omega⟩)) =
          fun j : Fin n => toGpioEvent (native.get ⟨i + j.succ.val, by simp; omega⟩) := by
        funext j
        congr 3
        simp only [Fin.val_succ]
        omega
      rw [hshift]
      cases arrayM n fun j : Fin n => toGpioEvent (native.get ⟨i + j.succ.val, by simp; omega⟩) with
      | error x => rfl
      | ok events =>
        have htake : (result.set i event).take (i + 1) = result.take i ++ [event] := by
          rw [List.take_add_one, List.take_set_of_le (Nat.le_refl i),
            List.getElem?_set_self (by omega)]
          rfl
        simp only [Except.map]
        rw [htake, List.drop_set_of_lt (by omega), List.ofFn_cons,
          show i + 1 + n = i + (n + 1) by omega]
        simp

/-- **No index of the loop is outside of its buffers.** -/
theorem GpioPoller.fillEvents_inBounds {maxEvents : Nat} {status : Int} (hstatus : 0 ≤ status)
    (hle : status ≤ min maxEvents 4) (native : Fin 4 → NativeGpioEvent) {result : List GpioEvent}
    (hresult : result.length = pollCapacity maxEvents) :
    ∃ filled, fillEvents (List.ofFn native) status.toNat 0 result = some filled ∧
      filled.map (List.take status.toNat) =
        toGpioEvents (pollCapacity maxEvents) (pollCapacity_le maxEvents) status native := by
  have hcapacity := pollCapacity_eq maxEvents
  have hsize : toSize status = status.toNat := toSize_of_nonneg hstatus (by omega)
  refine ⟨_, fillEvents_eq (by rw [List.length_ofFn]; omega) (by omega), ?_⟩
  have hloop : ∀ (n : Nat) (_ : n = status.toNat) (hn : n ≤ 4),
      (arrayM n fun i => toGpioEvent (native ⟨i.val, by omega⟩)) >>=
          (fun events => pure (List.ofFn events)) =
        ((arrayM status.toNat fun j => toGpioEvent ((List.ofFn native).get
          ⟨0 + j.val, by rw [List.length_ofFn]; omega⟩)).map fun events =>
            result.take 0 ++ List.ofFn events ++ result.drop (0 + status.toNat)).map
              (List.take status.toNat) := by
    rintro n rfl hn
    simp only [List.get_eq_getElem, List.getElem_ofFn, Nat.zero_add]
    cases arrayM status.toNat fun i => toGpioEvent (native ⟨i.val, by omega⟩) with
    | error x => rfl
    | ok events => exact congrArg Except.ok (by simp)
  unfold toGpioEvents
  rw [dif_neg (by omega)]
  exact (hloop _ hsize (by omega)).symm

/-! ## Memory -/

/-- No memory is taken after a native call. -/
def MemoryFirst (tr : Trace) : Prop :=
  ∀ (before after : Trace) (c : NativeCall) (reply : c.Reply),
    tr = before ++ ⟨.call c, reply⟩ :: after → ∀ ev ∈ after, ev.1 ≠ .alloc

omit [NativeApi] in
theorem memoryFirst_append {tr tr' : Trace} (hcall : ∀ ev ∈ tr, ∀ c, ev.1 ≠ .call c)
    (halloc : ∀ ev ∈ tr', ev.1 ≠ .alloc) : MemoryFirst (tr ++ tr') := by
  intro before after c reply heq ev hev
  refine halloc ev ?_
  obtain ⟨between, rfl, hrest⟩ | ⟨between, rfl, hrest⟩ := List.append_eq_append_iff.mp heq
  · rw [hrest]
    exact List.mem_append_right _ (List.mem_cons_of_mem _ hev)
  · cases between with
    | nil =>
      rw [List.nil_append] at hrest
      rw [← hrest]
      exact List.mem_cons_of_mem _ hev
    | cons first between =>
      cases hrest
      exact absurd rfl (hcall ⟨.call c, reply⟩ (by simp) c)

/-- What running out of memory means for an operation: it makes no native call, so the
    poll state of the C library is as it was. -/
structure Starves {α : Type} (tr : Trace) (out : Except Exn α) : Prop where
  first : MemoryFirst tr
  badAlloc : out = .error .badAlloc ↔ OutOfMemory tr
  silent : OutOfMemory tr → nativeEvents tr = []

omit [NativeApi] in
theorem starves_of_frugal {α : Type} {tr : Trace} {out : Except Exn α}
    (h : ∀ ev ∈ tr, ev.1 ≠ .alloc) (hout : out ≠ .error .badAlloc) : Starves tr out := by
  have hmemory : ¬ OutOfMemory tr := fun hmem => h _ hmem rfl
  have hfirst : MemoryFirst ([] ++ tr) :=
    memoryFirst_append (fun ev hev => absurd hev List.not_mem_nil) h
  exact ⟨hfirst, iff_of_false hout hmemory, fun hno => absurd hno hmemory⟩

theorem GpioPoller.polledEvents_ne_badAlloc (a : Addr) (d : DeviceState) (maxEvents : Nat)
    (reply : (eventsCall a d maxEvents).Reply) :
    polledEvents maxEvents reply.status reply.out ≠ .error .badAlloc := by
  unfold polledEvents
  split_ifs with hneg
  · intro hbad
    cases hbad
  · intro hbad
    cases gate_toGpioEvents _ _ _ _ (pollCapacity_le maxEvents) reply (by omega) with
    | accept _ _ hx => cases hbad.symm.trans hx
    | reject _ _ hx => cases hbad.symm.trans hx

theorem GpioPoller.polledChanges_ne_badAlloc (d : DeviceState) (a : Addr)
    (reply : (NativeCall.gpioPoll d.handle a).Reply) :
    polledChanges reply.status reply.out ≠ .error .badAlloc := by
  unfold polledChanges
  split_ifs
  · intro hbad
    cases gate_decodeChanges d.handle a reply with
    | accept _ _ hx => cases hbad.symm.trans hx
    | reject _ _ hx => cases hbad.symm.trans hx
  · exact nofun

theorem setFilter_starves (a : Addr) (d : DeviceState) (filter : GpioEventFilter) {tr : Trace}
    {out : Except Exn Unit} (h : (GpioPoller.setFilter (some ⟨a, some d⟩) filter).Runs tr out) :
    Starves tr out := by
  obtain _ | _ | ⟨_, _ | _ | ⟨_, _ | _ | ⟨_, hrest⟩⟩⟩ := h
  obtain ⟨rfl, rfl⟩ := Prog.runs_ret.mp hrest
  exact starves_of_frugal (by simp) nofun

/-- **Running out of memory costs no poll.** -/
theorem PollerOp.starves (a : Addr) (d : DeviceState) (op : PollerOp) {tr : Trace}
    {out : Except Exn op.Ret} (h : (op.prog (some ⟨a, some d⟩)).Runs tr out) : Starves tr out := by
  cases op with
  | setFilter filter => exact setFilter_starves a d filter h
  | clearFilter => exact setFilter_starves a d {} h
  | poll =>
    obtain ⟨reply, rfl, rfl⟩ := (poll_runs a d).mp h
    exact starves_of_frugal (by simp [lockedCall])
      (GpioPoller.polledChanges_ne_badAlloc d a reply)
  | pollEvents maxEvents =>
    obtain ⟨hm, rfl, rfl⟩ | ⟨reply, rfl, rfl⟩ := (pollEvents_runs a d maxEvents).mp h
    · have hfirst : MemoryFirst ([⟨.alloc, false⟩] ++ []) :=
        memoryFirst_append (by simp) fun ev hev => absurd hev List.not_mem_nil
      exact ⟨hfirst, iff_of_true rfl (by simp [OutOfMemory]), fun _ => rfl⟩
    · have hmemory : ¬ OutOfMemory
          (resultMemory maxEvents ++ lockedCall d.addr (eventsCall a d maxEvents) reply) := by
        unfold resultMemory vectorMemory
        split <;> simp [OutOfMemory, lockedCall]
      refine ⟨memoryFirst_append ?_ (by simp [lockedCall]),
        iff_of_false (GpioPoller.polledEvents_ne_badAlloc a d maxEvents reply) hmemory,
        fun hno => absurd hno hmemory⟩
      unfold resultMemory vectorMemory
      split <;> simp

/-! ## Runs with failing allocations -/

section Runs

variable {σ ω : Type} {N : NativePoller σ ω}

/-- Only native events change the poll states of the C library. -/
theorem NativePoller.after_of_silent {x : Occasion σ ω} {tr : Trace} (h : nativeEvents tr = [])
    (memory : Addr → PollMemory σ) : (N.serves x).after memory tr = memory := by
  induction tr generalizing memory with
  | nil => rfl
  | cons ev tr ih =>
    obtain ⟨e, r⟩ := ev
    cases e with
    | call | proc => simp [nativeEvents, Eff.isNative] at h
    | alloc | lock | unlock | own => exact ih h memory

/-- The step is an operation that ran out of memory. -/
def PollerStep.starved : PollerStep σ ω → Bool
  | .call _ _ _ (.error .badAlloc) => true
  | _ => false

theorem Pollers.Step.starved_keeps {s s' : Pollers σ} {l : PollerStep σ ω}
    (hstarved : l.starved = true) (hstep : Pollers.Step N s l s') : s' = s := by
  cases hstep with
  | moveConstruct | moveAssign => cases hstarved
  | @call v op x out tr hruns hrelied =>
    have hout : out = .error .badAlloc := by
      match out, hstarved with
      | .error .badAlloc, _ => rfl
    subst hout
    rw [Pollers.self] at hruns
    cases hv : s.child (.wrapper v) with
    | none =>
      rw [hv] at hruns
      cases op <;> cases hruns
    | some a =>
      rw [hv] at hruns
      have hstarves := op.starves a (s.device a) hruns
      rw [NativePoller.after_of_silent (hstarves.silent (hstarves.badAlloc.mp rfl))]

end Runs

/-! ## The polls -/

/-- A run of `pollEvents`: it runs out of memory before anything else, or the answer of
    its one call, made with room for at most four events, is decoded exactly. -/
inductive PollEventsExact (a : Addr) (d : DeviceState) (maxEvents : Nat) :
    Trace → Except Exn (List GpioEvent) → Prop where
  | outOfMemory (hm : maxEvents ≠ 0) :
      PollEventsExact a d maxEvents [⟨.alloc, false⟩] (.error .badAlloc)
  | answered (reply : (eventsCall a d maxEvents).Reply) {out : Except Exn (List GpioEvent)}
      (hexact : EventsExact (min maxEvents 4) reply.status reply.out out) :
      PollEventsExact a d maxEvents
        (resultMemory maxEvents ++ lockedCall d.addr (eventsCall a d maxEvents) reply) out

/-- **Polls are decoded exactly, all or nothing, and no poll is lost.**  Every run of
    `pollEvents` and `poll` ends as its answer says; the entries of the buffer from the
    count on have no influence; the loop stays in both buffers.  Memory is taken before
    the native call only, so an operation that runs out of it has not polled: a run in
    which allocations fail is, with these operations left out, a run to the same state
    with the same outcomes. -/
theorem poll_decoding {σ ω : Type} (N : NativePoller σ ω) (a : Addr) (d : DeviceState) :
    (∀ maxEvents tr out, (GpioPoller.pollEvents (some ⟨a, some d⟩) maxEvents).Runs tr out →
      PollEventsExact a d maxEvents tr out) ∧
    (∀ tr out, (GpioPoller.poll (some ⟨a, some d⟩)).Runs tr out →
      ∃ reply, tr = lockedCall d.addr (.gpioPoll d.handle a) reply ∧
        ChangesExact reply.status reply.out out) ∧
    (∀ maxEvents (reply reply' : (eventsCall a d maxEvents).Reply),
      reply.status = reply'.status →
      (∀ i : Fin 4, (i : Int) < reply.status → reply.out i = reply'.out i) →
      ∀ out, (GpioPoller.pollEvents (some ⟨a, some d⟩) maxEvents).Runs
          (resultMemory maxEvents ++ lockedCall d.addr (eventsCall a d maxEvents) reply) out →
        (GpioPoller.pollEvents (some ⟨a, some d⟩) maxEvents).Runs
          (resultMemory maxEvents ++ lockedCall d.addr (eventsCall a d maxEvents) reply') out) ∧
    (∀ (maxEvents : Nat) (status : Int), 0 ≤ status → status ≤ min maxEvents 4 →
      ∀ (native : Fin 4 → NativeGpioEvent) (result : List GpioEvent),
        result.length = GpioPoller.pollCapacity maxEvents →
        ∃ filled, GpioPoller.fillEvents (List.ofFn native) status.toNat 0 result = some filled ∧
          filled.map (List.take status.toNat) = GpioPoller.toGpioEvents
            (GpioPoller.pollCapacity maxEvents) (GpioPoller.pollCapacity_le maxEvents) status
            native) ∧
    (∀ op tr out, (PollerOp.prog (some ⟨a, some d⟩) op).Runs tr out → Starves tr out) ∧
    ∀ (s s' : Pollers σ) (steps : List (PollerStep σ ω)), Run (Pollers.Step N) s steps s' →
      Run (Pollers.Step N) s (steps.filter fun l => !l.starved) s' := by
  refine ⟨fun maxEvents tr out hruns => ?_, fun tr out hruns => ?_,
    fun maxEvents reply reply' hstatus hagree out hruns => ?_,
    fun maxEvents status hstatus hle native result hresult =>
      GpioPoller.fillEvents_inBounds hstatus hle native hresult,
    fun op tr out => op.starves a d, fun s s' steps =>
      Run.erase PollerStep.starved fun s l s' => Pollers.Step.starved_keeps⟩
  · obtain ⟨hm, rfl, rfl⟩ | ⟨reply, rfl, rfl⟩ := (pollEvents_runs a d maxEvents).mp hruns
    · exact .outOfMemory hm
    · exact .answered reply (GpioPoller.polledEvents_exact a d maxEvents reply)
  · obtain ⟨reply, rfl, rfl⟩ := (poll_runs a d).mp hruns
    exact ⟨reply, rfl, GpioPoller.polledChanges_exact d a reply⟩
  · have hout := hruns.outcome_unique ((pollEvents_runs a d maxEvents).mpr (.inr ⟨reply, rfl, rfl⟩))
    refine (pollEvents_runs a d maxEvents).mpr (.inr ⟨reply', rfl, ?_⟩)
    rw [hout, ← hstatus]
    exact GpioPoller.polledEvents_congr reply.isInt hagree

end

section

attribute [local instance] NativeApi.reference

/-- Two events, the second on a pin that does not exist. -/
def strayAnswer : (eventsCall 3 ⟨0, some 7⟩ 9).Reply where
  status := 2
  out i := if i = 0 then ⟨0, 1, ⟨0⟩, ⟨0⟩⟩ else ⟨9, 1, ⟨0⟩, ⟨0⟩⟩

/-- The first event is not returned without the second. -/
theorem poll_decoding_stray :
    PollEventsExact 3 ⟨0, some 7⟩ 9
      (resultMemory 9 ++ lockedCall 0 (eventsCall 3 ⟨0, some 7⟩ 9) strayAnswer)
      (.error (protocolError "Polling GPIO events: invalid GPIO index returned by C library")) :=
  (poll_decoding bouncing 3 ⟨0, some 7⟩).1 9 _ _
    ((pollEvents_runs 3 ⟨0, some 7⟩ 9).mpr (.inr ⟨strayAnswer, rfl, rfl⟩))

end

end EasyMcp2221
