import EasyMcp2221.Error
import EasyMcp2221.Effect.Simulation

/-!
# Operations that proceed in step

The rules of `Prog.Sim` for the building blocks of the operations, for any relation of
events that relates every event to itself.
-/

namespace EasyMcp2221

open Effect

section

variable {Rel : Prog.Event Eff.Reply → Prog.Event Eff.Reply → Prop} {α β : Type}

theorem sim_withLock (hrefl : ∀ ev, Rel ev ev) {S : Except Exn α → Except Exn β → Prop}
    {body : M α} {body' : M β} (h : Prog.Sim Rel S body body') (state : DeviceState) :
    Prog.Sim Rel S (withLock state body) (withLock state body') :=
  .same (fun r => hrefl ⟨.lock state.addr, r⟩) fun _ =>
    h.cleanup (.same (fun r => hrefl ⟨.unlock state.addr, r⟩) fun _ => .ret ⟨rfl, rfl⟩)

/-- Two calls whose replies correspond, with the same check of the status. -/
theorem sim_nativeCall [NativeApi] (c c' : NativeCall) {f : c.Out → c'.Out}
    (hf : Function.Surjective f) (operation : String)
    (hrel : ∀ r : c.Reply, Rel ⟨.call c, r⟩ ⟨.call c', ⟨r.status, f r.out, r.isInt⟩⟩)
    {S : Except Exn α → Except Exn β → Prop} {k : c.Out → M α} {k' : c'.Out → M β}
    (herror : ∀ x, S (.error x) (.error x)) (hk : ∀ out, Prog.Sim Rel S (k out) (k' (f out))) :
    Prog.Sim Rel S ((nativeCall c operation).bind k) ((nativeCall c' operation).bind k') := by
  refine .vis (fun r : c.Reply => (⟨r.status, f r.out, r.isInt⟩ : c'.Reply)) ?_ hrel fun r => ?_
  · rintro ⟨status, out, hint⟩
    obtain ⟨out₀, rfl⟩ := hf out
    exact ⟨⟨status, out₀, hint⟩, rfl⟩
  · simp only [Prog.bind_eq, Prog.ret_bind, Prog.liftM_eq, Prog.pure_eq]
    cases checkError r.status operation with
    | ok => exact hk r.out
    | error x => exact .throw (herror x)

/-- The same, at the end of an operation. -/
theorem sim_nativeCall_last [NativeApi] (c c' : NativeCall) {f : c.Out → c'.Out}
    (hf : Function.Surjective f) (operation : String)
    (hrel : ∀ r : c.Reply, Rel ⟨.call c, r⟩ ⟨.call c', ⟨r.status, f r.out, r.isInt⟩⟩)
    {S : Except Exn c.Out → Except Exn c'.Out → Prop} (herror : ∀ x, S (.error x) (.error x))
    (hok : ∀ out, S (.ok out) (.ok (f out))) :
    Prog.Sim Rel S (nativeCall c operation) (nativeCall c' operation) := by
  rw [← Prog.bind_ret (nativeCall c operation), ← Prog.bind_ret (nativeCall c' operation)]
  exact sim_nativeCall c c' hf operation hrel herror fun out => .ret (hok out)

end

end EasyMcp2221
