import EasyMcp2221.System.Session

/-!
# The history of native calls

Which handles are open after a history, and when a history is legal: every entry is
one that the entries before it permit.
-/

namespace EasyMcp2221

open Effect

variable {T : Type}

/-- `mcp2221_open_scan` has returned the handle. -/
def Opened (log : List (Entry T)) (h : Handle) : Prop := ∃ t, .opened t h ∈ log

/-- A close of the handle has begun. -/
def Closed (log : List (Entry T)) (h : Handle) : Prop := ∃ t op, .close t op (some h) ∈ log

def IsOpen (log : List (Entry T)) (h : Handle) : Prop := Opened log h ∧ ¬ Closed log h

namespace Entry

/-- The entry may follow the history `log`: only new handles are returned, a call works
    with no handle or with an open one, only an operation that drops references closes
    a handle, an open one, and a bus that borrows a handle is closed before it. -/
def Legal (log : List (Entry T)) : Entry T → Prop
  | .opened _ h => ¬ Opened log h
  | .call _ _ _ accessed => ∀ dev, accessed = some dev → ∃ h, dev = some h ∧ IsOpen log h
  | .close _ op dev => op.sheds = true ∧ ∃ h, dev = some h ∧ IsOpen log h
  | .smbusClose _ _ borrowed => ∀ h, borrowed = some h → IsOpen log h

/-- The entry is a close of `h`. -/
def closes (h : Handle) : Entry T → Bool
  | .close _ _ dev => decide (dev = some h)
  | _ => false

end Entry

/-- Every entry of the history is legal where it stands. -/
def Legal (log : List (Entry T)) : Prop :=
  ∀ before entry after, log = before ++ entry :: after → entry.Legal before

theorem legal_nil : Legal ([] : List (Entry T)) := by
  rintro (_ | ⟨entry, before⟩) entry' after h <;> cases h

theorem Legal.snoc {log : List (Entry T)} {e : Entry T} (h : Legal log) (he : e.Legal log) :
    Legal (log ++ [e]) := by
  intro before entry after heq
  rcases List.eq_nil_or_concat after with rfl | ⟨after', last, rfl⟩
  · obtain ⟨rfl, hlast⟩ := List.append_inj' heq rfl
    cases hlast
    exact he
  · have hsplit : log ++ [e] = (before ++ entry :: after') ++ [last] := by
      rw [heq]
      simp
    exact h before entry after' (List.append_inj' hsplit rfl).1

theorem opened_append {log : List (Entry T)} {e : Entry T} {h : Handle} :
    Opened (log ++ [e]) h ↔ Opened log h ∨ ∃ t, e = .opened t h := by
  simp only [Opened, List.mem_append, List.mem_singleton, exists_or, eq_comm]

theorem closed_append {log : List (Entry T)} {e : Entry T} {h : Handle} :
    Closed (log ++ [e]) h ↔ Closed log h ∨ ∃ t op, e = .close t op (some h) := by
  simp only [Closed, List.mem_append, List.mem_singleton, exists_or, eq_comm]

theorem closed_iff {log : List (Entry T)} {h : Handle} :
    Closed log h ↔ ∃ e ∈ log, e.closes h = true := by
  constructor
  · rintro ⟨t, op, hmem⟩
    exact ⟨_, hmem, decide_eq_true rfl⟩
  · rintro ⟨e, hmem, hcloses⟩
    cases e with
    | close t op dev => exact ⟨t, op, of_decide_eq_true hcloses ▸ hmem⟩
    | opened | call | smbusClose => cases hcloses

/-- Only what was opened can have been closed. -/
theorem Legal.opened_of_closed {log : List (Entry T)} (h : Legal log) {hd : Handle}
    (hclosed : Closed log hd) : Opened log hd := by
  obtain ⟨t, op, hmem⟩ := hclosed
  obtain ⟨before, after, rfl⟩ := List.append_of_mem hmem
  obtain ⟨-, hd', heq, ⟨⟨t', hopened⟩, -⟩⟩ := h before _ after rfl
  cases heq
  exact ⟨t', List.mem_append_left _ hopened⟩

/-- **A legal history closes every handle at most once.** -/
theorem Legal.closes_le_one {log : List (Entry T)} (h : Legal log) (hd : Handle) :
    log.countP (Entry.closes hd) ≤ 1 := by
  induction log using List.reverseRecOn with
  | nil => exact Nat.zero_le _
  | append_singleton log e ih =>
    have hprefix : Legal log := fun before entry after heq =>
      h before entry (after ++ [e]) (by rw [heq]; simp)
    rw [List.countP_append]
    cases hcloses : e.closes hd with
    | false => simpa [hcloses] using ih hprefix
    | true =>
      -- the last entry closes the handle, so none before it does
      have hlegal := h log e [] rfl
      cases e with
      | close t op dev =>
        have hdev : dev = some hd := of_decide_eq_true hcloses
        subst hdev
        obtain ⟨-, hd', heq, -, hopen⟩ := hlegal
        cases heq
        have hnone : log.countP (Entry.closes hd) = 0 := by
          rw [List.countP_eq_zero]
          exact fun e he hcloses => hopen (closed_iff.mpr ⟨e, he, hcloses⟩)
        rw [hnone, Nat.zero_add]
        exact List.countP_le_length
      | opened | call | smbusClose => cases hcloses

end EasyMcp2221
