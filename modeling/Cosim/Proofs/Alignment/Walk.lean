import Cosim.Align.Compare
import Cosim.Proofs.Outcome

namespace Cosim.Proofs.Alignment.Walk

open Cosim.Trace Cosim.Align Cosim.Proofs.Outcome

/-- The events that a commit leaves, or the difference that it shows. -/
def visit (c : Commit) (events : List Event) : Except Divergence (List Event) :=
  if c.hasRegisterWrites then
    match Retirement.next c.pc events with
    | ([], _) => .error (.missing c)
    | (group, left) =>
      match group.find? fun e => !isReported c e with
      | some e => .error (.mismatch c e)
      | none => .ok left
  else .ok events

theorem walk_cons (c : Commit) (commits : List Commit) (events : List Event) :
    walk (c :: commits) events =
      visit c events >>= fun left =>
        (walk commits left).map (· + c.hasRegisterWrites.toNat) := by
  unfold visit
  rw [walk]
  cases c.hasRegisterWrites with
  | true =>
    rcases Retirement.next c.pc events with ⟨_ | ⟨e, group⟩, left⟩
    · rfl
    · dsimp only
      cases (e :: group).find? fun e => !isReported c e with
      | some e => rfl
      | none => rfl
  | false =>
    show walk commits events = (walk commits events).map (· + 0)
    cases walk commits events <;> rfl

variable {c : Commit} {front : List Commit} {events : List Event} {d : Divergence}

theorem walk_cons_eq_error :
    walk (c :: front) events = .error d ↔
      visit c events = .error d ∨
        ∃ left, visit c events = .ok left ∧ walk front left = .error d := by
  simp only [walk_cons, bind_eq_error, map_eq_error]

theorem walk_cons_eq_ok {n : Nat} :
    walk (c :: front) events = .ok n ↔
      ∃ left, visit c events = .ok left ∧
        ∃ m, walk front left = .ok m ∧ m + c.hasRegisterWrites.toNat = n := by
  simp only [walk_cons, bind_eq_ok, map_eq_ok]

theorem walk_append_eq_error (back : List Commit) (h : walk front events = .error d) :
    walk (front ++ back) events = .error d := by
  induction front generalizing events with
  | nil => cases h
  | cons c front ih =>
    apply walk_cons_eq_error.mpr
    rcases walk_cons_eq_error.mp h with hv | ⟨left, hv, hw⟩
    · exact .inl hv
    · exact .inr ⟨left, hv, ih hw⟩

end Cosim.Proofs.Alignment.Walk
