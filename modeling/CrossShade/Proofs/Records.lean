import Mathlib.Data.List.Basic

/-!
# Records of calls

A target records calls one after the other, and an interface replays them: a call may give
something a new value, and the last one that does so counts.

* `lastGiven` replays a record for one value; `lastGiven_append` and `lastGiven_of_forall` say what
  more calls do to it.
* `split_append` and `eq_of_append_single` find a call in a record that has grown.
-/

namespace CrossShade

variable {α β : Type}

/-- The value that some calls leave, `start` being the one before them. -/
def lastGiven (given? : α → Option β) (start : β) (calls : List α) : β :=
  calls.foldl (fun value call => (given? call).getD value) start

variable {given? : α → Option β}

theorem lastGiven_append (start : β) (calls more : List α) :
    lastGiven given? start (calls ++ more) = lastGiven given? (lastGiven given? start calls) more :=
  List.foldl_append

@[simp] theorem lastGiven_singleton (start : β) (call : α) :
    lastGiven given? start [call] = (given? call).getD start := rfl

/-- Calls that give no value leave the one that was there. -/
theorem lastGiven_of_forall {calls : List α} (h : ∀ call ∈ calls, given? call = none) (start : β) :
    lastGiven given? start calls = start := by
  induction calls with
  | nil => rfl
  | cons call rest ih =>
    rw [lastGiven, List.foldl_cons, h call List.mem_cons_self]
    exact ih fun other hother => h other (List.mem_cons_of_mem _ hother)

/-- An element of two lists in a row is in the first or in the second. -/
theorem split_append {old new prior later : List α} {x : α}
    (h : old ++ new = prior ++ x :: later) :
    (∃ more, old = prior ++ x :: more) ∨
      ∃ between, prior = old ++ between ∧ new = between ++ x :: later := by
  rcases List.append_eq_append_iff.mp h with ⟨between, hprior, hnew⟩ | ⟨more, hold, hrest⟩
  · exact .inr ⟨between, hprior, hnew⟩
  · cases more with
    | nil => exact .inr ⟨[], by rw [hold, List.append_nil, List.append_nil], hrest.symm⟩
    | cons head more =>
      obtain ⟨rfl, -⟩ := List.cons.inj hrest
      exact .inl ⟨more, hold⟩

/-- An element of which the first list has none can only be the one after it. -/
theorem eq_of_append_single {old prior later : List α} {x last : α} (hx : x ∉ old)
    (h : old ++ [last] = prior ++ x :: later) : prior = old ∧ x = last := by
  rcases split_append h with ⟨more, hold⟩ | ⟨between, rfl, hlast⟩
  · exact absurd (hold ▸ List.mem_append_right prior List.mem_cons_self) hx
  · cases between with
    | nil => exact ⟨List.append_nil old, (List.cons.inj hlast).1.symm⟩
    | cons head tail =>
      have hlength := congrArg List.length hlast
      simp at hlength

end CrossShade
