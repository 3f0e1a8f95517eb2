import CrossShade.OpenGL.Commands
import CrossShade.Proofs.Pipeline.DrawRecords
import CrossShade.Proofs.Pipeline.Slots

/-!
# Replaying OpenGL commands

What recorded calls leave at the binding points of resources.

* `boundTo` replays calls for one point.  Slots that a context has are at points of their own
  (`toNat_bindingPoint`).
* `Recorder.commands_of_change` gives the calls that a change adds to the record; `of_mem_ofChange`
  and `eq_of_ofChange_resources` say which of them bind something.
* `Recorder.records_applier`: draws come into the record by work alone.
* `boundTo_of_pending` says what is at the point of a slot after a stage handed over its changed
  slots.
-/

namespace CrossShade.OpenGL

/-! ## Replaying calls -/

namespace Command

/-- What a call binds to a point of a category, if the point is among those that it names. -/
def bindsTo? (category : BindingCategory) (point : Nat) : Command → Option (Option Nat)
  | bindResources other first resources =>
    if other = category ∧ first.toNat ≤ point then resources[point - first.toNat]? else none
  | _ => none

/-- Whether a call draws. -/
def IsDraw : Command → Prop
  | drawArrays _ _ _ | drawElements _ _ _ _ _ => True
  | _ => False

instance (command : Command) : Decidable command.IsDraw := by
  cases command <;> unfold IsDraw <;> infer_instance

end Command

/-- What is at a point of a category after some calls; before them nothing is. -/
def boundTo (commands : List Command) (category : BindingCategory) (point : Nat) : Option Nat :=
  commands.foldl (fun bound command => (command.bindsTo? category point).getD bound) none

variable {category : BindingCategory} {point : Nat}

theorem boundTo_append_single (commands : List Command) (command : Command) :
    boundTo (commands ++ [command]) category point =
      (command.bindsTo? category point).getD (boundTo commands category point) :=
  lastGiven_append none commands [command]

/-- Calls that do not name a point leave it as it is. -/
theorem boundTo_append {more : List Command}
    (h : ∀ command ∈ more, command.bindsTo? category point = none) (commands : List Command) :
    boundTo (commands ++ more) category point = boundTo commands category point :=
  (lastGiven_append none commands more).trans (lastGiven_of_forall h _)

/-- Slots that a context has are counted from the base of their category. -/
theorem toNat_bindingPoint (category : BindingCategory) {slot : Nat} (h : slot < 128) :
    (bindingPoint category slot).toNat = (bindingBase category).toNat + slot := by
  have hbase : (bindingBase category).toNat ≤ 64 := by cases category <;> decide
  have hslot : (UInt32.ofNat slot).toNat = slot :=
    UInt32.toNat_ofNat_of_lt' (Nat.lt_trans h (by decide))
  rw [bindingPoint, UInt32.toNat_add, hslot, Nat.mod_eq_of_lt (by omega)]

/-- The call for the changed slots of an array binds to the point of a slot what the slot holds, or
nothing if the slot is not among them. -/
theorem bindsTo?_of_pending {array : SlotArray (Option Nat)} (hcapacity : array.capacity ≤ 128)
    {first : Nat} {ids : List (Option Nat)} (hpending : array.pending = some (first, ids))
    (category : BindingCategory) {slot : Nat} (hslot : slot < 128) :
    let binds := (Command.bindResources category (bindingPoint category first) ids).bindsTo?
      category (bindingPoint category slot).toNat
    (binds = none ∧ array.CleanAt slot) ∨ binds = array.get? slot := by
  obtain ⟨span, hspan, hpair⟩ := Option.map_eq_some_iff.mp hpending
  obtain ⟨rfl, rfl⟩ := Prod.mk.inj hpair
  have hclean (hnot : ¬span.Holds slot) : array.CleanAt slot := by
    intro other hother
    obtain rfl : span = other := Option.some.inj (hspan.symm.trans hother)
    exact hnot
  simp only [Command.bindsTo?, true_and, toNat_bindingPoint category hslot]
  by_cases hstart : span.start < array.capacity
  · simp only [toNat_bindingPoint category (Nat.lt_of_lt_of_le hstart hcapacity),
      Nat.add_sub_add_left, Nat.add_le_add_iff_left]
    by_cases hholds : span.Holds slot
    · rw [if_pos hholds.1, SlotArray.getElem?_valuesOf array hholds]
      exact .inr rfl
    · refine .inl ⟨?_, hclean hholds⟩
      split
      · rename_i hle
        exact array.getElem?_valuesOf_of_not_holds hle hholds
      · rfl
  · -- Such a run is never written, but that is no matter here.
    rw [array.valuesOf_eq_nil (Nat.not_lt.mp hstart), List.getElem?_nil, ite_self]
    by_cases hhas : slot < array.capacity
    · exact .inl ⟨rfl, hclean fun hholds => hstart (Nat.lt_of_le_of_lt hholds.1 hhas)⟩
    · exact .inr (List.getElem?_eq_none (Nat.not_lt.mp hhas)).symm

/-! ## The calls of changes -/

namespace Recorder

variable {recorder next : Recorder} {change : Change}

/-- A change that is taken over is recorded by its calls, after those that were there. -/
theorem commands_of_change (h : recorder.change change = (.ok (), next)) :
    ∃ made, Command.ofChange change = .ok made ∧ next.commands = recorder.commands ++ made := by
  unfold Recorder.change at h
  split at h
  · cases h
  · rename_i made hmade
    cases h
    exact ⟨made, hmade, rfl⟩

/-- A change that is refused leaves no trace. -/
theorem eq_of_change_error {error : ShaderError}
    (h : recorder.change change = (.error error, next)) : next = recorder := by
  unfold Recorder.change at h
  split at h
  · cases h
    rfl
  · cases h

end Recorder

/-- A run of slots takes one call at most, and none only where it would bind nothing. -/
theorem eq_of_ofChange_resources {stage : Stage} {taken : BindingCategory} {first : Nat}
    {ids : List (Option Nat)} {made : List Command}
    (h : Command.ofChange (.resources stage taken first ids) = .ok made) :
    (supports stage = true ∧ made = [.bindResources taken (bindingPoint taken first) ids]) ∨
      (made = [] ∧ (supports stage = false ∨ ids = [])) := by
  have hcalls : (ids = [] ∧ made = []) ∨ made =
      if supports stage then [.bindResources taken (bindingPoint taken first) ids] else [] := by
    cases taken with
    | writeView =>
      cases ids with
      | nil =>
        cases h
        exact .inl ⟨rfl, rfl⟩
      | cons id rest =>
        cases h
        exact .inr rfl
    | _ =>
      cases h
      exact .inr rfl
  rcases hcalls with ⟨hids, hmade⟩ | hmade
  · exact .inr ⟨hmade, .inr hids⟩
  · cases hstage : supports stage with
    | true =>
      rw [hstage] at hmade
      exact .inl ⟨rfl, hmade⟩
    | false =>
      rw [hstage] at hmade
      exact .inr ⟨hmade, .inl rfl⟩

/-- No call of a change draws, and only those for slots bind something. -/
theorem of_mem_ofChange {change : Change} {made : List Command}
    (h : Command.ofChange change = .ok made) {command : Command} (hmem : command ∈ made) :
    ¬command.IsDraw ∧
      ((∀ stage category first ids, change ≠ .resources stage category first ids) →
        ∀ category point, command.bindsTo? category point = none) := by
  have hnone (hmade : made = []) : False := List.not_mem_nil (hmade ▸ hmem)
  cases change with
  | topology topology =>
    obtain ⟨_, -, hmade⟩ := map_eq_ok.mp h
    exact (hnone hmade.symm).elim
  | shader stage shader =>
    simp only [Command.ofChange] at h
    split at h
    · cases h
      obtain rfl := List.mem_singleton.mp hmem
      exact ⟨id, fun _ _ _ => rfl⟩
    · split at h
      · cases h
      · cases h
        exact (hnone rfl).elim
  | resources stage taken first ids =>
    refine ⟨?_, fun hother => absurd rfl (hother stage taken first ids)⟩
    rcases eq_of_ofChange_resources h with ⟨-, rfl⟩ | ⟨hmade, -⟩
    · obtain rfl := List.mem_singleton.mp hmem
      exact id
    · exact (hnone hmade).elim
  | rasterizer cull fill =>
    simp only [Command.ofChange, bind_eq_ok, pure_eq_ok] at h
    obtain ⟨mode, -, rfl⟩ := h
    rcases List.mem_pair.mp hmem with rfl | rfl
    · exact ⟨id, fun _ _ _ => rfl⟩
    · exact ⟨id, fun _ _ _ => rfl⟩
  | _ =>
    cases h
    obtain rfl := List.mem_singleton.mp hmem
    exact ⟨id, fun _ _ _ => rfl⟩

/-- Only work that draws adds a draw call to the record. -/
theorem Recorder.records_applier : Recorder.applier.Records Recorder.commands Command.IsDraw where
  change change recorder result next h := by
    cases result with
    | error error => exact ⟨[], by rw [eq_of_change_error h, List.append_nil], nofun⟩
    | ok done =>
      obtain ⟨made, hmade, hcommands⟩ := commands_of_change h
      exact ⟨made, hcommands, fun command hmem => (of_mem_ofChange hmade hmem).1⟩
  work work recorder result next h := by
    cases h
    refine ⟨[recorder.workCommand work], rfl, fun command hmem hdraw => ?_⟩
    obtain rfl := List.mem_singleton.mp hmem
    cases work with
    | dispatch x y z => exact hdraw.elim
    | _ => exact ⟨rfl, trivial, rfl⟩

/-- When a stage hands over the changed slots of a category, the point of a slot gets what the slot
holds, or stays as it was. -/
theorem boundTo_of_pending {array : SlotArray (Option Nat)} (hcapacity : array.capacity ≤ 128)
    {first : Nat} {ids : List (Option Nat)} (hpending : array.pending = some (first, ids))
    {stage : Stage} {made : List Command}
    (hmade : Command.ofChange (.resources stage category first ids) = .ok made)
    (commands : List Command) {slot : Nat} (hslot : slot < 128) :
    let point := (bindingPoint category slot).toNat
    (boundTo (commands ++ made) category point = boundTo commands category point ∧
      (supports stage = true → array.CleanAt slot ∨ array.get? slot = none)) ∨
    (supports stage = true ∧
      array.get? slot = some (boundTo (commands ++ made) category point)) := by
  have hbinds := bindsTo?_of_pending hcapacity hpending category hslot
  rcases eq_of_ofChange_resources hmade with ⟨hstage, rfl⟩ | ⟨rfl, hnone⟩
  · simp only [boundTo_append_single]
    rcases hbinds with ⟨hbinds, hclean⟩ | hbinds
    · exact .inl ⟨by rw [hbinds, Option.getD_none], fun _ => .inl hclean⟩
    · rw [hbinds]
      cases hget : array.get? slot with
      | none => exact .inl ⟨rfl, fun _ => .inr rfl⟩
      | some value => exact .inr ⟨hstage, rfl⟩
  · refine .inl ⟨by rw [List.append_nil], fun hstage => ?_⟩
    obtain rfl : ids = [] := hnone.resolve_left (by rw [hstage]; exact Bool.noConfusion)
    rcases hbinds with ⟨-, hclean⟩ | hbinds
    · exact .inl hclean
    · refine .inr (hbinds.symm.trans ?_)
      simp only [Command.bindsTo?, List.getElem?_nil, ite_self]

end CrossShade.OpenGL
