import IndexBasket.Proofs.Ledger.Edit

namespace IndexBasket

namespace Ledger

open IndexBasket.Action

variable {ledger after : Ledger} {done : Unit}

/-- Under a multiplier that is not positive no unit could be stored. -/
def Readable (ledger : Ledger) : Prop := 0 < ledger.multiplier.toInt

theorem readable_empty : Readable empty := by
  unfold Readable
  decide

theorem checkMultiplier_pos {units : List Fixed} {multiplier : Fixed}
    (passed : checkMultiplier units multiplier = .ok ()) : 0 < multiplier.toInt := by
  unfold checkMultiplier at passed
  obtain ⟨above, _⟩ := Except.guard_bind_eq_ok.mp passed
  exact Int.not_le.mp above

/-- Only a rescaling touches the multiplier. -/
theorem multiplier_edit {edit : Edit} (other : ∀ multiplier, edit ≠ .rescale multiplier)
    (run : edit.apply ledger = .ok done after) : after.multiplier = ledger.multiplier := by
  cases edit with
  | addComponent component =>
    obtain ⟨_, rfl⟩ := addComponent_eq_ok.mp run
    rfl
  | removeComponent component =>
    obtain ⟨_, rfl⟩ := removeComponent_eq_ok.mp run
    rfl
  | defaultUnit component unit =>
    obtain ⟨virtualUnit, _, rfl⟩ := setDefaultUnit_eq_ok.mp run
    exact multiplier_withDefault ledger component virtualUnit
  | defaultPosition component unit => exact multiplier_setDefaultPosition run
  | addAttribution component module =>
    obtain ⟨_, rfl⟩ := addAttribution_eq_ok.mp run
    rfl
  | removeAttribution component module =>
    obtain ⟨_, rfl⟩ := removeAttribution_eq_ok.mp run
    rfl
  | externalUnit component module unit =>
    obtain ⟨_, _, _, _, rfl⟩ := setExternalUnit_eq_ok.mp run
    rfl
  | externalData component module data =>
    obtain ⟨_, _, rfl⟩ := setExternalData_eq_ok.mp run
    rfl
  | externalPosition component module unit data =>
    obtain ⟨_, _, rfl⟩ | ⟨_, rfl⟩ | rfl := setExternalPosition_cases run
    · exact multiplier_enlist ledger component
    · exact multiplier_withoutPosition ledger component module
    · rfl
  | rescale multiplier => exact absurd rfl (other multiplier)

/-- A new multiplier has been checked to be positive. -/
theorem Readable.edit (readable : ledger.Readable) {edit : Edit} (run : edit.apply ledger = .ok done after) : after.Readable := by
  by_cases rescales : ∃ multiplier, edit = .rescale multiplier
  · obtain ⟨multiplier, rfl⟩ := rescales
    obtain ⟨passed, rfl⟩ := setMultiplier_eq_ok.mp run
    exact checkMultiplier_pos passed
  · unfold Readable
    rw [multiplier_edit (fun multiplier same => rescales ⟨multiplier, same⟩) run]
    exact readable

/-- No edit makes a readable ledger unreadable, also not one that fails. -/
theorem moves_edit (edit : Edit) : Moves (Preserves Readable) edit.apply :=
  (failsInPlace_edit edit).moves fun run readable => readable.edit run

theorem readable_ofPositions {positions : List (Address × Fixed)} {opened : Ledger}
    (run : ofPositions positions = .ok opened) : opened.Readable :=
  kept_ofPositions moves_edit readable_empty run

end Ledger

end IndexBasket
