import IndexBasket.Proofs.Ledger.Consistency

namespace IndexBasket

namespace Ledger

open IndexBasket.Action

variable {ledger after : Ledger} {component module asset : Address} {unit virtualUnit : Fixed} {done : Unit}
  {failure : LedgerError}

/-! A unit through the multiplier and back. -/

/-- A product that does not pass the upper end of the range is read as it is, or as the
lower end where it passes that. -/
theorem toReal_eq_max (readable : ledger.Readable)
    (most : virtualUnit.toInt * ledger.multiplier.toInt / 10 ^ 18 ≤ 2 ^ 127 - 1) :
    (ledger.toReal virtualUnit).toInt =
      max (-2 ^ 127) (virtualUnit.toInt * ledger.multiplier.toInt / 10 ^ 18) := by
  by_cases within : -2 ^ 127 ≤ virtualUnit.toInt * ledger.multiplier.toInt / 10 ^ 18
  · rw [toReal_toInt within most]
    omega
  · have negative : virtualUnit.toInt < 0 := by
      by_contra nonneg
      have product := Int.mul_nonneg (Int.not_lt.mp nonneg) readable.le
      omega
    rcases toReal_cases ledger virtualUnit with exact | ending
    · have least := (ledger.toReal virtualUnit).ge_min
      omega
    · rw [ending, if_pos negative, show Fixed.least.toInt = -2 ^ 127 from rfl]
      omega

/-- What is read back is the unit after both roundings, kept at the lower end of the range
where they would take it below. They take nothing up. -/
theorem toReal_preciseDiv (readable : ledger.Readable)
    (found : unit.preciseDiv ledger.multiplier = some virtualUnit) :
    (ledger.toReal virtualUnit).toInt = max (-2 ^ 127) (readBack ledger.multiplier.toInt unit.toInt) := by
  have value := (Fixed.preciseDiv_eq_some readable).mp found
  have below := readBack_le readable unit.toInt
  have most := unit.le_max
  unfold readBack at below ⊢
  rw [← value] at below ⊢
  exact toReal_eq_max readable (by omega)

theorem toVirtual_eq_error :
    ledger.toVirtual component unit = .error failure ↔
      unit.preciseDiv ledger.multiplier = none ∧ .overflow = failure ∨
        ∃ virtualUnit, unit.preciseDiv ledger.multiplier = some virtualUnit ∧
          (unit ≠ Fixed.zero ∧ (virtualUnit = Fixed.zero ∨ ledger.toReal virtualUnit = Fixed.zero)) ∧
          .invalidVirtualUnit component = failure := by
  unfold toVirtual
  simp only [Except.bind_eq_error, demand_eq_error, demand_eq_ok, Except.guard_bind_eq_error]
  refine or_congr_right (exists_congr fun virtualUnit => and_congr_right fun _ => ?_)
  exact or_iff_left fun ⟨_, done⟩ => nomatch done

/-- A unit has no virtual one that stands for it where it is positive and both roundings
together leave nothing of it. A virtual unit that does not fit is refused for that. -/
theorem toVirtual_invalid_iff (readable : ledger.Readable) :
    ledger.toVirtual component unit = .error (.invalidVirtualUnit asset) ↔
      asset = component ∧ 0 < unit.toInt ∧ readBack ledger.multiplier.toInt unit.toInt = 0 ∧
        -2 ^ 127 ≤ unit.toInt * 10 ^ 18 / ledger.multiplier.toInt ∧
        unit.toInt * 10 ^ 18 / ledger.multiplier.toInt ≤ 2 ^ 127 - 1 := by
  rw [toVirtual_eq_error]
  constructor
  · rintro (⟨_, ⟨⟩⟩ | ⟨virtualUnit, found, ⟨nonzero, vanishes⟩, ⟨⟩⟩)
    have value := (Fixed.preciseDiv_eq_some readable).mp found
    have read := toReal_preciseDiv readable found
    have nothing : ledger.toReal virtualUnit = Fixed.zero := by
      rcases vanishes with zero | zero
      · rw [zero, toReal_zero]
      · exact zero
    rw [nothing, show Fixed.zero.toInt = 0 from rfl] at read
    have below := readBack_le readable unit.toInt
    have some : unit.toInt ≠ 0 := fun zero => nonzero (Fixed.ext zero)
    rw [← value]
    exact ⟨rfl, by omega, by omega, virtualUnit.ge_min, virtualUnit.le_max⟩
  · rintro ⟨rfl, positive, nothing, least, most⟩
    have found : unit.preciseDiv ledger.multiplier = some ⟨_, least, most⟩ :=
      (Fixed.preciseDiv_eq_some readable).mpr rfl
    have read := toReal_preciseDiv readable found
    rw [nothing] at read
    refine Or.inr ⟨_, found, ⟨fun zero => ?_, Or.inr (Fixed.ext read)⟩, rfl⟩
    rw [zero] at positive
    exact absurd positive (by decide)

/-! The edits of one unit. -/

theorem externalRealUnit_withEntry (ledger : Ledger) (component module : Address) (entry : Attribution) :
    (ledger.withEntry component module entry).externalRealUnit component module = ledger.toReal entry.virtualUnit := by
  have found : (ledger.withEntry component module entry).attribution? component module = some entry := by
    rw [attribution?_eq, attributionsOf_withEntry, if_pos rfl]
    exact Std.ExtTreeMap.getElem?_insert_self
  rw [externalRealUnit, found]
  rfl

theorem stopsWith_addComponent {kind : LedgerError → Prop} (holds : kind (.componentExists component)) :
    StopsWith kind (addComponent component) :=
  stopsWith_bind stopsWith_get fun _ => stopsWith_guard holds (stopsWith_modify _)

theorem stopsWith_removeComponent {kind : LedgerError → Prop} (holds : kind (.componentNotFound component)) :
    StopsWith kind (removeComponent component) :=
  stopsWith_bind stopsWith_get fun _ => stopsWith_guard holds (stopsWith_modify _)

/-- An edit that converts a unit first fails as the conversion does, if nothing that it
does afterwards could fail in this way. -/
theorem outcome_converted {next : Ledger → Fixed → Update}
    (later : ∀ ledger virtualUnit, StopsWith (· ≠ failure) (next ledger virtualUnit)) :
    (do
      let ledger ← get
      let virtualUnit ← ledger.toVirtual component unit
      next ledger virtualUnit : Update).outcome ledger = .error failure ↔
    ledger.toVirtual component unit = .error failure := by
  rw [outcome_eq_error]
  constructor
  · rintro ⟨after, stopped⟩
    rw [get_bind, bind_eq_error] at stopped
    obtain early | ⟨virtualUnit, between, _, late⟩ := stopped
    · exact (lift_eq_error.mp early).1
    · exact absurd rfl (later ledger virtualUnit late)
  · intro refused
    exact ⟨ledger, by rw [get_bind, lift_bind_error refused]⟩

/-- The edits that set one unit, with the component that they name, the unit, and where it is read. -/
inductive Edit.SetsUnit : Edit → Address → Fixed → (Ledger → Fixed) → Prop
  | defaultUnit (component : Address) (unit : Fixed) :
      SetsUnit (.defaultUnit component unit) component unit (·.defaultRealUnit component)
  | defaultPosition (component : Address) (unit : Fixed) :
      SetsUnit (.defaultPosition component unit) component unit (·.defaultRealUnit component)
  | externalUnit (component module : Address) (unit : Fixed) :
      SetsUnit (.externalUnit component module unit) component unit (·.externalRealUnit component module)
  | externalPosition (component module : Address) {unit : Fixed} (data : List UInt8) (nonzero : unit ≠ Fixed.zero) :
      SetsUnit (.externalPosition component module unit data) component unit (·.externalRealUnit component module)

variable {edit : Edit} {reading : Ledger → Fixed}

/-- What is stored is the converted unit, and it is read through the multiplier that it was
converted with. -/
theorem Edit.SetsUnit.read (sets : edit.SetsUnit component unit reading) (run : edit.apply ledger = .ok done after) :
    ∃ virtualUnit, ledger.toVirtual component unit = .ok virtualUnit ∧ reading after = ledger.toReal virtualUnit := by
  cases sets with
  | defaultUnit =>
    obtain ⟨virtualUnit, stored, rfl⟩ := setDefaultUnit_eq_ok.mp run
    refine ⟨virtualUnit, stored, ?_⟩
    dsimp only
    rw [defaultRealUnit_withDefault, if_pos rfl]
  | defaultPosition =>
    obtain ⟨virtualUnit, components, stored, rfl⟩ := setDefaultPosition_eq_ok run
    refine ⟨virtualUnit, stored, ?_⟩
    dsimp only
    rw [defaultRealUnit_withDefault, if_pos rfl]
    exact toReal_congr rfl virtualUnit
  | externalUnit =>
    obtain ⟨virtualUnit, entry, stored, _, rfl⟩ := setExternalUnit_eq_ok.mp run
    exact ⟨virtualUnit, stored, externalRealUnit_withEntry ledger _ _ _⟩
  | externalPosition _ module data nonzero =>
    have set : setExternalPosition component module unit data ledger = .ok done after := run
    rw [setExternalPosition_of_ne nonzero] at set
    split at set
    · rename_i virtualUnit stored
      cases set
      refine ⟨virtualUnit, stored, ?_⟩
      dsimp only
      rw [externalRealUnit_withEntry, toReal_congr (multiplier_enlist ledger component)]
    · cases set

/-- That a unit has no virtual one is found by the conversion and by nothing else. -/
theorem Edit.SetsUnit.refused (sets : edit.SetsUnit component unit reading) :
    edit.apply.outcome ledger = .error (.invalidVirtualUnit asset) ↔
      ledger.toVirtual component unit = .error (.invalidVirtualUnit asset) := by
  cases sets with
  | defaultUnit => exact outcome_converted fun _ _ => stopsWith_modify _
  | defaultPosition =>
    refine outcome_converted fun _ _ => stopsWith_ite ?_ (stopsWith_ite ?_ (stopsWith_modify _))
    · exact stopsWith_bind (stopsWith_addComponent nofun) fun _ => stopsWith_modify _
    · exact stopsWith_bind (stopsWith_removeComponent nofun) fun _ => stopsWith_modify _
  | externalUnit =>
    refine outcome_converted fun _ _ => stopsWith_bind stopsWith_get fun _ => ?_
    exact stopsWith_bind (stopsWith_demand nofun _) fun _ => stopsWith_modify _
  | externalPosition _ module data nonzero =>
    change (setExternalPosition component module unit data).outcome ledger = _ ↔ _
    rw [outcome, setExternalPosition_of_ne nonzero]
    cases ledger.toVirtual component unit with
    | ok virtualUnit => exact iff_of_false nofun nofun
    | error failure => rw [Except.error.injEq, Except.error.injEq]

/-- What comes of setting a unit. It is read back no larger than it was set and short of
that by no more than the multiplier rounded up, as zero only if it is zero, and as it was
set wherever the multiplier divides it. It is refused as having no virtual unit exactly if
it is positive and nothing is left of it after both roundings. -/
theorem Built.unit_read_back (built : ledger.Built) (sets : edit.SetsUnit component unit reading) :
    (∀ after, edit.apply ledger = .ok () after →
      reading after ≤ unit ∧
        unit.toInt - (reading after).toInt ≤ (ledger.multiplier.toInt + (10 ^ 18 - 1)) / 10 ^ 18 ∧
        (reading after = Fixed.zero → unit = Fixed.zero) ∧
        (ledger.multiplier.toInt ∣ unit.toInt * 10 ^ 18 → reading after = unit)) ∧
    ∀ asset, edit.apply.outcome ledger = .error (.invalidVirtualUnit asset) ↔
      asset = component ∧ 0 < unit.toInt ∧ readBack ledger.multiplier.toInt unit.toInt = 0 ∧
        -2 ^ 127 ≤ unit.toInt * 10 ^ 18 / ledger.multiplier.toInt ∧
        unit.toInt * 10 ^ 18 / ledger.multiplier.toInt ≤ 2 ^ 127 - 1 := by
  have readable := built.consistent.readable
  refine ⟨fun after run => ?_, fun asset => sets.refused.trans (toVirtual_invalid_iff readable)⟩
  obtain ⟨virtualUnit, stored, read⟩ := sets.read run
  obtain ⟨found, kept⟩ := toVirtual_eq_ok stored
  have value := toReal_preciseDiv readable found
  have below := readBack_le readable unit.toInt
  have close := le_readBack_add readable unit.toInt
  have least := unit.ge_min
  rw [read, Fixed.le_def]
  refine ⟨by omega, by omega, fun vanished => ?_, fun divides => Fixed.ext ?_⟩
  · by_contra nonzero
    exact kept nonzero vanished
  · have exact := (readBack_eq_self_iff readable unit.toInt).mpr divides
    omega

theorem Built.unit_read_back_less :
    let dai : Address := ⟨"dai", by decide, by decide⟩
    let lender : Address := ⟨"lender", by decide, by decide⟩
    let ledger := (Edit.rescale (Fixed.ofInt 1_500_000_000_000_000_000)).apply.final Ledger.empty
    let lend := Edit.externalPosition dai lender (Fixed.ofInt 5) []
    let hold := Edit.defaultPosition dai (Fixed.ofInt 1)
    ledger.Built ∧ lend.SetsUnit dai (Fixed.ofInt 5) (·.externalRealUnit dai lender) ∧
      hold.SetsUnit dai (Fixed.ofInt 1) (·.defaultRealUnit dai) ∧
      (∃ after, lend.apply ledger = .ok () after ∧ after.externalRealUnit dai lender = Fixed.ofInt 4 ∧
        after.externalRealUnit dai lender ≤ Fixed.ofInt 5 ∧ 5 - (after.externalRealUnit dai lender).toInt ≤ 2) ∧
      hold.apply.outcome ledger = .error (.invalidVirtualUnit dai) := by
  intro dai lender ledger lend hold
  have built : ledger.Built := .edit .empty _
  have lends : lend.SetsUnit dai (Fixed.ofInt 5) (·.externalRealUnit dai lender) :=
    .externalPosition dai lender [] (by decide)
  have holds : hold.SetsUnit dai (Fixed.ofInt 1) (·.defaultRealUnit dai) := .defaultPosition dai _
  have lent : lend.apply.succeeds (fun _ after => after.externalRealUnit dai lender = Fixed.ofInt 4) ledger = true := by
    decide +kernel
  obtain ⟨_, after, run, four⟩ := succeeds_iff.mp lent
  obtain ⟨below, close, _, _⟩ := (built.unit_read_back lends).1 after run
  have multiplier : ledger.multiplier = Fixed.ofInt 1_500_000_000_000_000_000 := by decide +kernel
  rw [multiplier] at close
  refine ⟨built, lends, holds, ⟨after, run, of_decide_eq_true four, below, close⟩, ?_⟩
  refine ((built.unit_read_back holds).2 dai).mpr ?_
  rw [multiplier]
  exact ⟨rfl, by decide, by decide, by decide, by decide⟩

end Ledger

end IndexBasket
