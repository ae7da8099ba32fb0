import IndexBasket.Proofs.Engine.WellPosed

namespace IndexBasket

open IndexBasket.Action

namespace Engine

variable {engine after : Engine} {context : CallContext} {component : Address} {target multiplier : Fixed}
  {targets : List (Address × Fixed)} {done : Unit}

/-- Targets of distinct components are all stored as they are given, and no other target
is touched. -/
theorem targetUnit_setTargets (distinct : (targets.map Prod.fst).Nodup)
    (run : setTargets multiplier targets engine = .ok done after) :
    (∀ target ∈ targets, (after.info target.1).targetUnit = target.2) ∧
      ∀ component, component ∉ targets.map Prod.fst →
        (after.info component).targetUnit = (engine.info component).targetUnit := by
  induction targets generalizing engine with
  | nil =>
    cases run
    exact ⟨fun _ => nofun, fun _ _ => rfl⟩
  | cons target rest ih =>
    obtain ⟨component, unit⟩ := target
    rw [List.map_cons, List.nodup_cons] at distinct
    obtain ⟨new, distinct⟩ := distinct
    simp only [setTargets, bind_eq_ok, modify_eq_ok] at run
    obtain ⟨_, _, rfl, run⟩ := run
    obtain ⟨stored, others⟩ := ih distinct run
    refine ⟨fun target member => ?_, fun other outside => ?_⟩
    · rcases List.mem_cons.mp member with rfl | later
      · rw [others component new, info_record, info_updateInfo]
      · exact stored target later
    · rw [List.map_cons, List.mem_cons, not_or] at outside
      rw [others other outside.2, info_record, info_updateInfo_ne (Ne.symm outside.1)]

/-- What the opening of a rebalance leaves: the components of the basket without the
reserve and then the new ones, each with the target that stands at its place. -/
theorem startRebalance_eq_ok {newComponents : List Address} {newTargets oldTargets : List Fixed}
    (run : startRebalance context newComponents newTargets oldTargets multiplier engine = .ok done after) :
    newComponents.length = newTargets.length ∧
      (engine.basket.ledger.components.filter (· ≠ engine.reserve)).length = oldTargets.length ∧
      after.rebalanceComponents = engine.basket.ledger.components.filter (· ≠ engine.reserve) ++ newComponents ∧
      ∀ target ∈ (engine.basket.ledger.components.filter (· ≠ engine.reserve)).zip oldTargets ++
        newComponents.zip newTargets, (after.info target.1).targetUnit = target.2 := by
  have run := atomically_eq_ok.mp run
  simp only [bind_eq_ok, guard_bind_eq_ok, get_eq_ok] at run
  obtain ⟨_, _, managed, news, _, _, _, ⟨rfl, rfl⟩, olds, distinct, _, run⟩ := run
  have same := (moves_requireManager context).of_ok managed
  subst same
  rw [ne_eq, not_not] at news olds
  rw [Bool.not_eq_true, hasDuplicate_eq_false] at distinct
  cases offending : List.find? _ _ with
  | some target =>
    rw [offending] at run
    obtain ⟨_, _, stopped, _⟩ := bind_eq_ok.mp run
    exact absurd stopped throw_ne_ok
  | none =>
    rw [offending] at run
    simp only [bind_eq_ok, modify_eq_ok] at run
    obtain ⟨_, targeted, targets, rfl⟩ := run
    generalize engine.basket.ledger.components.filter (· ≠ engine.reserve) = current at *
    have keys : ((current ++ newComponents).zip (oldTargets ++ newTargets)).map Prod.fst = current ++ newComponents :=
      List.map_fst_zip (by rw [List.length_append, List.length_append, olds, news])
    rw [← keys] at distinct
    refine ⟨news, olds, rfl, fun target member => (targetUnit_setTargets distinct targets).1 target ?_⟩
    rwa [List.zip_append olds]

end Engine

end IndexBasket
