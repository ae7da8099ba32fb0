import IndexBasket.Engine.Procedure
import IndexBasket.Proofs.Engine.Reachable

namespace IndexBasket

namespace Engine

open IndexBasket.Action

theorem performAll_append (first second : List Operation) :
    Operation.performAll (first ++ second) = do
      let answers ← Operation.performAll first
      return answers ++ (← Operation.performAll second) := by
  induction first with
  | nil => simp only [List.nil_append, Operation.performAll, pure_bind, bind_pure]
  | cons operation rest ih =>
    simp only [List.cons_append, Operation.performAll, ih, bind_assoc, pure_bind]

namespace Procedure

mutual

/-- Blocks make no difference to what a run comes to. -/
theorem outcome_run (procedure : Procedure) (start : Engine) :
    procedure.run.outcome start = (Operation.performAll procedure.operations).outcome start := by
  cases procedure with
  | single operation =>
    have alone : Operation.performAll [operation] = (fun answer => [answer]) <$> operation.perform := by
      simp only [Operation.performAll, pure_bind, map_eq_pure_bind]
    rw [run, operations, alone]
  | block parts =>
    rw [run, operations, outcome_atomically]
    exact outcome_runAll parts start

theorem outcome_runAll (parts : List Procedure) (start : Engine) :
    (runAll parts).outcome start = (Operation.performAll (operationsOf parts)).outcome start := by
  cases parts with
  | nil => rw [runAll, operationsOf, Operation.performAll]
  | cons part rest =>
    rw [runAll, operationsOf, performAll_append, outcome_bind, outcome_bind, outcome_run part start]
    -- The rest starts from where the first part ends, with or without its blocks.
    refine congrArg _ (funext fun reached => ?_)
    rw [outcome_bind, outcome_bind, outcome_runAll rest reached.2]

end

end Procedure

/-- Every call is a transaction, whoever makes it and wherever it stops. -/
theorem failsInPlace_perform (context : CallContext) (command : Command) :
    FailsInPlace (command.perform context) := by
  cases command <;> exact (failsInPlace_atomically _).map _

/-- A block that fails leaves the engine as it was before, and fails as its
operations do without any block around them. One that goes through ends where they
end, with their answers. A call is no block, but its failure leaves no trace either. -/
theorem run_block (parts : List Procedure) (before : Engine) :
    (∀ failure after, (Procedure.block parts).run before = .error failure after →
      after = before ∧
        ∃ left, Operation.performAll (Procedure.block parts).operations before = .error failure left) ∧
    (∀ answers after, (Procedure.block parts).run before = .ok answers after ↔
      Operation.performAll (Procedure.block parts).operations before = .ok answers after) ∧
    ∀ context command failure after, (Procedure.single (.call context command)).run before = .error failure after →
      after = before := by
  have same := Procedure.outcome_run (.block parts) before
  refine ⟨?_, ?_, ?_⟩
  · intro failure after stopped
    have failed : (Procedure.block parts).run.outcome before = .error failure :=
      outcome_eq_error.mpr ⟨after, stopped⟩
    rw [same] at failed
    rw [Procedure.run] at stopped
    exact ⟨atomically_error stopped, outcome_eq_error.mp failed⟩
  · intro answers after
    rw [← outcome_eq_ok, same, outcome_eq_ok]
  · intro context command failure after stopped
    rw [Procedure.run] at stopped
    exact (((failsInPlace_perform context command).map _).map _) stopped

theorem run_block_undone :
    let engine := Market.engine Fixed.one (Fixed.ofInt 1_500_000_000_000_000_000)
      (Amount.ofNat 1_000_000_000_000_000_000_000)
    let parts : List Procedure :=
      [.block [.single (.call (Market.call 1) (.trade Market.dai))],
        .single (.editBasket Market.registry (.ledger (.addComponent Market.dai)))]
    ∃ failure left, (Procedure.block parts).run engine = .error failure engine ∧
      Operation.performAll (Procedure.block parts).operations engine = .error failure left ∧
      left.events.length = engine.events.length + 1 := by
  intro engine parts
  have stopped : (Procedure.block parts).run.fails (fun _ _ => true) engine = true := by decide +kernel
  obtain ⟨failure, after, run, _⟩ := fails_iff.mp stopped
  obtain ⟨rfl, left, undone⟩ := (run_block parts engine).1 failure after run
  have traded : (Operation.performAll (Procedure.block parts).operations).fails
      (fun _ left => left.events.length = engine.events.length + 1) engine = true := by decide +kernel
  obtain ⟨_, _, again, recorded⟩ := fails_iff.mp traded
  cases undone.symm.trans again
  exact ⟨failure, left, run, undone, of_decide_eq_true recorded⟩

end Engine

end IndexBasket
