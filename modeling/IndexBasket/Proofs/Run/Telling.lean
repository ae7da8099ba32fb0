import IndexBasket.Proofs.Action
import IndexBasket.Run.Basic

/-!
What a run makes of its host. The session is the same on every host, and what it puts out is
told in order. So a run that does not have to ask is on every host the run on the session
alone, told line by line up to the first line that cannot be written.
-/

namespace IndexBasket

open IndexBasket.Action

namespace Session

/-- A run with the answer to its question, as a computation on the session alone. -/
def answered (config : Config) (scenario : Scenario) (options : RunOptions) (answer : Except String Bool) :
    Whole RunSummary := do
  survey scenario options
  if options.dryRun then rehearse
  else
    if options.force then conduct config options
    else
      heed answer
      conduct config options

/-- What has been put out stays, and more comes after it. -/
def Extends (before after : Session) : Prop := before.outputs <+: after.outputs

instance : Std.Refl Extends := ⟨fun session => List.prefix_refl session.outputs⟩

instance : IsTrans Session Extends := ⟨fun _ _ _ first second => List.IsPrefix.trans first second⟩

variable {keeper : Keeper} {ε α β : Type}

theorem extends_put (outputs : List Output) : Moves Extends (put outputs) :=
  moves_modify fun _ => List.prefix_append _ _

theorem extends_unsaid {change : Session → Session} (same : ∀ session, (change session).outputs = session.outputs) :
    Moves Extends (modify change : Step PUnit) :=
  moves_modify fun session => (congrArg (session.outputs <+: ·) (same session)).mpr (List.prefix_refl _)

theorem extends_printing (report : Report.Printing Unit) : Moves Extends (printing report) := by
  intro session
  rw [printing, final_within]
  exact List.prefix_append _ _

theorem extends_attempt (call : Engine.Call α) : Moves Extends (attempt call) := by
  intro session
  unfold attempt Action.final
  dsimp only
  cases call session.engine <;> exact List.prefix_refl session.outputs

theorem extends_flush : Moves Extends flush := fun _ => List.prefix_append _ _

theorem extends_refuse (operation : Operation) (component : Option Address) (cause : EngineError) :
    Moves Extends (refuse operation component cause) := by
  refine moves_ite (moves_bind (extends_unsaid fun _ => rfl) fun _ => ?_) (moves_pure _)
  exact moves_bind moves_get fun _ => extends_put _

theorem extends_settled (trade : Trade) : Moves Extends (settled trade) :=
  moves_bind (extends_put _) fun _ => extends_unsaid fun _ => rfl

theorem extends_context (keeper : Keeper) : Moves Extends keeper.context := moves_bind moves_get fun _ => moves_pure _

theorem extends_tradeAll (keeper : Keeper) (components : List Address) : Moves Extends (keeper.tradeAll components) := by
  induction components with
  | nil => exact moves_pure _
  | cons component rest ih =>
    refine moves_bind (extends_context keeper) fun _ => moves_bind (extends_attempt _) fun answer => ?_
    cases answer with
    | ok trade => exact moves_bind (extends_settled trade) fun _ => moves_bind ih fun _ => moves_pure _
    | error cause => exact moves_bind (extends_refuse _ _ _) fun _ => ih

theorem extends_sweepReserve (keeper : Keeper) : Moves Extends keeper.sweepReserve := by
  unfold Keeper.sweepReserve
  cases keeper.sweep with
  | none => exact moves_pure _
  | some component =>
    refine moves_bind moves_get fun _ => moves_ite (moves_pure _) ?_
    refine moves_bind (moves_lift _) fun _ => moves_ite (moves_pure _) ?_
    refine moves_bind (extends_context keeper) fun _ => moves_bind (extends_attempt _) fun answer => ?_
    cases answer with
    | ok trade => exact moves_bind (extends_settled trade) fun _ => moves_bind extends_flush fun _ => moves_pure _
    | error cause => exact moves_bind (extends_refuse _ _ _) fun _ => moves_bind extends_flush fun _ => moves_pure _

theorem extends_raiseTargets (keeper : Keeper) : Moves Extends keeper.raiseTargets := by
  refine moves_bind moves_get fun _ => moves_ite (moves_pure _) ?_
  refine moves_bind (extends_context keeper) fun _ => moves_bind (extends_attempt _) fun answer => ?_
  cases answer with
  | ok snapshot =>
    refine moves_bind (extends_put _) fun _ => moves_bind (extends_unsaid fun _ => rfl) fun _ => ?_
    exact moves_bind extends_flush fun _ => moves_pure _
  | error cause => exact moves_bind (extends_refuse _ _ _) fun _ => moves_pure _

theorem extends_wait : Moves Extends Keeper.wait := by
  intro session
  rw [Keeper.wait, final_get_bind]
  cases session.engine.nextWakeup session.clock <;> exact List.prefix_refl _

theorem extends_round (keeper : Keeper) : Moves Extends keeper.round := by
  refine moves_bind (extends_unsaid fun _ => rfl) fun _ => moves_bind moves_get fun _ => ?_
  refine moves_bind (extends_tradeAll keeper _) fun _ => moves_bind extends_flush fun _ => ?_
  refine moves_bind moves_get fun _ => moves_bind (moves_lift _) fun _ => moves_ite ?_ ?_
  · refine moves_bind (extends_raiseTargets keeper) fun _ => moves_ite (moves_pure _) ?_
    exact moves_bind (extends_sweepReserve keeper) fun _ => moves_pure _
  · refine moves_ite (moves_pure _) (moves_bind (extends_sweepReserve keeper) fun _ => ?_)
    exact moves_ite (moves_pure _) extends_wait

theorem extends_run (keeper : Keeper) : Moves Extends keeper.run := by
  have rounds : ∀ left, Moves Extends (keeper.rounds left) := by
    intro left
    induction left with
    | zero => exact moves_pure _
    | succ left ih => exact moves_bind (extends_round keeper) fun _ => moves_ite ih (moves_pure _)
  exact moves_bind (rounds _) fun _ => moves_bind moves_get fun _ => moves_bind (moves_lift _) fun _ => moves_pure _

theorem moves_step {R : Session → Session → Prop} {act : Step α} (moves : Moves R act) : Moves R (step act) :=
  moves_within moves fun _ _ => id

theorem extends_survey (scenario : Scenario) (options : RunOptions) : Moves Extends (survey scenario options) := by
  refine moves_bind (moves_step (extends_put _)) fun _ => moves_bind (moves_step extends_flush) fun _ => ?_
  refine moves_bind moves_get fun _ => moves_bind (moves_step (extends_put _)) fun _ => ?_
  exact moves_step (extends_put _)

theorem extends_rehearse : Moves Extends rehearse := by
  refine moves_bind (moves_step (extends_put _)) fun _ => moves_bind moves_get fun _ => ?_
  exact moves_bind (moves_step (moves_lift _)) fun _ => moves_pure _

theorem extends_heed (answer : Except String Bool) : Moves Extends (heed answer) := by
  cases answer with
  | error reason => exact moves_throw _
  | ok approved => exact moves_bind (moves_step (extends_put _)) fun _ => moves_ite (moves_throw _) (moves_pure _)

theorem extends_conduct (config : Config) (options : RunOptions) : Moves Extends (conduct config options) := by
  refine moves_bind (moves_step (extends_run _)) fun _ => moves_bind (moves_step (extends_put _)) fun _ => ?_
  refine moves_bind (moves_step (extends_put _)) fun _ => moves_bind moves_get fun _ => ?_
  exact moves_bind (moves_step (extends_printing _)) fun _ => moves_pure _

/-! Telling. -/

section Telling

variable {m : Type → Type} [Monad m] [LawfulMonad m] [Host m] {path : String}

theorem tellAll_append (path : String) (outputs more : List Output) :
    (tellAll path (outputs ++ more) : ExceptT RunError m Unit) =
      (do
        tellAll path outputs
        tellAll path more) := by
  unfold tellAll
  rw [List.forM_eq_forM, List.forM_append]
  refine ExceptT.ext ?_
  simp only [ExceptT.run_adapt, ExceptT.run_bind, map_bind, bind_map_left]
  refine bind_congr fun told => ?_
  cases told with
  | ok done => rfl
  | error cause => exact map_pure _ _

theorem tellAll_drop {outputs more all : List Output} (first : outputs <+: more) (second : more <+: all) :
    (tellAll path (all.drop outputs.length) : ExceptT RunError m Unit) =
      (do
        tellAll path (more.drop outputs.length)
        tellAll path (all.drop more.length)) := by
  obtain ⟨next, rfl⟩ := first
  obtain ⟨last, rfl⟩ := second
  rw [← tellAll_append, List.drop_left, List.drop_left, List.append_assoc, List.drop_left]

/-- To carry out one part after another comes to the same as to carry them out as one. -/
theorem carryOut_bind {part : Whole α} {next : α → Whole β} (first : Moves Extends part)
    (second : ∀ value, Moves Extends (next value)) :
    (carryOut path (part >>= next) : Live m β) = carryOut path part >>= fun value => carryOut path (next value) := by
  funext session
  change carryOut path (part >>= next) session =
    (carryOut path part session >>= fun reached => carryOut path (next reached.1) reached.2)
  cases run : part session with
  | error cause after =>
    simp only [carryOut, ending_of_error run, ending_of_error (bind_of_error run next), bind_assoc,
      MonadExcept.ofExcept, ExceptT.bind_throw]
  | ok value between =>
    have later := second value between
    rw [← ending_snd] at later
    simp only [carryOut, ending_of_ok run, ending_bind_of_ok run, tellAll_drop (first.of_ok run) later, bind_assoc,
      MonadExcept.ofExcept, pure_bind]

variable (config : Config) (scenario : Scenario) {options : RunOptions}

theorem extends_traded (answer : Except String Bool) :
    Moves Extends (do
      heed answer
      conduct config options) :=
  moves_bind (extends_heed answer) fun _ => extends_conduct config options

/-- A run that does not have to ask is the run on the session alone, carried out. -/
theorem execute_settled (settled : options.dryRun = true ∨ options.force = true) (answer : Except String Bool) :
    (execute config scenario options : Live m RunSummary) =
      carryOut config.auditPath (answered config scenario options answer) := by
  unfold execute answered
  cases dry : options.dryRun with
  | true => exact (carryOut_bind (extends_survey scenario options) fun _ => extends_rehearse).symm
  | false =>
    have forced : options.force = true := settled.resolve_left (by simp [dry])
    simp only [consult, forced, Bool.not_true, Bool.false_eq_true, if_false, if_true, pure_bind]
    exact (carryOut_bind (extends_survey scenario options) fun _ => extends_conduct config options).symm

/-- A run that has to ask is told up to its question, and goes on with the answer to it. -/
theorem execute_asking (trading : options.dryRun = false) (asking : options.force = false) :
    (execute config scenario options : Live m RunSummary) =
      (do
        carryOut config.auditPath (survey scenario options)
        let answer ← liftM (Terminal.confirm "Execute?" : m (Except String Bool))
        carryOut config.auditPath (do
          heed answer
          conduct config options)) := by
  unfold execute
  simp only [consult, trading, asking, Bool.not_false, Bool.false_eq_true, if_false, if_true, bind_assoc]
  refine bind_congr fun _ => bind_congr fun answer => ?_
  exact (carryOut_bind (extends_heed answer) fun _ => extends_conduct config options).symm

end Telling

/-! What a computation makes of a host with a state of its own. -/

section Stateful

variable {δ α β : Type} {path : String}

theorem exceptT_bind_apply {ε : Type} (act : ExceptT ε (StateM δ) α) (next : α → ExceptT ε (StateM δ) β) (host : δ) :
    (act >>= next) host =
      match act host with
      | (.ok value, after) => next value after
      | (.error failure, after) => (.error failure, after) := by
  simp only [bind, ExceptT.bind, ExceptT.mk, ExceptT.bindCont, StateT.bind]
  cases act host with
  | mk outcome after => cases outcome <;> rfl

theorem live_bind_apply (act : Live (StateM δ) α) (next : α → Live (StateM δ) β) (before : Session) (host : δ) :
    (act >>= next) before host =
      match act before host with
      | (.ok reached, after) => next reached.1 reached.2 after
      | (.error failure, after) => (.error failure, after) := by
  change (act before >>= fun reached => next reached.1 reached.2) host = _
  rw [exceptT_bind_apply]
  cases act before host with
  | mk outcome after => cases outcome <;> rfl

/-- A part comes to its own end if all that it puts out can be told, and otherwise to the end of
the telling. -/
theorem carryOut_apply [Host (StateM δ)] (part : Whole α) (before : Session) (host : δ) :
    (carryOut path part : Live (StateM δ) α) before host =
      match (tellAll path ((part.final before).outputs.drop before.outputs.length) :
        ExceptT RunError (StateM δ) Unit) host with
      | (.ok _, after) => ((part.ending before).1.map (·, part.final before), after)
      | (.error failure, after) => (.error failure, after) := by
  change (do
    tellAll path ((part.ending before).2.outputs.drop before.outputs.length)
    return (← MonadExcept.ofExcept (part.ending before).1, (part.ending before).2) :
      ExceptT RunError (StateM δ) (α × Session)) host = _
  rw [ending_snd, exceptT_bind_apply]
  cases (tellAll path ((part.final before).outputs.drop before.outputs.length) :
    ExceptT RunError (StateM δ) Unit) host with
  | mk telling after => cases telling <;> cases (part.ending before).1 <;> rfl

end Stateful

end Session

/-- A run builds its engine, opens its log, and goes on from there. -/
theorem Scenario.run_apply {δ : Type} [Host (StateM δ)] {scenario : Scenario} {config : Config} {engine : Engine}
    (built : scenario.build config = .ok engine) (options : RunOptions) (host : δ) :
    (scenario.run config options : StateM δ (Except RunError RunSummary)) host =
      match (Disk.openLog config.auditPath : StateM δ (Except FileError Unit)) host with
      | (.ok _, opened) =>
        Prod.map (·.map Prod.fst) id ((Session.execute config scenario options : Session.Live (StateM δ) RunSummary)
          (Session.start engine scenario.startTime) opened)
      | (.error cause, after) => (.error (.audit cause), after) := by
  unfold run
  rw [built]
  simp only [bind, StateT.bind]
  cases (Disk.openLog config.auditPath : StateM δ (Except FileError Unit)) host with
  | mk answer opened => cases answer <;> rfl

end IndexBasket
