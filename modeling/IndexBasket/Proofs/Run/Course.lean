import IndexBasket.Proofs.Engine.Access
import IndexBasket.Proofs.Engine.Recording
import IndexBasket.Proofs.Run.Telling

namespace IndexBasket

open IndexBasket.Action

/-- Lines by which a run tells of itself. -/
inductive AuditLine.Notice : AuditLine → Prop
  | runStarted (scenarioFile : String) (basket : Address) (time : Timestamp) :
      Notice (.runStarted scenarioFile basket time)
  | planComputed (plans : List TradePlan) : Notice (.planComputed plans)
  | userConfirmed (approved : Bool) : Notice (.userConfirmed approved)
  | runCompleted (summary : RunSummary) : Notice (.runCompleted summary)

namespace Session

/-- How a call is named where its failure is written down. -/
def asked : Engine.Command → Option (Operation × Option Address)
  | .trade component => some (.trade, some component)
  | .tradeRemainingReserve component => some (.tradeRemainingReserve, some component)
  | .raiseAssetTargets => some (.raiseAssetTargets, none)
  | _ => none

def flushed (session : Session) : Session :=
  { session with
    engine := { session.engine with events := [] }
    outputs := session.outputs ++ (session.engine.events.map (AuditLine.event · session.clock)).map .written }

def refused (session : Session) (operation : Operation) (component : Option Address) (cause : EngineError) :
    Session :=
  if cause.isRuleViolation then session
  else { session with
    failures := session.failures + 1
    outputs := session.outputs ++ [.written (.callFailed operation component cause session.clock)] }

/-- The calls of a keeper are its trader's own, at the time of the run. -/
def context (session : Session) (keeper : Keeper) : CallContext := .external keeper.trader session.clock

/-- All that can happen next in a run, with the calls of the engine that are made for it. -/
inductive Turn (keeper : Keeper) (session : Session) : List (CallContext × Engine.Command) → Session → Prop
  | print (lines : List String) :
      Turn keeper session [] { session with outputs := session.outputs ++ lines.map .printed }
  | notice {line : AuditLine} (notice : line.Notice) :
      Turn keeper session [] { session with outputs := session.outputs ++ [.written line] }
  | opening (left : session.rounds < keeper.maxRounds) :
      Turn keeper session [] { session with rounds := session.rounds + 1 }
  | trade {component : Address} {command : Engine.Command} {trade : Trade} {engine : Engine}
      (trades : command.Trades component)
      (run : command.perform (session.context keeper) session.engine = .ok (.traded trade) engine) :
      Turn keeper session [(session.context keeper, command)]
        { session with
          engine, outputs := session.outputs ++ [.printed (Report.tradeLine trade)], trades := session.trades + 1 }
  | raise {snapshot : Fixed} {engine : Engine} (left : session.raises < keeper.maxRaises)
      (run : Engine.raiseAssetTargets (session.context keeper) session.engine = .ok snapshot engine) :
      Turn keeper session [(session.context keeper, .raiseAssetTargets)]
        { session with
          engine, outputs := session.outputs ++ [.printed (Report.raiseLine snapshot)], raises := session.raises + 1 }
  | refusal {command : Engine.Command} {operation : Operation} {component : Option Address} {cause : EngineError}
      (asks : asked command = some (operation, component))
      (stopped : command.perform (session.context keeper) session.engine = .error cause session.engine) :
      Turn keeper session [(session.context keeper, command)] (session.refused operation component cause)
  | flush : Turn keeper session [] session.flushed
  | wait {time : Timestamp} (told : session.engine.events = [])
      (next : session.engine.nextWakeup session.clock = some time) :
      Turn keeper session [] { session with clock := time }

/-- One turn after another, with all the calls that have been made. -/
inductive Course (keeper : Keeper) (start : Session) : List (CallContext × Engine.Command) → Session → Prop
  | start : Course keeper start [] start
  | next {calls made : List (CallContext × Engine.Command)} {session after : Session}
      (course : Course keeper start calls session) (turn : Turn keeper session made after) :
      Course keeper start (calls ++ made) after

theorem Course.trans {keeper : Keeper} {start middle after : Session}
    {calls later : List (CallContext × Engine.Command)} (first : Course keeper start calls middle)
    (second : Course keeper middle later after) : Course keeper start (calls ++ later) after := by
  induction second with
  | start =>
    rw [List.append_nil]
    exact first
  | next _ turn ih =>
    rw [← List.append_assoc]
    exact ih.next turn

/-- A course with whatever calls, within one round. -/
def Within (keeper : Keeper) (before after : Session) : Prop :=
  (∃ calls, Course keeper before calls after) ∧ after.rounds = before.rounds

variable {keeper : Keeper} {session after : Session} {ε α β : Type}

instance : Std.Refl (Within keeper) := ⟨fun _ => ⟨⟨[], .start⟩, rfl⟩⟩

instance : IsTrans Session (Within keeper) where
  trans := by
    rintro _ _ _ ⟨⟨_, first⟩, same⟩ ⟨⟨_, second⟩, same'⟩
    exact ⟨⟨_, first.trans second⟩, same'.trans same⟩

theorem Turn.within {made : List (CallContext × Engine.Command)} (turn : Turn keeper session made after)
    (same : after.rounds = session.rounds) : Within keeper session after :=
  ⟨⟨_, Course.start.next turn⟩, same⟩

theorem rounds_refused (session : Session) (operation : Operation) (component : Option Address)
    (cause : EngineError) : (session.refused operation component cause).rounds = session.rounds := by
  unfold refused
  split <;> rfl

theorem engine_refused (session : Session) (operation : Operation) (component : Option Address)
    (cause : EngineError) : (session.refused operation component cause).engine = session.engine := by
  unfold refused
  split <;> rfl

/-! The steps of a keeper, as far as they always go through. -/

theorem refuse_eq_ok (operation : Operation) (component : Option Address) (cause : EngineError) :
    refuse operation component cause session = .ok ⟨⟩ (session.refused operation component cause) := by
  unfold refuse refused
  cases cause.isRuleViolation <;> rfl

theorem total_refuse (operation : Operation) (component : Option Address) (cause : EngineError) :
    Total (refuse operation component cause) := fun _ => ⟨_, _, refuse_eq_ok operation component cause⟩

theorem total_attempt (call : Engine.Call α) : Total (attempt call) := by
  intro session
  unfold attempt
  cases call session.engine with
  | ok value engine => exact ⟨_, _, rfl⟩
  | error cause engine => exact ⟨_, _, rfl⟩

theorem total_tradeAll (keeper : Keeper) (components : List Address) : Total (keeper.tradeAll components) := by
  induction components with
  | nil => exact total_pure _
  | cons component rest ih =>
    refine total_bind (fun _ => ⟨_, _, rfl⟩) fun context => total_bind (total_attempt _) fun answer => ?_
    cases answer with
    | ok trade => exact total_bind (fun _ => ⟨_, _, rfl⟩) fun _ => total_bind ih fun _ => total_pure _
    | error cause => exact total_bind (total_refuse _ _ _) fun _ => ih

/-- A call of the engine, with what comes after it when it goes through and when not. -/
theorem result_call {p : EStateM.Result EngineError Session β → Prop} {call : CallContext → Engine.Call α}
    {next : Except EngineError α → Step β} (inPlace : ∀ context, FailsInPlace (call context))
    (accepted : ∀ {value engine}, call (session.context keeper) session.engine = .ok value engine →
      p (next (.ok value) { session with engine }))
    (refused : ∀ {cause}, call (session.context keeper) session.engine = .error cause session.engine →
      p (next (.error cause) session)) :
    p ((do
      let context ← keeper.context
      let answer ← attempt (call context)
      next answer : Step β) session) := by
  change p ((attempt (call (session.context keeper)) >>= next) session)
  cases run : call (session.context keeper) session.engine with
  | ok value engine =>
    rw [bind_of_ok (by rw [attempt, run])]
    exact accepted run
  | error cause engine =>
    have same := inPlace _ run
    subst same
    rw [bind_of_ok (by rw [attempt, run])]
    exact refused run

theorem final_call {p : Session → Prop} {call : CallContext → Engine.Call α} {next : Except EngineError α → Step β}
    (inPlace : ∀ context, FailsInPlace (call context))
    (accepted : ∀ {value engine}, call (session.context keeper) session.engine = .ok value engine →
      p ((next (.ok value)).final { session with engine }))
    (refused : ∀ {cause}, call (session.context keeper) session.engine = .error cause session.engine →
      p ((next (.error cause)).final session)) :
    p ((do
      let context ← keeper.context
      let answer ← attempt (call context)
      next answer : Step β).final session) :=
  result_call (p := fun result => p (Action.final (fun _ => result : Step β) session)) inPlace accepted refused

/-- Trades are made one after the other, and what is refused changes no engine. -/
theorem moves_tradeAll (keeper : Keeper) (components : List Address) :
    Moves (Within keeper) (keeper.tradeAll components) := by
  induction components with
  | nil => exact moves_pure _
  | cons component rest ih =>
    intro session
    refine final_call (fun _ => failsInPlace_atomically _) (fun {trade engine} run => ?_) fun {cause} stopped => ?_
    · have turn : Turn keeper session _ _ := .trade .trade (map_eq_ok.mpr ⟨trade, run, rfl⟩)
      exact IsTrans.trans _ _ _ (turn.within rfl) (moves_bind ih (fun _ => moves_pure _) _)
    · have turn := Turn.refusal (rfl : asked (.trade component) = some _) (map_eq_error.mpr stopped)
      rw [final_bind_of_ok (refuse_eq_ok _ _ _)]
      exact IsTrans.trans _ _ _ (turn.within (rounds_refused _ _ _ _)) (ih _)

/-- A course at whose end all events are told, through no more than some number of rounds. -/
structure Ends (keeper : Keeper) (most : Nat) (before after : Session) : Prop where
  course : ∃ calls, Course keeper before calls after
  told : after.engine.events = []
  rounds : after.rounds ≤ before.rounds + most

/-- From where all events are told and rounds are left, a computation ends so again, in
success and in failure. -/
def Spends (keeper : Keeper) (most : Nat) (act : Action ε Session α) : Prop :=
  ∀ session, session.engine.events = [] → session.rounds + most ≤ keeper.maxRounds →
    Ends keeper most session (act.final session)

variable {most less : Nat}

theorem spends_still {act : Action ε Session α} (still : Moves Eq act) : Spends keeper 0 act := by
  intro session told left
  rw [← still session]
  exact ⟨⟨[], .start⟩, told, le_rfl⟩

theorem spends_pure (value : α) : Spends keeper 0 (pure value : Action ε Session α) := spends_still fun _ => rfl

theorem spends_get : Spends keeper 0 (get : Action ε Session Session) := spends_still fun _ => rfl

theorem spends_lift (act : Except ε α) : Spends keeper 0 (liftM act : Action ε Session α) :=
  spends_still (moves_lift act)

theorem Spends.mono {act : Action ε Session α} (spends : Spends keeper less act) (le : less ≤ most) :
    Spends keeper most act := by
  intro session told left
  obtain ⟨course, told', rounds⟩ := spends session told (by omega)
  exact ⟨course, told', by omega⟩

theorem ends_bind {act : Action ε Session α} {next : α → Action ε Session β}
    (first : Ends keeper most session (act.final session)) (second : ∀ value, Spends keeper less (next value))
    (left : session.rounds + (less + most) ≤ keeper.maxRounds) :
    Ends keeper (less + most) session ((act >>= next).final session) := by
  obtain ⟨⟨calls, course⟩, told, rounds⟩ := first
  cases run : act session with
  | ok value between =>
    rw [final_of_ok run] at course told rounds
    rw [final_bind_of_ok run]
    obtain ⟨⟨later, course'⟩, told', rounds'⟩ := second value between told (by omega)
    exact ⟨⟨_, course.trans course'⟩, told', by omega⟩
  | error cause between =>
    -- A failure of the first part is the end of the whole.
    rw [final_of_error run] at course told rounds
    rw [final_of_error (bind_of_error run next)]
    exact ⟨⟨calls, course⟩, told, by omega⟩

theorem spends_bind {act : Action ε Session α} {next : α → Action ε Session β} (first : Spends keeper most act)
    (second : ∀ value, Spends keeper less (next value)) : Spends keeper (less + most) (act >>= next) :=
  fun session told left => ends_bind (first session told (by omega)) second left

theorem spends_ite {condition : Prop} [Decidable condition] {yes no : Action ε Session α}
    (left : Spends keeper most yes) (right : Spends keeper most no) :
    Spends keeper most (if condition then yes else no) := by
  split
  · exact left
  · exact right

theorem spends_step {act : Step α} (spends : Spends keeper most act) : Spends keeper most (step act) := by
  intro session told left
  have same : (step act).final session = act.final session := final_within
  rw [same]
  exact spends session told left

theorem spends_print (lines : List String) : Spends keeper 0 (print lines) :=
  fun _ told _ => ⟨⟨_, Course.start.next (.print lines)⟩, told, le_rfl⟩

theorem spends_notice {line : AuditLine} (notice : line.Notice) : Spends keeper 0 (write [line]) :=
  fun _ told _ => ⟨⟨_, Course.start.next (.notice notice)⟩, told, le_rfl⟩

theorem spends_targetTable (engine : Engine) : Spends keeper 0 (printing (Report.targetTable engine)) := by
  intro session told left
  rw [printing, final_within]
  exact ⟨⟨_, Course.start.next (.print _)⟩, told, le_rfl⟩

/-- Whatever is recorded by steps that always go through is told by the flush after them. -/
theorem ends_flush {act : Action ε Session α} {tell : Action ε Session Unit} {next : α → Action ε Session β}
    (total : Total act) (moves : Moves (Within keeper) act) (tells : ∀ session, tell session = .ok ⟨⟩ session.flushed)
    (rest : ∀ value, Spends keeper most (next value)) (left : session.rounds + most ≤ keeper.maxRounds) :
    Ends keeper most session
      ((do
        let value ← act
        tell
        next value).final session) := by
  -- In between, events may wait. That they are told rests on there being no way out.
  obtain ⟨value, between, run⟩ := total session
  obtain ⟨⟨calls, course⟩, same⟩ := moves.of_ok run
  rw [final_bind_of_ok run, final_bind_of_ok (tells between)]
  obtain ⟨⟨later, course'⟩, told, rounds⟩ := rest value between.flushed rfl
    (show between.rounds + most ≤ keeper.maxRounds by omega)
  exact ⟨⟨_, (course.next .flush).trans course'⟩, told, same ▸ rounds⟩

theorem spends_sweepReserve (keeper : Keeper) : Spends keeper 0 keeper.sweepReserve := by
  unfold Keeper.sweepReserve
  cases keeper.sweep with
  | none => exact spends_pure _
  | some component =>
    refine spends_bind spends_get fun _ => spends_ite (spends_pure _) ?_
    refine spends_bind (spends_lift _) fun _ => spends_ite (spends_pure _) ?_
    intro session told left
    refine final_call (fun _ => failsInPlace_atomically _) (fun {trade engine} run => ?_) fun {cause} stopped => ?_
    · have turn : Turn keeper session _ _ := .trade .tradeRemainingReserve (map_eq_ok.mpr ⟨trade, run, rfl⟩)
      exact ⟨⟨_, (Course.start.next turn).next .flush⟩, rfl, le_rfl⟩
    · have turn := Turn.refusal (rfl : asked (.tradeRemainingReserve component) = some _) (map_eq_error.mpr stopped)
      rw [final_bind_of_ok (refuse_eq_ok _ _ _)]
      exact ⟨⟨_, (Course.start.next turn).next .flush⟩, rfl, (rounds_refused _ _ _ _).le⟩

theorem spends_raiseTargets (keeper : Keeper) : Spends keeper 0 keeper.raiseTargets := by
  intro session told left
  rw [Keeper.raiseTargets, final_get_bind]
  split
  · exact ⟨⟨[], .start⟩, told, le_rfl⟩
  · rename_i ready
    simp only [Bool.or_eq_true, decide_eq_true_iff, not_or, Nat.not_le] at ready
    refine final_call (fun _ => failsInPlace_atomically _) (fun {snapshot engine} run => ?_) fun {cause} stopped => ?_
    · have turn : Turn keeper session _ _ := .raise ready.1 run
      exact ⟨⟨_, (Course.start.next turn).next .flush⟩, rfl, le_rfl⟩
    · have turn := Turn.refusal (rfl : asked .raiseAssetTargets = some _) (map_eq_error.mpr stopped)
      rw [final_bind_of_ok (refuse_eq_ok _ _ _)]
      refine ⟨⟨_, Course.start.next turn⟩, ?_, (rounds_refused _ _ _ _).le⟩
      exact (congrArg Engine.events (engine_refused _ _ _ _)).trans told

theorem spends_wait (keeper : Keeper) : Spends keeper 0 Keeper.wait := by
  intro session told left
  rw [Keeper.wait, final_get_bind]
  cases next : session.engine.nextWakeup session.clock with
  | some time => exact ⟨⟨_, Course.start.next (.wait told next)⟩, told, le_rfl⟩
  | none => exact ⟨⟨[], .start⟩, told, le_rfl⟩

theorem spends_round (keeper : Keeper) : Spends keeper 1 keeper.round := by
  have opens : Spends keeper 1 (modify fun session => { session with rounds := session.rounds + 1 } : Step PUnit) :=
    fun session told left => ⟨⟨_, Course.start.next (.opening left)⟩, told, le_rfl⟩
  refine spends_bind opens fun _ => spends_bind spends_get fun _ => ?_
  refine fun session told => ends_flush (total_tradeAll keeper _) (moves_tradeAll keeper _) (fun _ => rfl) fun _ => ?_
  refine spends_bind spends_get fun _ => spends_bind (spends_lift _) fun _ => ?_
  refine spends_ite ?_ (spends_ite (spends_pure _) ?_)
  · refine spends_bind (spends_raiseTargets keeper) fun _ => spends_ite (spends_pure _) ?_
    exact spends_bind (spends_sweepReserve keeper) fun _ => spends_pure _
  · exact spends_bind (spends_sweepReserve keeper) fun _ => spends_ite (spends_pure _) (spends_wait keeper)

theorem spends_rounds (keeper : Keeper) (left : Nat) : Spends keeper left (keeper.rounds left) := by
  induction left with
  | zero => exact spends_pure _
  | succ left ih =>
    exact spends_bind (spends_round keeper) fun _ => spends_ite ih ((spends_pure _).mono (Nat.zero_le left))

theorem spends_run (keeper : Keeper) : Spends keeper keeper.maxRounds keeper.run := by
  refine (spends_bind (spends_rounds keeper _) fun _ => ?_).mono (Nat.zero_add _).le
  exact spends_bind spends_get fun _ => spends_bind (spends_lift _) fun _ => spends_pure _

theorem spends_rehearse : Spends keeper 0 rehearse := by
  refine spends_bind (spends_step (spends_print _)) fun _ => spends_bind spends_get fun _ => ?_
  exact spends_bind (spends_step (spends_lift _)) fun _ => spends_pure _

theorem spends_heed (answer : Except String Bool) : Spends keeper 0 (heed answer) := by
  cases answer with
  | error reason => exact spends_still fun _ => rfl
  | ok approved =>
    refine spends_bind (spends_step (spends_notice (.userConfirmed approved))) fun _ => ?_
    exact spends_ite (spends_still fun _ => rfl) (spends_pure _)

theorem spends_conduct (config : Config) (options : RunOptions) :
    Spends (Session.keeper config options) (Session.keeper config options).maxRounds (conduct config options) := by
  refine (spends_bind (spends_step (spends_run _)) fun _ => ?_).mono (Nat.zero_add _).le
  refine spends_bind (spends_step (spends_notice (.runCompleted _))) fun _ => ?_
  refine spends_bind (spends_step (spends_print _)) fun _ => spends_bind spends_get fun _ => ?_
  exact spends_bind (spends_step (spends_targetTable _)) fun _ => spends_pure _

/-- The events by which the rebalance was set up wait to be told when a run begins. -/
theorem ends_survey (scenario : Scenario) (options : RunOptions) (left : session.rounds ≤ keeper.maxRounds) :
    Ends keeper 0 session ((survey scenario options).final session) := by
  refine ends_flush (fun _ => ⟨_, _, rfl⟩) (fun _ => (Turn.notice (.runStarted _ _ _)).within rfl) (fun _ => rfl)
    (fun _ => ?_) left
  refine spends_bind spends_get fun _ => spends_bind (spends_step (spends_print _)) fun _ => ?_
  exact spends_step (spends_notice (.planComputed _))

theorem ends_answered (config : Config) (scenario : Scenario) (options : RunOptions) (answer : Except String Bool)
    {start : Session} (unopened : start.rounds = 0) :
    Ends (Session.keeper config options) (Session.keeper config options).maxRounds start
      ((answered config scenario options answer).final start) := by
  have conducted := spends_conduct config options
  refine ends_bind (ends_survey scenario options (by omega)) (fun _ => ?_) (by rw [unopened, Nat.zero_add]; rfl)
  refine spends_ite (spends_rehearse.mono (Nat.zero_le _)) (spends_ite conducted ?_)
  exact spends_bind (spends_heed answer) fun _ => conducted

end Session

end IndexBasket
