import IndexBasket.Proofs.Engine.Refusal
import IndexBasket.Proofs.Run.Trail

namespace IndexBasket

open IndexBasket.Action

/-- A failure by which no rule of the rebalance says that there is nothing to do. -/
def EngineError.NoRule (cause : EngineError) : Prop := cause.isRuleViolation = false

namespace RunError

def NoRule (cause : RunError) : Prop := cause.isRuleViolation = false

theorem NoRule.scenario (fault : ScenarioFault) : NoRule (.scenario fault) := rfl

theorem NoRule.ledger (cause : LedgerError) : NoRule (.engine (.ledger cause)) := rfl

theorem NoRule.venue (cause : VenueError) : NoRule (.engine (.venue cause)) := rfl

end RunError

namespace Engine

variable {context : CallContext}

theorem noRule_requireManager : StopsWith EngineError.NoRule (requireManager context) := by
  refine stopsWith_bind (stopsWith_bind stopsWith_get fun _ => ?_) fun _ => stopsWith_bind stopsWith_get fun _ => ?_
  · exact stopsWith_ite (stopsWith_throw rfl) (stopsWith_pure _)
  · exact stopsWith_ite (stopsWith_throw rfl) (stopsWith_pure _)

/-- A call of the manager with whatever comes after the check that it is one. -/
theorem noRule_managed {α : Type} {rest : Call α} (later : StopsWith EngineError.NoRule rest) :
    StopsWith EngineError.NoRule (atomically do
      requireManager context
      rest) :=
  stopsWith_atomically (stopsWith_bind noRule_requireManager fun _ => later)

theorem noRule_adoptPositions (positions : List Position) :
    StopsWith EngineError.NoRule (adoptPositions positions) := by
  induction positions with
  | nil => exact stopsWith_pure _
  | cons position rest ih => exact stopsWith_guard rfl (stopsWith_bind (stopsWith_modify _) fun _ => ih)

theorem noRule_activate : StopsWith EngineError.NoRule (activate context) := by
  refine stopsWith_atomically (stopsWith_bind (stopsWith_bind stopsWith_get fun _ => ?_) fun _ => ?_)
  · exact stopsWith_ite (stopsWith_throw rfl) (stopsWith_pure _)
  refine stopsWith_bind stopsWith_get fun _ => stopsWith_guard rfl ?_
  exact stopsWith_bind (noRule_adoptPositions _) fun _ => stopsWith_within fun _ => rfl

theorem noRule_setTargets (multiplier : Fixed) (targets : List (Address × Fixed)) :
    StopsWith EngineError.NoRule (setTargets multiplier targets) := by
  induction targets with
  | nil => exact stopsWith_pure _
  | cons target rest ih => exact stopsWith_bind (stopsWith_modify _) fun _ => ih

theorem noRule_startRebalance (newComponents : List Address) (newTargets oldTargets : List Fixed)
    (multiplier : Fixed) :
    StopsWith EngineError.NoRule (startRebalance context newComponents newTargets oldTargets multiplier) := by
  refine noRule_managed (stopsWith_guard rfl (stopsWith_guard rfl (stopsWith_bind stopsWith_get fun _ => ?_)))
  refine stopsWith_guard rfl (stopsWith_guard rfl (stopsWith_guard rfl ?_))
  have opens : ∀ components targets, StopsWith EngineError.NoRule (do
      setTargets multiplier targets
      modify ({ · with rebalanceComponents := components, snapshot := multiplier }) : Call Unit) :=
    fun _ targets => stopsWith_bind (noRule_setTargets multiplier targets) fun _ => stopsWith_modify _
  dsimp only
  split
  · exact stopsWith_bind (stopsWith_throw rfl) fun _ => opens _ _
  · exact opens _ _

theorem noRule_requireSettings (components : List Address) (count : Nat) :
    FailsWith EngineError.NoRule (requireSettings components count) :=
  failsWith_guard rfl (failsWith_guard rfl (failsWith_ite (failsWith_error rfl) (failsWith_ok _)))

theorem noRule_setTradeMaximums (components : List Address) (maxima : List Amount) :
    StopsWith EngineError.NoRule (setTradeMaximums context components maxima) :=
  noRule_managed (stopsWith_bind (stopsWith_lift (noRule_requireSettings _ _)) fun _ =>
    stopsWith_forM (fun _ => stopsWith_modify _) _)

theorem noRule_setExchanges (components : List Address) (exchanges : List Exchange) :
    StopsWith EngineError.NoRule (setExchanges context components exchanges) := by
  refine noRule_managed (stopsWith_bind (stopsWith_lift (noRule_requireSettings _ _)) fun _ => ?_)
  refine stopsWith_forM (fun _ => stopsWith_bind stopsWith_get fun _ => ?_) _
  exact stopsWith_guard rfl (stopsWith_modify _)

theorem noRule_setCoolOffPeriods (components : List Address) (periods : List UInt64) :
    StopsWith EngineError.NoRule (setCoolOffPeriods context components periods) :=
  noRule_managed (stopsWith_bind (stopsWith_lift (noRule_requireSettings _ _)) fun _ =>
    stopsWith_forM (fun _ => stopsWith_modify _) _)

theorem noRule_updateTraderStatus (traders : List Address) (statuses : List Bool) :
    StopsWith EngineError.NoRule (updateTraderStatus context traders statuses) :=
  noRule_managed (stopsWith_guard rfl (stopsWith_guard rfl (stopsWith_guard rfl
    (stopsWith_forM (fun _ => stopsWith_modify _) _))))

theorem noRule_updateAnyoneTrade (status : Bool) :
    StopsWith EngineError.NoRule (updateAnyoneTrade context status) :=
  noRule_managed (stopsWith_modify _)

/-- No call by which a rebalance is set up is refused by one of its rules. -/
theorem noRule_setsUp {command : Command} (setsUp : command.SetsUp) :
    StopsWith EngineError.NoRule (command.perform context) := by
  cases command with
  | activate => exact stopsWith_map _ noRule_activate
  | startRebalance => exact stopsWith_map _ (noRule_startRebalance _ _ _ _)
  | setTradeMaximums => exact stopsWith_map _ (noRule_setTradeMaximums _ _)
  | setExchanges => exact stopsWith_map _ (noRule_setExchanges _ _)
  | setCoolOffPeriods => exact stopsWith_map _ (noRule_setCoolOffPeriods _ _)
  | setRaiseTargetPercentage => exact stopsWith_map _ (noRule_managed (stopsWith_guard rfl (stopsWith_modify _)))
  | updateTraderStatus => exact stopsWith_map _ (noRule_updateTraderStatus _ _)
  | updateAnyoneTrade => exact stopsWith_map _ (noRule_updateAnyoneTrade _)
  | trade | tradeRemainingReserve | raiseAssetTargets => exact setsUp.elim

/-! What is asked about the targets of an engine is only left unanswered where a number is too
large. -/

inductive Uncounted : EngineError → Prop
  | overflow : Uncounted (.ledger .overflow)

theorem uncounted_targetUnit (engine : Engine) (component : Address) :
    FailsWith Uncounted (engine.targetUnit component) :=
  failsWith_demand .overflow _

theorem uncounted_allTargetsMet (engine : Engine) : FailsWith Uncounted engine.allTargetsMet := by
  suffices met : ∀ components, FailsWith Uncounted (engine.targetsMet components) from met _
  intro components
  induction components with
  | nil => exact failsWith_ok _
  | cons component rest ih =>
    exact failsWith_bind (engine.uncounted_targetUnit component) fun _ => failsWith_ite (failsWith_ok _) ih

theorem uncounted_noTokensToSell (engine : Engine) : FailsWith Uncounted engine.noTokensToSell := by
  suffices sold : ∀ components, FailsWith Uncounted (engine.nothingToSell components) from sold _
  intro components
  induction components with
  | nil => exact failsWith_ok _
  | cons component rest ih =>
    refine failsWith_ite ih (failsWith_bind (engine.uncounted_targetUnit component) fun _ => ?_)
    exact failsWith_ite (failsWith_ok _) ih

end Engine

namespace Scenario

theorem noRule_address (text : String) : FailsWith RunError.NoRule (address text) := failsWith_demand (.scenario _) _

theorem noRule_unit (text : String) : FailsWith RunError.NoRule (unit text) := failsWith_demand (.scenario _) _

theorem noRule_amount (text : String) : FailsWith RunError.NoRule (amount text) :=
  failsWith_bind (noRule_unit text) fun _ => failsWith_demand (.scenario _) _

theorem noRule_exchange (text : String) : FailsWith RunError.NoRule (exchange text) :=
  failsWith_mapError .venue

theorem noRule_readPool (draft : PoolDraft) : FailsWith RunError.NoRule draft.read := by
  refine failsWith_bind (noRule_address _) fun _ => failsWith_bind (noRule_amount _) fun _ => ?_
  exact failsWith_bind (noRule_address _) fun _ => failsWith_bind (noRule_amount _) fun _ => failsWith_ok _

theorem noRule_readVenue (draft : VenueDraft) : FailsWith RunError.NoRule draft.read := by
  cases draft with
  | pair pools => exact failsWith_bind (failsWith_mapM noRule_readPool pools) fun _ => failsWith_ok _
  | split pools =>
    refine failsWith_bind (failsWith_foldlM (fun router draft => ?_) _ _) fun _ => failsWith_ok _
    refine failsWith_bind (noRule_readPool draft) fun _ => ?_
    exact failsWith_mapError .venue
  | fixedRate rates =>
    refine failsWith_bind (failsWith_foldlM (fun venue draft => ?_) _ _) fun _ => failsWith_ok _
    refine failsWith_bind (noRule_address _) fun _ => failsWith_bind (noRule_address _) fun _ => ?_
    exact failsWith_bind (noRule_amount _) fun _ => failsWith_ok _

theorem noRule_fund (scenario : Scenario) : StopsWith RunError.NoRule scenario.fund := by
  refine stopsWith_bind (stopsWith_forM (fun _ => ?_) _) fun _ => stopsWith_forM (fun _ => ?_) _
  · exact stopsWith_bind (stopsWith_demand (.scenario _) _) fun _ => stopsWith_within .ledger
  · exact stopsWith_within .ledger

theorem noRule_openVenues (scenario : Scenario) : StopsWith RunError.NoRule scenario.openVenues := by
  refine stopsWith_forM (fun (exchange, draft) => ?_) _
  exact stopsWith_bind (stopsWith_lift (noRule_readVenue draft)) fun _ => stopsWith_within .venue

theorem noRule_addSettings (settings : AssetSettings) (draft : AssetDraft) :
    FailsWith RunError.NoRule (settings.add draft) := by
  refine failsWith_bind (noRule_address _) fun _ => failsWith_bind (failsWith_mapM noRule_exchange _) fun _ => ?_
  exact failsWith_bind (failsWith_mapM noRule_amount _) fun _ => failsWith_ok _

theorem noRule_onEngine {call : Engine.Call Unit} {context : CallContext} (command : Engine.Command)
    (setsUp : command.SetsUp) (performed : command.perform context = (fun _ => .done) <$> call) :
    StopsWith RunError.NoRule (onEngine call) := by
  have answers : StopsWith EngineError.NoRule call := by
    intro start after cause stopped
    exact Engine.noRule_setsUp setsUp (performed ▸ map_eq_error.mpr stopped)
  exact stopsWith_within_of answers fun _ => id

theorem noRule_applySettings (context : CallContext) (settings : AssetSettings) :
    StopsWith RunError.NoRule (applySettings context settings) := by
  refine stopsWith_when ?_ fun _ => stopsWith_when ?_ fun _ => stopsWith_ite ?_ (stopsWith_pure _)
  · exact noRule_onEngine (.setExchanges _ _) trivial rfl
  · exact noRule_onEngine (.setTradeMaximums _ _) trivial rfl
  · exact noRule_onEngine (.setCoolOffPeriods _ _) trivial rfl

theorem noRule_setUp (scenario : Scenario) : StopsWith RunError.NoRule scenario.setUp := by
  have opens : ∀ context newComponents newTargets oldTargets multiplier, StopsWith RunError.NoRule
      (onEngine (Engine.startRebalance context newComponents newTargets oldTargets multiplier)) :=
    fun _ _ _ _ _ => noRule_onEngine (.startRebalance _ _ _ _) trivial rfl
  refine stopsWith_bind (noRule_onEngine .activate trivial rfl) fun _ => ?_
  refine stopsWith_bind (stopsWith_lift (failsWith_mapM noRule_address _)) fun traders => ?_
  refine stopsWith_when (noRule_onEngine (.updateTraderStatus _ _) trivial rfl) fun _ => ?_
  refine stopsWith_when (noRule_onEngine (.updateAnyoneTrade _) trivial rfl) fun _ => ?_
  refine stopsWith_bind (stopsWith_lift (failsWith_foldlM noRule_addSettings _ _)) fun _ => ?_
  refine stopsWith_bind (noRule_applySettings _ _) fun _ => stopsWith_bind stopsWith_get fun engine => ?_
  refine stopsWith_bind (stopsWith_lift ?_) fun oldTargets => ?_
  · exact failsWith_mapError .scenario
  · cases scenario.multiplier with
    | some text => exact stopsWith_bind (stopsWith_lift (noRule_unit text)) fun _ => opens _ _ _ _ _
    | none => exact stopsWith_bind (stopsWith_pure _) fun _ => opens _ _ _ _ _

/-- What keeps an engine from being built is no rule of its rebalance. -/
theorem noRule_build (scenario : Scenario) (config : Config) : FailsWith RunError.NoRule (scenario.build config) := by
  refine failsWith_bind (failsWith_mapError .ledger) fun _ => failsWith_bind (failsWith_mapError .ledger) fun _ => ?_
  refine failsWith_bind (scenario.noRule_fund.stateAfter _) fun _ => ?_
  exact failsWith_bind (scenario.noRule_openVenues.stateAfter _) fun _ => scenario.noRule_setUp.stateAfter _

end Scenario

namespace Session

open IndexBasket.Engine (Uncounted)

/-- A keeper takes what its calls are refused with for an answer, and stops itself only where
it cannot count. -/
theorem uncounted_sweepReserve (keeper : Keeper) : StopsWith Uncounted keeper.sweepReserve := by
  unfold Keeper.sweepReserve
  cases keeper.sweep with
  | none => exact stopsWith_pure _
  | some component =>
    refine stopsWith_bind stopsWith_get fun session => stopsWith_ite (stopsWith_pure _) ?_
    refine stopsWith_bind (stopsWith_lift session.engine.uncounted_noTokensToSell) fun _ => ?_
    refine stopsWith_ite (stopsWith_pure _) (Total.stopsWith ?_)
    refine total_bind (fun _ => ⟨_, _, rfl⟩) fun context => total_bind (total_attempt _) fun answer => ?_
    cases answer with
    | ok trade => exact fun _ => ⟨_, _, rfl⟩
    | error cause => exact total_bind (total_refuse _ _ _) fun _ => fun _ => ⟨_, _, rfl⟩

theorem total_raiseTargets (keeper : Keeper) : Total keeper.raiseTargets := by
  refine total_bind total_get fun session => total_ite (total_pure _) ?_
  refine total_bind (fun _ => ⟨_, _, rfl⟩) fun context => total_bind (total_attempt _) fun answer => ?_
  cases answer with
  | ok snapshot => exact fun _ => ⟨_, _, rfl⟩
  | error cause => exact total_bind (total_refuse _ _ _) fun _ => total_pure _

theorem total_wait : Total Keeper.wait := by
  refine total_bind total_get fun session => ?_
  cases session.engine.nextWakeup session.clock with
  | some time => exact fun _ => ⟨_, _, rfl⟩
  | none => exact total_pure _

theorem uncounted_round (keeper : Keeper) : StopsWith Uncounted keeper.round := by
  refine stopsWith_bind (stopsWith_modify _) fun _ => stopsWith_bind stopsWith_get fun _ => ?_
  refine stopsWith_bind (total_tradeAll keeper _).stopsWith fun _ => ?_
  refine stopsWith_bind (Total.stopsWith fun _ => ⟨_, _, rfl⟩) fun _ => stopsWith_bind stopsWith_get fun session => ?_
  refine stopsWith_bind (stopsWith_lift session.engine.uncounted_allTargetsMet) fun _ => ?_
  refine stopsWith_ite ?_ (stopsWith_ite (stopsWith_pure _) ?_)
  · refine stopsWith_bind (total_raiseTargets keeper).stopsWith fun _ => stopsWith_ite (stopsWith_pure _) ?_
    exact stopsWith_bind (uncounted_sweepReserve keeper) fun _ => stopsWith_pure _
  · refine stopsWith_bind (uncounted_sweepReserve keeper) fun _ => stopsWith_ite (stopsWith_pure _) ?_
    exact total_wait.stopsWith

theorem uncounted_run (keeper : Keeper) : StopsWith Uncounted keeper.run := by
  have rounds : ∀ left, StopsWith Uncounted (keeper.rounds left) := by
    intro left
    induction left with
    | zero => exact stopsWith_pure _
    | succ left ih => exact stopsWith_bind (uncounted_round keeper) fun _ => stopsWith_ite ih (stopsWith_pure _)
  refine stopsWith_bind (rounds _) fun _ => stopsWith_bind stopsWith_get fun session => ?_
  exact stopsWith_bind (stopsWith_lift session.engine.uncounted_allTargetsMet) fun _ => stopsWith_pure _

theorem uncounted_targetTable (engine : Engine) : StopsWith Uncounted (Report.targetTable engine) := by
  have prints : ∀ lines, StopsWith Uncounted (Report.print lines) := fun _ => stopsWith_modify _
  refine stopsWith_bind (prints _) fun _ => stopsWith_bind (stopsWith_forM (fun component => ?_) _) fun _ => prints _
  exact stopsWith_bind (stopsWith_lift (engine.uncounted_targetUnit component)) fun _ => prints _

/-- Why a run stops that has got its engine. -/
inductive Broken : RunError → Prop
  | overflow : Broken (.engine (.ledger .overflow))
  | aborted (reason : String) : Broken (.aborted reason)
  | unwritten (fault : FileError) : Broken (.audit fault)

theorem Broken.noRule {cause : RunError} (broken : Broken cause) : cause.NoRule := by
  cases broken <;> rfl

section Parts

variable {α : Type} (config : Config) (scenario : Scenario) (options : RunOptions)

theorem broken_step {act : Step α} (stopsWith : StopsWith Uncounted act) : StopsWith Broken (step act) := by
  refine stopsWith_within_of stopsWith ?_
  rintro _ ⟨⟩
  exact .overflow

theorem broken_put (outputs : List Output) : StopsWith Broken (step (put outputs)) :=
  broken_step (total_modify _).stopsWith

theorem broken_printing {report : Report.Printing Unit} (stopsWith : StopsWith Uncounted report) :
    StopsWith Broken (step (printing report)) :=
  broken_step (stopsWith_within_of stopsWith fun _ => id)

theorem broken_survey : StopsWith Broken (survey scenario options) := by
  have flushes : StopsWith Broken (step flush) := broken_step (Total.stopsWith fun _ => ⟨_, _, rfl⟩)
  refine stopsWith_bind (broken_put _) fun _ => stopsWith_bind flushes fun _ => stopsWith_bind stopsWith_get fun _ => ?_
  exact stopsWith_bind (broken_put _) fun _ => broken_put _

theorem broken_rehearse : StopsWith Broken rehearse := by
  refine stopsWith_bind (broken_put _) fun _ => stopsWith_bind stopsWith_get fun session => ?_
  refine stopsWith_bind (broken_step (stopsWith_lift session.engine.uncounted_allTargetsMet)) fun _ => ?_
  exact stopsWith_pure _

theorem broken_heed (answer : Except String Bool) : StopsWith Broken (heed answer) := by
  cases answer with
  | error reason => exact stopsWith_throw (.aborted _)
  | ok approved =>
    refine stopsWith_bind (broken_put _) fun _ => ?_
    exact stopsWith_ite (stopsWith_throw (.aborted _)) (stopsWith_pure _)

theorem broken_conduct : StopsWith Broken (conduct config options) := by
  refine stopsWith_bind (broken_step (uncounted_run _)) fun _ => stopsWith_bind (broken_put _) fun _ => ?_
  refine stopsWith_bind (broken_put _) fun _ => stopsWith_bind stopsWith_get fun session => ?_
  exact stopsWith_bind (broken_printing (uncounted_targetTable session.engine)) fun _ => stopsWith_pure _

end Parts

section Host

variable {δ α β : Type}

/-- On its host, a computation of a run stops only where it is broken off. -/
def BrokenOff (act : Live (StateM δ) α) : Prop :=
  ∀ before host cause, (act before host).1 = .error cause → Broken cause

theorem brokenOff_bind {act : Live (StateM δ) α} {next : α → Live (StateM δ) β} (first : BrokenOff act)
    (second : ∀ value, BrokenOff (next value)) : BrokenOff (act >>= next) := by
  intro before host cause stopped
  rw [live_bind_apply] at stopped
  cases reached : act before host with
  | mk outcome host' =>
    rw [reached] at stopped
    cases outcome with
    | error failure =>
      cases stopped
      exact first before host _ (congrArg Prod.fst reached)
    | ok value => exact second value.1 value.2 host' cause stopped

variable [Host (StateM δ)]

/-- A question is answered, or the answer says why not. -/
theorem brokenOff_confirm (question : String) :
    BrokenOff (liftM (Terminal.confirm question : StateM δ (Except String Bool)) :
      Live (StateM δ) (Except String Bool)) := by
  intro before host cause stopped
  cases stopped

theorem brokenOff_tellAll {path : String} {outputs : List Output} {host : δ} {cause : RunError}
    (stopped : ((tellAll path outputs : ExceptT RunError (StateM δ) Unit) host).1 = .error cause) : Broken cause := by
  change ((outputs.forM (Output.tell path) : ExceptT FileError (StateM δ) Unit) host).1.mapError RunError.audit = _ at stopped
  obtain ⟨fault, _, rfl⟩ := Except.mapError_eq_error.mp stopped
  exact .unwritten fault

theorem brokenOff_carryOut (path : String) {part : Whole α} (broken : StopsWith Broken part) :
    BrokenOff (carryOut path part : Live (StateM δ) α) := by
  intro before host cause stopped
  rw [carryOut_apply] at stopped
  split at stopped
  · obtain ⟨after, run⟩ := ending_eq_error.mp (Except.map_eq_error.mp stopped)
    exact broken run
  · rename_i told
    cases stopped
    exact brokenOff_tellAll (congrArg Prod.fst told)

theorem brokenOff_execute (config : Config) (scenario : Scenario) (options : RunOptions) :
    BrokenOff (execute config scenario options : Live (StateM δ) RunSummary) := by
  have conducts : BrokenOff (carryOut config.auditPath (conduct config options) : Live (StateM δ) RunSummary) :=
    brokenOff_carryOut _ (broken_conduct config options)
  refine brokenOff_bind (brokenOff_carryOut _ (broken_survey scenario options)) fun _ => ?_
  split
  · exact brokenOff_carryOut _ broken_rehearse
  · refine brokenOff_bind ?_ fun _ => conducts
    unfold consult
    split
    · exact brokenOff_bind (brokenOff_confirm _) fun answer => brokenOff_carryOut _ (broken_heed answer)
    · exact fun _ _ _ => nofun

end Host

end Session

namespace Scenario

variable {scenario : Scenario} {config : Config} {cause : RunError}

/-- On no host does a run end with a rule of the rebalance, whatever its calls are refused with,
what is answered to its question, and which lines cannot be written. Neither does a plan or a
table of targets. -/
theorem no_rule_escapes {δ : Type} [Host (StateM δ)] (options : RunOptions) (host : δ)
    (stopped : ((scenario.run config options : StateM δ (Except RunError RunSummary)) host).1 = .error cause ∨
      ((scenario.showPlan config : StateM δ (Except RunError Unit)) host).1 = .error cause ∨
      ((scenario.showTargets config : StateM δ (Except RunError Unit)) host).1 = .error cause) :
    cause.isRuleViolation = false := by
  cases built : scenario.build config with
  | error refused =>
    unfold run showPlan showTargets at stopped
    simp only [built] at stopped
    obtain ⟨⟨⟩⟩ | ⟨⟨⟩⟩ | ⟨⟨⟩⟩ := stopped
    all_goals exact scenario.noRule_build config built
  | ok engine =>
    obtain ran | planned | tabled := stopped
    · rw [run_apply built] at ran
      split at ran
      · rw [Prod.map_fst] at ran
        exact (Session.brokenOff_execute config scenario options _ _ _ (Except.map_eq_error.mp ran)).noRule
      · cases ran
        rfl
    · unfold showPlan at planned
      rw [built] at planned
      cases planned
    · unfold showTargets at tabled
      rw [built] at tabled
      change ((Report.targetTable engine).ending []).1.mapError RunError.engine = .error cause at tabled
      obtain ⟨refused, told, rfl⟩ := Except.mapError_eq_error.mp tabled
      obtain ⟨after, broke⟩ := ending_eq_error.mp told
      obtain ⟨⟩ := Session.uncounted_targetTable engine broke
      rfl

/-- A sale is refused until it has cooled off, and then a target is too large for the run to
go on. -/
theorem no_rule_escapes_overflow :
    let usdc : Address := ⟨"usdc", by decide, by decide⟩
    let scenario : Scenario :=
      { Engine.Market.scenario with
        positions := [(Engine.Market.dai, Fixed.one), (usdc, Fixed.one), (Engine.Market.weth, Fixed.one)]
        targets := [(Engine.Market.dai, Fixed.ofInt 200_000_000_000_000_000_000), (usdc, Fixed.zero)]
        assets := [⟨"usdc", some "uniswap", some "1", some 3600⟩]
        multiplier := some "0.000000000000000001" }
    let config : Config := { Engine.Market.config with auditFile := "audit.jsonl" }
    let options : RunOptions := { dryRun := false, force := false, scenarioFile := "market.json", maxRounds := none }
    let machine : Machine := { files := Files.empty, answer := .ok true }
    let cause : RunError := .engine (.ledger .overflow)
    ∃ engine refusal, scenario.build config = .ok engine ∧ engine.tradeOrder = [usdc] ∧
      Engine.trade (.external config.trader scenario.startTime) usdc engine = .error refusal engine ∧
      refusal.isRuleViolation = true ∧
      ((scenario.run config options : StateM Machine (Except RunError RunSummary)) machine).1 = .error cause ∧
      cause.isRuleViolation = false := by
  intro usdc scenario config options machine cause
  have opens : (Files.openLog config.auditPath).succeeds (fun _ _ => true) machine.files = true := by decide +kernel
  have runs : (match scenario.build config with
      | .ok engine => engine.tradeOrder = [usdc] &&
          (Engine.trade (.external config.trader scenario.startTime) usdc).fails
            (fun refusal _ => refusal.isRuleViolation) engine &&
          (Session.answered config scenario options machine.answer).fails
            (fun failure _ => failure = cause) (Session.start engine scenario.startTime)
      | .error _ => false) = true := by decide +kernel
  obtain ⟨_, opened, log, _⟩ := succeeds_iff.mp opens
  cases built : scenario.build config with
  | error fault =>
    rw [built] at runs
    cases runs
  | ok engine =>
    rw [built] at runs
    simp only [Bool.and_eq_true, decide_eq_true_eq] at runs
    obtain ⟨⟨order, refused⟩, broke⟩ := runs
    obtain ⟨refusal, after, refused, rule⟩ := fails_iff.mp refused
    have same := atomically_error refused
    subst same
    obtain ⟨_, left, broke, same⟩ := fails_iff.mp broke
    obtain rfl := of_decide_eq_true same
    obtain ⟨place, _, ran⟩ := run_told options built log
    have stopped : ((scenario.run config options : StateM Machine (Except RunError RunSummary)) machine).1 =
        .error cause := by
      rw [ran]
      exact ending_eq_error.mpr ⟨left, broke⟩
    exact ⟨_, refusal, rfl, order, refused, rule, stopped, no_rule_escapes options machine (Or.inl stopped)⟩

end Scenario

end IndexBasket
