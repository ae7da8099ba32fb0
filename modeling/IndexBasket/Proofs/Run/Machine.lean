import IndexBasket.Proofs.Run.Telling
import IndexBasket.Run.Machine

/-!
Runs on a machine. A log that has been opened there can be written to, so everything that a
run puts out is printed, or stands in its log.
-/

namespace IndexBasket

open IndexBasket.Action

namespace Files

variable {files other after : Files} {path name : String} {place next : List String} {names : List String}

/-- The same directories, whatever texts there are. -/
structure SameTree (files other : Files) : Prop where
  working : other.working = files.working
  directories : other.directories = files.directories

theorem at?_eq_directory : files.at? place = some .directory ↔ files.directories.contains place = true := by
  unfold at?
  split
  · rename_i listed
    exact iff_of_true rfl listed
  · rename_i unlisted
    refine iff_of_false ?_ unlisted
    cases files.texts.lookup place <;> simp

namespace SameTree

theorem at?_eq_directory (same : files.SameTree other) :
    other.at? place = some .directory ↔ files.at? place = some .directory := by
  rw [Files.at?_eq_directory, Files.at?_eq_directory, same.directories]

theorem enter (same : files.SameTree other) (entered : files.enter place name = .ok next) :
    other.enter place name = .ok next := by
  unfold Files.enter at entered
  split at entered
  · cases entered
  · cases entered
  · rename_i directory
    rw [Files.enter, same.at?_eq_directory.mpr directory]
    exact entered

theorem foldlM_enter (same : files.SameTree other) (found : names.foldlM files.enter place = .ok next) :
    names.foldlM other.enter place = .ok next := by
  induction names generalizing place with
  | nil => exact found
  | cons name rest ih =>
    rw [List.foldlM_cons, Except.bind_eq_ok] at found ⊢
    obtain ⟨middle, entered, found⟩ := found
    exact ⟨middle, same.enter entered, ih found⟩

theorem resolve (same : files.SameTree other) (found : files.resolve names = .ok place) :
    other.resolve names = .ok place := by
  have origin : other.origin names = files.origin names := by
    unfold Files.origin
    rw [same.working]
  rw [Files.resolve, origin]
  exact same.foldlM_enter found

end SameTree

theorem placeToWrite_eq_ok :
    files.placeToWrite path = .ok place ↔ checkPath path = .ok () ∧ (Path.names path).getLast? ≠ some "" ∧
      files.resolve (Path.names path) = .ok place ∧ files.at? place ≠ some .directory := by
  unfold placeToWrite
  rw [Except.bind_eq_ok]
  constructor
  · rintro ⟨⟨⟩, checked, found⟩
    refine ⟨checked, ?_⟩
    dsimp only at found
    split at found
    · simp only [Except.bind_eq_ok] at found
      obtain ⟨_, _, _, _, stopped⟩ := found
      cases stopped
    · rename_i named
      simp only [Except.bind_eq_ok, Except.guard_bind_eq_ok] at found
      obtain ⟨_, resolved, free, ⟨⟩⟩ := found
      exact ⟨named, resolved, free⟩
  · rintro ⟨checked, named, resolved, free⟩
    refine ⟨(), checked, ?_⟩
    rw [if_neg named, resolved]
    exact if_neg free

theorem SameTree.placeToWrite (same : files.SameTree other) (found : files.placeToWrite path = .ok place) :
    other.placeToWrite path = .ok place := by
  obtain ⟨checked, named, resolved, free⟩ := placeToWrite_eq_ok.mp found
  exact placeToWrite_eq_ok.mpr ⟨checked, named, same.resolve resolved, fun taken => free (same.at?_eq_directory.mp taken)⟩

theorem sameTree_extend (files : Files) (place lines : List String) : files.SameTree (files.extend place lines) :=
  ⟨rfl, rfl⟩

theorem extend_nil (files : Files) (place : List String) : files.extend place [] = files := by
  have same : ∀ entry : List String × String, (if entry.1 = place then (place, entry.2 ++ "") else entry) = entry := by
    intro entry
    split
    · rename_i here
      rw [← here, String.append_empty]
    · rfl
  have texts : (files.extend place []).texts = files.texts :=
    (List.map_congr_left fun entry _ => same entry).trans (List.map_id _)
  change { files with texts := (files.extend place []).texts } = files
  rw [texts]

theorem extend_append (files : Files) (place first second : List String) :
    (files.extend place first).extend place second = files.extend place (first ++ second) := by
  unfold extend
  rw [List.map_map]
  congr 1
  refine List.map_congr_left fun entry _ => ?_
  by_cases here : entry.1 = place
  · simp [here, String.append_assoc]
  · simp [here]

theorem append_ending (found : files.placeToWrite path = .ok place) (line : String) :
    (append path line).ending files = (.ok (), files.extend place [line]) := by
  refine ending_of_ok ?_
  simp only [append, bind_eq_ok, get_eq_ok, ofExcept_eq_ok, set_eq_ok]
  exact ⟨_, _, ⟨rfl, rfl⟩, place, _, ⟨found, rfl⟩, rfl⟩

/-- A log that has been opened can be written to. -/
theorem placeToWrite_openLog (opened : openLog path files = .ok () after) :
    ∃ place, after.placeToWrite path = .ok place := by
  have made : ∃ ready, (do
      let files ← get
      let place ← Action.ofExcept (files.placeToWrite path)
      if files.at? place = none then
        set { files with texts := files.texts ++ [(place, "")] } : Action FileError Files Unit) ready = .ok () after := by
    unfold openLog at opened
    cases parent : Path.parent? path with
    | none =>
      rw [parent] at opened
      exact ⟨files, opened⟩
    | some names =>
      rw [parent] at opened
      obtain ⟨_, ready, _, rest⟩ := bind_eq_ok.mp opened
      exact ⟨ready, rest⟩
  obtain ⟨ready, made⟩ := made
  simp only [bind_eq_ok, get_eq_ok, ofExcept_eq_ok] at made
  obtain ⟨_, _, ⟨rfl, rfl⟩, place, _, ⟨found, rfl⟩, made⟩ := made
  refine ⟨place, ?_⟩
  split at made
  · obtain rfl := set_eq_ok.mp made
    refine SameTree.placeToWrite ?_ found
    exact ⟨rfl, rfl⟩
  · obtain ⟨_, rfl⟩ := pure_eq_ok.mp made
    exact found

end Files

namespace Machine

variable {path : String} {place : List String}

/-- A machine that has printed lines, and has written others to a place, each at its time. -/
def told (machine : Machine) (place printed : List String) (trail : List AuditLine) : Machine :=
  { machine with
    files := machine.files.extend place
      (trail.mapIdx fun count line => line.text (machine.times (machine.readings + count)))
    printed := machine.printed ++ printed
    readings := machine.readings + trail.length }

theorem told_nil (machine : Machine) (place : List String) : machine.told place [] [] = machine := by
  unfold told
  rw [List.mapIdx_nil, Files.extend_nil, List.append_nil]
  rfl

theorem told_append (machine : Machine) (place printed printed' : List String) (trail trail' : List AuditLine) :
    (machine.told place printed trail).told place printed' trail' =
      machine.told place (printed ++ printed') (trail ++ trail') := by
  unfold told
  rw [Files.extend_append, List.mapIdx_append, List.append_assoc, List.length_append, Nat.add_assoc]
  simp only [Nat.add_comm, Nat.add_left_comm]

theorem tell_told (machine : Machine) (found : machine.files.placeToWrite path = .ok place) (output : Output) :
    (output.tell path : ExceptT FileError (StateM Machine) Unit) machine =
      (.ok (), machine.told place ([output].filterMap Output.printed?) ([output].filterMap Output.written?)) := by
  cases output with
  | printed line =>
    change ((.ok (), { machine with printed := machine.printed ++ [line] }) : Except FileError Unit × Machine) =
      (.ok (), machine.told place [line] [])
    rw [told, List.mapIdx_nil, Files.extend_nil]
    rfl
  | written line =>
    have appended := Files.append_ending found (line.text (machine.times machine.readings))
    change (let (answer, files) := (Files.append path (line.text (machine.times machine.readings))).ending machine.files
      (answer, { machine with files, readings := machine.readings + 1 }) : Except FileError Unit × Machine) =
      (.ok (), machine.told place [] [line])
    rw [appended, told, List.append_nil]
    rfl

/-- Everything that is put out is printed or written, where the log can be written to. -/
theorem tellAll_told (machine : Machine) (found : machine.files.placeToWrite path = .ok place) (outputs : List Output) :
    (Session.tellAll path outputs : ExceptT RunError (StateM Machine) Unit) machine =
      (.ok (), machine.told place (outputs.filterMap Output.printed?) (outputs.filterMap Output.written?)) := by
  induction outputs generalizing machine with
  | nil =>
    rw [List.filterMap_nil, List.filterMap_nil, told_nil]
    rfl
  | cons output rest ih =>
    have first := machine.tell_told found output
    have reached : (machine.told place ([output].filterMap Output.printed?)
        ([output].filterMap Output.written?)).files.placeToWrite path = .ok place :=
      (Files.sameTree_extend _ _ _).placeToWrite found
    rw [← List.singleton_append, List.filterMap_append, List.filterMap_append, ← told_append, ← ih _ reached]
    change Prod.map (Except.mapError RunError.audit) id
      ((output.tell path >>= fun _ => rest.forM (Output.tell path) : ExceptT FileError (StateM Machine) Unit) machine) = _
    rw [Session.exceptT_bind_apply, first]
    rfl

end Machine

namespace Session

variable {path : String} {place : List String} {α : Type}

theorem carryOut_told (machine : Machine) (found : machine.files.placeToWrite path = .ok place) (part : Whole α)
    (before : Session) :
    let outputs := (part.final before).outputs.drop before.outputs.length
    (carryOut path part : Live (StateM Machine) α) before machine =
      ((part.ending before).1.map (·, part.final before),
        machine.told place (outputs.filterMap Output.printed?) (outputs.filterMap Output.written?)) := by
  intro outputs
  rw [carryOut_apply, Machine.tellAll_told machine found]

/-- On a machine, a question has the answer that the machine gives. -/
theorem execute_told (machine : Machine) (config : Config) (scenario : Scenario) (options : RunOptions)
    (before : Session) (found : machine.files.placeToWrite config.auditPath = .ok place) :
    (execute config scenario options : Live (StateM Machine) RunSummary) before machine =
      (carryOut config.auditPath (answered config scenario options machine.answer) :
        Live (StateM Machine) RunSummary) before machine := by
  by_cases settled : options.dryRun = true ∨ options.force = true
  · rw [execute_settled config scenario settled machine.answer]
  · obtain ⟨trading, asking⟩ := not_or.mp settled
    rw [Bool.not_eq_true] at trading asking
    have whole : answered config scenario options machine.answer = (do
        survey scenario options
        heed machine.answer
        conduct config options) := by
      simp only [answered, trading, asking, Bool.false_eq_true, if_false]
    rw [execute_asking config scenario trading asking, whole,
      carryOut_bind (extends_survey scenario options) fun _ => extends_traded config machine.answer]
    rw [live_bind_apply, live_bind_apply, carryOut_told machine found]
    cases ((survey scenario options).ending before).1 with
    | ok done => rfl
    | error cause => rfl

end Session

end IndexBasket
