import StreamWidth.Proofs.Histories

/-!
Statistics over histories. Whatever calls there are, on whatever contexts and files, the statistics
that the converter block keeps are those of the last call in simulation that succeeded: the words of
its converter on both sides, as the converter itself counts them.
-/

namespace StreamWidth

open BitModel (Statistics)

structure BitModel.Statistics.Describes (statistics : Statistics) (converter : Converter) :
    Prop where
  inWords : converter.wordCount .input = .ok statistics.inWords
  outWords : converter.wordCount .output = .ok statistics.outWords
  cycles : statistics.cycles = max statistics.inWords statistics.outWords

theorem BitModel.Statistics.Describes.unique {statistics other : Statistics} {converter : Converter}
    (describes : statistics.Describes converter) (again : other.Describes converter) :
    other = statistics := by
  obtain ⟨inWords, outWords, cycles⟩ := statistics
  obtain ⟨otherIn, otherOut, otherCycles⟩ := other
  obtain rfl := Except.ok.inj (again.inWords.symm.trans describes.inWords)
  obtain rfl := Except.ok.inj (again.outWords.symm.trans describes.outWords)
  obtain rfl := again.cycles.trans describes.cycles.symm
  rfl

/-- What happens while one engine lives: a run on a tensor that is handed to it, a call on the
context, or anything that others do to the context and to the files. -/
inductive Event
  | run (converter : Converter) (tensor : Tensor) (mode : ExecutionMode)
  | call (call : Call)
  | change (context : Context) (files : FileTree)

namespace Engine

section

variable {State : Type} (engine : Engine State)

def afterEvent (session : Session State) : Event → Session State
  | .run converter tensor mode =>
      ⟨session.context, (engine.run converter tensor mode session.world).2⟩
  | .call call => (engine.perform call session).2
  | .change context files => ⟨context, files, session.world.memory⟩

def afterEvents (session : Session State) (events : List Event) : Session State :=
  events.foldl engine.afterEvent session

inductive Simulated (session : Session State) : Event → Converter → Prop
  | run {converter : Converter} {tensor output : Tensor}
      (delivered : (engine.run converter tensor .cosimulation session.world).1 = .ok output) :
      Simulated session (.run converter tensor .cosimulation) converter
  | call {call : Call} (chosen : engine.modeOf call = .ok .cosimulation)
      (success : (engine.perform call session).1 = .ok ()) :
      Simulated session (.call call) call.converter

def Quiet (session : Session State) : List Event → Prop
  | [] => True
  | event :: rest =>
      (∀ converter, ¬engine.Simulated session event converter) ∧
        Quiet (engine.afterEvent session event) rest

/-- A call in simulation of the converter succeeds, and no later one does. -/
def LastSimulated (session : Session State) (events : List Event) (converter : Converter) : Prop :=
  ∃ before event after, events = before ++ event :: after ∧
    engine.Simulated (engine.afterEvents session before) event converter ∧
    engine.Quiet (engine.afterEvents session (before ++ [event])) after

theorem perform_cases (call : Call) (session : Session State) :
    ((∃ failure, (engine.perform call session).1 = .error failure) ∧
      (engine.perform call session).2 = session) ∨
    ∃ mode tensor, engine.modeOf call = .ok mode ∧
      (engine.perform call session).1 =
        (engine.run call.converter tensor mode session.world).1.map (fun _ => ()) ∧
      (engine.perform call session).2.world =
        (engine.run call.converter tensor mode session.world).2 := by
  rw [perform_eq]
  cases engine.modeOf call with
  | error failure => exact Or.inl ⟨⟨failure, rfl⟩, rfl⟩
  | ok mode =>
      simp only [execute]
      cases operands call.converter session.context with
      | error failure => exact Or.inl ⟨⟨failure, rfl⟩, rfl⟩
      | ok named =>
          refine Or.inr ⟨mode, named.1, rfl, ?_⟩
          cases ran : engine.run call.converter named.1 mode session.world with
          | mk result world =>
              cases result with
              | error failure => simp [ran, Except.map]
              | ok output => simp [ran, Except.map]

theorem afterEvents_append (session : Session State) (before after : List Event) :
    engine.afterEvents session (before ++ after) =
      engine.afterEvents (engine.afterEvents session before) after :=
  List.foldl_append

variable {engine}

/-- Among finitely many events that are not quiet there is a last one that is not. -/
theorem quiet_or_lastSimulated (events : List Event) : ∀ session : Session State,
    engine.Quiet session events ∨ ∃ converter, engine.LastSimulated session events converter := by
  induction events with
  | nil => exact fun _ => Or.inl trivial
  | cons event rest ih =>
      intro session
      rcases ih (engine.afterEvent session event) with
        quiet | ⟨converter, before, last, after, rfl, simulated, quiet⟩
      · by_cases simulated : ∃ converter, engine.Simulated session event converter
        · obtain ⟨converter, simulated⟩ := simulated
          exact Or.inr ⟨converter, [], event, rest, rfl, simulated, quiet⟩
        · exact Or.inl ⟨not_exists.1 simulated, quiet⟩
      · exact Or.inr ⟨converter, event :: before, last, after, rfl, simulated, quiet⟩

end

section

variable {engine : Engine (Option Statistics)}

structure Remembers (converter : Converter) (before : Option Statistics)
    (outcome : Except Failure Tensor × World (Option Statistics)) : Prop where
  delivered : ∀ output, outcome.1 = .ok output →
    ∃ statistics, outcome.2.memory = some statistics ∧ statistics.Describes converter
  failed : ∀ failure, outcome.1 = .error failure → outcome.2.memory = before

theorem remembers_of_ok {converter : Converter} {before : Option Statistics} {output : Tensor}
    {files : FileTree} {statistics : Statistics} (describes : statistics.Describes converter) :
    Remembers converter before (.ok output, ⟨files, some statistics⟩) :=
  ⟨fun _ _ => ⟨statistics, rfl, describes⟩, fun _ failed => by simp at failed⟩

theorem remembers_of_error {converter : Converter} {world : World (Option Statistics)}
    (failure : Failure) : Remembers converter world.memory (.error failure, world) :=
  ⟨fun _ success => by simp at success, fun _ _ => rfl⟩

theorem run_remembers (model : engine.backend = BitModel.backend) (converter : Converter)
    (tensor : Tensor) (world : World (Option Statistics)) :
    Remembers converter world.memory (engine.run converter tensor .cosimulation world) := by
  rcases checkInput_cases converter tensor with takes | ⟨cause, _, refused⟩
  · have checked := (converter.takes_iff tensor).1 takes
    by_cases located : ∃ artifact, Located engine.hardwareRoot world.files converter artifact
    · obtain ⟨artifact, present⟩ := located
      have sendable := sendable_of_checkInput checked
      obtain ⟨_, inFolds, inCounted⟩ := converter.folds_wordCount .input
      obtain ⟨_, outFolds, outCounted⟩ := converter.folds_wordCount .output
      have requested := simulationRequest_eq_ok checked (locateHardware_eq_ok_iff.2 present) outCounted
      obtain ⟨_, _, _, isFile⟩ := present
      rw [← takes.shape, ← takes.type] at inFolds inCounted outFolds outCounted
      rw [run_of_request engine checked requested, model]
      by_cases few : tensor.data.length * tensor.type.storageBits < BitModel.bitLimit
      · have unpacked := sendable.unpack_eq outFolds
        rw [takes.shape, takes.type, ← unpack_checkOutput_iff] at unpacked
        rw [sendable.simulate_eq inFolds outFolds few isFile, receive, unpacked]
        exact remembers_of_ok ⟨by rw [inCounted, ← Tensor.length_toWords inFolds sendable.countable]; rfl,
          by rw [outCounted, ← Tensor.length_toWords outFolds sendable.countable]; rfl, rfl⟩
      · rw [sendable.simulate_of_many inFolds outFolds few isFile]
        exact remembers_of_error _
    · simp only [run, checked, evaluate, simulationRequest_eq_error located, Except.bind]
      exact remembers_of_error _
  · simp only [run, refused]
    exact remembers_of_error _

theorem run_functional_world (engine : Engine (Option Statistics)) (converter : Converter)
    (tensor : Tensor) (world : World (Option Statistics)) :
    (engine.run converter tensor .functional world).2 = world := by
  rcases checkInput_cases converter tensor with takes | ⟨cause, _, refused⟩
  · rw [run_functional engine takes]
  · simp only [run, refused]

theorem run_memory_of_not_delivered (model : engine.backend = BitModel.backend)
    {converter : Converter} {tensor : Tensor} {mode : ExecutionMode}
    {world : World (Option Statistics)}
    (idle : mode = .cosimulation → ∀ output, (engine.run converter tensor mode world).1 ≠ .ok output) :
    (engine.run converter tensor mode world).2.memory = world.memory := by
  cases mode with
  | functional => rw [run_functional_world]
  | cosimulation =>
      cases result : (engine.run converter tensor .cosimulation world).1 with
      | error failure => exact (run_remembers model converter tensor world).failed failure result
      | ok output => exact absurd result (idle rfl output)

theorem Simulated.memory (model : engine.backend = BitModel.backend)
    {session : Session (Option Statistics)} {event : Event} {converter : Converter}
    (simulated : engine.Simulated session event converter) : ∃ statistics,
      (engine.afterEvent session event).world.memory = some statistics ∧
        statistics.Describes converter := by
  cases simulated with
  | run delivered => exact (run_remembers model _ _ session.world).delivered _ delivered
  | @call call chosen success =>
      rcases engine.perform_cases call session with
        ⟨⟨failure, failed⟩, _⟩ | ⟨mode, tensor, same, result, world⟩
      · simp [failed] at success
      · obtain rfl := Except.ok.inj (same.symm.trans chosen)
        rw [result] at success
        rw [afterEvent, world]
        cases delivered : (engine.run call.converter tensor .cosimulation session.world).1 with
        | error failure => simp [delivered, Except.map] at success
        | ok output => exact (run_remembers model _ _ session.world).delivered output delivered

theorem memory_of_not_simulated (model : engine.backend = BitModel.backend)
    {session : Session (Option Statistics)} {event : Event}
    (idle : ∀ converter, ¬engine.Simulated session event converter) :
    (engine.afterEvent session event).world.memory = session.world.memory := by
  cases event with
  | change context files => rfl
  | run converter tensor mode =>
      apply run_memory_of_not_delivered model
      rintro rfl output delivered
      exact idle converter (.run delivered)
  | call call =>
      rw [afterEvent]
      rcases engine.perform_cases call session with ⟨_, same⟩ | ⟨mode, tensor, chosen, result, world⟩
      · rw [same]
      · rw [world]
        apply run_memory_of_not_delivered model
        rintro rfl output delivered
        exact idle call.converter (.call chosen (by rw [result, delivered]; rfl))

theorem memory_of_quiet (model : engine.backend = BitModel.backend) (events : List Event) :
    ∀ session : Session (Option Statistics), engine.Quiet session events →
      (engine.afterEvents session events).world.memory = session.world.memory := by
  induction events with
  | nil => exact fun _ _ => rfl
  | cons event rest ih =>
      intro session quiet
      exact (ih _ quiet.2).trans (memory_of_not_simulated model quiet.1)

theorem LastSimulated.memory (model : engine.backend = BitModel.backend)
    {session : Session (Option Statistics)} {events : List Event} {converter : Converter}
    (last : engine.LastSimulated session events converter) : ∃ statistics,
      (engine.afterEvents session events).world.memory = some statistics ∧
        statistics.Describes converter := by
  obtain ⟨before, event, after, rfl, simulated, quiet⟩ := last
  rw [← List.singleton_append, ← List.append_assoc, afterEvents_append,
    memory_of_quiet model after _ quiet, afterEvents_append]
  exact simulated.memory model

/-- An engine that starts with nothing remembered has statistics exactly if some call in simulation
has succeeded, and then those of the converter of the last one. Runs on values alone, calls that
fail, and what others do to the context and the files leave them as they are. -/
theorem afterEvents_memory (engine : Engine (Option Statistics))
    (model : engine.backend = BitModel.backend) :
    (∀ (context : Context) (files : FileTree) (events : List Event),
      let start : Session (Option Statistics) := ⟨context, files, none⟩
      ((engine.afterEvents start events).world.memory = none ↔ engine.Quiet start events) ∧
      ∀ statistics, (engine.afterEvents start events).world.memory = some statistics ↔
        ∃ converter, engine.LastSimulated start events converter ∧
          statistics.Describes converter) ∧
    ∀ (session : Session (Option Statistics)) (event : Event),
      (∀ converter, ¬engine.Simulated session event converter) →
      (engine.afterEvent session event).world.memory = session.world.memory := by
  refine ⟨fun context files events => ?_, fun session event => memory_of_not_simulated model⟩
  intro start
  have ran : engine.Quiet start events ∨
      ∃ converter, engine.LastSimulated start events converter := quiet_or_lastSimulated events start
  rcases ran with quiet | ⟨converter, last⟩
  · have nothing : (engine.afterEvents start events).world.memory = none :=
      memory_of_quiet model events start quiet
    refine ⟨iff_of_true nothing quiet, fun statistics => iff_of_false (by simp [nothing]) ?_⟩
    rintro ⟨converter, last, _⟩
    obtain ⟨found, kept, _⟩ := last.memory model
    simp [nothing] at kept
  · obtain ⟨found, kept, describes⟩ := last.memory model
    refine ⟨iff_of_false (by simp [kept]) fun quiet => ?_, fun statistics => ?_⟩
    · have nothing := memory_of_quiet model events start quiet
      simp [kept, start] at nothing
    · constructor
      · intro same
        obtain rfl := Option.some.inj (kept.symm.trans same)
        exact ⟨converter, last, describes⟩
      · rintro ⟨other, otherLast, otherDescribes⟩
        obtain ⟨again, same, againDescribes⟩ := otherLast.memory model
        rw [same, otherDescribes.unique againDescribes]

def sixIntegersEvents : List Event :=
  [.run sixIntegersConverter Tensor.sixIntegers .cosimulation,
    .change Dictionary.empty Tensor.builtFiles,
    .run sixIntegersConverter Tensor.sixIntegers .cosimulation,
    .run sixIntegersConverter Tensor.sixIntegers .functional, .call sixIntegersSimulated]

theorem afterEvents_memory_sixIntegers :
    let engine : Engine (Option Statistics) := ⟨BitModel.backend, some ".", .functional⟩
    (engine.afterEvents ⟨Dictionary.empty, ⟨[], [], 0⟩, none⟩ sixIntegersEvents).world.memory =
      some ⟨3, 1, 3⟩ := by
  intro engine
  have model : engine.backend = BitModel.backend := rfl
  have takes := (Converter.takes_iff _ _).2 sixIntegers_checked
  have runnable : engine.Runnable Tensor.builtFiles sixIntegersConverter .cosimulation
      Tensor.sixIntegers :=
    ⟨takes, fun _ => ⟨_, ".", rfl, rfl, Tensor.isFile_builtFiles⟩, fun _ => by decide⟩
  have delivered (memory : Option Statistics) :=
    (run_fst_eq_ok_iff model sixIntegersConverter Tensor.sixIntegers _
      .cosimulation ⟨Tensor.builtFiles, memory⟩).2 ⟨runnable, rfl⟩
  have missing (world : World (Option Statistics)) :
      (engine.perform sixIntegersSimulated ⟨Dictionary.empty, world⟩).1 =
        .error (.validation (.missingTensor "in" "dwc")) := rfl
  refine (((afterEvents_memory engine model).1 _ _ _).2 _).2 ⟨sixIntegersConverter,
    ⟨sixIntegersEvents.take 2, _, sixIntegersEvents.drop 3, rfl, .run (delivered _), ?_, ?_, trivial⟩,
    ⟨rfl, rfl, rfl⟩⟩
  · intro converter simulated
    cases simulated
  · intro converter simulated
    cases simulated with
    | call _ success => exact absurd (success.symm.trans (missing _)) (by simp)

end

end Engine

end StreamWidth
