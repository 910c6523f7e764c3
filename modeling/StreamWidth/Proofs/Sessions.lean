import StreamWidth.Dictionary.Lemmas
import StreamWidth.Proofs.Outcomes

/-!
Executions in a session. A backend that keeps a record of its requests works as it did before, and
the record shows what an execution asks for: nothing, or the one request that the converter, the
tensor under its input name and the files determine.
-/

namespace StreamWidth

variable {State : Type}

def World.recording (world : World State) (requests : List SimulationRequest) :
    World (State × List SimulationRequest) :=
  ⟨world.files, world.memory, requests⟩

/-- A backend that also remembers what it was asked for. -/
def Backend.recording (backend : Backend State) : Backend (State × List SimulationRequest) where
  name := backend.name
  simulate world request :=
    let answer := backend.simulate ⟨world.files, world.memory.1⟩ request
    (answer.1, answer.2.recording (world.memory.2 ++ [request]))

def Session.recording (session : Session State) (requests : List SimulationRequest) :
    Session (State × List SimulationRequest) :=
  ⟨session.context, session.world.recording requests⟩

def Connected (converter : Converter) (context : Context) (tensor : Tensor) (output : String) :
    Prop :=
  ∃ input, converter.signature.inputs = [input] ∧ converter.signature.outputs = [output] ∧
    context.get? input = some tensor

theorem Connected.unique {converter : Converter} {context : Context} {tensor other : Tensor}
    {output name : String} (connected : Connected converter context tensor output)
    (again : Connected converter context other name) : other = tensor ∧ name = output := by
  obtain ⟨input, inputs, outputs, held⟩ := connected
  obtain ⟨second, same, others, found⟩ := again
  obtain rfl := List.singleton_inj.1 (inputs.symm.trans same)
  exact ⟨Option.some.inj (found.symm.trans held), List.singleton_inj.1 (others.symm.trans outputs)⟩

theorem inputName_eq_ok_iff (converter : Converter) (name : String) :
    converter.inputName = .ok name ↔ converter.signature.inputs = [name] := by
  rw [Converter.inputName]
  split
  · rename_i single
    simp [single]
  · rename_i others
    simp only [reduceCtorEq, false_iff]
    exact others name

theorem outputName_eq_ok_iff (converter : Converter) (name : String) :
    converter.outputName = .ok name ↔ converter.signature.outputs = [name] := by
  rw [Converter.outputName]
  split
  · rename_i single
    simp [single]
  · rename_i others
    simp only [reduceCtorEq, false_iff]
    exact others name

namespace Engine

theorem operands_eq_ok_iff (converter : Converter) (context : Context) (tensor : Tensor)
    (output : String) :
    operands converter context = .ok (tensor, output) ↔
      Connected converter context tensor output := by
  simp only [operands, bind_eq_ok_iff, inputName_eq_ok_iff, outputName_eq_ok_iff]
  constructor
  · rintro ⟨input, inputs, name, outputs, found⟩
    cases held : context.get? input with
    | none => simp [held] at found
    | some other =>
        rw [held] at found
        obtain ⟨rfl, rfl⟩ := Prod.mk.inj (Except.ok.inj found)
        exact ⟨input, inputs, outputs, held⟩
  · rintro ⟨input, inputs, outputs, held⟩
    exact ⟨input, inputs, output, outputs, by rw [held]; rfl⟩

def recording (engine : Engine State) : Engine (State × List SimulationRequest) :=
  ⟨engine.backend.recording, engine.hardwareRoot, engine.defaultMode⟩

theorem modeFor_eq (engine : Engine State) (converter : Converter) :
    engine.modeFor converter =
      (converter.attributes.executionMode.map ExecutionMode.ofTag).getD (.ok engine.defaultMode) := by
  rw [modeFor]
  cases converter.attributes.executionMode <;> rfl

theorem modeFor_recording (engine : Engine State) (converter : Converter) :
    engine.recording.modeFor converter = engine.modeFor converter :=
  rfl

/-- The requests of a run and the world after it. A run asks for nothing unless it is one in
simulation, of a tensor that is taken, with the hardware there; then it asks once. -/
inductive Asked (engine : Engine State) (converter : Converter) (tensor : Tensor)
    (mode : ExecutionMode) (world : World State) : List SimulationRequest → World State → Prop
  | nothing (idle : ¬(mode = .cosimulation ∧ converter.Takes tensor ∧
      ∃ artifact, Located engine.hardwareRoot world.files converter artifact)) :
      Asked engine converter tensor mode world [] world
  | once (simulated : mode = .cosimulation) (takes : converter.Takes tensor)
      {request : SimulationRequest}
      (asks : Asks engine.hardwareRoot world.files converter tensor request) :
      Asked engine converter tensor mode world [request] (engine.backend.simulate world request).2

namespace Asked

variable {engine : Engine State} {converter : Converter} {tensor : Tensor} {mode : ExecutionMode}
  {world after : World State} {requests : List SimulationRequest}

theorem length_le_one (asked : engine.Asked converter tensor mode world requests after) :
    requests.length ≤ 1 := by
  cases asked with
  | nothing => exact Nat.zero_le 1
  | once => exact Nat.le_refl 1

theorem length_eq_one_iff (asked : engine.Asked converter tensor mode world requests after) :
    requests.length = 1 ↔ mode = .cosimulation ∧ converter.Takes tensor ∧
      ∃ artifact, Located engine.hardwareRoot world.files converter artifact := by
  cases asked with
  | nothing idle => exact iff_of_false (by simp) idle
  | once simulated takes asks => exact iff_of_true rfl ⟨simulated, takes, asks.found⟩

theorem of_mem (asked : engine.Asked converter tensor mode world requests after)
    {request : SimulationRequest} (member : request ∈ requests) :
    Asks engine.hardwareRoot world.files converter tensor request ∧
      after = (engine.backend.simulate world request).2 := by
  cases asked with
  | nothing => simp at member
  | once _ _ asks =>
      obtain rfl := List.mem_singleton.1 member
      exact ⟨asks, rfl⟩

theorem eq_of_nil (asked : engine.Asked converter tensor mode world requests after)
    (idle : requests = []) : after = world := by
  cases asked with
  | nothing => rfl
  | once => simp at idle

end Asked

theorem run_recording (engine : Engine State) (converter : Converter) (tensor : Tensor)
    (mode : ExecutionMode) (world : World State) : ∃ requests,
    (∀ earlier, engine.recording.run converter tensor mode (world.recording earlier) =
      ((engine.run converter tensor mode world).1,
        (engine.run converter tensor mode world).2.recording (earlier ++ requests))) ∧
    engine.Asked converter tensor mode world requests
      (engine.run converter tensor mode world).2 := by
  rcases checkInput_cases converter tensor with takes | ⟨cause, refusal, refused⟩
  · have checked := (converter.takes_iff tensor).1 takes
    cases mode with
    | functional =>
        refine ⟨[], fun earlier => ?_, ?_⟩
        · simp only [run, checked, evaluate, List.append_nil]
        · simp only [run, checked, evaluate]
          exact .nothing (by simp)
    | cosimulation =>
        by_cases located : ∃ artifact, Located engine.hardwareRoot world.files converter artifact
        · obtain ⟨artifact, present⟩ := located
          obtain ⟨request, asks⟩ := exists_asks takes present
          have requested := simulationRequest_eq_ok_iff.2 asks
          rw [run_of_request engine checked requested]
          exact ⟨[request], fun earlier => run_of_request engine.recording checked requested,
            .once rfl takes asks⟩
        · have unbuilt : simulationRequest engine.hardwareRoot world.files converter tensor = _ :=
            simulationRequest_eq_error located
          refine ⟨[], fun earlier => ?_, ?_⟩
          · simp only [run, checked, evaluate, World.recording, recording, unbuilt, List.append_nil]
          · simp only [run, checked, evaluate, unbuilt]
            exact .nothing fun simulated => located simulated.2.2
  · refine ⟨[], fun earlier => ?_, ?_⟩
    · simp only [run, refused, List.append_nil]
    · simp only [run, refused]
      exact .nothing fun simulated => refusal.not_takes simulated.2.1

/-- What an execution may do to its session, and what it may ask for. -/
structure Execution (engine : Engine State) (converter : Converter)
    (chosen : Except Failure ExecutionMode) (session : Session State)
    (requests : List SimulationRequest) (outcome : Except Failure Unit × Session State) : Prop where
  failed : ∀ failure, outcome.1 = .error failure → outcome.2.context = session.context
  delivered : outcome.1 = .ok () → ∃ mode tensor output result, chosen = .ok mode ∧
    Connected converter session.context tensor output ∧
    (engine.run converter tensor mode session.world).1 = .ok result ∧
    ∀ name, outcome.2.context.get? name =
      if output = name then some result else session.context.get? name
  atMostOnce : requests.length ≤ 1
  once : requests.length = 1 ↔ chosen = .ok .cosimulation ∧ ∃ tensor output,
    Connected converter session.context tensor output ∧ converter.Takes tensor ∧
    ∃ artifact, Located engine.hardwareRoot session.world.files converter artifact
  asked : ∀ request ∈ requests,
    (∃ tensor output, Connected converter session.context tensor output ∧
      Asks engine.hardwareRoot session.world.files converter tensor request) ∧
    outcome.2.world = (engine.backend.simulate session.world request).2
  idle : requests = [] → outcome.2.world = session.world

variable (engine : Engine State) (converter : Converter) (session : Session State)

theorem execution_of_failure {chosen : Except Failure ExecutionMode} {failure : Failure}
    (idle : ¬∃ mode tensor output, chosen = .ok mode ∧
      Connected converter session.context tensor output) :
    engine.Execution converter chosen session [] (.error failure, session) where
  failed _ _ := rfl
  delivered success := by simp at success
  atMostOnce := Nat.zero_le 1
  once := by
    refine iff_of_false (by simp) ?_
    rintro ⟨simulated, tensor, output, connected, _⟩
    exact idle ⟨_, tensor, output, simulated, connected⟩
  asked := by simp
  idle _ := rfl

theorem execute_of_connected {mode : ExecutionMode} {tensor : Tensor} {output : String}
    (connected : Connected converter session.context tensor output) :
    engine.execute converter mode session =
      match (engine.run converter tensor mode session.world).1 with
      | .error failure =>
          (.error failure, ⟨session.context, (engine.run converter tensor mode session.world).2⟩)
      | .ok result =>
          (.ok (), ⟨session.context.insert output result,
            (engine.run converter tensor mode session.world).2⟩) := by
  have found := (operands_eq_ok_iff converter session.context tensor output).2 connected
  simp only [execute, found]
  obtain ⟨result, world⟩ := engine.run converter tensor mode session.world
  cases result with
  | error failure => rfl
  | ok result => rfl

theorem execution_of_run {mode : ExecutionMode} {tensor : Tensor} {output : String}
    (connected : Connected converter session.context tensor output)
    {requests : List SimulationRequest}
    (asked : engine.Asked converter tensor mode session.world requests
      (engine.run converter tensor mode session.world).2) :
    engine.Execution converter (.ok mode) session requests
      (engine.execute converter mode session) := by
  have once : requests.length = 1 ↔
      (.ok mode : Except Failure ExecutionMode) = .ok .cosimulation ∧ ∃ tensor output,
      Connected converter session.context tensor output ∧ converter.Takes tensor ∧
      ∃ artifact, Located engine.hardwareRoot session.world.files converter artifact := by
    rw [asked.length_eq_one_iff, Except.ok.injEq]
    refine and_congr_right fun _ => ⟨fun ready => ⟨tensor, output, connected, ready⟩, ?_⟩
    rintro ⟨other, name, again, ready⟩
    obtain ⟨rfl, rfl⟩ := connected.unique again
    exact ready
  have each (request : SimulationRequest) (member : request ∈ requests) :
      (∃ tensor output, Connected converter session.context tensor output ∧
        Asks engine.hardwareRoot session.world.files converter tensor request) ∧
      (engine.run converter tensor mode session.world).2 =
        (engine.backend.simulate session.world request).2 :=
    ⟨⟨tensor, output, connected, (asked.of_mem member).1⟩, (asked.of_mem member).2⟩
  rw [execute_of_connected engine converter session connected]
  cases delivered : (engine.run converter tensor mode session.world).1 with
  | error failure =>
      exact ⟨fun _ _ => rfl, by simp, asked.length_le_one, once, each, asked.eq_of_nil⟩
  | ok result =>
      have changed (name : String) := session.context.get?_insert output name result
      exact ⟨by simp, fun _ => ⟨mode, tensor, output, result, rfl, connected, delivered, changed⟩,
        asked.length_le_one, once, each, asked.eq_of_nil⟩

theorem execute_recording (mode : ExecutionMode) : ∃ requests,
    (∀ earlier, engine.recording.execute converter mode (session.recording earlier) =
      ((engine.execute converter mode session).1,
        (engine.execute converter mode session).2.recording (earlier ++ requests))) ∧
    engine.Execution converter (.ok mode) session requests
      (engine.execute converter mode session) := by
  cases found : operands converter session.context with
  | error failure =>
      have stopped : engine.execute converter mode session = (.error failure, session) := by
        simp only [execute, found]
      rw [stopped]
      refine ⟨[], fun earlier => ?_, engine.execution_of_failure converter session ?_⟩
      · simp only [execute, Session.recording, found, List.append_nil]
      · rintro ⟨_, tensor, output, _, connected⟩
        simp [(operands_eq_ok_iff converter session.context tensor output).2 connected] at found
  | ok named =>
      obtain ⟨tensor, output⟩ := named
      have connected := (operands_eq_ok_iff converter session.context tensor output).1 found
      obtain ⟨requests, same, asked⟩ := engine.run_recording converter tensor mode session.world
      refine ⟨requests, fun earlier => ?_, engine.execution_of_run converter session connected asked⟩
      rw [engine.recording.execute_of_connected converter (session.recording earlier) connected,
        engine.execute_of_connected converter session connected, Session.recording, same earlier]
      cases (engine.run converter tensor mode session.world).1 with
      | error failure => rfl
      | ok result => rfl

/-- An execution that fails leaves the context as it was, and one that succeeds changes the entry of
its output alone. The backend is asked exactly when a simulation is chosen and all that a simulation
needs is there, once and for what the converter, the tensor and the files determine; otherwise the
world stays as it was. -/
theorem execute_frame :
    (∀ mode, ∃ requests,
      (∀ earlier, engine.recording.execute converter mode (session.recording earlier) =
        ((engine.execute converter mode session).1,
          (engine.execute converter mode session).2.recording (earlier ++ requests))) ∧
      engine.Execution converter (.ok mode) session requests
        (engine.execute converter mode session)) ∧
    ∃ requests,
      (∀ earlier, engine.recording.executeDefault converter (session.recording earlier) =
        ((engine.executeDefault converter session).1,
          (engine.executeDefault converter session).2.recording (earlier ++ requests))) ∧
      engine.Execution converter
        ((converter.attributes.executionMode.map ExecutionMode.ofTag).getD (.ok engine.defaultMode))
        session requests (engine.executeDefault converter session) := by
  rw [← modeFor_eq]
  refine ⟨engine.execute_recording converter session, ?_⟩
  cases chosen : engine.modeFor converter with
  | error failure =>
      -- A tag that names no mode is found before anything else.
      simp only [executeDefault, modeFor_recording, chosen]
      exact ⟨[], fun earlier => by rw [List.append_nil],
        engine.execution_of_failure converter session (by simp)⟩
  | ok mode =>
      simp only [executeDefault, modeFor_recording, chosen]
      exact engine.execute_recording converter session mode

end Engine

end StreamWidth
