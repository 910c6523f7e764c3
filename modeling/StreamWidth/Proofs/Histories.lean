import StreamWidth.Proofs.Calls

/-!
Values over histories. Whatever is inserted, removed and called, under whatever names and in
whatever modes, each tensor that there is repeats one that was inserted, and a chain of calls hands
on the tensor that it starts from.
-/

namespace StreamWidth

namespace Tensor

/-- The same elements, but for zeros that have lost their sign in a type without codes for it. -/
structure Repeats (tensor source : Tensor) : Prop where
  shape : tensor.shape = source.shape
  type : tensor.type = source.type
  elements : ∀ (index : Nat) (x : Binary32), source.data[index]? = some x →
    ∃ y : Binary32, tensor.data[index]? = some y ∧
      (y = x ∨ source.type ≠ .float32 ∧ x.magnitude = 0 ∧ y = .zero)

namespace Repeats

theorem refl (tensor : Tensor) : tensor.Repeats tensor :=
  ⟨rfl, rfl, fun _ x present => ⟨x, present, Or.inl rfl⟩⟩

theorem trans {tensor middle source : Tensor} (repeats : tensor.Repeats middle)
    (earlier : middle.Repeats source) : tensor.Repeats source := by
  refine ⟨repeats.shape.trans earlier.shape, repeats.type.trans earlier.type, ?_⟩
  intro index x present
  obtain ⟨y, found, same | ⟨integral, nothing, zero⟩⟩ := earlier.elements index x present
  · subst same
    rw [← earlier.type]
    exact repeats.elements index y found
  · obtain ⟨z, reached, same | ⟨_, _, same⟩⟩ := repeats.elements index y found
    · exact ⟨z, reached, Or.inr ⟨integral, nothing, same.trans zero⟩⟩
    · exact ⟨z, reached, Or.inr ⟨integral, nothing, same⟩⟩

end Repeats

theorem received_repeats (tensor : Tensor) : tensor.received.Repeats tensor := by
  refine ⟨rfl, rfl, fun index x present => ?_⟩
  refine ⟨tensor.type.received x, ?_, ElementType.received_eq _ x⟩
  rw [received, map, List.getElem?_map, present]
  rfl

end Tensor

def ExecutionMode.delivered (mode : ExecutionMode) (tensor : Tensor) : Tensor :=
  match mode with
  | functional => tensor
  | cosimulation => tensor.received

theorem ExecutionMode.delivered_repeats (mode : ExecutionMode) (tensor : Tensor) :
    (mode.delivered tensor).Repeats tensor := by
  cases mode with
  | functional => exact .refl tensor
  | cosimulation => exact tensor.received_repeats

theorem Converter.takes_delivered_iff (converter : Converter) (mode : ExecutionMode)
    {tensor : Tensor} (allowed : ∀ x ∈ tensor.data, tensor.type.accepts x = .ok true) :
    converter.Takes (mode.delivered tensor) ↔ converter.Takes tensor := by
  cases mode with
  | functional => exact Iff.rfl
  | cosimulation =>
      constructor
      · exact fun takes => ⟨takes.shape, takes.type, allowed⟩
      · intro takes
        refine ⟨takes.shape, takes.type, ?_⟩
        have supported : tensor.type.isSupported = true := takes.type ▸ converter.supported
        intro y member
        obtain ⟨x, present, rfl⟩ := List.mem_map.1 member
        have legal := (ElementType.accepts_eq_true_iff supported x).1 (allowed x present)
        exact (ElementType.accepts_eq_true_iff supported _).2 (ElementType.legal_received legal)

namespace Engine

section

variable {State : Type} (engine : Engine State)

/-- All that a run needs: a tensor that is taken, and in simulation the hardware and no more bits
than can be counted. -/
structure Runnable (files : FileTree) (converter : Converter) (mode : ExecutionMode)
    (tensor : Tensor) : Prop where
  takes : converter.Takes tensor
  hardware : mode = .cosimulation →
    ∃ artifact, Located engine.hardwareRoot files converter artifact
  few : mode = .cosimulation → tensor.data.length * tensor.type.storageBits < 2 ^ 64

def Ready (files : FileTree) (call : Call) (tensor : Tensor) : Prop :=
  ∃ mode, engine.modeOf call = .ok mode ∧ engine.Runnable files call.converter mode tensor

def performAll (session : Session State) : List Call → Except Failure Unit × Session State
  | [] => (.ok (), session)
  | call :: rest =>
      match engine.perform call session with
      | (.error failure, after) => (.error failure, after)
      | (.ok (), after) => performAll after rest

/-- Each call reads what the one before it has written. -/
inductive Chained : String → List Call → String → Prop
  | nil (name : String) : Chained name [] name
  | cons {first next last : String} {call : Call} {rest : List Call}
      (inputs : call.converter.signature.inputs = [first])
      (outputs : call.converter.signature.outputs = [next]) (chained : Chained next rest last) :
      Chained first (call :: rest) last

/-- Calls that go through exactly when each is ready for the tensor at their start, and that then,
step by step, hand it on to the name at their end. -/
structure HandsOn (session : Session State) (calls : List Call) (last : String) (tensor : Tensor) :
    Prop where
  through : (engine.performAll session calls).1 = .ok () ↔
    ∀ call ∈ calls, engine.Ready session.world.files call tensor
  steps : (engine.performAll session calls).1 = .ok () →
    (engine.performAll session calls).2 = engine.history session (calls.map .call)
  delivered : (engine.performAll session calls).1 = .ok () → ∃ output,
    (engine.performAll session calls).2.context.get? last = some output ∧
    output.Repeats tensor ∧
    ((∀ call ∈ calls, engine.modeOf call = .ok .functional) → output = tensor)

def Traced (steps : List Step) (context : Context) : Prop :=
  ∀ name tensor, context.get? name = some tensor →
    ∃ key source, Step.insert key source ∈ steps ∧ tensor.Repeats source

namespace Traced

variable {steps : List Step} {context : Context}

theorem mono {more : List Step} (traced : Traced steps context) (within : steps ⊆ more) :
    Traced more context := by
  intro name tensor held
  obtain ⟨key, source, inserted, repeats⟩ := traced name tensor held
  exact ⟨key, source, within inserted, repeats⟩

theorem insert (traced : Traced steps context) (name : String) {tensor source : Tensor}
    {key : String} (inserted : Step.insert key source ∈ steps) (repeats : tensor.Repeats source) :
    Traced steps (context.insert name tensor) := by
  intro other entry held
  rw [Dictionary.get?_insert] at held
  split at held
  · obtain rfl := Option.some.inj held
    exact ⟨key, source, inserted, repeats⟩
  · exact traced other entry held

theorem erase (traced : Traced steps context) (name : String) :
    Traced steps (context.erase name) := by
  intro other entry held
  rw [Dictionary.get?_erase] at held
  split at held
  · simp at held
  · exact traced other entry held

end Traced

theorem run_functional {converter : Converter} {tensor : Tensor} (takes : converter.Takes tensor)
    (world : World State) :
    engine.run converter tensor .functional world = (.ok tensor, world) :=
  run_of_checked engine ((converter.takes_iff tensor).1 takes) world

theorem ready_delivered_iff (files : FileTree) (call : Call) (delivery : ExecutionMode)
    {tensor : Tensor} (allowed : ∀ x ∈ tensor.data, tensor.type.accepts x = .ok true) :
    engine.Ready files call (delivery.delivered tensor) ↔ engine.Ready files call tensor := by
  have takes := call.converter.takes_delivered_iff delivery allowed
  have count : (delivery.delivered tensor).data.length = tensor.data.length := by
    cases delivery with
    | functional => rfl
    | cosimulation => exact List.length_map _
  have type := (delivery.delivered_repeats tensor).type
  refine exists_congr fun mode => and_congr_right fun _ => ⟨fun runnable => ?_, fun runnable => ?_⟩
  · exact ⟨takes.1 runnable.takes, runnable.hardware, by rw [← count, ← type]; exact runnable.few⟩
  · exact ⟨takes.2 runnable.takes, runnable.hardware, by rw [count, type]; exact runnable.few⟩

variable {engine}

theorem performAll_cons_of_ok {call : Call} {session : Session State} (rest : List Call)
    (success : (engine.perform call session).1 = .ok ()) :
    engine.performAll session (call :: rest) =
      engine.performAll (engine.perform call session).2 rest := by
  rw [performAll]
  cases performed : engine.perform call session with
  | mk result after =>
      rw [performed] at success
      rw [show result = .ok () from success]

theorem perform_of_performAll {call : Call} {session : Session State} {rest : List Call}
    (success : (engine.performAll session (call :: rest)).1 = .ok ()) :
    (engine.perform call session).1 = .ok () := by
  rw [performAll] at success
  cases performed : engine.perform call session with
  | mk result after =>
      rw [performed] at success
      cases result with
      | error failure => simp at success
      | ok => rfl

theorem performAll_eq_history (calls : List Call) : ∀ session : Session State,
    (engine.performAll session calls).1 = .ok () →
    (engine.performAll session calls).2 = engine.history session (calls.map .call) := by
  induction calls with
  | nil => exact fun _ _ => rfl
  | cons call rest ih =>
      intro session success
      have first := perform_of_performAll success
      rw [performAll_cons_of_ok rest first] at success ⊢
      exact ih (engine.perform call session).2 success

end

section

variable {engine : Engine (Option BitModel.Statistics)}

theorem run_fst_of_located (model : engine.backend = BitModel.backend) {converter : Converter}
    {tensor : Tensor} (takes : converter.Takes tensor)
    {world : World (Option BitModel.Statistics)} {artifact : String}
    (located : Located engine.hardwareRoot world.files converter artifact) :
    (engine.run converter tensor .cosimulation world).1 =
      if tensor.data.length * tensor.type.storageBits < BitModel.bitLimit then .ok tensor.received
      else .error (.fault .integerOverflow) := by
  have checked := (converter.takes_iff tensor).1 takes
  have sendable := sendable_of_checkInput checked
  obtain ⟨_, inFolds⟩ := folds_of_checkInput checked .input
  obtain ⟨_, outFolds⟩ := folds_of_checkInput checked .output
  obtain ⟨_, _, counted⟩ := converter.folds_wordCount .output
  have requested := simulationRequest_eq_ok checked (locateHardware_eq_ok_iff.2 located) counted
  obtain ⟨_, _, _, present⟩ := located
  have unpacked := sendable.unpack_eq outFolds
  rw [takes.shape, takes.type] at unpacked
  rw [run_of_request engine checked requested, model, BitModel.simulate_fst, BitModel.run,
    if_pos present, sendable.convert_eq inFolds outFolds]
  by_cases few : tensor.data.length * tensor.type.storageBits < BitModel.bitLimit
  · rw [if_pos few, if_pos few, receive]
    exact (unpack_checkOutput_iff converter _ _).2 unpacked
  · rw [if_neg few, if_neg few]
    rfl

theorem run_fst_eq_ok_iff (model : engine.backend = BitModel.backend) (converter : Converter)
    (tensor result : Tensor) (mode : ExecutionMode) (world : World (Option BitModel.Statistics)) :
    (engine.run converter tensor mode world).1 = .ok result ↔
      engine.Runnable world.files converter mode tensor ∧ result = mode.delivered tensor := by
  rcases checkInput_cases converter tensor with takes | ⟨cause, refusal, refused⟩
  · have checked := (converter.takes_iff tensor).1 takes
    cases mode with
    | functional =>
        rw [run_functional engine takes, Except.ok.injEq]
        exact ⟨fun same => ⟨⟨takes, by simp, by simp⟩, same.symm⟩,
          fun delivered => delivered.2.symm⟩
    | cosimulation =>
        by_cases located : ∃ artifact, Located engine.hardwareRoot world.files converter artifact
        · obtain ⟨artifact, present⟩ := located
          rw [run_fst_of_located model takes present]
          by_cases few : tensor.data.length * tensor.type.storageBits < BitModel.bitLimit
          · rw [if_pos few, Except.ok.injEq]
            exact ⟨fun same => ⟨⟨takes, fun _ => ⟨artifact, present⟩, fun _ => few⟩, same.symm⟩,
              fun delivered => delivered.2.symm⟩
          · rw [if_neg few]
            exact iff_of_false (by simp) fun delivered => few (delivered.1.few rfl)
        · simp only [run, checked, evaluate, simulationRequest_eq_error located, Except.bind]
          exact iff_of_false (by simp) fun delivered => located (delivered.1.hardware rfl)
  · simp only [run, refused]
    exact iff_of_false (by simp) fun delivered => refusal.not_takes delivered.1.takes

theorem repeats_of_effect (model : engine.backend = BitModel.backend) {call : Call}
    {session : Session (Option BitModel.Statistics)} {output : String} {result : Tensor}
    (delivered : engine.effect call session = .ok (output, result)) :
    ∃ input operand, session.context.get? input = some operand ∧ result.Repeats operand := by
  obtain ⟨mode, operand, _, ⟨input, _, _, read⟩, success⟩ :=
    (engine.effect_eq_ok_iff _ _ _ _).1 delivered
  obtain ⟨_, rfl⟩ := (run_fst_eq_ok_iff model _ _ _ _ _).1 success
  exact ⟨input, operand, read, mode.delivered_repeats operand⟩

theorem traced_after (model : engine.backend = BitModel.backend) {steps : List Step}
    {session : Session (Option BitModel.Statistics)} (traced : Traced steps session.context)
    (step : Step) : Traced (steps ++ [step]) (engine.after session step).context := by
  have earlier : Traced (steps ++ [step]) session.context :=
    traced.mono (List.subset_append_left steps [step])
  cases step with
  | insert name tensor => exact earlier.insert name List.mem_concat_self (.refl tensor)
  | remove name => exact earlier.erase name
  | call call =>
      rw [after, (perform_eq_effect (model ▸ BitModel.stateless) call session).2.1]
      cases delivered : engine.effect call session with
      | error failure => exact earlier
      | ok written =>
          obtain ⟨output, result⟩ := written
          obtain ⟨input, operand, read, repeats⟩ := repeats_of_effect model delivered
          obtain ⟨key, source, inserted, before⟩ := earlier input operand read
          exact earlier.insert output inserted (repeats.trans before)

theorem traced_history (model : engine.backend = BitModel.backend) (steps : List Step) :
    ∀ (before : List Step) (session : Session (Option BitModel.Statistics)),
      Traced before session.context →
      Traced (before ++ steps) (engine.history session steps).context := by
  -- Induction on the steps to come; those that were taken are kept for what they inserted.
  induction steps with
  | nil =>
      intro before session traced
      rw [List.append_nil]
      exact traced
  | cons step rest ih =>
      intro before session traced
      have next := ih (before ++ [step]) _ (traced_after model traced step)
      rwa [List.append_assoc] at next

section

variable {call : Call} {session : Session (Option BitModel.Statistics)} {first next : String}
  {tensor : Tensor}

theorem perform_of_runnable (model : engine.backend = BitModel.backend)
    (inputs : call.converter.signature.inputs = [first])
    (outputs : call.converter.signature.outputs = [next])
    (held : session.context.get? first = some tensor) {mode : ExecutionMode}
    (chosen : engine.modeOf call = .ok mode)
    (runnable : engine.Runnable session.world.files call.converter mode tensor) :
    (engine.perform call session).1 = .ok () ∧
      (engine.perform call session).2.context =
        session.context.insert next (mode.delivered tensor) ∧
      (engine.perform call session).2.world.files = session.world.files := by
  have effect : engine.effect call session = .ok (next, mode.delivered tensor) :=
    (engine.effect_eq_ok_iff _ _ _ _).2 ⟨mode, tensor, chosen, ⟨first, inputs, outputs, held⟩,
      (run_fst_eq_ok_iff model _ _ _ _ _).2 ⟨runnable, rfl⟩⟩
  have performed := perform_eq_effect (model ▸ BitModel.stateless) call session
  rwa [effect] at performed

theorem ready_of_perform (model : engine.backend = BitModel.backend)
    (inputs : call.converter.signature.inputs = [first])
    (held : session.context.get? first = some tensor)
    (success : (engine.perform call session).1 = .ok ()) :
    engine.Ready session.world.files call tensor := by
  rw [(perform_eq_effect (model ▸ BitModel.stateless) call session).1] at success
  cases delivered : engine.effect call session with
  | error failure => simp [delivered, Except.map] at success
  | ok written =>
      obtain ⟨mode, operand, chosen, ⟨input, named, _, read⟩, ran⟩ :=
        (engine.effect_eq_ok_iff _ _ _ _).1 delivered
      obtain rfl := List.singleton_inj.1 (inputs.symm.trans named)
      obtain rfl := Option.some.inj (held.symm.trans read)
      exact ⟨mode, chosen, ((run_fst_eq_ok_iff model _ _ _ _ _).1 ran).1⟩

end

theorem handsOn_of_chained (model : engine.backend = BitModel.backend) {first last : String}
    {calls : List Call} (chained : Chained first calls last) :
    ∀ (session : Session (Option BitModel.Statistics)) (tensor : Tensor),
      session.context.get? first = some tensor → engine.HandsOn session calls last tensor := by
  induction chained with
  | nil name =>
      intro session tensor held
      exact ⟨iff_of_true rfl (by simp), fun _ => rfl,
        fun _ => ⟨tensor, held, .refl tensor, fun _ => rfl⟩⟩
  | @cons first next last call rest inputs outputs chained ih =>
      intro session tensor held
      -- A call that is ready delivers what the rest of the chain starts from; one that is not ends
      -- the chain.
      by_cases ready : engine.Ready session.world.files call tensor
      · obtain ⟨mode, chosen, runnable⟩ := ready
        obtain ⟨success, written, files⟩ :=
          perform_of_runnable model inputs outputs held chosen runnable
        have handed : (engine.perform call session).2.context.get? next =
            some (mode.delivered tensor) := by
          rw [written, Dictionary.get?_insert_self]
        have next := ih (engine.perform call session).2 (mode.delivered tensor) handed
        have same (other : Call) := engine.ready_delivered_iff session.world.files other mode
          runnable.takes.allowed
        refine ⟨?_, performAll_eq_history _ session, ?_⟩
        · rw [performAll_cons_of_ok rest success]
          simp only [next.through, files, same, List.forall_mem_cons]
          exact ⟨fun others => ⟨⟨mode, chosen, runnable⟩, others⟩, fun every => every.2⟩
        · rw [performAll_cons_of_ok rest success]
          intro reached
          obtain ⟨output, found, repeats, unchanged⟩ := next.delivered reached
          have repeats := repeats.trans (mode.delivered_repeats tensor)
          refine ⟨output, found, repeats, fun functional => ?_⟩
          obtain ⟨reference, others⟩ := List.forall_mem_cons.1 functional
          obtain rfl := Except.ok.inj (chosen.symm.trans reference)
          exact unchanged others
      · have failed : (engine.performAll session (call :: rest)).1 ≠ .ok () := fun success =>
          ready (ready_of_perform model inputs held (perform_of_performAll success))
        exact ⟨iff_of_false failed fun every => ready (every call List.mem_cons_self),
          performAll_eq_history _ session, fun success => absurd success failed⟩

end

/-- No call makes a value. Whatever steps are taken from an empty context, each tensor that there is
is filled and repeats one that was inserted, and a chain of calls hands on the tensor at its
start. -/
theorem history_repeats (engine : Engine (Option BitModel.Statistics))
    (model : engine.backend = BitModel.backend) :
    (∀ (world : World (Option BitModel.Statistics)) (steps : List Step) (name : String)
        (tensor : Tensor),
      (engine.history ⟨Dictionary.empty, world⟩ steps).context.get? name = some tensor →
      tensor.data.length = tensor.shape.elementCount ∧
        ∃ key source, Step.insert key source ∈ steps ∧ tensor.Repeats source) ∧
    ∀ (first last : String) (calls : List Call) (session : Session (Option BitModel.Statistics))
        (tensor : Tensor),
      Chained first calls last → session.context.get? first = some tensor →
      engine.HandsOn session calls last tensor := by
  refine ⟨fun world steps name tensor held => ⟨tensor.filled, ?_⟩, ?_⟩
  · have nothing : Traced [] (Dictionary.empty : Context) := by
      intro name tensor held
      rw [Dictionary.get?_empty] at held
      simp at held
    exact traced_history model steps [] ⟨Dictionary.empty, world⟩ nothing name tensor held
  · intro first last calls session tensor chained held
    exact handsOn_of_chained model chained session tensor held

def sixIntegersLoop : List Call :=
  [⟨sixIntegersConverter, some .cosimulation⟩,
    ⟨⟨.single "back" "out" "in", ⟨⟨[6]⟩, 30, 10, .signed 5, none, none, none, none⟩, rfl⟩, none⟩]

theorem history_repeats_sixIntegersLoop :
    let engine : Engine (Option BitModel.Statistics) := ⟨BitModel.backend, some ".", .functional⟩
    let session : Session (Option BitModel.Statistics) :=
      ⟨Context.reading ["in"] (some Tensor.sixIntegers), Tensor.builtFiles, none⟩
    (engine.performAll session sixIntegersLoop).1 = .ok () ∧ ∃ output,
      (engine.performAll session sixIntegersLoop).2.context.get? "in" = some output ∧
        output.Repeats Tensor.sixIntegers := by
  intro engine session
  have chained : Chained "in" sixIntegersLoop "in" := .cons rfl rfl (.cons rfl rfl (.nil "in"))
  have loop := (history_repeats engine rfl).2 "in" "in" sixIntegersLoop session Tensor.sixIntegers
    chained (Context.get?_reading "in" _)
  have takes := (Converter.takes_iff _ _).2 sixIntegers_checked
  have ready : ∀ call ∈ sixIntegersLoop,
      engine.Ready Tensor.builtFiles call Tensor.sixIntegers := by
    intro call member
    simp only [sixIntegersLoop, List.mem_cons, List.not_mem_nil, or_false] at member
    rcases member with rfl | rfl
    · exact ⟨.cosimulation, rfl, takes, fun _ => ⟨_, ".", rfl, rfl, Tensor.isFile_builtFiles⟩,
        fun _ => by decide⟩
    · exact ⟨.functional, rfl, ⟨rfl, rfl, takes.allowed⟩, by simp, by simp⟩
  have success := loop.through.2 ready
  obtain ⟨output, found, repeats, _⟩ := loop.delivered success
  exact ⟨success, output, found, repeats⟩

end Engine

end StreamWidth
