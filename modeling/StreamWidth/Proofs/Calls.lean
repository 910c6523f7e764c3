import StreamWidth.Proofs.Sessions

/-!
Calls that do not know of each other. Over a backend whose answers depend on the files alone, what a
call answers and writes is told from the one tensor that it reads, whatever came before it, so calls
on different names can change places.
-/

namespace StreamWidth

variable {State : Type}

/-- Whatever it remembers, the backend answers from the files alone and leaves them as they are. -/
structure Backend.Stateless (backend : Backend State) : Prop where
  files : ∀ world request, (backend.simulate world request).2.files = world.files
  answer : ∀ world other request, world.files = other.files →
    (backend.simulate world request).1 = (backend.simulate other request).1

theorem BitModel.stateless : BitModel.backend.Stateless := by
  constructor
  · intro world request
    simp only [backend]
    split <;> rfl
  · intro world other request same
    simp only [backend, same]
    split <;> rfl

/-- An execution of a converter, in a mode of its own or in the one that applies by default. -/
structure Call where
  converter : Converter
  mode : Option ExecutionMode

/-- What can be done with a session. -/
inductive Step
  | insert (name : String) (tensor : Tensor)
  | remove (name : String)
  | call (call : Call)

def Context.written (context : Context) : Except Failure (String × Tensor) → Context
  | .ok (name, tensor) => context.insert name tensor
  | .error _ => context

theorem Context.get?_written_of_ne {context : Context} {name : String}
    {effect : Except Failure (String × Tensor)}
    (elsewhere : ∀ output tensor, effect = .ok (output, tensor) → output ≠ name) :
    (context.written effect).get? name = context.get? name := by
  cases effect with
  | error failure => rfl
  | ok written =>
      obtain ⟨output, tensor⟩ := written
      rw [written, Dictionary.get?_insert, if_neg (elsewhere output tensor rfl)]

theorem Context.written_comm {context : Context} {first second : Except Failure (String × Tensor)}
    (apart : ∀ output tensor name other, first = .ok (output, tensor) →
      second = .ok (name, other) → output ≠ name) :
    (context.written first).written second = (context.written second).written first := by
  cases first with
  | error failure => rfl
  | ok left =>
      cases second with
      | error failure => rfl
      | ok right =>
          obtain ⟨output, tensor⟩ := left
          obtain ⟨name, other⟩ := right
          have different := apart output tensor name other rfl rfl
          apply Dictionary.eq_of_get?
          intro key
          simp only [written, Dictionary.get?_insert]
          grind

def Context.reading (names : List String) (entry : Option Tensor) : Context :=
  match names, entry with
  | [name], some tensor => Dictionary.empty.insert name tensor
  | _, _ => Dictionary.empty

theorem Context.get?_reading (name : String) (entry : Option Tensor) :
    (reading [name] entry).get? name = entry := by
  cases entry with
  | none => exact Dictionary.get?_empty name
  | some tensor => rw [reading, Dictionary.get?_insert, if_pos rfl]

namespace Engine

variable (engine : Engine State)

def perform (call : Call) (session : Session State) : Except Failure Unit × Session State :=
  match call.mode with
  | some mode => engine.execute call.converter mode session
  | none => engine.executeDefault call.converter session

def modeOf (call : Call) : Except Failure ExecutionMode :=
  match call.mode with
  | some mode => .ok mode
  | none => engine.modeFor call.converter

def after (session : Session State) : Step → Session State
  | .insert name tensor => { session with context := session.context.insert name tensor }
  | .remove name => { session with context := session.context.erase name }
  | .call call => (engine.perform call session).2

def history (session : Session State) (steps : List Step) : Session State :=
  steps.foldl engine.after session

/-- What a call would write, and under which name. -/
def effect (call : Call) (session : Session State) : Except Failure (String × Tensor) := do
  let mode ← engine.modeOf call
  let (tensor, output) ← operands call.converter session.context
  let result ← (engine.run call.converter tensor mode session.world).1
  return (output, result)

theorem effect_eq_ok_iff (call : Call) (session : Session State) (name : String)
    (result : Tensor) :
    engine.effect call session = .ok (name, result) ↔ ∃ mode tensor,
      engine.modeOf call = .ok mode ∧ Connected call.converter session.context tensor name ∧
      (engine.run call.converter tensor mode session.world).1 = .ok result := by
  simp only [effect, bind_eq_ok_iff, Prod.exists, operands_eq_ok_iff]
  constructor
  · rintro ⟨mode, chosen, tensor, output, connected, delivered, success, same⟩
    obtain ⟨rfl, rfl⟩ := Prod.mk.inj (Except.ok.inj same)
    exact ⟨mode, tensor, chosen, connected, success⟩
  · rintro ⟨mode, tensor, chosen, connected, success⟩
    exact ⟨mode, chosen, tensor, name, connected, result, success, rfl⟩

theorem outputs_of_effect {engine : Engine State} {call : Call} {session : Session State}
    {name : String} {result : Tensor}
    (delivered : engine.effect call session = .ok (name, result)) :
    call.converter.signature.outputs = [name] := by
  obtain ⟨_, _, _, ⟨_, _, outputs, _⟩, _⟩ := (engine.effect_eq_ok_iff _ _ _ _).1 delivered
  exact outputs

theorem perform_eq (call : Call) (session : Session State) :
    engine.perform call session =
      match engine.modeOf call with
      | .error failure => (.error failure, session)
      | .ok mode => engine.execute call.converter mode session := by
  rw [perform, modeOf]
  cases call.mode with
  | some mode => rfl
  | none => rfl

variable {engine}

theorem run_of_stateless (stateless : engine.backend.Stateless) (converter : Converter)
    (tensor : Tensor) (mode : ExecutionMode) {world other : World State}
    (same : world.files = other.files) :
    (engine.run converter tensor mode world).1 = (engine.run converter tensor mode other).1 ∧
      (engine.run converter tensor mode world).2.files = world.files := by
  cases checked : checkInput converter tensor with
  | error failure => simp only [run, checked, and_self]
  | ok =>
      cases mode with
      | functional => simp only [run, checked, evaluate, and_self]
      | cosimulation =>
          cases requested : simulationRequest engine.hardwareRoot world.files converter tensor with
          | error failure =>
              have again := requested
              rw [same] at again
              simp only [run, checked, evaluate, requested, again, and_self]
          | ok request =>
              rw [run_of_request engine checked requested,
                run_of_request engine checked (by rw [← same]; exact requested),
                stateless.answer world other request same]
              exact ⟨rfl, stateless.files world request⟩

theorem perform_eq_effect (stateless : engine.backend.Stateless) (call : Call)
    (session : Session State) :
    (engine.perform call session).1 = (engine.effect call session).map (fun _ => ()) ∧
      (engine.perform call session).2.context =
        session.context.written (engine.effect call session) ∧
      (engine.perform call session).2.world.files = session.world.files := by
  rw [perform_eq, effect]
  cases engine.modeOf call with
  | error failure => exact ⟨rfl, rfl, rfl⟩
  | ok mode =>
      simp only [execute, bind, Except.bind]
      cases operands call.converter session.context with
      | error failure => exact ⟨rfl, rfl, rfl⟩
      | ok named =>
          have kept := (run_of_stateless stateless call.converter named.1 mode
            (rfl : session.world.files = session.world.files)).2
          simp only
          cases delivered : engine.run call.converter named.1 mode session.world with
          | mk result world =>
              rw [delivered] at kept
              cases result with
              | error failure => exact ⟨rfl, rfl, kept⟩
              | ok result => exact ⟨rfl, rfl, kept⟩

theorem after_files (stateless : engine.backend.Stateless) (session : Session State) (step : Step) :
    (engine.after session step).world.files = session.world.files := by
  cases step with
  | insert name tensor => rfl
  | remove name => rfl
  | call call => exact (perform_eq_effect stateless call session).2.2

theorem history_files (stateless : engine.backend.Stateless) (steps : List Step) :
    ∀ session, (engine.history session steps).world.files = session.world.files := by
  induction steps with
  | nil => exact fun _ => rfl
  | cons step rest ih =>
      intro session
      exact (ih (engine.after session step)).trans (after_files stateless session step)

theorem operands_congr (converter : Converter) {left right : Context}
    (same : ∀ name, converter.signature.inputs = [name] → left.get? name = right.get? name) :
    operands converter left = operands converter right := by
  rw [operands, operands]
  cases named : converter.inputName with
  | error failure => rfl
  | ok name =>
      simp only [bind, Except.bind, same name ((inputName_eq_ok_iff converter name).1 named)]

theorem effect_congr (stateless : engine.backend.Stateless) (call : Call)
    {left right : Session State} (files : left.world.files = right.world.files)
    (entry : ∀ name, call.converter.signature.inputs = [name] →
      left.context.get? name = right.context.get? name) :
    engine.effect call left = engine.effect call right := by
  have run (tensor : Tensor) (mode : ExecutionMode) :=
    (run_of_stateless stateless call.converter tensor mode files).1
  simp only [effect, operands_congr call.converter entry, run]

theorem effect_perform (stateless : engine.backend.Stateless) (session : Session State)
    {call other : Call} {input output : String}
    (reads : call.converter.signature.inputs = [input])
    (writes : other.converter.signature.outputs = [output]) (apart : output ≠ input) :
    engine.effect call (engine.perform other session).2 = engine.effect call session := by
  obtain ⟨_, written, files⟩ := perform_eq_effect stateless other session
  apply effect_congr stateless call files
  intro name named
  obtain rfl := List.singleton_inj.1 (reads.symm.trans named)
  rw [written]
  apply Context.get?_written_of_ne
  intro name tensor delivered
  obtain rfl := List.singleton_inj.1 (writes.symm.trans (outputs_of_effect delivered))
  exact apart

/-- Calls that neither read nor write what the other one writes give the same answers and the same
context in both orders. What a call answers and writes is told from the files and from the entry
that it reads, whatever steps came before. -/
theorem perform_independent (engine : Engine (Option BitModel.Statistics))
    (model : engine.backend = BitModel.backend) :
    (∀ (first second : Call) (session : Session (Option BitModel.Statistics))
        (firstInput firstOutput secondInput secondOutput : String),
      first.converter.signature.inputs = [firstInput] →
      first.converter.signature.outputs = [firstOutput] →
      second.converter.signature.inputs = [secondInput] →
      second.converter.signature.outputs = [secondOutput] →
      firstOutput ≠ secondInput → firstOutput ≠ secondOutput → secondOutput ≠ firstInput →
      (engine.perform second (engine.perform first session).2).2.context =
          (engine.perform first (engine.perform second session).2).2.context ∧
        (engine.perform first session).1 =
          (engine.perform first (engine.perform second session).2).1 ∧
        (engine.perform second (engine.perform first session).2).1 =
          (engine.perform second session).1) ∧
    ∀ (call : Call) (files : FileTree) (entry : Option Tensor),
      ∃ effect : Except Failure (String × Tensor),
        ∀ (start : Session (Option BitModel.Statistics)) (steps : List Step),
          start.world.files = files →
          (∀ name, call.converter.signature.inputs = [name] →
            (engine.history start steps).context.get? name = entry) →
          let session := engine.history start steps
          (engine.perform call session).1 = effect.map (fun _ => ()) ∧
            (engine.perform call session).2.context = session.context.written effect ∧
            (engine.perform call session).2.world.files = files := by
  have stateless : engine.backend.Stateless := by
    rw [model]
    exact BitModel.stateless
  constructor
  · intro first second session firstInput firstOutput secondInput secondOutput
      firstReads firstWrites secondReads secondWrites notRead notSame notReadBack
    have secondAfter := effect_perform stateless session secondReads firstWrites notRead
    have firstAfter := effect_perform stateless session firstReads secondWrites notReadBack
    have answer (call : Call) (session : Session (Option BitModel.Statistics)) :=
      (perform_eq_effect stateless call session).1
    have context (call : Call) (session : Session (Option BitModel.Statistics)) :=
      (perform_eq_effect stateless call session).2.1
    simp only [answer, context, secondAfter, firstAfter, and_true]
    apply Context.written_comm
    intro output tensor name other firstDelivered secondDelivered
    obtain rfl := List.singleton_inj.1 (firstWrites.symm.trans (outputs_of_effect firstDelivered))
    obtain rfl := List.singleton_inj.1 (secondWrites.symm.trans (outputs_of_effect secondDelivered))
    exact notSame
  · intro call files entry
    let sample : Session (Option BitModel.Statistics) :=
      ⟨Context.reading call.converter.signature.inputs entry, files, none⟩
    refine ⟨engine.effect call sample, fun start steps sameFiles sameEntry => ?_⟩
    have kept := (history_files stateless steps start).trans sameFiles
    have same : engine.effect call (engine.history start steps) = engine.effect call sample := by
      apply effect_congr stateless call kept
      intro name named
      rw [sameEntry name named]
      simp only [sample, named, Context.get?_reading]
    obtain ⟨answer, context, files⟩ := perform_eq_effect stateless call (engine.history start steps)
    rw [same] at answer context
    exact ⟨answer, context, files.trans kept⟩

def sixIntegersSimulated : Call :=
  ⟨sixIntegersConverter, some .cosimulation⟩

def sixIntegersCopied : Call :=
  ⟨{ sixIntegersConverter with signature := .single "dwc" "in" "copy" }, none⟩

theorem perform_independent_sixIntegers :
    let engine : Engine (Option BitModel.Statistics) := ⟨BitModel.backend, some ".", .functional⟩
    let session : Session (Option BitModel.Statistics) :=
      ⟨Context.reading ["in"] (some Tensor.sixIntegers), Tensor.builtFiles, none⟩
    (engine.perform sixIntegersCopied (engine.perform sixIntegersSimulated session).2).2.context =
        (engine.perform sixIntegersSimulated
          (engine.perform sixIntegersCopied session).2).2.context ∧
      (engine.perform sixIntegersSimulated session).1 =
        (engine.perform sixIntegersSimulated (engine.perform sixIntegersCopied session).2).1 ∧
      (engine.perform sixIntegersCopied (engine.perform sixIntegersSimulated session).2).1 =
        (engine.perform sixIntegersCopied session).1 := by
  intro engine session
  exact (perform_independent engine rfl).1 sixIntegersSimulated sixIntegersCopied session
    "in" "out" "in" "copy" rfl rfl rfl rfl (by decide) (by decide) (by decide)

end Engine

end StreamWidth
