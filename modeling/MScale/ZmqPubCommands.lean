import MScale.HydraWire
import MScale.ZmqPub

/-!
# Commands with unexpected arguments

`process_message` answers whatever it is sent, except that it asserts the types
of the arguments of `updateconfig` while it applies them.  An argument of
another type therefore ends the publisher, with the arguments before it
applied.  Every other message is answered, and one that is not answered `ok`
leaves the test control alone.
-/

namespace MScale

namespace ZmqPub

variable {FloatNum : Type} {floatUnit : FloatUnit FloatNum}
  {tctrl : TestControl FloatNum}

/-- The argument has a type that `updateconfig` asserts for its name. -/
def TypeChecks (arg : CommandArgs FloatNum) : Prop :=
  (arg.name = "test_duration" ∨ arg.name = "msg_batch" →
    arg.intValue.isSome) ∧
  (arg.name = "msg_requested_rate" →
    arg.intValue.isSome ∨ arg.floatValue.isSome)

theorem updateConfig_isSome_iff {arg : CommandArgs FloatNum} :
    (tctrl.updateConfig floatUnit arg).isSome ↔ TypeChecks arg := by
  unfold TestControl.updateConfig TypeChecks
  split_ifs with isDuration isBatch isRate
  · simp [isDuration]
  · simp [isBatch]
  · cases intValue : arg.intValue <;> cases floatValue : arg.floatValue <;>
      simp [isRate]
  · simp [isDuration, isBatch, isRate]

/-- The arguments are applied one by one up to the first of a wrong type. -/
theorem updateConfigs_isSome_iff {args : List (CommandArgs FloatNum)} :
    (args.foldlM (TestControl.updateConfig floatUnit) tctrl).isSome ↔
      ∀ arg ∈ args, TypeChecks arg := by
  induction args generalizing tctrl with
  | nil => simp
  | cons arg args ih =>
      rw [List.foldlM_cons, List.forall_mem_cons,
        ← @updateConfig_isSome_iff FloatNum floatUnit tctrl]
      cases tctrl.updateConfig floatUnit arg with
      | none => simp
      | some updated => simpa using ih

/-- Whether a message is an `updateconfig` with the given arguments. -/
def UpdatesConfig (cmsg : Option (CommandMessage FloatNum))
    (args : List (CommandArgs FloatNum)) : Prop :=
  cmsg = some ⟨.subcmd, some ⟨"updateconfig", args⟩⟩

/-- A command that is not answered `ok` changes nothing, and only an argument
of a wrong type leaves one without an answer. -/
theorem processCommand_answers {cmd : Command FloatNum} :
    (∀ updated reply, processCommand floatUnit cmd tctrl =
        some (updated, reply) → reply.status ≠ "ok" → updated = tctrl) ∧
      ((processCommand floatUnit cmd tctrl).isSome ↔
        (cmd.cmdName = "updateconfig" →
          ∀ arg ∈ cmd.argument, TypeChecks arg)) := by
  unfold processCommand
  split_ifs with isPing isStart isBusy isStatus isUpdate isStats
  · simp [isPing]
  · simp [isStart]
  · simp [isStart]
  · simp [isStatus]
  · rw [Option.isSome_map, updateConfigs_isSome_iff]
    refine ⟨?_, by simp [isUpdate]⟩
    intro updated reply answered refused
    obtain ⟨configured, _, same⟩ := Option.map_eq_some_iff.mp answered
    obtain ⟨-, rfl⟩ := Prod.mk.inj same
    exact (refused rfl).elim
  · simp [isStats]
  · simp [isUpdate]

theorem processMessage_answers {cmsg : Option (CommandMessage FloatNum)} :
    (∀ updated reply, processMessage floatUnit cmsg tctrl =
        some (updated, reply) → reply.status ≠ "ok" → updated = tctrl) ∧
      ((processMessage floatUnit cmsg tctrl).isSome ↔
        ∀ args, UpdatesConfig cmsg args → ∀ arg ∈ args, TypeChecks arg) := by
  unfold processMessage UpdatesConfig
  split
  · simp
  · next cmd =>
    obtain ⟨kept, answered⟩ := @processCommand_answers _ floatUnit tctrl cmd
    refine ⟨kept, answered.trans ?_⟩
    obtain ⟨cmdName, argument⟩ := cmd
    constructor
    · intro checks args same
      cases same
      exact checks rfl
    · rintro checks rfl
      exact checks argument rfl
  · next type cmd notCommand =>
    refine ⟨by simp, iff_of_true rfl ?_⟩
    intro args same
    cases same
    exact (notCommand _ rfl rfl).elim

/-- `process_message` on the bytes that were received, with the serialized
response. -/
def respond (protobuf : Protobuf FloatNum) (floatUnit : FloatUnit FloatNum)
    (msg : Bytes) (tctrl : TestControl FloatNum) :
    Option (TestControl FloatNum × Bytes) :=
  (processMessage floatUnit (protobuf.parseCommand msg) tctrl).map
    fun answered => (answered.1, protobuf.serializeResponse answered.2)

/-- The publisher responds, a response that is not `ok` leaves the test control
as it was, and so does an `updateconfig` with an argument of a wrong type, which
is refused. -/
def RespondsSafely (protobuf : Protobuf FloatNum)
    (floatUnit : FloatUnit FloatNum) (msg : Bytes)
    (tctrl : TestControl FloatNum) : Prop :=
  ∃ updated reply,
    processMessage floatUnit (protobuf.parseCommand msg) tctrl =
      some (updated, reply) ∧
    respond protobuf floatUnit msg tctrl =
      some (updated, protobuf.serializeResponse reply) ∧
    (reply.status ≠ "ok" → updated = tctrl) ∧
    ∀ args, UpdatesConfig (protobuf.parseCommand msg) args →
      (∃ arg ∈ args, ¬ TypeChecks arg) →
        reply.status ≠ "ok" ∧ updated = tctrl

/-- The publisher responds safely exactly if the message is no `updateconfig`
with an argument of a wrong type. -/
theorem respondsSafely_iff (protobuf : Protobuf FloatNum)
    (floatUnit : FloatUnit FloatNum) (msg : Bytes)
    (tctrl : TestControl FloatNum) :
    RespondsSafely protobuf floatUnit msg tctrl ↔
      ∀ args, UpdatesConfig (protobuf.parseCommand msg) args →
        ∀ arg ∈ args, TypeChecks arg := by
  obtain ⟨kept, answered⟩ := @processMessage_answers _ floatUnit tctrl
    (protobuf.parseCommand msg)
  rw [← answered, Option.isSome_iff_exists]
  constructor
  · rintro ⟨updated, reply, processed, _⟩
    exact ⟨_, processed⟩
  · rintro ⟨⟨updated, reply⟩, processed⟩
    refine ⟨updated, reply, processed, by rw [respond, processed]; rfl,
      kept updated reply processed, ?_⟩
    intro args updates ⟨arg, member, wrong⟩
    have checks := answered.mp (by rw [processed]; rfl) args updates arg member
    exact (wrong checks).elim

/-- The batch size and, as a float, the duration of a test. -/
def fractionalDuration : CommandMessage HydraWire.Float32Bytes :=
  ⟨.subcmd, some ⟨"updateconfig",
    [{ name := "msg_batch", intValue := some 50 },
      { name := "test_duration", floatValue := some (0, 0, 32, 65) }]⟩⟩

/-- A duration of ten seconds that is sent as a float ends the publisher. -/
theorem fractionalDuration_aborts :
    ¬ ∀ (FloatNum : Type) (protobuf : Protobuf FloatNum)
      (floatUnit : FloatUnit FloatNum) (msg : Bytes)
      (tctrl : TestControl FloatNum),
      RespondsSafely protobuf floatUnit msg tctrl := by
  intro safely
  obtain ⟨updated, reply, processed, _⟩ := safely HydraWire.Float32Bytes
    HydraWire.protobuf ⟨fun _ _ => default, fun _ => 0⟩
    (HydraWire.encodeCommand fractionalDuration) {}
  simp [HydraWire.protobuf, HydraWire.decodeCommand_encode,
    fractionalDuration, processMessage, processCommand,
    TestControl.updateConfig] at processed

end ZmqPub

end MScale
