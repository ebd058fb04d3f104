import FirmwareCapsule.Openssl.Signer
import FirmwareCapsule.Proofs.Assembly.Requests
import FirmwareCapsule.Rsa.Signer

namespace FirmwareCapsule

/-! The processes that are started while a capsule is signed. Each is started in its turn,
and the first one that does not do its part is the last. -/

namespace Signing

variable {fault otherFault α β : Type} {commands later : List (List String)}

theorem runsOf_append (first second : List Event) :
    runsOf (first ++ second) = runsOf first ++ runsOf second :=
  List.filterMap_append

theorem runsOf_logged (records : List Log.Record) : runsOf (records.map .logged) = [] := by
  apply List.filterMap_eq_nil_iff.mpr
  intro event member
  rcases List.mem_map.mp member with ⟨record, -, rfl⟩
  rfl

def commandsOf (events : List Event) : List (List String) :=
  (runsOf events).map ProcessRun.arguments

theorem commandsOf_append (first second : List Event) :
    commandsOf (first ++ second) = commandsOf first ++ commandsOf second := by
  rw [commandsOf, runsOf_append, List.map_append]
  rfl

theorem commandsOf_logged (records : List Log.Record) :
    commandsOf (records.map .logged) = [] := by
  rw [commandsOf, runsOf_logged, List.map_nil]

structure StartsInTurn (commands : List (List String)) (operation : Traced Event fault α) :
    Prop where
  first : commandsOf operation.events <+: commands
  all : ∀ value, operation.outcome = .ok value → commandsOf operation.events = commands

namespace StartsInTurn

theorem of_none {operation : Traced Event fault α} (none : commandsOf operation.events = []) :
    StartsInTurn [] operation where
  first := none ▸ List.prefix_refl _
  all := fun _ _ => none

/-- What is refused before it starts a process may have been meant to start any. -/
theorem of_refused {operation : Traced Event fault α} {reason : fault}
    (none : commandsOf operation.events = []) (refused : operation.outcome = .error reason) :
    StartsInTurn commands operation where
  first := by
    rw [none]
    exact List.nil_prefix
  all := fun value done => by
    rw [refused] at done
    cases done

theorem refuse (reason : fault) :
    StartsInTurn commands (Traced.refuse reason : Traced Event fault α) :=
  of_refused rfl rfl

theorem reject (source : Log.Source) (text : String) (reason : Fault) :
    StartsInTurn commands (Signing.reject source text reason : Action α) :=
  of_refused (commandsOf_logged [_]) rfl

theorem pure (value : α) : StartsInTurn [] (pure value : Traced Event fault α) :=
  of_none rfl

theorem lift (operation : Logged α) : StartsInTurn [] (liftM operation : Action α) :=
  of_none (commandsOf_logged operation.events)

theorem bind {operation : Traced Event fault α} {next : α → Traced Event fault β}
    (starts : StartsInTurn commands operation)
    (rest : ∀ value, operation.outcome = .ok value → StartsInTurn later (next value)) :
    StartsInTurn (commands ++ later) (operation >>= next) := by
  cases outcome : operation.outcome with
  | error reason =>
    constructor
    · rw [Traced.events_bind_of_error outcome]
      exact starts.first.trans (List.prefix_append _ _)
    · intro value done
      rw [Traced.outcome_bind_of_error outcome] at done
      cases done
  | ok found =>
    have nextStarts := rest found outcome
    have allFirst := starts.all found outcome
    constructor
    · rw [Traced.events_bind_of_ok outcome, commandsOf_append, allFirst]
      exact (List.prefix_append_right_inj _).mpr nextStarts.first
    · intro value done
      rw [Traced.outcome_bind_of_ok outcome] at done
      rw [Traced.events_bind_of_ok outcome, commandsOf_append, allFirst, nextStarts.all value done]

theorem bind_none {operation : Traced Event fault α} {next : α → Traced Event fault β}
    (starts : StartsInTurn commands operation)
    (rest : ∀ value, operation.outcome = .ok value → StartsInTurn [] (next value)) :
    StartsInTurn commands (operation >>= next) := by
  have whole := starts.bind rest
  rw [List.append_nil] at whole
  exact whole

theorem none_bind {operation : Traced Event fault α} {next : α → Traced Event fault β}
    (starts : StartsInTurn [] operation)
    (rest : ∀ value, operation.outcome = .ok value → StartsInTurn commands (next value)) :
    StartsInTurn commands (operation >>= next) :=
  starts.bind rest

theorem recover {operation : Traced Event fault α} {handle : fault → Traced Event otherFault α}
    (starts : StartsInTurn commands operation)
    (refuses : ∀ reason, commandsOf (handle reason).events = [] ∧
      ∃ other, (handle reason).outcome = .error other) :
    StartsInTurn commands (operation.recover handle) := by
  cases outcome : operation.outcome with
  | ok value =>
    have kept : (operation.recover handle).events = operation.events := by
      rw [Traced.recover, outcome]
    constructor
    · rw [kept]
      exact starts.first
    · intro _ _
      rw [kept]
      exact starts.all value outcome
  | error reason =>
    obtain ⟨none, other, refused⟩ := refuses reason
    have kept : commandsOf (operation.recover handle).events = commandsOf operation.events := by
      rw [Traced.recover, outcome, commandsOf_append, none, List.append_nil]
    constructor
    · rw [kept]
      exact starts.first
    · intro value done
      rw [Traced.recover, outcome] at done
      rw [refused] at done
      cases done

theorem recover_reject {operation : Action α} (starts : StartsInTurn commands operation)
    (source : Log.Source) (text : Fault → String) (other : Fault → Fault) :
    StartsInTurn commands
      (operation.recover fun reason => Signing.reject source (text reason) (other reason)) :=
  starts.recover fun reason => ⟨commandsOf_logged [_], other reason, rfl⟩

end StartsInTurn

theorem startsInTurn_signPayload {signer : Signer} {payload : Bytes} {count : UInt64}
    (modulus : StartsInTurn commands (signer.answer .publicModulus))
    (signature : StartsInTurn later (signer.answer (.signature (signedBlob payload count)))) :
    StartsInTurn (commands ++ later) (signPayload signer payload count) := by
  have asked {request : Request} {started : List (List String)}
      (answers : StartsInTurn started (signer.answer request)) :
      StartsInTurn started (signer.ask request) :=
    StartsInTurn.none_bind (.of_none rfl) fun _ _ => answers
  rw [signPayload]
  refine ((asked modulus).recover_reject .signing _ fun _ => .signingFailed).bind fun found _ => ?_
  split
  · exact .reject _ _ _
  · refine ((asked signature).recover_reject .signing _ fun _ => .signingFailed).bind_none
      fun signed _ => ?_
    split
    · exact .reject _ _ _
    · exact StartsInTurn.none_bind (.lift _) fun _ _ => .of_none rfl

end Signing

theorem Assembly.startsInTurn_encode {assembly : Assembly} {payload : Bytes}
    {signer : Signing.Signer} {commands : List (List String)}
    (signs : Signing.StartsInTurn commands
      (Signing.signPayload signer payload assembly.monotonicCount)) :
    Signing.StartsInTurn commands (assembly.encode payload signer) := by
  obtain ⟨next, encode_eq, onlyLogs⟩ := exists_next_of_encode assembly payload signer
  rw [encode_eq]
  refine signs.bind_none fun certificate _ => .of_none ?_
  obtain ⟨records, logged⟩ := onlyLogs certificate
  rw [logged, List.nil_append]
  exact Signing.commandsOf_logged records

namespace Openssl

/-! ## The `openssl` program -/

open Signing

theorem Command.startsInTurn_run (command : Command) (arguments : List String) (input : Bytes) :
    StartsInTurn [arguments] (command.run arguments input) := by
  rw [Command.run]
  split
  · exact .reject _ _ _
  · next program _ =>
    dsimp only
    generalize (if program.readsInput arguments then input else []) = taken
    have started : StartsInTurn [arguments]
        (Traced.emit (.ran ⟨arguments, taken⟩) : Action Unit) :=
      ⟨List.prefix_refl _, fun _ _ => rfl⟩
    refine started.bind_none fun _ _ => ?_
    split
    · exact .reject _ _ _
    · split
      · exact .pure _
      · exact .reject _ _ _

namespace KeyFile

theorem startsInTurn_version (file : KeyFile) : StartsInTurn [versionArguments] file.version :=
  ((file.command.startsInTurn_run _ _).recover_reject _ _ id).bind_none fun _ _ => .pure _

theorem startsInTurn_publicModulus (file : KeyFile) :
    StartsInTurn [file.modulusArguments] (file.signer.answer .publicModulus) :=
  (file.command.startsInTurn_run _ _).bind_none fun _ _ => .lift _

theorem startsInTurn_signature (file : KeyFile) (data : Bytes) :
    StartsInTurn [file.signatureArguments] (file.signer.answer (.signature data)) :=
  (file.command.startsInTurn_run _ _).bind_none fun _ _ => .pure _

end KeyFile

end Openssl

theorem Rsa.SigningKey.startsInTurn_answer (key : SigningKey) (request : Signing.Request) :
    Signing.StartsInTurn [] (key.signer.answer request) := by
  cases request with
  | publicModulus => exact .pure _
  | signature data =>
    rw [signer]
    dsimp only
    split
    · exact .pure _
    · exact .reject _ _ _

end FirmwareCapsule
