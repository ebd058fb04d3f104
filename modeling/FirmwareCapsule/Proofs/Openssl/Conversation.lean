import FirmwareCapsule.Proofs.Openssl.Modulus
import FirmwareCapsule.Proofs.Openssl.Processes

namespace FirmwareCapsule

/-! Signing with the `openssl` program as a conversation of two processes: the first one is
asked for the modulus, and the second one, behind a suitable modulus, for the signature. How a
process ends decides what is reported. -/

namespace Openssl

open Signing

variable {arguments : List String} {input data : Bytes} {fault : Fault}

namespace Program

variable {program : Program}

def taken (program : Program) (arguments : List String) (input : Bytes) : Bytes :=
  if program.readsInput arguments then input else []

/-- A program that reads none of an input that is more than a pipe holds. -/
def BreaksPipe (program : Program) (arguments : List String) (input : Bytes) : Prop :=
  program.readsInput arguments = false ∧ pipeCapacity < input.length

theorem breaksPipe_iff :
    (!program.readsInput arguments && input.length > pipeCapacity) = true ↔
      program.BreaksPipe arguments input := by
  rw [BreaksPipe, Bool.and_eq_true, Bool.not_eq_true', decide_eq_true_eq]

end Program

namespace Command

variable {command : Command} {completion : Completion}

def IsOutOfReach (command : Command) (arguments : List String) (input : Bytes) : Prop :=
  command.program = none ∨
    ∃ program, command.program = some program ∧ program.BreaksPipe arguments input

def Completes (command : Command) (arguments : List String) (input : Bytes)
    (completion : Completion) : Prop :=
  ∃ program, command.program = some program ∧ ¬program.BreaksPipe arguments input ∧
    program.complete arguments (program.taken arguments input) = completion

theorem Completes.unique {other : Completion}
    (completes : command.Completes arguments input completion)
    (completesOther : command.Completes arguments input other) : completion = other := by
  rcases completes with ⟨program, found, -, rfl⟩
  rcases completesOther with ⟨otherProgram, otherFound, -, rfl⟩
  rw [found] at otherFound
  cases otherFound
  rfl

theorem outcome_ran_bind {α : Type} (run : ProcessRun) (next : Unit → Action α) :
    (Traced.emit (.ran run) >>= next).outcome = (next ()).outcome :=
  Traced.outcome_bind_of_ok rfl next

theorem outcome_run_of_isOutOfReach (outOfReach : command.IsOutOfReach arguments input) :
    (command.run arguments input).outcome = .error .signingFailed := by
  rcases outOfReach with missing | ⟨program, found, broken⟩
  · rw [run, missing]
    rfl
  · rw [run, found]
    dsimp only
    rw [outcome_ran_bind, if_pos (Program.breaksPipe_iff.mpr broken)]
    rfl

theorem outcome_run_of_completes (completes : command.Completes arguments input completion) :
    (command.run arguments input).outcome =
      if completion.exitCode = 0 then .ok completion else .error .unusableKey := by
  rcases completes with ⟨program, found, passed, rfl⟩
  rw [run, found]
  dsimp only
  rw [outcome_ran_bind, if_neg (mt Program.breaksPipe_iff.mp passed), ← Program.taken]
  split
  · rfl
  · rfl

theorem isOutOfReach_or_completes (command : Command) (arguments : List String) (input : Bytes) :
    command.IsOutOfReach arguments input ∨
      ∃ completion, command.Completes arguments input completion := by
  cases found : command.program with
  | none => exact .inl (.inl found)
  | some program =>
    by_cases broken : program.BreaksPipe arguments input
    · exact .inl (.inr ⟨program, found, broken⟩)
    · exact .inr ⟨_, program, found, broken, rfl⟩

theorem outcome_run_eq_ok_iff :
    (command.run arguments input).outcome = .ok completion ↔
      command.Completes arguments input completion ∧ completion.exitCode = 0 := by
  constructor
  · intro done
    rcases command.isOutOfReach_or_completes arguments input with outOfReach | ⟨other, completes⟩
    · rw [outcome_run_of_isOutOfReach outOfReach] at done
      cases done
    · rw [outcome_run_of_completes completes] at done
      split at done
      · next code =>
        cases done
        exact ⟨completes, code⟩
      · cases done
  · rintro ⟨completes, code⟩
    rw [outcome_run_of_completes completes, if_pos code]

theorem outcome_run_eq_error_iff :
    (command.run arguments input).outcome = .error fault ↔
      fault = .signingFailed ∧ command.IsOutOfReach arguments input ∨
      fault = .unusableKey ∧
        ∃ completion, command.Completes arguments input completion ∧ completion.exitCode ≠ 0 := by
  constructor
  · intro refused
    rcases command.isOutOfReach_or_completes arguments input with outOfReach | ⟨other, completes⟩
    · rw [outcome_run_of_isOutOfReach outOfReach] at refused
      exact .inl ⟨(Except.error.inj refused).symm, outOfReach⟩
    · rw [outcome_run_of_completes completes] at refused
      split at refused
      · cases refused
      · next code => exact .inr ⟨(Except.error.inj refused).symm, other, completes, code⟩
  · rintro (⟨rfl, outOfReach⟩ | ⟨rfl, completion, completes, code⟩)
    · exact outcome_run_of_isOutOfReach outOfReach
    · rw [outcome_run_of_completes completes, if_neg code]

end Command

/-! ## Answers -/

namespace KeyFile

variable {file : KeyFile}

def Derives (file : KeyFile) (modulus : Bytes) : Prop :=
  ∃ completion,
    file.command.Completes ["rsa", "-in", file.privateKey, "-modulus", "-noout"] [] completion ∧
    completion.exitCode = 0 ∧ ReportsModulus (Text.ofUtf8Lossy completion.output) modulus

def Signs (file : KeyFile) (data signature : Bytes) : Prop :=
  ∃ completion,
    file.command.Completes ["dgst", "-sha256", "-sign", file.privateKey] data completion ∧
    completion.exitCode = 0 ∧ completion.output = signature

theorem outcome_publicModulus_eq_ok_iff {modulus : Bytes} :
    file.publicModulus.outcome = .ok modulus ↔ file.Derives modulus := by
  rw [publicModulus, Traced.outcome_bind_eq_ok_iff]
  constructor
  · rintro ⟨completion, done, read⟩
    rcases Command.outcome_run_eq_ok_iff.mp done with ⟨completes, code⟩
    exact ⟨completion, completes, code, outcome_readModulus_eq_ok_iff.mp read⟩
  · rintro ⟨completion, completes, code, reports⟩
    exact ⟨completion, Command.outcome_run_eq_ok_iff.mpr ⟨completes, code⟩,
      outcome_readModulus_eq_ok_iff.mpr reports⟩

theorem outcome_signature_eq_ok_iff {signature : Bytes} :
    (file.signature data).outcome = .ok signature ↔ file.Signs data signature := by
  rw [KeyFile.signature, Traced.outcome_bind_eq_ok_iff]
  constructor
  · rintro ⟨completion, done, printed⟩
    rcases Command.outcome_run_eq_ok_iff.mp done with ⟨completes, code⟩
    exact ⟨completion, completes, code, Except.ok.inj printed⟩
  · rintro ⟨completion, completes, code, rfl⟩
    exact ⟨completion, Command.outcome_run_eq_ok_iff.mpr ⟨completes, code⟩, rfl⟩

structure Answers (file : KeyFile) (data : Bytes) : Prop where
  modulus : ∀ modulus, file.publicModulus.outcome = .ok modulus ↔ file.Derives modulus
  noModulus : ∀ fault, file.publicModulus.outcome = .error fault ↔
    fault = .signingFailed ∧
      file.command.IsOutOfReach ["rsa", "-in", file.privateKey, "-modulus", "-noout"] [] ∨
    fault = .unusableKey ∧ ∃ completion,
      file.command.Completes ["rsa", "-in", file.privateKey, "-modulus", "-noout"] [] completion ∧
      (completion.exitCode ≠ 0 ∨
        ¬∃ modulus, ReportsModulus (Text.ofUtf8Lossy completion.output) modulus)
  signature : ∀ signature, (file.signature data).outcome = .ok signature ↔
    file.Signs data signature
  noSignature : ∀ fault, (file.signature data).outcome = .error fault ↔
    fault = .signingFailed ∧
      file.command.IsOutOfReach ["dgst", "-sha256", "-sign", file.privateKey] data ∨
    fault = .unusableKey ∧ ∃ completion,
      file.command.Completes ["dgst", "-sha256", "-sign", file.privateKey] data completion ∧
      completion.exitCode ≠ 0

theorem answers (file : KeyFile) (data : Bytes) : file.Answers data where
  modulus := fun _ => outcome_publicModulus_eq_ok_iff
  noModulus := by
    intro fault
    rw [publicModulus, Traced.outcome_bind_eq_error_iff]
    constructor
    · rintro (refused | ⟨completion, done, unread⟩)
      · rcases Command.outcome_run_eq_error_iff.mp refused with
          outOfReach | ⟨fault_eq, completion, completes, code⟩
        · exact .inl outOfReach
        · exact .inr ⟨fault_eq, completion, completes, .inl code⟩
      · rcases outcome_readModulus_eq_error_iff.mp unread with ⟨fault_eq, unreported⟩
        exact .inr ⟨fault_eq, completion, (Command.outcome_run_eq_ok_iff.mp done).1,
          .inr unreported⟩
    · rintro (outOfReach | ⟨fault_eq, completion, completes, unusable⟩)
      · exact .inl (Command.outcome_run_eq_error_iff.mpr (.inl outOfReach))
      · by_cases code : completion.exitCode = 0
        · have unreported := unusable.resolve_left (not_not_intro code)
          exact .inr ⟨completion, Command.outcome_run_eq_ok_iff.mpr ⟨completes, code⟩,
            outcome_readModulus_eq_error_iff.mpr ⟨fault_eq, unreported⟩⟩
        · exact .inl (Command.outcome_run_eq_error_iff.mpr
            (.inr ⟨fault_eq, completion, completes, code⟩))
  signature := fun _ => outcome_signature_eq_ok_iff
  noSignature := by
    intro fault
    rw [KeyFile.signature, Traced.outcome_bind_eq_error_iff, Command.outcome_run_eq_error_iff]
    constructor
    · rintro (refused | ⟨completion, _, printed⟩)
      · exact refused
      · cases printed
    · exact .inl

/-! ## Both processes -/

theorem outcome_signPayload_eq_ok_iff {payload : Bytes} {count : UInt64}
    {certificate : Certificate} :
    (signPayload file.signer payload count).outcome = .ok certificate ↔
      certificate.hashType = Certificate.sha256HashType ∧
      (∃ modulus, file.Derives modulus ∧ bigEndianValue modulus < 2 ^ 2048 ∧
        certificate.publicKey.bytes = bigEndian 256 (bigEndianValue modulus)) ∧
      file.Signs (signedBlob payload count) certificate.signature.bytes := by
  have modulusGiven (modulus : Bytes) :
      (file.signer.answer .publicModulus).outcome = .ok modulus ↔ file.Derives modulus :=
    outcome_publicModulus_eq_ok_iff
  have signatureGiven (signature : Bytes) :
      (file.signer.answer (.signature (signedBlob payload count))).outcome = .ok signature ↔
        file.Signs (signedBlob payload count) signature :=
    outcome_signature_eq_ok_iff
  simp only [Signing.outcome_signPayload_eq_ok_iff, normalizeModulus?_eq_some_iff, modulusGiven,
    signatureGiven]

end KeyFile

end Openssl

end FirmwareCapsule
