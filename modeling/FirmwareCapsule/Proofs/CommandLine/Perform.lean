import FirmwareCapsule.CommandLine.Session
import FirmwareCapsule.Proofs.Openssl.Processes

namespace FirmwareCapsule.CommandLine

/-! Requests that are carried out: which processes they start, what they need to be done,
and how they fail. -/

open Signing (StartsInTurn)

variable {surroundings : Surroundings} {verbose : Bool} {key : KeyChoice}
  {signer : Signing.Signer} {product : Product} {failure : Failure}

/-! ## Steps -/

theorem outcome_ofAction_eq_ok_iff {α : Type} {toFailure : Fault → Failure}
    {action : Signing.Action α} {value : α} :
    (Step.ofAction toFailure action).outcome = .ok value ↔ action.outcome = .ok value :=
  Traced.outcome_recover_eq_ok_iff fun reason => ⟨toFailure reason, rfl⟩

theorem outcome_readInput_eq_ok_iff {path : String} {content : Bytes} :
    (readInput surroundings path).outcome = .ok content ↔
      surroundings.readFile path = .ok content := by
  rw [readInput, Traced.outcome_bind_of_ok rfl]
  cases surroundings.readFile path with
  | ok found =>
    constructor
    · exact fun same => congrArg Except.ok (Except.ok.inj same)
    · exact fun same => congrArg Except.ok (Except.ok.inj same)
  | error fault => exact ⟨nofun, nofun⟩

theorem exitCode_of_outcome_readInput {path : String}
    (refused : (readInput surroundings path).outcome = .error failure) : failure.exitCode = 1 := by
  rw [readInput, Traced.outcome_bind_of_ok rfl] at refused
  split at refused
  · cases refused
  · cases refused
    rfl

theorem exitCode_of_outcome_ofAction {α : Type} {toFailure : Fault → Failure}
    {action : Signing.Action α} (fails : ∀ fault, (toFailure fault).exitCode = 1)
    (refused : (Step.ofAction toFailure action).outcome = .error failure) :
    failure.exitCode = 1 := by
  rw [Step.ofAction, Traced.recover] at refused
  split at refused
  · cases refused
  · cases refused
    exact fails _

/-! ## Processes -/

def KeyChoice.probes (key : KeyChoice) (verbose : Bool) : List (List String) :=
  if key.useOpenssl && verbose then [["version"]] else []

def KeyChoice.signings (key : KeyChoice) : List (List String) :=
  if key.useOpenssl then
    [["rsa", "-in", key.path, "-modulus", "-noout"], ["dgst", "-sha256", "-sign", key.path]]
  else
    []

theorem startsInTurn_ofAction {α : Type} {commands : List (List String)}
    {action : Signing.Action α} (starts : StartsInTurn commands action)
    (toFailure : Fault → Failure) : StartsInTurn commands (Step.ofAction toFailure action) :=
  starts.recover fun reason => ⟨rfl, toFailure reason, rfl⟩

theorem startsInTurn_announce (text : String) : StartsInTurn [] (Step.announce text) :=
  .of_none rfl

theorem startsInTurn_readInput (surroundings : Surroundings) (path : String) :
    StartsInTurn [] (readInput surroundings path) := by
  refine (startsInTurn_announce _).none_bind fun _ _ => ?_
  split
  · exact .pure _
  · exact .refuse _

theorem startsInTurn_chooseSigner (surroundings : Surroundings) (verbose : Bool) (key : KeyChoice) :
    StartsInTurn (key.probes verbose) (chooseSigner surroundings verbose key) := by
  obtain ⟨path, useOpenssl⟩ := key
  cases useOpenssl with
  | false => exact (StartsInTurn.lift _).none_bind fun _ _ => .pure _
  | true =>
    cases verbose with
    | false => exact .pure _
    | true =>
      refine (Openssl.KeyFile.startsInTurn_version _).bind_none fun version _ => ?_
      exact (StartsInTurn.lift _).none_bind fun _ _ => .pure _

theorem startsInTurn_signPayload_of_chooseSigner
    (chosen : (chooseSigner surroundings verbose key).outcome = .ok signer) (payload : Bytes)
    (count : UInt64) : StartsInTurn key.signings (Signing.signPayload signer payload count) := by
  obtain ⟨path, useOpenssl⟩ := key
  cases useOpenssl with
  | false =>
    obtain ⟨signingKey, _, same⟩ := Traced.outcome_bind_eq_ok_iff.mp chosen
    cases same
    exact Signing.startsInTurn_signPayload (signingKey.startsInTurn_answer _)
      (signingKey.startsInTurn_answer _)
  | true =>
    have asked : ∃ file : Openssl.KeyFile, file.privateKey = path ∧ file.signer = signer := by
      cases verbose with
      | false => exact ⟨_, rfl, Except.ok.inj chosen⟩
      | true =>
        obtain ⟨version, _, chosen⟩ := Traced.outcome_bind_eq_ok_iff.mp chosen
        exact ⟨_, rfl, Except.ok.inj chosen⟩
    obtain ⟨file, rfl, rfl⟩ := asked
    exact Signing.startsInTurn_signPayload file.startsInTurn_publicModulus
      (file.startsInTurn_signature _)

theorem startsInTurn_perform_encode (inputFile output : String) (assembly : Assembly) :
    StartsInTurn (key.probes verbose ++ key.signings)
      ((Request.encode inputFile output key assembly).perform surroundings verbose) := by
  refine (startsInTurn_readInput _ _).none_bind fun payload _ => ?_
  refine (startsInTurn_ofAction (startsInTurn_chooseSigner _ _ _) _).bind fun signer chosen => ?_
  have signs := startsInTurn_signPayload_of_chooseSigner (outcome_ofAction_eq_ok_iff.mp chosen)
    payload assembly.monotonicCount
  have builds := Assembly.startsInTurn_encode signs
  refine (startsInTurn_ofAction builds _).bind_none fun capsule _ => ?_
  refine (startsInTurn_announce _).none_bind fun _ _ => ?_
  split
  · exact .refuse _
  · exact (startsInTurn_announce _).none_bind fun _ _ => .pure _

theorem startsInTurn_perform_dumpInfo (inputFile : String) :
    StartsInTurn [] ((Request.dumpInfo inputFile).perform surroundings verbose) := by
  refine (startsInTurn_readInput _ _).none_bind fun payload _ => ?_
  refine (startsInTurn_ofAction (.of_none (Signing.commandsOf_logged _)) _).none_bind fun _ _ => ?_
  exact (startsInTurn_announce _).none_bind fun _ _ => .pure _

/-! ## Outcomes -/

theorem outcome_perform_encode_eq_ok_iff {inputFile output : String} {assembly : Assembly} :
    ((Request.encode inputFile output key assembly).perform surroundings verbose).outcome =
        .ok product ↔
      ∃ payload signer capsule, surroundings.readFile inputFile = .ok payload ∧
        (chooseSigner surroundings verbose key).outcome = .ok signer ∧
        (assembly.encode payload signer).outcome = .ok capsule ∧
        surroundings.writeFault? output = none ∧ product = ⟨"", some (output, capsule)⟩ := by
  rw [Request.perform]
  constructor
  · intro done
    obtain ⟨payload, found, done⟩ := Traced.outcome_bind_eq_ok_iff.mp done
    obtain ⟨signer, chosen, done⟩ := Traced.outcome_bind_eq_ok_iff.mp done
    obtain ⟨capsule, built, done⟩ := Traced.outcome_bind_eq_ok_iff.mp done
    rw [Traced.outcome_bind_of_ok rfl] at done
    split at done
    · cases done
    · next writable =>
      exact ⟨payload, signer, capsule, outcome_readInput_eq_ok_iff.mp found,
        outcome_ofAction_eq_ok_iff.mp chosen, outcome_ofAction_eq_ok_iff.mp built, writable,
        (Except.ok.inj done).symm⟩
  · rintro ⟨payload, signer, capsule, found, chosen, built, writable, rfl⟩
    rw [Traced.outcome_bind_of_ok (outcome_readInput_eq_ok_iff.mpr found),
      Traced.outcome_bind_of_ok (outcome_ofAction_eq_ok_iff.mpr chosen),
      Traced.outcome_bind_of_ok (outcome_ofAction_eq_ok_iff.mpr built),
      Traced.outcome_bind_of_ok rfl, writable]
    rfl

theorem written_of_perform_dumpInfo {inputFile : String}
    (done : ((Request.dumpInfo inputFile).perform surroundings verbose).outcome = .ok product) :
    product.written = none := by
  obtain ⟨buffer, _, done⟩ := Traced.outcome_bind_eq_ok_iff.mp done
  obtain ⟨layers, _, done⟩ := Traced.outcome_bind_eq_ok_iff.mp done
  cases done
  rfl

theorem exitCode_of_outcome_perform {request : Request}
    (refused : (request.perform surroundings verbose).outcome = .error failure) :
    failure.exitCode = 1 := by
  cases request with
  | encode inputFile output key assembly =>
    rcases Traced.outcome_bind_eq_error_iff.mp refused with unread | ⟨payload, _, refused⟩
    · exact exitCode_of_outcome_readInput unread
    rcases Traced.outcome_bind_eq_error_iff.mp refused with unsigned | ⟨signer, _, refused⟩
    · exact exitCode_of_outcome_ofAction (fun _ => rfl) unsigned
    rcases Traced.outcome_bind_eq_error_iff.mp refused with unbuilt | ⟨capsule, _, refused⟩
    · exact exitCode_of_outcome_ofAction (fun _ => rfl) unbuilt
    rw [Traced.outcome_bind_of_ok rfl] at refused
    split at refused
    · cases refused
      rfl
    · cases refused
  | dumpInfo inputFile =>
    rcases Traced.outcome_bind_eq_error_iff.mp refused with unread | ⟨buffer, _, refused⟩
    · exact exitCode_of_outcome_readInput unread
    rcases Traced.outcome_bind_eq_error_iff.mp refused with undecoded | ⟨layers, _, refused⟩
    · exact exitCode_of_outcome_ofAction (fun _ => rfl) undecoded
    · cases refused

end FirmwareCapsule.CommandLine
