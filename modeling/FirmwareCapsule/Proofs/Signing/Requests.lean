import FirmwareCapsule.Proofs.Signing

namespace FirmwareCapsule.Signing

/-! The requests of signing: first the modulus, and behind a suitable one a single
signature of the payload with its count. A certificate is made just if both are given and
have the right size, and nothing but a failure to sign is reported otherwise. -/

/-! ## Signed data -/

/-- The count is the last eight bytes, whatever the payload ends in. -/
theorem signedBlob_inj {payload otherPayload : Bytes} {count otherCount : UInt64} :
    signedBlob payload count = signedBlob otherPayload otherCount ↔
      payload = otherPayload ∧ count = otherCount := by
  constructor
  · intro equal
    have sameWidth :
        (Layout.word64.encode count).length = (Layout.word64.encode otherCount).length := by
      rw [Layout.length_encode, Layout.length_encode]
    rcases List.append_inj' equal sameWidth with ⟨payloads, counts⟩
    exact ⟨payloads, Layout.word64.encode_injective counts⟩
  · intro equal
    rw [equal.1, equal.2]

example : signedBlob [1, 2] 3 ≠ signedBlob [1] 0x302 := by decide

/-! ## Traces that end in a log -/

def EndsInLog (first events : List Event) : Prop :=
  ∃ records : List Log.Record, events = first ++ records.map .logged

def OnlyLogs {α : Type} (operation : Action α) : Prop :=
  EndsInLog [] operation.events

theorem onlyLogs_lift {α : Type} (operation : Logged α) :
    OnlyLogs (liftM operation : Action α) :=
  ⟨operation.events, rfl⟩

theorem onlyLogs_pure {α : Type} (value : α) : OnlyLogs (pure value : Action α) :=
  ⟨[], rfl⟩

theorem onlyLogs_ofExcept {α : Type} (outcome : Except Fault α) :
    OnlyLogs (Traced.ofExcept outcome : Action α) :=
  ⟨[], rfl⟩

theorem EndsInLog.append_left {first events : List Event} (ends : EndsInLog first events)
    (earlier : List Event) : EndsInLog (earlier ++ first) (earlier ++ events) := by
  rcases ends with ⟨records, rfl⟩
  exact ⟨records, (List.append_assoc _ _ _).symm⟩

theorem EndsInLog.bind {α β : Type} {first : List Event} {operation : Action α}
    {next : α → Action β} (ends : EndsInLog first operation.events)
    (rest : ∀ value, operation.outcome = .ok value → OnlyLogs (next value)) :
    EndsInLog first (operation >>= next).events := by
  rcases ends with ⟨records, ends⟩
  cases outcome : operation.outcome with
  | error fault => exact ⟨records, by rw [Traced.events_bind_of_error outcome, ends]⟩
  | ok value =>
      rcases rest value outcome with ⟨later, rest⟩
      refine ⟨records ++ later, ?_⟩
      rw [Traced.events_bind_of_ok outcome, ends, rest, List.map_append, List.nil_append,
        List.append_assoc]

theorem onlyLogs_lift_bind {α β : Type} (operation : Logged α) {next : α → Action β}
    (rest : ∀ value, OnlyLogs (next value)) :
    OnlyLogs ((liftM operation : Action α) >>= next) :=
  (onlyLogs_lift operation).bind fun value _ => rest value

theorem recover_of_ok {α : Type} {operation : Action α} {value : α}
    (done : operation.outcome = .ok value) (handle : Fault → Action α) :
    operation.recover handle = operation := by
  cases operation with
  | mk events outcome =>
      cases done
      rfl

theorem endsInLog_recover {α : Type} (operation : Action α) (text : Fault → String) :
    EndsInLog operation.events
      (operation.recover fun fault => reject .signing (text fault) .signingFailed).events := by
  cases outcome : operation.outcome with
  | ok value => exact ⟨[], by rw [recover_of_ok outcome, List.map_nil, List.append_nil]⟩
  | error fault =>
      refine ⟨[⟨.error, .signing, text fault⟩], ?_⟩
      rw [Traced.recover, outcome]
      rfl

/-! ## Requests -/

theorem events_ask (signer : Signer) (request : Request) :
    (signer.ask request).events = .asked request :: (signer.answer request).events :=
  Traced.events_bind_of_ok rfl _

def AsksForModulus (signer : Signer) (events : List Event) : Prop :=
  EndsInLog (signer.ask .publicModulus).events events

def AsksToSign (signer : Signer) (data : Bytes) (events : List Event) : Prop :=
  EndsInLog ((signer.ask .publicModulus).events ++ (signer.ask (.signature data)).events) events

variable {signer : Signer} {data otherData payload : Bytes} {count : UInt64}
  {events : List Event}

theorem AsksToSign.requestsOf_eq (asks : AsksToSign signer data events)
    (answers : ∀ request, requestsOf (signer.answer request).events = []) :
    requestsOf events = [.publicModulus, .signature data] := by
  rcases asks with ⟨records, rfl⟩
  have logged : requestsOf (records.map .logged) = [] := by
    apply List.filterMap_eq_nil_iff.mpr
    intro event member
    rcases List.mem_map.mp member with ⟨record, _, rfl⟩
    rfl
  have asked (request : Request) : requestsOf (signer.ask request).events = [request] := by
    rw [events_ask]
    exact congrArg (List.cons request) (answers request)
  have append (left right : List Event) :
      requestsOf (left ++ right) = requestsOf left ++ requestsOf right :=
    List.filterMap_append
  rw [append, append, asked, asked, logged]
  rfl

theorem AsksToSign.data_eq (asks : AsksToSign signer data events)
    (asksOther : AsksToSign signer otherData events) : data = otherData := by
  rcases asks with ⟨records, rfl⟩
  rcases asksOther with ⟨otherRecords, equal⟩
  rw [List.append_assoc, List.append_assoc, List.append_cancel_left_eq, events_ask, events_ask]
    at equal
  exact Request.signature.inj (Event.asked.inj (List.cons.inj equal).1)

theorem AsksForModulus.not_asksToSign (asks : AsksForModulus signer events) :
    ¬ AsksToSign signer data events := by
  intro asksToSign
  rcases asks with ⟨records, rfl⟩
  rcases asksToSign with ⟨otherRecords, equal⟩
  rw [List.append_assoc, List.append_cancel_left_eq, events_ask] at equal
  cases records with
  | nil => cases equal
  | cons record records => cases equal

/-- Any key but a suitable one ends it before a signature is asked for. -/
theorem asksForModulus_signPayload
    (unsuitable : ∀ modulus, (signer.answer .publicModulus).outcome = .ok modulus →
      normalizeModulus? modulus = none) :
    AsksForModulus signer (signPayload signer payload count).events := by
  rw [signPayload]
  apply (endsInLog_recover _ _).bind
  intro modulus given
  rw [Traced.outcome_recover_eq_ok_iff fun fault => ⟨.signingFailed, rfl⟩, outcome_ask] at given
  rw [unsuitable modulus given]
  exact onlyLogs_lift _

theorem asksToSign_signPayload {modulus : Bytes} {publicKey : Block 256}
    (given : (signer.answer .publicModulus).outcome = .ok modulus)
    (normalized : normalizeModulus? modulus = some publicKey) :
    AsksToSign signer (signedBlob payload count) (signPayload signer payload count).events := by
  have asked : (signer.ask .publicModulus).outcome = .ok modulus := by
    rw [outcome_ask, given]
  rw [signPayload, recover_of_ok asked, Traced.events_bind_of_ok asked, normalized]
  apply EndsInLog.append_left
  apply (endsInLog_recover _ _).bind
  intro signature _
  split
  · exact onlyLogs_lift _
  · exact onlyLogs_lift_bind _ fun _ => onlyLogs_ofExcept _

/-! ## Certificates -/

def Signer.HasSuitableModulus (signer : Signer) : Prop :=
  ∃ modulus, (signer.answer .publicModulus).outcome = .ok modulus ∧
    bigEndianValue modulus < 2 ^ 2048

structure SignsInTurn (signer : Signer) (payload : Bytes) (count : UInt64) : Prop where
  asksToSign : signer.HasSuitableModulus →
    AsksToSign signer (payload ++ littleEndian 8 count.toNat)
      (signPayload signer payload count).events
  asksForModulus : ¬ signer.HasSuitableModulus →
    AsksForModulus signer (signPayload signer payload count).events
  signed : ∀ certificate, (signPayload signer payload count).outcome = .ok certificate ↔
    ∃ modulus signature,
      (signer.answer .publicModulus).outcome = .ok modulus ∧
      bigEndianValue modulus < 2 ^ 2048 ∧
      (signer.answer (.signature (payload ++ littleEndian 8 count.toNat))).outcome =
        .ok signature ∧
      signature.length = 256 ∧
      certificate.hashType = Certificate.sha256HashType ∧
      certificate.publicKey.bytes = bigEndian 256 (bigEndianValue modulus) ∧
      certificate.signature.bytes = signature
  refused : ∀ fault, (signPayload signer payload count).outcome = .error fault →
    fault = .signingFailed

theorem signsInTurn (signer : Signer) (payload : Bytes) (count : UInt64) :
    SignsInTurn signer payload count where
  asksToSign := by
    rintro ⟨modulus, given, small⟩
    rcases exists_block_bigEndian 256 (bigEndianValue modulus) with ⟨key, key_eq⟩
    exact asksToSign_signPayload given (normalizeModulus?_eq_some_iff.mpr ⟨small, key_eq⟩)
  asksForModulus := by
    intro unsuitable
    apply asksForModulus_signPayload
    intro modulus given
    apply Option.eq_none_iff_forall_ne_some.mpr
    intro key normalized
    exact unsuitable ⟨modulus, given, (normalizeModulus?_eq_some_iff.mp normalized).1⟩
  signed := by
    intro certificate
    rw [outcome_signPayload_eq_ok_iff]
    simp only [normalizeModulus?_eq_some_iff]
    constructor
    · rintro ⟨hashType, ⟨modulus, given, small, publicKey⟩, signature⟩
      exact ⟨modulus, _, given, small, signature, certificate.signature.length_bytes, hashType,
        publicKey, rfl⟩
    · rintro ⟨modulus, signature, given, small, signatureGiven, _, hashType, publicKey, rfl⟩
      exact ⟨hashType, ⟨modulus, given, small, publicKey⟩, signatureGiven⟩
  refused := fun _ => eq_signingFailed_of_outcome_signPayload

end FirmwareCapsule.Signing
