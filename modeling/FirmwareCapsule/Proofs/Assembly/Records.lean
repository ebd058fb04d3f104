import FirmwareCapsule.Openssl.Signer
import FirmwareCapsule.Proofs.Assembly
import FirmwareCapsule.Rsa.Signer

namespace FirmwareCapsule

/-! What is reported while a capsule is assembled. Each finished layer is reported on, from
the inside out, and the reports are those on the layers that are read from the capsule. -/

namespace Signing

/-! ## Records at the level of information -/

def infosOf (events : List Event) : List Log.Record :=
  (logOf events).filter fun record => record.level = .info

theorem infosOf_append (earlier later : List Event) :
    infosOf (earlier ++ later) = infosOf earlier ++ infosOf later := by
  rw [infosOf, logOf, List.filterMap_append, List.filter_append]
  rfl

theorem infosOf_lift {α : Type} (operation : Logged α) :
    infosOf (liftM operation : Action α).events =
      operation.events.filter fun record => record.level = .info := by
  change infosOf (operation.events.map .logged) = _
  rw [infosOf, logOf, List.filterMap_map]
  exact congrArg _ List.filterMap_some

def IsQuiet {α : Type} (operation : Action α) : Prop :=
  infosOf operation.events = []

def Signer.IsQuiet (signer : Signer) : Prop :=
  ∀ request, Signing.IsQuiet (signer.answer request)

theorem isQuiet_pure {α : Type} (value : α) : IsQuiet (pure value : Action α) := rfl

theorem isQuiet_ofExcept {α : Type} (outcome : Except Fault α) :
    IsQuiet (Traced.ofExcept outcome : Action α) := rfl

theorem isQuiet_asked (request : Request) : IsQuiet (Traced.emit (.asked request) : Action Unit) :=
  rfl

theorem isQuiet_ran (run : ProcessRun) : IsQuiet (Traced.emit (.ran run) : Action Unit) := rfl

theorem isQuiet_reject {α : Type} (source : Log.Source) (text : String) (fault : Fault) :
    IsQuiet (reject source text fault : Action α) := rfl

theorem IsQuiet.ite {α : Type} {condition : Prop} [Decidable condition] {left right : Action α}
    (leftQuiet : IsQuiet left) (rightQuiet : IsQuiet right) :
    IsQuiet (if condition then left else right) := by
  split
  · exact leftQuiet
  · exact rightQuiet

theorem infosOf_bind_of_ok {α β : Type} {operation : Action α} {value : α}
    (done : operation.outcome = .ok value) (next : α → Action β) :
    infosOf (operation >>= next).events =
      infosOf operation.events ++ infosOf (next value).events := by
  rw [Traced.events_bind_of_ok done, infosOf_append]

theorem infosOf_lift_bind_of_ok {α β : Type} {operation : Logged α} {value : α}
    (done : operation.outcome = .ok value) (next : α → Action β) :
    infosOf ((liftM operation : Action α) >>= next).events =
      (operation.events.filter fun record => record.level = .info) ++
        infosOf (next value).events := by
  have lifted : (liftM operation : Action α).outcome = .ok value := done
  rw [infosOf_bind_of_ok lifted, infosOf_lift]

theorem infosOf_lift_bind_of_error {α β : Type} {operation : Logged α} {fault : Fault}
    (refused : operation.outcome = .error fault) (next : α → Action β) :
    infosOf ((liftM operation : Action α) >>= next).events =
      operation.events.filter fun record => record.level = .info := by
  have lifted : (liftM operation : Action α).outcome = .error fault := refused
  rw [Traced.events_bind_of_error lifted, infosOf_lift]

theorem IsQuiet.bind {α β : Type} {operation : Action α} {next : α → Action β}
    (quiet : IsQuiet operation) (rest : ∀ value, IsQuiet (next value)) :
    IsQuiet (operation >>= next) := by
  unfold IsQuiet at quiet rest ⊢
  cases outcome : operation.outcome with
  | ok value => rw [infosOf_bind_of_ok outcome, quiet, rest, List.append_nil]
  | error fault => rw [Traced.events_bind_of_error outcome, quiet]

theorem IsQuiet.recover {α : Type} {operation : Action α} {handle : Fault → Action α}
    (quiet : IsQuiet operation) (rest : ∀ fault, IsQuiet (handle fault)) :
    IsQuiet (operation.recover handle) := by
  unfold IsQuiet at quiet rest ⊢
  rw [Traced.recover]
  cases operation.outcome with
  | ok value => exact quiet
  | error fault => exact (infosOf_append _ _).trans (by rw [quiet, rest, List.append_nil])

theorem Signer.IsQuiet.signPayload {signer : Signer} (quiet : signer.IsQuiet) (payload : Bytes)
    (count : UInt64) : Signing.IsQuiet (signPayload signer payload count) := by
  have asked (request : Request) : Signing.IsQuiet (signer.ask request) :=
    (isQuiet_asked request).bind fun _ => quiet request
  refine ((asked _).recover fun _ => isQuiet_reject _ _ _).bind fun modulus => ?_
  split
  · exact isQuiet_reject _ _ _
  refine ((asked _).recover fun _ => isQuiet_reject _ _ _).bind fun signature => ?_
  split
  · exact isQuiet_reject _ _ _
  · exact IsQuiet.bind (infosOf_lift _) fun _ => isQuiet_ofExcept _

end Signing

/-! ## Signers -/

theorem Rsa.SigningKey.isQuiet_signer (key : Rsa.SigningKey) : key.signer.IsQuiet := by
  intro request
  cases request with
  | publicModulus => exact Signing.isQuiet_pure _
  | signature data =>
      simp only [Rsa.SigningKey.signer]
      split
      · exact Signing.isQuiet_pure _
      · exact Signing.isQuiet_reject _ _ _

namespace Openssl

theorem Command.isQuiet_run (command : Command) (arguments : List String) (input : Bytes) :
    Signing.IsQuiet (command.run arguments input) := by
  rw [Command.run]
  split
  · exact Signing.isQuiet_reject _ _ _
  refine (Signing.isQuiet_ran _).bind fun _ => ?_
  exact (Signing.isQuiet_reject _ _ _).ite
    ((Signing.isQuiet_pure _).ite (Signing.isQuiet_reject _ _ _))

theorem KeyFile.isQuiet_signer (file : KeyFile) : file.signer.IsQuiet := by
  intro request
  cases request with
  | publicModulus =>
      refine (file.command.isQuiet_run _ _).bind fun completion => ?_
      have quiet : (readModulus (Text.ofUtf8Lossy completion.output)).events.filter
          (fun record => record.level = .info) = [] := by
        rw [readModulus]
        split
        · rfl
        split <;> rfl
      exact (Signing.infosOf_lift _).trans quiet
  | signature data =>
      exact (file.command.isQuiet_run _ _).bind fun _ => Signing.isQuiet_pure _

end Openssl

/-! ## Layers -/

theorem Envelope.infos_encode (envelope : Envelope) :
    (envelope.encode.events.filter fun record => record.level = .info) = [] := by
  rw [encode]
  split
  · rfl
  split
  · split <;> rfl
  split
  · split <;> rfl
  · split <;> rfl

theorem Management.Capsule.infos_encode (capsule : Capsule) :
    (capsule.encode.events.filter fun record => record.level = .info) = [] := by
  rw [encode]
  split
  · rfl
  cases written : capsule.items.mapM Item.encode with
  | error fault => rfl
  | ok items =>
      rw [Traced.events_bind_of_ok rfl]
      split <;> rfl

/-! ## Assembling -/

def Layers.records (layers : Layers) : List Log.Record :=
  [layers.image.report, layers.management.report, layers.envelope.report].map
    fun text => ⟨.info, .assembly, text⟩

namespace Assembly

variable {assembly : Assembly} {payload : Bytes} {signer : Signing.Signer}

def staged (assembly : Assembly) (certificate : Certificate) (payload : Bytes) :
    Management.Capsule :=
  ⟨0, [], [assembly.item certificate payload]⟩

inductive RefusedAt (assembly : Assembly) (payload : Bytes) (signer : Signing.Signer)
    (fault : Fault) : List Log.Record → Prop where
  | signing
      (refused : (Signing.signPayload signer payload assembly.monotonicCount).outcome =
        .error fault) :
      RefusedAt assembly payload signer fault []
  | management {certificate : Certificate}
      (signed : (Signing.signPayload signer payload assembly.monotonicCount).outcome =
        .ok certificate)
      (refused : (assembly.staged certificate payload).encode.outcome = .error fault) :
      RefusedAt assembly payload signer fault
        ((assembly.layers certificate payload).records.take 1)
  | envelope {certificate : Certificate}
      (signed : (Signing.signPayload signer payload assembly.monotonicCount).outcome =
        .ok certificate)
      (managed : (assembly.staged certificate payload).encode.outcome =
        .ok ((assembly.layers certificate payload).envelope.payload,
          (assembly.layers certificate payload).management))
      (refused : (assembly.layers certificate payload).envelope.encode.outcome = .error fault) :
      RefusedAt assembly payload signer fault
        ((assembly.layers certificate payload).records.take 2)

/-- A build that reports on the layers that are read from its capsule, and if it is refused,
on those that were finished before. -/
structure ReportsOnLayers (assembly : Assembly) (payload : Bytes) (signer : Signing.Signer) :
    Prop where
  built : ∀ bytes, (assembly.encode payload signer).outcome = .ok bytes →
    ∃ layers inner middle outer, (Layers.decode bytes).outcome = .ok layers ∧
      Signing.infosOf (assembly.encode payload signer).events = [inner, middle, outer] ∧
      layers.report = "========\n" ++ outer.text ++ "--------\n" ++ middle.text ++
        "--------\n" ++ inner.text ++ "========\n"
  refused : ∀ fault, (assembly.encode payload signer).outcome = .error fault →
    RefusedAt assembly payload signer fault
      (Signing.infosOf (assembly.encode payload signer).events)

theorem outcome_encode_staged (assembly : Assembly) (certificate : Certificate)
    (payload : Bytes) :
    (assembly.staged certificate payload).encode.outcome =
      if payload.length + 560 < UInt32.size then
        .ok ((assembly.layers certificate payload).envelope.payload,
          (assembly.layers certificate payload).management)
      else
        .error .payloadTooLarge := by
  split
  · rename_i fits
    exact (writable_item fits []).outcome_encode
  · rename_i large
    rw [← length_payload_item assembly certificate payload] at large
    exact Management.Capsule.outcome_encode_of_large rfl large

theorem infosOf_encode {certificate : Certificate} (quiet : signer.IsQuiet)
    (signed : (Signing.signPayload signer payload assembly.monotonicCount).outcome =
      .ok certificate) :
    Signing.infosOf (assembly.encode payload signer).events =
      (assembly.layers certificate payload).records.take
        (if payload.length + 560 < UInt32.size then
          if (assembly.layers certificate payload).envelope.encode.outcome.isOk then 3 else 2
        else 1) := by
  have staged : (Management.Capsule.empty.addPayload assembly.imageType
      (AuthenticatedImage.toBytes ⟨assembly.monotonicCount, certificate, payload⟩)
      assembly.hardwareInstance).outcome = .ok (assembly.staged certificate payload) := rfl
  have signing : Signing.infosOf
      (Signing.signPayload signer payload assembly.monotonicCount).events = [] :=
    quiet.signPayload payload assembly.monotonicCount
  have written := outcome_encode_staged assembly certificate payload
  have envelope_eq : assembly.envelope (assembly.layers certificate payload).envelope.payload =
      (assembly.layers certificate payload).envelope := rfl
  rw [encode, Signing.infosOf_bind_of_ok signed, signing, List.nil_append,
    Signing.infosOf_lift_bind_of_ok rfl, Signing.infosOf_lift_bind_of_ok rfl,
    Signing.infosOf_lift_bind_of_ok staged]
  split
  · rename_i fits
    rw [if_pos fits] at written
    rw [Signing.infosOf_lift_bind_of_ok written, Management.Capsule.infos_encode]
    dsimp only
    rw [Signing.infosOf_lift_bind_of_ok rfl]
    rw [envelope_eq]
    cases last : (assembly.layers certificate payload).envelope.encode.outcome with
    | error fault =>
        rw [Signing.infosOf_lift_bind_of_error last, Envelope.infos_encode]
        rfl
    | ok bytes =>
        rw [Signing.infosOf_lift_bind_of_ok last, Envelope.infos_encode]
        rfl
  · rename_i large
    rw [if_neg large] at written
    rw [Signing.infosOf_lift_bind_of_error written, Management.Capsule.infos_encode]
    rfl

theorem reportsOnLayers (assembly : Assembly) (payload : Bytes) {signer : Signing.Signer}
    (quiet : signer.IsQuiet) : ReportsOnLayers assembly payload signer where
  built := by
    intro bytes built
    rcases exists_layers_of_outcome_encode built with ⟨certificate, signed, accepted⟩
    have reported := infosOf_encode quiet signed
    rw [outcome_encode signed] at built
    split at built
    · rename_i fits
      rw [if_pos fits, built] at reported
      exact ⟨_, _, _, _, accepted, reported, rfl⟩
    · cases built
  refused := by
    intro fault refused
    cases signed : (Signing.signPayload signer payload assembly.monotonicCount).outcome with
    | error reason =>
        rw [encode, Traced.outcome_bind_of_error signed] at refused
        rw [encode, Traced.events_bind_of_error signed, quiet.signPayload]
        cases refused
        exact .signing signed
    | ok certificate =>
        have managed := outcome_encode_staged assembly certificate payload
        rw [infosOf_encode quiet signed]
        rw [outcome_encode signed] at refused
        split at refused
        · rename_i fits
          rw [if_pos fits] at managed
          rw [if_pos fits, refused]
          exact .envelope signed managed refused
        · rename_i large
          rw [if_neg large] at managed
          rw [if_neg large]
          cases refused
          exact .management signed managed

theorem reportsOnLayers_three_bytes :
    let signer := Signing.Signer.constant (.ok (Block.zero 256).bytes) (.ok (Block.zero 256).bytes)
    signer.IsQuiet ∧ ((ofImageType .zero).encode [7, 8, 9] signer).outcome.isOk ∧
      ReportsOnLayers (ofImageType .zero) [7, 8, 9] signer := by
  intro signer
  have quiet : signer.IsQuiet := by
    intro request
    cases request <;> rfl
  have signed : (Signing.signPayload signer [7, 8, 9] 0).outcome =
      .ok ⟨Certificate.sha256HashType, .zero 256, .zero 256⟩ :=
    Signing.outcome_signPayload_eq_ok_iff.mpr
      ⟨rfl, ⟨_, rfl, Signing.normalizeModulus?_bytes _⟩, rfl⟩
  have built : ((ofImageType .zero).encode [7, 8, 9] signer).outcome = _ :=
    outcome_encode_of_size signed (fun initiate => nomatch initiate)
      (by decide : 3 + 644 < UInt32.size)
  exact ⟨quiet, by rw [built]; rfl, reportsOnLayers (ofImageType .zero) [7, 8, 9] quiet⟩

end Assembly

end FirmwareCapsule
