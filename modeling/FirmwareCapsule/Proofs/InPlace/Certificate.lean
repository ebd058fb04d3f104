import FirmwareCapsule.Proofs.InPlace.Guid
import FirmwareCapsule.Proofs.Safety.Image

namespace FirmwareCapsule.Certificate

/-! Certificate blocks at the front of a buffer. Every buffer that is long enough starts with
the form of exactly one block, and what follows it does not matter. The fields of a block fill
its form one behind the other, without a gap and without a refusal. -/

variable {certificate : Certificate} {hashType : Guid} {publicKey signature buffer : Bytes}

/-! ## Fields in place -/

def fields (certificate : Certificate) : List Bytes :=
  [certificate.hashType.bytes, certificate.publicKey.bytes, certificate.signature.bytes]

def fieldWrites (certificate : Certificate) : List (InPlace Unit) :=
  [certificate.hashType.write .littleEndian, .put certificate.publicKey.bytes,
    .put certificate.signature.bytes]

/-- The fields, written into a block of zeros. If one was refused, the next would be written
all the same. -/
def encodeInPlace (certificate : Certificate) : Cursor :=
  (InPlace.inTurn (certificate.fieldWrites.map .passOver)).leaves ⟨(Block.zero size).bytes, 0⟩

theorem flatten_fields (certificate : Certificate) :
    certificate.fields.flatten = certificate.encode := by
  rw [encode_eq]
  simp [fields]

theorem length_pos_of_mem_fields {field : Bytes} (member : field ∈ certificate.fields) :
    0 < field.length := by
  simp only [fields, List.mem_cons, List.not_mem_nil, or_false] at member
  rcases member with rfl | rfl | rfl
  · simp
  · simp [certificate.publicKey.length_bytes]
  · simp [certificate.signature.length_bytes]

theorem fieldWrites_eq (certificate : Certificate) :
    certificate.fieldWrites = certificate.fields.map .put := by
  rw [fieldWrites, Guid.write_eq_put]
  rfl

theorem run_fieldWrites (certificate : Certificate) (block : Block size) :
    (InPlace.inTurn certificate.fieldWrites).run ⟨block.bytes, 0⟩ =
      .ok () ⟨certificate.encode, size⟩ := by
  have filled : ∀ field ∈ certificate.fields, 0 < field.length :=
    fun _ => length_pos_of_mem_fields
  have sizes : certificate.fields.flatten.length = size := by
    rw [flatten_fields, length_encode]
  rw [fieldWrites_eq, InPlace.run_inTurn_put_of_sizes filled sizes, flatten_fields]

theorem encodeInPlace_eq (certificate : Certificate) :
    certificate.encodeInPlace = ⟨certificate.encode, size⟩ :=
  InPlace.leaves_of_ok (InPlace.run_inTurn_passOver (certificate.run_fieldWrites _))

/-! ## Blocks from their fields -/

theorem ofBytes?_of_wrongKey (hashType : Guid) (signature : Bytes)
    (wrong : publicKey.length ≠ 256) :
    ofBytes? hashType publicKey signature =
      .error (.certificateFieldSize publicKey.length) := by
  rw [ofBytes?, Block.ofBytes?_eq_none_iff.mpr wrong]

theorem ofBytes?_of_wrongSignature (hashType : Guid) (keySize : publicKey.length = 256)
    (wrong : signature.length ≠ 256) :
    ofBytes? hashType publicKey signature =
      .error (.certificateFieldSize signature.length) := by
  rw [ofBytes?, Block.ofBytes?, dif_pos keySize, Block.ofBytes?_eq_none_iff.mpr wrong]

theorem sizes_of_ofBytes? (built : ofBytes? hashType publicKey signature = .ok certificate) :
    publicKey.length = 256 ∧ signature.length = 256 := by
  by_cases keySize : publicKey.length = 256
  · by_cases signatureSize : signature.length = 256
    · exact ⟨keySize, signatureSize⟩
    · rw [ofBytes?_of_wrongSignature hashType keySize signatureSize] at built
      cases built
  · rw [ofBytes?_of_wrongKey hashType signature keySize] at built
    cases built

structure IsBuiltFrom (hashType : Guid) (publicKey signature : Bytes) : Prop where
  built_iff : (∃ certificate, ofBytes? hashType publicKey signature = .ok certificate) ↔
    publicKey.length = 256 ∧ signature.length = 256
  form : ∀ certificate, ofBytes? hashType publicKey signature = .ok certificate →
    certificate.encode = hashType.bytes ++ (publicKey ++ signature)
  wrongKey : publicKey.length ≠ 256 →
    ofBytes? hashType publicKey signature = .error (.certificateFieldSize publicKey.length)
  wrongSignature : publicKey.length = 256 → signature.length ≠ 256 →
    ofBytes? hashType publicKey signature = .error (.certificateFieldSize signature.length)

theorem isBuiltFrom (hashType : Guid) (publicKey signature : Bytes) :
    IsBuiltFrom hashType publicKey signature where
  built_iff := by
    constructor
    · rintro ⟨certificate, built⟩
      exact sizes_of_ofBytes? built
    · rintro ⟨keySize, signatureSize⟩
      exact ⟨_, ofBytes?_of_sizes hashType keySize signatureSize⟩
  form := by
    intro certificate built
    rcases sizes_of_ofBytes? built with ⟨keySize, signatureSize⟩
    cases (ofBytes?_of_sizes hashType keySize signatureSize).symm.trans built
    exact encode_eq _
  wrongKey := ofBytes?_of_wrongKey hashType signature
  wrongSignature := ofBytes?_of_wrongSignature hashType

/-- Of two wrong sizes, that of the key is reported. -/
example : ofBytes? .zero [0x01] [] = .error (.certificateFieldSize 1) := rfl

/-! ## Blocks at the front of a buffer -/

theorem outcome_decode_cases (buffer : Bytes) :
    (buffer.length < size ∧ (decode buffer).outcome = .error .certificateCutShort) ∨
    (size ≤ buffer.length ∧ ∃ certificate, (decode buffer).outcome = .ok certificate ∧
      certificate.encode = buffer.take size) := by
  by_cases long : size ≤ buffer.length
  · rcases exists_encode_append long with ⟨certificate, rest, rfl⟩
    refine .inr ⟨long, certificate, certificate.outcome_decode_encode_append rest, ?_⟩
    exact (List.take_left' certificate.length_encode).symm
  · have short := Nat.not_le.mp long
    exact .inl ⟨short, outcome_decode_of_length_lt short⟩

structure IsReadFrom (buffer : Bytes) : Prop where
  refused_iff : (decode buffer).outcome = .error .certificateCutShort ↔ buffer.length < size
  read : size ≤ buffer.length → ∃ certificate, (decode buffer).outcome = .ok certificate ∧
    certificate.encode = buffer.take size ∧
      ∀ other : Certificate, other.encode = buffer.take size → other = certificate
  /-- The key and the signature are never of a wrong size. -/
  sized : ∀ found, (decode buffer).outcome ≠ .error (.certificateFieldSize found)
  /-- Nor are they when they are cut out and their sizes are tried. -/
  checked : buffer.length < UInt64.size →
    checkedDecode buffer = Checked.ofLogged (decode buffer)

theorem isReadFrom (buffer : Bytes) : IsReadFrom buffer where
  refused_iff := by
    rcases outcome_decode_cases buffer with ⟨short, refused⟩ | ⟨long, certificate, read, _⟩
    · exact ⟨fun _ => short, fun _ => refused⟩
    · rw [read]
      exact ⟨nofun, fun short => absurd long (Nat.not_le.mpr short)⟩
  read := by
    intro long
    rcases outcome_decode_cases buffer with ⟨short, _⟩ | ⟨_, certificate, read, front⟩
    · exact absurd long (Nat.not_le.mpr short)
    · refine ⟨certificate, read, front, fun other same => ?_⟩
      exact layout.encode_injective (same.trans front.symm)
  sized := by
    intro found
    rcases outcome_decode_cases buffer with ⟨_, refused⟩ | ⟨_, certificate, read, _⟩
    · rw [refused]
      exact nofun
    · rw [read]
      exact nofun
  checked := checkedDecode_eq

structure IsReadBack (certificate : Certificate) : Prop where
  readBack : ∀ rest, (decode (certificate.encode ++ rest)).outcome = .ok certificate
  written : ∀ block : Block size, (InPlace.inTurn certificate.fieldWrites).run ⟨block.bytes, 0⟩ =
    .ok () ⟨certificate.encode, size⟩
  encoded : certificate.encodeInPlace = ⟨certificate.encode, size⟩

theorem isReadFrom_isReadBack_and_isBuiltFrom (buffer : Bytes) (certificate : Certificate)
    (hashType : Guid) (publicKey signature : Bytes) :
    IsReadFrom buffer ∧ IsReadBack certificate ∧ IsBuiltFrom hashType publicKey signature := by
  refine ⟨isReadFrom buffer, ?_, isBuiltFrom hashType publicKey signature⟩
  constructor
  case readBack => exact certificate.outcome_decode_encode_append
  case written => exact certificate.run_fieldWrites
  case encoded => exact certificate.encodeInPlace_eq

end FirmwareCapsule.Certificate
