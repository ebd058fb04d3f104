import FirmwareCapsule.Proofs.Assembly.Verification
import FirmwareCapsule.Proofs.Openssl.Conversation
import FirmwareCapsule.Proofs.Openssl.ModulusLine

namespace FirmwareCapsule

/-! The two ways to sign with one key. The `openssl` program prints a modulus with as few digits
as it takes, and what it prints is read in pairs of digits: both ways come to the same public key
just if the first byte of the modulus takes two digits. -/

namespace Text

theorem unitAt_of_lt {lead : UInt8} (narrow : lead < 0x80) (rest : Bytes) :
    unitAt lead rest = (.character (Char.ofNat lead.toNat), 0) := by
  unfold unitAt
  exact if_pos narrow

theorem ofUtf8Lossy_utf8 {text : List Char} (narrow : ∀ character ∈ text, character.toNat < 128) :
    ofUtf8Lossy (utf8 text) = text := by
  induction text with
  | nil =>
    rw [utf8, List.flatMap_nil, ofUtf8Lossy, utf8Units]
    rfl
  | cons character text induction =>
    have first := narrow character List.mem_cons_self
    have rest := induction fun other member => narrow other (List.mem_cons_of_mem _ member)
    have number : (UInt8.ofNat character.toNat).toNat = character.toNat := by
      rw [UInt8.toNat_ofNat']
      omega
    have below : UInt8.ofNat character.toNat < 0x80 := by
      rw [UInt8.lt_iff_toNat_lt, number]
      exact first
    rw [utf8, List.flatMap_cons, utf8EncodeChar_of_lt first, List.singleton_append, ofUtf8Lossy,
      utf8Units, unitAt_of_lt below, number, Char.ofNat_toNat]
    exact congrArg (List.cons character) rest

end Text

namespace Openssl

open Signing

/-! ## What is printed of a modulus -/

variable {number : Nat} {value : List Char} {modulus : Bytes}

/-- A modulus as `openssl rsa -modulus` prints it, without leading zeros. -/
def modulusReport (number : Nat) : List Char :=
  "Modulus=".toList ++ (Text.upperHex 1 number).toList ++ ['\n']

example : modulusReport 0x0C3FF = "Modulus=C3FF\n".toList := by decide

theorem toNat_lt_of_mem_modulusReport :
    ∀ character ∈ modulusReport number, character.toNat < 128 := by
  have nameNarrow : ("Modulus=".toList.all fun character => character.toNat < 128) = true := by
    decide
  intro character member
  rcases List.mem_append.mp member with line | ending
  · rcases List.mem_append.mp line with name | digit
    · exact of_decide_eq_true (List.all_eq_true.mp nameNarrow character name)
    · rcases Text.exists_hexDigit?_of_mem_upperHex character digit with ⟨_, found⟩
      exact Text.toNat_lt_of_hexDigit? found
  · rw [List.mem_singleton.mp ending]
    decide

theorem hasModulusLine_modulusReport :
    HasModulusLine (modulusReport number) (Text.upperHex 1 number).toList := by
  have digitSolid : ∀ character ∈ (Text.upperHex 1 number).toList,
      Text.isBlank character = false := by
    intro character member
    rcases Text.exists_hexDigit?_of_mem_upperHex character member with ⟨_, found⟩
    exact Text.isBlank_of_hexDigit? found
  have unbroken : '\n' ∉ "Modulus=".toList ++ (Text.upperHex 1 number).toList := by
    rw [List.mem_append, not_or]
    exact ⟨by decide, fun member => Bool.noConfusion (digitSolid _ member)⟩
  have isFirst : IsFirstLine (modulusReport number)
      ("Modulus=".toList ++ (Text.upperHex 1 number).toList) :=
    ⟨[], ['\n'], rfl, nofun, unbroken, .lineFeed []⟩
  have isLine : IsModulusLine ("Modulus=".toList ++ (Text.upperHex 1 number).toList)
      (Text.upperHex 1 number).toList :=
    ⟨"Modulus".toList, _, by simp, Text.isPadded_self _, Text.isPadded_self _⟩
  exact hasModulusLine_of_isFirstLine isFirst isLine (Text.isTrimmed_of_not_isBlank digitSolid)

theorem reportsModulus_modulusReport_iff :
    ReportsModulus (modulusReport number) modulus ↔
      Text.Spells (Text.upperHex 1 number).toList modulus := by
  constructor
  · rintro ⟨digits, hasLine, spells⟩
    have found := modulusValue?_eq_some_iff.mpr hasLine
    rw [modulusValue?_eq_some_iff.mpr hasModulusLine_modulusReport] at found
    exact Option.some.inj found ▸ spells
  · exact fun spells => ⟨_, hasModulusLine_modulusReport, spells⟩

/-! ## Moduli of 256 bytes -/

theorem spells_modulus (wide : 2 ^ 2044 ≤ number) (below : number < 2 ^ 2048) :
    Text.Spells (Text.upperHex 1 number).toList (bigEndian 256 number) := by
  have first : 16 * byteRange 255 = 2 ^ 2044 :=
    mul_byteRange_of_bits (by decide : 16 = 2 ^ 4) rfl
  have range : byteRange 256 = 2 ^ 2048 := byteRange_of_bits rfl
  rw [← first] at wide
  rw [← range] at below
  exact Text.spells_upperHex wide below

theorem not_spells_modulus (atLeast : 2 ^ 2040 ≤ number) (short : number < 2 ^ 2044) :
    ¬Text.Spells (Text.upperHex 1 number).toList modulus := by
  have first : 16 * byteRange 255 = 2 ^ 2044 :=
    mul_byteRange_of_bits (by decide : 16 = 2 ^ 4) rfl
  have least : byteRange 255 = 2 ^ 2040 := byteRange_of_bits rfl
  rw [← least] at atLeast
  rw [← first] at short
  exact Text.not_spells_upperHex atLeast short

theorem bigEndianValue_modulus (below : number < 2 ^ 2048) :
    bigEndianValue (bigEndian 256 number) = number := by
  have range : byteRange 256 = 2 ^ 2048 := byteRange_of_bits rfl
  rw [← range] at below
  rw [bigEndianValue_bigEndian, Nat.mod_eq_of_lt below]

/-! ## Agreement -/

namespace KeyFile

variable {file : KeyFile}

def Prints (file : KeyFile) (number : Nat) : Prop :=
  ∃ completion,
    file.command.Completes ["rsa", "-in", file.privateKey, "-modulus", "-noout"] [] completion ∧
    completion.exitCode = 0 ∧ completion.output = Text.utf8 (modulusReport number)

theorem derives_iff_of_prints (prints : file.Prints number) :
    file.Derives modulus ↔ Text.Spells (Text.upperHex 1 number).toList modulus := by
  rcases prints with ⟨completion, completes, code, output_eq⟩
  have text_eq : Text.ofUtf8Lossy completion.output = modulusReport number := by
    rw [output_eq, Text.ofUtf8Lossy_utf8 toNat_lt_of_mem_modulusReport]
  rw [← reportsModulus_modulusReport_iff, ← text_eq]
  constructor
  · rintro ⟨other, otherCompletes, -, reports⟩
    exact completes.unique otherCompletes ▸ reports
  · exact fun reports => ⟨completion, completes, code, reports⟩

/-- The modulus of a key file has this value, and behind every signature of 256 bytes it comes
to the public key that a key in memory with this modulus comes to. -/
structure AgreesOn (file : KeyFile) (number : Nat) : Prop where
  modulus : ∃ modulus, file.publicModulus.outcome = .ok modulus ∧ bigEndianValue modulus = number
  publicKey : ∀ (payload : Bytes) (count : UInt64) (signature : Block 256),
    (file.signature (signedBlob payload count)).outcome = .ok signature.bytes →
    ∃ certificate, (signPayload file.signer payload count).outcome = .ok certificate ∧
      certificate.signature = signature ∧
      bigEndianValue certificate.publicKey.bytes = number ∧
      ∀ key : Rsa.SigningKey, key.key.modulus = number →
        ∀ other, (signPayload key.signer payload count).outcome = .ok other →
          certificate.publicKey = other.publicKey

structure IsRefused (file : KeyFile) : Prop where
  modulus : file.publicModulus.outcome = .error .unusableKey
  signature : ∀ (payload : Bytes) (count : UInt64),
    (signPayload file.signer payload count).outcome = .error .signingFailed

theorem derives_of_wide (prints : file.Prints number) (wide : 2 ^ 2044 ≤ number)
    (below : number < 2 ^ 2048) : file.Derives (bigEndian 256 number) :=
  (derives_iff_of_prints prints).mpr (spells_modulus wide below)

theorem not_derives_of_short (prints : file.Prints number) (atLeast : 2 ^ 2040 ≤ number)
    (short : number < 2 ^ 2044) : ¬file.Derives modulus :=
  fun derives => not_spells_modulus atLeast short ((derives_iff_of_prints prints).mp derives)

theorem agreesOn_of_wide (prints : file.Prints number) (wide : 2 ^ 2044 ≤ number)
    (below : number < 2 ^ 2048) : file.AgreesOn number where
  modulus := ⟨_, outcome_publicModulus_eq_ok_iff.mpr (derives_of_wide prints wide below),
    bigEndianValue_modulus below⟩
  publicKey := by
    intro payload count signature signatureGiven
    have value_eq := bigEndianValue_modulus below
    rcases exists_block_bigEndian 256 number with ⟨publicKey, publicKey_eq⟩
    have publicKeyValue : bigEndianValue publicKey.bytes = number := by
      rw [publicKey_eq, value_eq]
    refine ⟨⟨Certificate.sha256HashType, publicKey, signature⟩,
      outcome_signPayload_eq_ok_iff.mpr ⟨rfl, ⟨_, derives_of_wide prints wide below, ?_, ?_⟩,
        outcome_signature_eq_ok_iff.mp signatureGiven⟩, rfl, publicKeyValue, ?_⟩
    · rw [value_eq]
      exact below
    · rw [value_eq]
      exact publicKey_eq
    · intro key key_eq other signed
      have otherValue := (Rsa.SigningKey.values_of_outcome_signPayload signed).1
      apply Block.eq_of_bigEndianValue
      rw [publicKeyValue, otherValue, key_eq]

theorem isRefused_of_short (prints : file.Prints number) (atLeast : 2 ^ 2040 ≤ number)
    (short : number < 2 ^ 2044) : file.IsRefused where
  modulus := by
    have underived : ∀ modulus, ¬file.Derives modulus :=
      fun _ => not_derives_of_short prints atLeast short
    rcases prints with ⟨completion, completes, code, -⟩
    refine ((file.answers []).noModulus .unusableKey).mpr
      (.inr ⟨rfl, completion, completes, .inr ?_⟩)
    rintro ⟨modulus, reports⟩
    exact underived modulus ⟨completion, completes, code, reports⟩
  signature := by
    intro payload count
    cases outcome : (signPayload file.signer payload count).outcome with
    | error fault => rw [eq_signingFailed_of_outcome_signPayload outcome]
    | ok certificate =>
      rcases outcome_signPayload_eq_ok_iff.mp outcome with ⟨-, ⟨modulus, derives, -⟩, -⟩
      exact absurd derives (not_derives_of_short prints atLeast short)

/-! ## A modulus of 512 digits, and one of 511 -/

def reportingFile (number : Nat) : KeyFile where
  privateKey := "key.pem"
  command := {
    path := "openssl"
    program := some {
      readsInput := fun _ => true
      complete := fun arguments _ =>
        if arguments.head? = some "rsa" then ⟨Text.utf8 (modulusReport number), [], 0⟩
        else ⟨List.replicate 256 0x5A, [], 0⟩ } }

theorem completes_reportingFile (number : Nat) (arguments : List String) (input : Bytes) :
    (reportingFile number).command.Completes arguments input
      (if arguments.head? = some "rsa" then ⟨Text.utf8 (modulusReport number), [], 0⟩
        else ⟨List.replicate 256 0x5A, [], 0⟩) :=
  ⟨_, rfl, fun broken => Bool.noConfusion broken.1, rfl⟩

theorem prints_reportingFile (number : Nat) : (reportingFile number).Prints number :=
  ⟨_, completes_reportingFile number _ _, rfl, rfl⟩

theorem signs_reportingFile (number : Nat) (data : Bytes) :
    (reportingFile number).Signs data (List.replicate 256 0x5A) :=
  ⟨_, completes_reportingFile number _ _, rfl, rfl⟩

/-- A key that takes 256 bytes, although its modulus is below the 2042nd power of two. -/
def shortKey : Rsa.SigningKey where
  key := ⟨3 * (2 ^ 2040 + 1), 3, (2 ^ 2041 + 1) / 3, 3, 2 ^ 2040 + 1⟩
  consistent := by decide +kernel
  size_eq := by decide +kernel

/-- Of the moduli that take 256 bytes, those whose first byte takes two digits are agreed on,
and the others are refused. -/
theorem agreesOn_or_isRefused (prints : file.Prints number) (atLeast : 2 ^ 2040 ≤ number)
    (below : number < 2 ^ 2048) :
    (2 ^ 2044 ≤ number → file.AgreesOn number) ∧ (number < 2 ^ 2044 → file.IsRefused) :=
  ⟨fun wide => agreesOn_of_wide prints wide below,
    fun short => isRefused_of_short prints atLeast short⟩

/-- Both ways sign with the usual key, and come to one public key. -/
theorem agreesOn_usualKey :
    (reportingFile Assembly.usualKey.key.modulus).AgreesOn Assembly.usualKey.key.modulus ∧
      ∃ certificate other,
        (signPayload (reportingFile Assembly.usualKey.key.modulus).signer [] 0).outcome =
          .ok certificate ∧
        (signPayload Assembly.usualKey.signer [] 0).outcome = .ok other ∧
        certificate.publicKey = other.publicKey := by
  have agrees : (reportingFile Assembly.usualKey.key.modulus).AgreesOn
      Assembly.usualKey.key.modulus :=
    (agreesOn_or_isRefused (prints_reportingFile _) (by decide +kernel) (by decide +kernel)).1
      (by decide +kernel)
  have undone : Rsa.powerMod Assembly.usualKey.key.modulus
      (Assembly.usualKey.key.privatePower (Rsa.SigningKey.message [] 0))
      Assembly.usualKey.key.publicExponent = Rsa.SigningKey.message [] 0 := by
    decide +kernel
  rcases Rsa.SigningKey.exists_certificate_iff.mpr undone with ⟨other, otherSigned⟩
  have printed := signs_reportingFile Assembly.usualKey.key.modulus (signedBlob [] 0)
  rcases agrees.publicKey [] 0 ⟨List.replicate 256 0x5A, List.length_replicate⟩
    (outcome_signature_eq_ok_iff.mpr printed) with ⟨certificate, signed, -, -, same⟩
  exact ⟨agrees, certificate, other, signed, otherSigned, same _ rfl other otherSigned⟩

/-- What is printed of a modulus of 511 digits is not read. -/
theorem not_agreesOn_shortKey :
    (reportingFile shortKey.key.modulus).Prints shortKey.key.modulus ∧
      (reportingFile shortKey.key.modulus).publicModulus.outcome = .error .unusableKey ∧
      ¬(reportingFile shortKey.key.modulus).AgreesOn shortKey.key.modulus := by
  have prints := prints_reportingFile shortKey.key.modulus
  have refused := (isRefused_of_short prints (by decide +kernel) (by decide +kernel)).modulus
  refine ⟨prints, refused, ?_⟩
  intro agrees
  rcases agrees.modulus with ⟨modulus, given, -⟩
  rw [given] at refused
  cases refused

end KeyFile

end Openssl

end FirmwareCapsule
