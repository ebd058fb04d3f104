namespace FirmwareCapsule.CommandLine

/-! The options of the tool and the names by which they are given. -/

inductive Switch where
  | encode
  | dumpInfo
  | openssl
  | verbose
deriving DecidableEq, Repr

inductive Valued where
  | output
  | capsuleFlag
  | oemFlags
  | guid
  | hardwareInstance
  | monotonicCount
  | privateKey
deriving DecidableEq, Repr

inductive Keyword where
  | switch (name : Switch)
  | valued (name : Valued)
  | help
  | version
deriving DecidableEq, Repr

namespace Keyword

def longNames : List (String × Keyword) :=
  [("encode", switch .encode), ("dump-info", switch .dumpInfo), ("output", valued .output),
    ("capflag", valued .capsuleFlag), ("capoemflag", valued .oemFlags), ("guid", valued .guid),
    ("hardware-instance", valued .hardwareInstance),
    ("monotonic-count", valued .monotonicCount), ("private-key", valued .privateKey),
    ("openssl", switch .openssl), ("verbose", switch .verbose), ("help", help),
    ("version", version)]

def shortNames : List (Char × Keyword) :=
  [('e', switch .encode), ('o', valued .output), ('v', switch .verbose), ('h', help),
    ('V', version)]

def ofLong? (name : String) : Option Keyword :=
  longNames.lookup name

def ofShort? (name : Char) : Option Keyword :=
  shortNames.lookup name

end Keyword

def Valued.placeholder : Valued → String
  | output => "--output <OUTPUT>"
  | capsuleFlag => "--capflag <CAPSULE_FLAG>"
  | oemFlags => "--capoemflag <CAPSULE_OEM_FLAG>"
  | guid => "--guid <GUID>"
  | hardwareInstance => "--hardware-instance <HARDWARE_INSTANCE>"
  | monotonicCount => "--monotonic-count <MONOTONIC_COUNT>"
  | privateKey => "--private-key <PRIVATE_KEY>"

inductive CapsuleFlag where
  | persistAcrossReset
  | initiateReset
deriving DecidableEq, Repr

def CapsuleFlag.ofName? (name : String) : Option CapsuleFlag :=
  if name = "PersistAcrossReset" then some persistAcrossReset
  else if name = "InitiateReset" then some initiateReset
  else none

def helpLines : List String :=
  ["Generate a signed UEFI FMP capsule or display the contents of one.",
    "",
    "Usage: generate_capsule [OPTIONS] <--encode|--dump-info> <INPUT_FILE>",
    "",
    "Arguments:",
    "  <INPUT_FILE>  Input binary payload filename",
    "",
    "Options:",
    "  -e, --encode",
    "          Sign the input payload and wrap it in an FMP capsule",
    "      --dump-info",
    "          Display the headers of the input capsule",
    "  -o, --output <OUTPUT>",
    "          Output filename for the capsule",
    "      --capflag <CAPSULE_FLAG>",
    "          Capsule flag, may be given more than once [possible values: PersistAcrossReset, InitiateReset]",
    "      --capoemflag <CAPSULE_OEM_FLAG>",
    "          Capsule OEM flag, an integer between 0x0000 and 0xffff [default: 0]",
    "      --guid <GUID>",
    "          The FMP/ESRT GUID in registry format",
    "      --hardware-instance <HARDWARE_INSTANCE>",
    "          The 64-bit hardware instance [default: 0]",
    "      --monotonic-count <MONOTONIC_COUNT>",
    "          64-bit monotonic count value bound into the signature [default: 0]",
    "      --private-key <PRIVATE_KEY>",
    "          PEM file with the RSA-2048 private key used to sign the payload",
    "      --openssl",
    "          Sign with the openssl executable instead of in-process",
    "  -v, --verbose",
    "          Print informational messages, including the capsule headers",
    "  -h, --help",
    "          Print help",
    "  -V, --version",
    "          Print version"]

def helpText : String :=
  String.join (helpLines.map (· ++ "\n"))

def versionText : String :=
  "patina_capsule 1.0.0\n"

end FirmwareCapsule.CommandLine
