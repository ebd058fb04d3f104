import FirmwareCapsule.Text.Lines
import FirmwareCapsule.Text.Report
import FirmwareCapsule.Text.Terminal

namespace FirmwareCapsule

/-! Log records. An operation does not print: it returns its records, and
whoever runs it chooses the level from which on they are shown. -/

namespace Log

inductive Level where
  | error
  | warn
  | info
  | debug
deriving DecidableEq, Repr

def Level.name : Level → String
  | error => "ERROR"
  | warn => "WARN"
  | info => "INFO"
  | debug => "DEBUG"

def Level.rank : Level → Nat
  | error => 0
  | warn => 1
  | info => 2
  | debug => 3

def Level.isShown (level threshold : Level) : Bool :=
  level.rank ≤ threshold.rank

inductive Source where
  | envelope
  | management
  | authentication
  | certificate
  | assembly
  | signing
  | keySigner
  | opensslSigner
  | tool
deriving DecidableEq, Repr

def Source.target : Source → String
  | envelope => "patina_capsule::capsule_header"
  | management => "patina_capsule::fmp_header"
  | authentication => "patina_capsule::auth_header"
  | certificate => "patina_capsule::cert_block"
  | assembly => "patina_capsule::capsule"
  | signing => "patina_capsule::signing"
  | keySigner => "patina_capsule::signing::rsa_key"
  | opensslSigner => "patina_capsule::signing::openssl"
  | tool => "generate_capsule"

structure Record where
  level : Level
  source : Source
  text : String
deriving DecidableEq, Repr

/-- A record as it is printed. Its later lines are indented. A control sequence
that does not end takes the end of the last line with it. -/
def Record.print (record : Record) : String :=
  let lines := (Text.lines record.text.toList).map String.ofList
  Text.plain ("[" ++ Text.padded 5 record.level.name ++ " " ++ record.source.target ++ "] " ++
    String.intercalate "\n    " lines ++ "\n")

example : (Record.mk .info .tool "Using a\nb").print =
    "[INFO  generate_capsule] Using a\n    b\n" := by decide +kernel

end Log

end FirmwareCapsule
