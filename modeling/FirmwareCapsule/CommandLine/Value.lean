import FirmwareCapsule.Guid.Text

namespace FirmwareCapsule.CommandLine

/-! The values of options. -/

inductive ValueFault where
  /-- The text without blanks around it is not a number below `2 ^ 64`. -/
  | notAnInteger (trimmed : String)
  | notSixteenBits (value : String)
  | notAGuid (value : String) (fault : Guid.TextFault)
deriving DecidableEq, Repr

def ValueFault.message : ValueFault → String
  | notAnInteger trimmed => trimmed ++ " is not a valid integer value."
  | notSixteenBits value => value ++ " must be an integer in range 0x0..0xffff"
  | notAGuid value fault =>
      value ++ " is not a valid registry format GUID value: " ++ fault.message

def numberOfDigits? (base : Nat) (digit? : Char → Option Nat) (digits : List Char) :
    Option Nat :=
  if digits.isEmpty then none
  else (digits.mapM digit?).map fun values =>
    values.foldl (fun number value => base * number + value) 0

def numberWithSign? (base : Nat) (digit? : Char → Option Nat) : List Char → Option Nat
  | '+' :: digits => numberOfDigits? base digit? digits
  | digits => numberOfDigits? base digit? digits

/-- The number that a text without blanks around it spells: hexadecimal behind
`0x` or `0X`, and decimal otherwise. A sign comes behind the mark of the base. -/
def number? : List Char → Option Nat
  | '0' :: 'x' :: digits => numberWithSign? 16 Text.hexDigit? digits
  | '0' :: 'X' :: digits => numberWithSign? 16 Text.hexDigit? digits
  | digits => numberWithSign? 10 Text.decimalDigit? digits

def integer (value : String) : Except ValueFault UInt64 :=
  let trimmed := Text.trim value.toList
  match number? trimmed with
  | some number =>
      if number < UInt64.size then .ok (UInt64.ofNat number)
      else .error (.notAnInteger (String.ofList trimmed))
  | none => .error (.notAnInteger (String.ofList trimmed))

def sixteenBits (value : String) : Except ValueFault UInt16 := do
  let number ← integer value
  if number.toNat < UInt16.size then return UInt16.ofNat number.toNat
  else throw (.notSixteenBits value)

def guid (value : String) : Except ValueFault Guid :=
  match Guid.ofText? value with
  | .ok guid => .ok guid
  | .error fault => .error (.notAGuid value fault)

example : number? ['0', 'x', '+', '2', 'A'] = some 42 := rfl
example : number? ['-', '1'] = none := rfl

end FirmwareCapsule.CommandLine
