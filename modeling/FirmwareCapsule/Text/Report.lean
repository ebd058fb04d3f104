import FirmwareCapsule.Text.Digits

namespace FirmwareCapsule.Text

/-! Reports. A report on a header has one line for each field: the name, padded
to a column that is fixed for the header, and the value. -/

def padded (width : Nat) (text : String) : String :=
  text ++ String.ofList (List.replicate (width - text.length) ' ')

def field (width : Nat) (name value : String) : String :=
  padded width name ++ " = " ++ value ++ "\n"

example : field 5 "Size" "0010" = "Size  = 0010\n" := rfl

end FirmwareCapsule.Text
