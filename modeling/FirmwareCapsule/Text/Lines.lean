namespace FirmwareCapsule.Text

/-! Text in lines and in named values. -/

/-- The parts of a text between its line feeds. A line feed at the end leaves an
empty part behind it. -/
def lines (characters : List Char) : List (List Char) :=
  characters.splitOn '\n'

def splitAtEquals? (line : List Char) : Option (List Char × List Char) :=
  match line.dropWhile (· ≠ '=') with
  | _ :: value => some (line.takeWhile (· ≠ '='), value)
  | [] => none

example : lines ['a', '\n', 'b', '\n'] = [['a'], ['b'], []] := rfl
example : splitAtEquals? ['n', '=', 'v', '='] = some (['n'], ['v', '=']) := rfl

end FirmwareCapsule.Text
