import FirmwareCapsule.Bytes.Basic

namespace FirmwareCapsule

/-! A working directory that holds files and no further directories, and the
paths by which files in it are read and written. A path can also lead to the
directories above. -/

inductive FileFault where
  | notFound
  | notADirectory
  | isADirectory
  | nameTooLong
  /-- The content of a text file is not well-formed UTF-8. -/
  | notText
  /-- Another reason, in the words of the system. -/
  | other (reason : String)
deriving DecidableEq, Repr

def FileFault.message : FileFault → String
  | notFound => "No such file or directory (os error 2)"
  | notADirectory => "Not a directory (os error 20)"
  | isADirectory => "Is a directory (os error 21)"
  | nameTooLong => "File name too long (os error 36)"
  | notText => "stream did not contain valid UTF-8"
  | other reason => reason

inductive Folder where
  /-- So many levels above the working directory, which is itself at level zero. -/
  | above (levels : Nat)
  | root
deriving DecidableEq

namespace Folder

def parent : Folder → Folder
  | above levels => above (levels + 1)
  | root => root

def pathTo (name : String) : Folder → String
  | above levels => String.join (List.replicate levels "../") ++ name
  | root => "/" ++ name

example : (above 0).pathTo "a" = "a" := rfl
example : (above 1).pathTo "a" = "../a" := by decide +kernel

end Folder

def longestName : Nat := 255

def longestPath : Nat := 4095

structure Path where
  start : Folder
  /-- What stands between the slashes, without what is empty. -/
  steps : List (List Char)
  /-- The path ends in a slash, and so asks for a directory. -/
  slashed : Bool
deriving DecidableEq

def Path.ofString (text : String) : Except FileFault Path :=
  let characters := text.toList
  if characters.isEmpty then
    .error .notFound
  else if text.utf8ByteSize > longestPath then
    .error .nameTooLong
  else
    .ok {
      start := if characters.head? = some '/' then .root else .above 0
      steps := (characters.splitOn '/').filter (!·.isEmpty)
      slashed := characters.getLast? = some '/' }

/-- The files of a working directory, by name. A file elsewhere goes by the
shortest path to it. Of two files of one name the first counts. -/
structure Directory where
  files : List (String × Bytes)

namespace Directory

def lookup? (directory : Directory) (name : String) : Option Bytes :=
  directory.files.lookup name

def contains (directory : Directory) (name : String) : Bool :=
  (directory.lookup? name).isSome

def insert (directory : Directory) (name : String) (content : Bytes) : Directory :=
  if directory.contains name then
    ⟨directory.files.map fun file => if file.1 = name then (name, content) else file⟩
  else
    ⟨directory.files ++ [(name, content)]⟩

theorem lookup_replaced (files : List (String × Bytes)) (name other : String)
    (content : Bytes) :
    (files.map fun file => if file.1 = name then (name, content) else file).lookup other =
      if other = name then (files.lookup name).map fun _ => content else files.lookup other := by
  induction files with
  | nil => simp
  | cons file rest induction =>
      obtain ⟨first, old⟩ := file
      by_cases same : first = name
      · subst same
        by_cases asked : other = first
        · subst asked
          simp
        · have different : (other == first) = false := by simpa using asked
          simpa [List.lookup_cons, different, asked] using induction
      · by_cases asked : other = name
        · subst asked
          have different : (other == first) = false := by simpa using Ne.symm same
          simpa [List.lookup_cons, same, different] using induction
        · cases found : other == first <;>
            simp_all [List.lookup_cons]

theorem lookup?_insert (directory : Directory) (name other : String) (content : Bytes) :
    (directory.insert name content).lookup? other =
      if other = name then some content else directory.lookup? other := by
  unfold insert
  split
  · rename_i present
    obtain ⟨old, found⟩ := Option.isSome_iff_exists.1 present
    have known : directory.files.lookup name = some old := found
    simp [lookup?, lookup_replaced, known]
  · rename_i absent
    have missing : directory.files.lookup name = none := by
      cases found : directory.files.lookup name with
      | none => rfl
      | some old => exact absurd (by simp [contains, lookup?, found]) absent
    by_cases asked : other = name
    · simp [lookup?, List.lookup_append, asked, missing]
    · have different : (other == name) = false := by simpa using asked
      simp [lookup?, List.lookup_append, asked, different, List.lookup_cons]

inductive Place where
  | folder (folder : Folder)
  | file (name : String)
deriving DecidableEq

def entry (folder : Folder) (name : List Char) : Except FileFault String :=
  let name := String.ofList name
  if name.utf8ByteSize > longestName then .error .nameTooLong else .ok (folder.pathTo name)

def step (directory : Directory) : Place → List Char → Except FileFault Place
  | .file _, _ => .error .notADirectory
  | .folder folder, ['.'] => .ok (.folder folder)
  | .folder folder, ['.', '.'] => .ok (.folder folder.parent)
  | .folder folder, name => do
      let name ← entry folder name
      if directory.contains name then return .file name else throw .notFound

def follow (directory : Directory) (start : Folder) (steps : List (List Char)) :
    Except FileFault Place :=
  steps.foldlM directory.step (.folder start)

def read (directory : Directory) (path : String) : Except FileFault Bytes := do
  let path ← Path.ofString path
  match ← directory.follow path.start path.steps with
  | .folder _ => throw .isADirectory
  | .file name =>
      if path.slashed then throw .notADirectory
      match directory.lookup? name with
      | some content => return content
      | none => throw .notFound

/-- The name of the file that is written at a path. Only the folder has to be
there, and that the last step asks for a directory is found before the step is
taken. -/
def destination (directory : Directory) (path : String) : Except FileFault String := do
  let path ← Path.ofString path
  match ← directory.follow path.start path.steps.dropLast, path.steps.getLast? with
  | .file _, _ => throw .notADirectory
  | .folder _, none => throw .isADirectory
  | .folder folder, some name =>
      if path.slashed || name = ['.'] || name = ['.', '.'] then throw .isADirectory
      entry folder name

def write (directory : Directory) (path : String) (content : Bytes) :
    Except FileFault Directory := do
  let name ← directory.destination path
  return directory.insert name content

end Directory

end FirmwareCapsule
