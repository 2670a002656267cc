import ChefDsl.Entries

/-! The files that a run can reach. They are entered by their path from the directory of the run, with single
slashes between the names on it, or by their path from the root. Of the directories above that of the run no
more is known than that they are there. Every file is entered once, so links are left out, and so are devices. -/

namespace ChefDsl.CommandLine

inductive Node where
  | file (content : ByteArray)
  | directory

abbrev Directory := Entries Node

/-- Why a file cannot be read or written. -/
inductive Problem where
  | missing
  | notDirectory
  | isDirectory
  | nameTooLong
  | invalidText
  | other (message : String)
deriving DecidableEq

def Problem.message : Problem → String
  | missing => "No such file or directory (os error 2)"
  | notDirectory => "Not a directory (os error 20)"
  | isDirectory => "Is a directory (os error 21)"
  | nameTooLong => "File name too long (os error 36)"
  | invalidText => "stream did not contain valid UTF-8"
  | other message => message

/-- What goes wrong with the input and the output of a run beyond what their paths say. The input can break off, and an
output file can refuse to be opened. A file or a stream that is open can still run out of room: then it takes the bytes
at the front and fails at the next one. -/
structure Disturbance where
  reading : Option Problem
  opening : Option Problem
  room : Option (Nat × Problem)

namespace Disturbance

def calm : Disturbance := ⟨none, none, none⟩

/-- What comes of writing to something that is open, and the bytes that it takes. -/
def take (disturbance : Disturbance) (bytes : ByteArray) : Except Problem Unit × ByteArray :=
  match disturbance.room with
  | some (size, problem) => if size < bytes.size then (.error problem, bytes.extract 0 size) else (.ok (), bytes)
  | none => (.ok (), bytes)

end Disturbance

namespace Directory

/-- The names on the way to a place, the last one first. The way begins in the directory of the run, or in the
root, whose name is empty. It can go up from the directory of the run, and then `..` is a name on it. -/
abbrev Place := List String

def key (place : Place) : String := "/".intercalate place.reverse

def node? (directory : Directory) : Place → Option Node
  | [] | [""] | ".." :: _ => some .directory
  | place => directory.lookup (key place)

/-- The place above. The root is above itself. -/
def above : Place → Place
  | [] => [".."]
  | [""] => [""]
  | ".." :: rest => ".." :: ".." :: rest
  | _ :: rest => rest

/-- The bytes that a name may have. -/
def longestName : Nat := 255

/-- The bytes that a path may have. -/
def longestPath : Nat := 4095

/-- Goes on by one name. Only a directory leads further. -/
def enter (directory : Directory) (place : Place) (name : String) : Except Problem Place :=
  match node? directory place with
  | none => .error .missing
  | some (.file _) => .error .notDirectory
  | some .directory =>
    if name = "." then .ok place
    else if name = ".." then .ok (above place)
    else if longestName < name.utf8ByteSize then .error .nameTooLong
    else .ok (name :: place)

def follow (directory : Directory) (place : Place) (names : List String) : Except Problem Place :=
  names.foldlM (enter directory) place

/-- A path taken apart. One that ends in a slash asks for a directory. -/
structure Path where
  start : Place
  names : List String
  slash : Bool

def Path.ofString (path : String) : Except Problem Path :=
  if path = "" then .error .missing
  else if longestPath < path.utf8ByteSize then .error .nameTooLong
  else
    let parts := (path.toList.splitOn '/').map String.ofList
    .ok ⟨if parts.head? = some "" then [""] else [], parts.filter (· != ""), parts.getLast? = some ""⟩

def read (directory : Directory) (path : String) : Except Problem ByteArray := do
  let path ← Path.ofString path
  let place ← follow directory path.start (path.names ++ if path.slash then ["."] else [])
  match node? directory place with
  | none => throw .missing
  | some .directory => throw .isDirectory
  | some (.file content) => return content

/-- Where a file can be written: in the place of another one, or in a directory that is there. A path that asks for a
directory is refused once the way up to its last name is clear, whatever that name stands for. -/
def destination (directory : Directory) (path : String) : Except Problem Place := do
  let path ← Path.ofString path
  let parent ← follow directory path.start path.names.dropLast
  let place ← enter directory parent (if path.slash then "." else path.names.getLast?.getD ".")
  match node? directory place with
  | some .directory => throw .isDirectory
  | _ => return place

/-- Writes a file, and gives the directory as it is afterwards in any case. Opening a file empties it, so all of its old
content is gone even if it does not take the new one. -/
def write (directory : Directory) (path : String) (content : ByteArray) (disturbance : Disturbance) :
    Except Problem Unit × Directory :=
  match directory.destination path, disturbance.opening with
  | .error problem, _ | .ok _, some problem => (.error problem, directory)
  | .ok place, none =>
    let (result, taken) := disturbance.take content
    (result, directory.put (key place) (.file taken))

end Directory
end ChefDsl.CommandLine
