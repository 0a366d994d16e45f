import SealedPost.Text.ByteEscape
import SealedPost.Text.Surrogates

/-! # A directory of files

The directory in which a command runs holds files by name. A path names a file of it,
possibly after steps to the directory itself; every other path is refused with a reason. -/

namespace SealedPost.Command

/-- Why a file cannot be opened. -/
inductive FileFault where
  | unencodable (run : SurrogateRun)
  | embeddedNul
  | notFound (path : Text)
  | notDirectory (path : Text)
  | isDirectory (path : Text)
  | nameTooLong (path : Text)
deriving DecidableEq

/-- Holds for code points that no file name can have. -/
def isUnencodable (c : CodePoint) : Bool := c.isSurrogate && !c.isByteSurrogate

/-- The wording of each fault. -/
def FileFault.message : FileFault → Text
  | unencodable run => run.message
  | embeddedNul => "embedded null byte"
  | notFound path => "[Errno 2] No such file or directory: " ++ Text.quoted path
  | notDirectory path => "[Errno 20] Not a directory: " ++ Text.quoted path
  | isDirectory path => "[Errno 21] Is a directory: " ++ Text.quoted path
  | nameTooLong path => "[Errno 36] File name too long: " ++ Text.quoted path

/-- Files by the bytes of their names. -/
structure Directory where
  files : List (Bytes × Bytes)

/-- The bytes that a path stands for. -/
def pathBytes (path : Text) : Bytes := Utf8.encodeEscaped path

/-- The number of bytes from which on a path is too long. -/
def pathLimit : Nat := 4096

/-- The greatest number of bytes of a name. -/
def nameLimit : Nat := 255

namespace Directory

/-- A directory of files that are named by texts. -/
def ofList (files : List (Text × Bytes)) : Directory :=
  ⟨files.map fun file => (pathBytes file.1, file.2)⟩

/-- Puts a file under a name, in place of the one that is there. -/
def save (d : Directory) (name : Text) (content : Bytes) : Directory :=
  ⟨(pathBytes name, content) :: d.files⟩

/-- Holds for the steps of a path that lead nowhere: none and one to the directory itself. -/
def isIdle (step : Text) : Bool := step.isEmpty || step = Text.ofString "."

/-- What a path leads to whose first step is a name; only a directory has further steps. -/
def follow (d : Directory) (path name : Text) (more : List Text) : Except FileFault Bytes :=
  if (pathBytes name).length > nameLimit then .error (.nameTooLong path)
  else if path.head? = some (.char '/') then .error (.notFound path)
  else if name = Text.ofString ".." then
    .error (if more.all isIdle then .isDirectory path else .notFound path)
  else match d.files.lookup (pathBytes name) with
    | none => .error (.notFound path)
    | some content => if more.isEmpty then .ok content else .error (.notDirectory path)

/-- The content of the file that a path names. -/
def content (d : Directory) (path : Text) : Except FileFault Bytes :=
  match path.surrogateRun? isUnencodable with
  | some run => .error (.unencodable run)
  | none =>
    if .char '\x00' ∈ path then .error .embeddedNul
    else if path.isEmpty then .error (.notFound path)
    else if pathLimit ≤ (pathBytes path).length then .error (.nameTooLong path)
    else match (path.splitOn (.char '/')).dropWhile isIdle with
      | [] => .error (.isDirectory path)
      | name :: more => d.follow path name more

end Directory
end SealedPost.Command
