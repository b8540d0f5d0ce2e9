import ServiceGen.Files.Tree
import ServiceGen.Generation.Artifact

/-!
Writing artifacts. A file that holds the text already is left alone, so that writing the same
artifacts again changes nothing. The first artifact that cannot be written ends the writing; those
before it stay.
-/
namespace ServiceGen

/-- What formats a file: it is told the edition of the language and the content, and answers the new
content if it succeeds. A failure leaves the file as it is. -/
abbrev Formatter := String → ByteArray → Option ByteArray

/-- Why an artifact cannot be written. -/
inductive WriteError where
  | createDirectory (path : String)
  | write (path : String)
  deriving Repr, DecidableEq

def WriteError.message : WriteError → String
  | .createDirectory path => "failed to create directory " ++ path
  | .write path => "failed to write " ++ path

namespace Writing

/-- What the formatter is told about the language of the files. -/
def edition : String := "--edition=2024"

def format (formatter : Formatter) (tree : FileTree) (path : String) : FileTree :=
  let formatted := (tree.content? path).bind (formatter edition)
  (formatted.bind (tree.write? path)).getD tree

def makeParent (tree : FileTree) (path : String) : FileTree × Except WriteError Unit :=
  match Files.parentPath? path with
  | none => (tree, .ok ())
  | some parent =>
    let (tree, made) := tree.makeDirectories parent
    (tree, if made then .ok () else .error (.createDirectory parent))

/-- Writes a text to the file of a path unless it is there already. -/
def writeText (formatter : Option Formatter) (tree : FileTree) (path text : String) :
    FileTree × Except WriteError Unit :=
  if tree.content? path == some text.toUTF8 then (tree, .ok ())
  else
    match tree.write? path text.toUTF8 with
    | none => (tree, .error (.write path))
    | some tree => ((formatter.map (format · tree path)).getD tree, .ok ())

/-- Writes an artifact below a directory. Answers the path of the file. -/
def writeArtifact (formatter : Option Formatter) (root : String) (tree : FileTree)
    (artifact : Artifact) : FileTree × Except WriteError String :=
  let path := Files.join root artifact.path
  match makeParent tree path with
  | (tree, .error cause) => (tree, .error cause)
  | (tree, .ok ()) =>
    match writeText formatter tree path artifact.text with
    | (tree, .error cause) => (tree, .error cause)
    | (tree, .ok ()) => (tree, .ok path)

/-- Writes artifacts below a directory. Answers the paths of all files, also of those that were left
alone. -/
def writeArtifacts (formatter : Option Formatter) (root : String) (tree : FileTree) :
    List Artifact → FileTree × Except WriteError (List String)
  | [] => (tree, .ok [])
  | artifact :: rest =>
    match writeArtifact formatter root tree artifact with
    | (tree, .error cause) => (tree, .error cause)
    | (tree, .ok path) =>
      match writeArtifacts formatter root tree rest with
      | (tree, .error cause) => (tree, .error cause)
      | (tree, .ok paths) => (tree, .ok (path :: paths))

end Writing

end ServiceGen
