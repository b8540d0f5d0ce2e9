import ServiceGen.Files.Path
import ServiceGen.Generation.Digest

/-!
Artifacts: the generated file of a package, which stands beside the source file.
-/
namespace ServiceGen

structure Artifact where
  /-- The path of the file, below the directory for all output. -/
  path : String
  package : String
  text : String
  deriving Repr, DecidableEq, Inhabited

namespace Artifact

def ending : String := ".gen.rs"

/-- The path of the file of a package whose source is in the given directory. -/
def outputPath (directory package : String) : String :=
  if directory.isEmpty then package ++ ending else Files.join directory (package ++ ending)

def of (directory package text : String) : Artifact :=
  ⟨outputPath directory package, package, text⟩

def checksum (artifact : Artifact) : String := Digest.ofText artifact.text

end Artifact

end ServiceGen
