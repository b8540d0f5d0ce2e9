import ServiceGen.Files.Path

/-!
The name of the package that a source file is for: the name of the file, or that of the directory
where the file stands for its whole directory.
-/
namespace ServiceGen.SourceUnit

open Files

def directoryName? (directory : Option (List Component)) : Option String := directory.bind fileName?

/-- The name that a file or its directory gives to the package, if one does. The files `lib` and
`main` of a directory `src` stand for the directory around it. -/
def ownName? (path directory : List Component) : Option String :=
  let name := ((fileName? path).map stem).getD ""
  let parent := parent? path
  if name == "mod" then directoryName? parent
  else if name == "lib" || name == "main" then
    if directoryName? parent == some "src" then
      directoryName? (parent.bind parent?) <|> fileName? directory
    else directoryName? parent
  else some name

/-- The name of the package of a file in a working directory. Dashes become underscores. -/
def packageName (path directory : List Component) : String :=
  let name := (ownName? path directory <|> fileName? directory).getD
    (((fileName? path).map stem).getD "")
  String.ofList (name.toList.map fun c => if c == '-' then '_' else c)

end ServiceGen.SourceUnit
