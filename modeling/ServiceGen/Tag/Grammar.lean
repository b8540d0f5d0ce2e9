import ServiceGen.Tag.Basic
import ServiceGen.Text.Blank
import ServiceGen.Text.Quoted

/-!
The written form of tags. A tag is a word of segments between colons, followed by words that are
options: `key=v1,v2` or a bare key. A line is taken for a tag when it begins with lowercase letters
or digits, a colon, and one more of them; this keeps prose such as `Note: ...` out.
-/
namespace ServiceGen.Tag

open Text

inductive ParseError where
  /-- The line does not begin like a tag. -/
  | notATag (line : String)
  /-- The path of the tag holds an empty segment. -/
  | emptySegment (key : String)
  /-- An option begins with its equals sign. -/
  | emptyOptionKey (key word : String)
  deriving Repr, DecidableEq

def ParseError.message : ParseError → String
  | .notATag line => s!"not a tag: {Quoted.quote line}"
  | .emptySegment key => s!"empty segment in tag path {Quoted.quote key}"
  | .emptyOptionKey key word =>
    s!"option with empty key in tag {Quoted.quote key}: {Quoted.quote word}"

/-- The characters of a tool's name, and the first character after its colon. -/
def isToolChar (c : Char) : Bool := ('a' ≤ c && c ≤ 'z') || ('0' ≤ c && c ≤ '9')

/-- Whether a text begins with a tool's name, a colon and one more character of that class. -/
def beginsLikeTag (cs : List Char) : Bool :=
  !(cs.takeWhile isToolChar).isEmpty &&
    match cs.dropWhile isToolChar with
    | ':' :: c :: _ => isToolChar c
    | _ => false

/-- Whether a line has the shape of a tag. Blanks in front of it do not matter. -/
def isTag (line : String) : Bool := beginsLikeTag (trimStart line.toList)

/-- The options that a word of a tag adds: a key with the values between commas that are not empty,
or a bare key. A word that begins with its equals sign is refused. -/
def optionOfWord (word : List Char) : Option (String × List String) :=
  match cutAt (· == '=') word with
  | some ([], _) => none
  | some (key, values) =>
    some (String.ofList key,
      ((pieces (· == ',') values).filter (!·.isEmpty)).map String.ofList)
  | none => some (String.ofList word, [Options.flagValue])

def optionsOfWords (key : String) : List (List Char) → Options → Except ParseError Options
  | [], options => .ok options
  | word :: rest, options =>
    match optionOfWord word with
    | none => .error (.emptyOptionKey key (String.ofList word))
    | some (name, values) => optionsOfWords key rest (options.extend name values)

def parse (line : String) : Except ParseError Tag :=
  let body := trim line.toList
  if !beginsLikeTag body then .error (.notATag (String.ofList body))
  else
    match words body with
    | [] => .error (.notATag (String.ofList body))
    | key :: options =>
      let path := (pieces (· == ':') key).map String.ofList
      if path.any String.isEmpty then .error (.emptySegment (String.ofList key))
      else (optionsOfWords (String.ofList key) options .empty).map (Tag.mk path)

end ServiceGen.Tag
