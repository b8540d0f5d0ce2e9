import ServiceGen.Tag.Options

/-!
Tags: a path of segments, the tool first, with options. `acme:workflow:signal name=stop` has the
path `acme`, `workflow`, `signal` and one option.
-/
namespace ServiceGen

structure Tag where
  /-- The segments of the path. -/
  path : List String
  options : Options
  deriving Repr, DecidableEq, Inhabited

namespace Tag

def ofPath (path : List String) : Tag := ⟨path, .empty⟩

/-- The first segment, which names the tool that the tag speaks to. -/
def tool (tag : Tag) : String := tag.path.head?.getD ""

def leaf (tag : Tag) : String := tag.path.getLast?.getD ""

def pathIs (tag : Tag) (segments : List String) : Bool := tag.path == segments

/-- Whether the path begins with the segments, each compared as a whole. -/
def pathStartsWith (tag : Tag) (segments : List String) : Bool := segments.isPrefixOf tag.path

/-- The path as it is written, without the options. -/
def text (tag : Tag) : String := String.intercalate ":" tag.path

end Tag

end ServiceGen
