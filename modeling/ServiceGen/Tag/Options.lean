/-!
The options of a tag: an ordered multimap. Keys keep the order of their first appearance, and the
values of a key keep the order in which they were given.
-/
namespace ServiceGen

/-- Options as entries of a key with its values. -/
structure Options where
  entries : List (String × List String)
  deriving Repr, DecidableEq, Inhabited

namespace Options

/-- The value recorded for an option that is given without one. -/
def flagValue : String := "true"

def empty : Options := ⟨[]⟩

/-- Adds values to the first entry of the key, or a new entry behind the others. -/
def addTo (key : String) (values : List String) :
    List (String × List String) → List (String × List String)
  | [] => [(key, values)]
  | (k, known) :: rest =>
    if k == key then (k, known ++ values) :: rest else (k, known) :: addTo key values rest

/-- Appends values to a key, which is created if it is not there yet. -/
def extend (options : Options) (key : String) (values : List String) : Options :=
  ⟨addTo key values options.entries⟩

/-- Options built from pairs in order, so that a repeated key is merged into its first entry. -/
def ofPairs (pairs : List (String × List String)) : Options :=
  pairs.foldl (fun options (key, values) => options.extend key values) empty

/-- Every value of a key, in the order given. -/
def getAll (options : Options) (key : String) : List String :=
  ((options.entries.find? (·.1 == key)).map Prod.snd).getD []

def get? (options : Options) (key : String) : Option String := (options.getAll key).head?

/-- The first value of a key, or the fallback. -/
def getOr (options : Options) (key fallback : String) : String :=
  (options.get? key).getD fallback

/-- Whether the key was given, with or without a value. -/
def has (options : Options) (key : String) : Bool := options.entries.any (·.1 == key)

def hasAny (options : Options) (keys : List String) : Bool := keys.any options.has

/-- Whether the key was given without a value, or with the value that stands for that. -/
def flag (options : Options) (key : String) : Bool := options.get? key == some flagValue

/-- The number of entries, which is the number of distinct keys. -/
def size (options : Options) : Nat := options.entries.length

def isEmpty (options : Options) : Bool := options.entries.isEmpty

end Options

end ServiceGen
