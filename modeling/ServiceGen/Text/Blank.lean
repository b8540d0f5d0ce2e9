/-!
White space, and the ways in which a line is cut at it. A line is trimmed at both ends, and its
words are the maximal runs without white space.
-/
namespace ServiceGen.Text

/-- Whether the character has the Unicode property `White_Space`. -/
def isBlank (c : Char) : Bool :=
  (0x09 ≤ c.toNat && c.toNat ≤ 0x0d) || c == ' ' || c.toNat == 0x85 || c.toNat == 0xa0 ||
    c.toNat == 0x1680 || (0x2000 ≤ c.toNat && c.toNat ≤ 0x200a) || c.toNat == 0x2028 ||
    c.toNat == 0x2029 || c.toNat == 0x202f || c.toNat == 0x205f || c.toNat == 0x3000

def trimStart (cs : List Char) : List Char := cs.dropWhile isBlank

def trimEnd (cs : List Char) : List Char := (cs.reverse.dropWhile isBlank).reverse

def trim (cs : List Char) : List Char := trimEnd (trimStart cs)

/-- Cuts a text, or any other sequence, at every character of the class. There is one more piece
than there are cuts, so even the empty text has a piece. -/
def pieces {α : Type} (cut : α → Bool) : List α → List (List α)
  | [] => [[]]
  | c :: cs =>
    if cut c then [] :: pieces cut cs
    else
      match pieces cut cs with
      | [] => [[c]]
      | piece :: rest => (c :: piece) :: rest

/-- The maximal runs of characters that are not blank. -/
def words (cs : List Char) : List (List Char) :=
  (pieces isBlank cs).filter (!·.isEmpty)

/-- Cuts a text at the first character of the class, if there is one. The character belongs to
neither side. -/
def cutAt (cut : Char → Bool) : List Char → Option (List Char × List Char)
  | [] => none
  | c :: cs =>
    if cut c then some ([], cs)
    else (cutAt cut cs).map fun (before, after) => (c :: before, after)

end ServiceGen.Text
