import ServiceGen.Token.Basic

/-!
The text of tokens. Tokens are separated by one blank, except behind a punctuation character that
is joined to what follows. Braces keep a blank inside, parentheses and brackets do not.
-/
namespace ServiceGen.Token

/-- Whether the next token follows without a blank. -/
def isJoint : Token → Bool
  | .punct _ joint => joint
  | _ => false

mutual

def print : Token → String
  | .ident name => name
  | .punct char _ => char.toString
  | .literal text => text
  | .group .parenthesis inner => "(" ++ text inner ++ ")"
  | .group .bracket inner => "[" ++ text inner ++ "]"
  | .group .brace [] => "\x7b \x7d"
  | .group .brace inner => "\x7b " ++ text inner ++ " \x7d"

def text : List Token → String
  | [] => ""
  | [token] => print token
  | token :: next :: rest =>
    print token ++ (if isJoint token then "" else " ") ++ text (next :: rest)

end

end ServiceGen.Token
