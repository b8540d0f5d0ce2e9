import ServiceGen.Token.Basic
import ServiceGen.Token.Literal

/-!
Looking ahead: questions about the tokens that come next, none of which takes a token. A question
about an operator asks for its characters only, so that `:` is also answered yes before `::`; who
cares for the difference asks twice.
-/
namespace ServiceGen.Grammar.Ahead

/-- Whether the tokens begin with the joined characters of an operator. The last character may be
joined to what follows. -/
def beginsWith : List Char → List Located → Bool
  | [], _ => true
  | [c], .punct d _ _ :: _ => c == d
  | c :: cs, .punct d true _ :: rest => c == d && beginsWith cs rest
  | _, _ => false

def isOp (operator : String) (tokens : List Located) : Bool := beginsWith operator.toList tokens

def isWord (word : String) : List Located → Bool
  | .ident name _ :: _ => name == word
  | _ => false

/-- The words that are no identifiers. -/
def reserved : List String :=
  ["_", "abstract", "as", "async", "await", "become", "box", "break", "const", "continue", "crate",
    "do", "dyn", "else", "enum", "extern", "false", "final", "fn", "for", "if", "impl", "in",
    "let", "loop", "macro", "match", "mod", "move", "mut", "override", "priv", "pub", "ref",
    "return", "Self", "self", "static", "struct", "super", "trait", "true", "try", "type",
    "typeof", "unsafe", "unsized", "use", "virtual", "where", "while", "yield"]

def isIdent : List Located → Bool
  | .ident name _ :: _ => !reserved.contains name
  | _ => false

/-- Whether an identifier or a reserved word comes next. -/
def isAnyIdent : List Located → Bool
  | .ident .. :: _ => true
  | _ => false

/-- Whether the lone underscore comes next. -/
def isUnderscore (tokens : List Located) : Bool := isWord "_" tokens

def isLifetime : List Located → Bool
  | .punct '\'' true _ :: .ident .. :: _ => true
  | _ => false

def isNumber (text : String) : Bool := text.toList.head?.any Char.isDigit

/-- Whether a literal comes next. The truth values and negative numbers count as literals. -/
def isLiteral : List Located → Bool
  | .literal .. :: _ => true
  | .ident name _ :: _ => name == "true" || name == "false"
  | .punct '-' _ _ :: .literal text _ :: _ => isNumber text
  | _ => false

/-- Whether a literal of text comes next, plain or raw. -/
def isText : List Located → Bool
  | .literal text _ :: _ => text.toList.head?.any fun c => c == '"' || c == 'r'
  | _ => false

/-- Whether a number with a fractional point or an exponent comes next. -/
def isDecimal : List Located → Bool
  | .literal text _ :: _ => (Token.Literal.decimalLength text.toList).isSome && isNumber text
  | _ => false

def isInteger : List Located → Bool
  | .literal text position :: rest => isNumber text && !isDecimal (.literal text position :: rest)
  | _ => false

def isGroup (delimiter : Delimiter) : List Located → Bool
  | .group d _ _ _ :: _ => d == delimiter
  | _ => false

/-- What comes behind the next token, where a lifetime counts as one token. -/
def skip : List Located → List Located
  | .punct '\'' true _ :: .ident .. :: rest => rest
  | _ :: rest => rest
  | [] => []

/-- Whether one of the words comes next. -/
def isOneOf (words : List String) (tokens : List Located) : Bool := words.any (isWord · tokens)

/-- Whether the angle bracket that comes next opens generic parameters, rather than a qualified
path. -/
def opensGenerics (tokens : List Located) : Bool :=
  let second := skip tokens
  let third := skip second
  isOp "<" tokens &&
    (isOp ">" second || isOp "#" second || isWord "const" second ||
      ((isLifetime second || isIdent second) &&
        (isOp ">" third || isOp "," third || (isOp ":" third && !isOp "::" third) ||
          isOp "=" third)))

/-- Whether a call of a macro may come next. -/
def beginsCall (tokens : List Located) : Bool :=
  isIdent tokens || isOneOf ["self", "super", "crate"] tokens || isOp "::" tokens

end ServiceGen.Grammar.Ahead
