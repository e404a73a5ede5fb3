import SearchLex.Span

/-! Tokens of a search expression: a kind and the query text behind it. A phrase keeps
its quotation marks, and an AND that was not written carries the blanks it stands for. -/

namespace SearchLex

/-- The closed set of token kinds. -/
inductive Kind where
  | opening
  | closing
  | and
  | or
  | not
  | word
  | phrase
  deriving DecidableEq, Repr

namespace Kind

/-- Every kind, in the order its names are listed. -/
def all : List Kind := [.opening, .closing, .and, .or, .not, .word, .phrase]

def name : Kind → String
  | .opening => "OPEN"
  | .closing => "CLOSE"
  | .and => "AND"
  | .or => "OR"
  | .not => "NOT"
  | .word => "WORD"
  | .phrase => "PHRASE"

def isOperator : Kind → Bool
  | .and | .or | .not => true
  | _ => false

/-- Words and phrases are the operands. -/
def isTerm : Kind → Bool
  | .word | .phrase => true
  | _ => false

def isParenthesis : Kind → Bool
  | .opening | .closing => true
  | _ => false

end Kind

/-- A token: its kind and its literal text. -/
structure Token where
  kind : Kind
  literal : String
  deriving DecidableEq, Repr

/-- A token with its place in the query. -/
abbrev PlacedToken := Spanned Token

namespace Token

/-- An AND that was inferred from blanks, not written. -/
def isImplicitAnd (token : Token) : Bool :=
  token.kind == .and && token.literal != "AND"

/-- A run of characters without the quotation marks around it. One quotation mark alone
does not enclose anything. -/
def unquoted : List Char → Option (List Char)
  | '"' :: rest => if rest.getLast? = some '"' then some rest.dropLast else none
  | _ => none

/-- The content of a phrase between its quotation marks. -/
def phraseText (token : Token) : Option String :=
  if token.kind = .phrase then (unquoted token.literal.toList).map String.ofList else none

/-- A token for display: its kind, then its literal in braces. -/
def text (token : Token) : String :=
  token.kind.name ++ "=>\x7b" ++ token.literal ++ "\x7d"

end Token

end SearchLex
