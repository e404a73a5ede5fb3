import SearchLex.Token

/-! How many tokens of each category a token list holds. -/

namespace SearchLex

/-- Token numbers by category. -/
structure Counts where
  total : Nat := 0
  words : Nat := 0
  phrases : Nat := 0
  explicitOperators : Nat := 0
  implicitAnds : Nat := 0
  openings : Nat := 0
  closings : Nat := 0
  deriving DecidableEq, Repr

namespace Counts

def add (counts : Counts) (token : Token) : Counts :=
  let counts := { counts with total := counts.total + 1 }
  match token.kind with
  | .word => { counts with words := counts.words + 1 }
  | .phrase => { counts with phrases := counts.phrases + 1 }
  | .opening => { counts with openings := counts.openings + 1 }
  | .closing => { counts with closings := counts.closings + 1 }
  | .and | .or | .not =>
    if token.isImplicitAnd then { counts with implicitAnds := counts.implicitAnds + 1 }
    else { counts with explicitOperators := counts.explicitOperators + 1 }

def ofTokens (tokens : List PlacedToken) : Counts :=
  tokens.foldl (fun counts token => counts.add token.value) {}

def terms (counts : Counts) : Nat := counts.words + counts.phrases

/-- Opening minus closing parentheses; a balanced query has zero. -/
def balance (counts : Counts) : Int := (counts.openings : Int) - counts.closings

end Counts

end SearchLex
