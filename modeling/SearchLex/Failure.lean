import SearchLex.Limits
import SearchLex.Span

/-! The ways a query fails to tokenize. No token list comes with a failure. -/

namespace SearchLex

/-- Why a query has no token list. -/
inductive Failure where
  | illegalCharacter (character : Char) (position : Position)
  | unterminatedPhrase (start : Position)
  | queryTooLong (length : Nat)
  | tooManyTokens (count : Nat)
  deriving DecidableEq, Repr

namespace Failure

def message : Failure → String
  | .illegalCharacter character position =>
    "Illegal character '" ++ String.singleton character ++ "' at " ++ position.text
  | .unterminatedPhrase start => "Unterminated phrase starting at " ++ start.text
  | .queryTooLong length =>
    "Query too long: " ++ toString length ++ " characters (max " ++
      toString Limits.queryLength ++ ")"
  | .tooManyTokens count =>
    "Too many tokens: " ++ toString count ++ " (max " ++ toString Limits.tokenCount ++ ")"

/-- The part of the query a failure points at: the illegal character or the quotation
mark that is never matched. A broken limit points nowhere. -/
def span : Failure → Checked (Option Span)
  | .illegalCharacter character position => some <$> Span.single position character
  | .unterminatedPhrase start => some <$> Span.single start '"'
  | .queryTooLong _ | .tooManyTokens _ => .ok none

end Failure

end SearchLex
