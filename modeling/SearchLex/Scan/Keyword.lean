import SearchLex.Token

/-! Operator keywords, and what becomes of a keyword that breaks off. -/

namespace SearchLex

/-- The words that are operators. -/
inductive Keyword where
  | not
  | and
  | or
  deriving DecidableEq, Repr

namespace Keyword

def all : List Keyword := [.not, .and, .or]

def letters : Keyword → List Char
  | .not => ['N', 'O', 'T']
  | .and => ['A', 'N', 'D']
  | .or => ['O', 'R']

def text (keyword : Keyword) : String := String.ofList keyword.letters

def kind : Keyword → Kind
  | .not => .not
  | .and => .and
  | .or => .or

/-- The letter that follows a number of matched letters; none once the keyword is
complete. -/
def expects (keyword : Keyword) (matched : Nat) : Option Char := keyword.letters[matched]?

end Keyword

/-- What happens when letters that began like a keyword turn out to be a word. -/
inductive Fallback where
  /-- The breaking character goes on the word, and blanks held back before the keyword
  become an AND. -/
  | feedThrough
  /-- The breaking character and the blanks held back are dropped, and a keyword left
  open at the end of the query gives nothing. -/
  | legacy
  deriving DecidableEq, Repr

namespace Fallback

def name : Fallback → String
  | .feedThrough => "feed_through"
  | .legacy => "legacy"

end Fallback

end SearchLex
