/-! The character classes of a search expression. All of them are ASCII: a query is
percent-decoded before it is read, so a blank is a space or a tab. -/

namespace SearchLex.Alphabet

/-- The characters a phrase may hold besides letters and digits. -/
def phraseSymbols : List Char := ['-', '.', '_', '~', ':', '@', '/', '$', '=']

/-- ASCII letters and digits make up words. -/
def isWord (ch : Char) : Bool := ch.isAlphanum

/-- What a phrase holds besides blanks and closing parentheses. -/
def isPhrase (ch : Char) : Bool := isWord ch || phraseSymbols.contains ch

/-- A space or a horizontal tab. -/
def isBlank (ch : Char) : Bool := ch == ' ' || ch == '\t'

/-- Everything that may stand between the quotation marks of a phrase. -/
def isQuoted (ch : Char) : Bool := isPhrase ch || isBlank ch || ch == ')'

end SearchLex.Alphabet
