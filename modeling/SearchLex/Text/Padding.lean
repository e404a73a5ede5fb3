/-! Texts filled up with spaces to a width in characters. -/

namespace SearchLex.Text

/-- The spaces a text lacks to a width. -/
def filler (width : Nat) (text : String) : String :=
  String.ofList (List.replicate (width - text.length) ' ')

def alignLeft (width : Nat) (text : String) : String := text ++ filler width text

def alignRight (width : Nat) (text : String) : String := filler width text ++ text

end SearchLex.Text
