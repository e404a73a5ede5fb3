import SearchLex.Proofs.Lexemes
import SearchLex.Proofs.Places
import SearchLex.Scan.Keyword

/-! A second lexer in two passes. The first cuts the query into lexemes, the second decides
from left to right which of them are operators and which blanks mean AND. -/

namespace SearchLex

/-- Keywords differ in their first letters. -/
theorem Keyword.eq_of_head {left right : Keyword}
    (same : left.letters.head? = right.letters.head?) : left = right := by
  cases left <;> cases right <;> simp [letters] at same ⊢

/-- A token as a piece of the query: its kind, the text before it and its own text. -/
structure Cut where
  kind : Kind
  before : List Char
  text : List Char
  deriving DecidableEq, Repr

namespace Cut

/-- The token of a cut. -/
def token (cut : Cut) : Token := ⟨cut.kind, String.ofList cut.text⟩

/-- The token of a cut with the span of its text. -/
def placed (cut : Cut) : PlacedToken := ⟨cut.token, .ofPiece cut.before cut.text⟩

end Cut

/-- What the lexemes so far mean for the next one. -/
inductive Context where
  | plain
  /-- Blanks that are an AND unless an operator follows. -/
  | pending (before blanks : List Char)
  /-- An operator keyword was the last lexeme. -/
  | operator
  deriving DecidableEq, Repr

namespace Context

/-- The AND that pending blanks turn into. -/
def release : Context → List Cut
  | .pending before blanks => [⟨.and, before, blanks⟩]
  | .plain | .operator => []

/-- Whether the last lexeme was blanks that may become an AND. -/
def isPending : Context → Bool
  | .pending .. => true
  | .plain | .operator => false

/-- The operator that letters spell. NOT is one anywhere, AND and OR only after pending
blanks. -/
def operator? (context : Context) (letters : List Char) : Option Keyword :=
  Keyword.all.find? fun keyword =>
    keyword.letters == letters && (keyword == .not || context.isPending)

/-- The tokens a lexeme adds and the context after it. Letters are an operator only if
they end the query or blanks follow them; AND and OR take the place of the pending
blanks. -/
def judge (context : Context) (before : List Char) (lexeme : Lexeme) (ends : Bool) :
    List Cut × Context :=
  match lexeme with
  | .opening => (context.release ++ [⟨.opening, before, lexeme.text⟩], .plain)
  | .closing => (context.release ++ [⟨.closing, before, lexeme.text⟩], .plain)
  | .quoted _ => (context.release ++ [⟨.phrase, before, lexeme.text⟩], .plain)
  | .blanks text => ([], if context = .operator then .plain else .pending before text)
  | .letters text =>
    match context.operator? text, ends with
    | some .not, true => (context.release ++ [⟨.not, before, text⟩], .operator)
    | some keyword, true => ([⟨keyword.kind, before, text⟩], .operator)
    | _, _ => (context.release ++ [⟨.word, before, text⟩], .plain)

theorem operator?_eq_some_iff {context : Context} {letters : List Char} {keyword : Keyword} :
    context.operator? letters = some keyword ↔
      letters = keyword.letters ∧ (keyword = .not ∨ context.isPending = true) := by
  constructor
  · intro found
    have holds := List.find?_some found
    simp only [Bool.and_eq_true, beq_iff_eq, Bool.or_eq_true] at holds
    exact ⟨holds.1.symm, holds.2⟩
  · rintro ⟨rfl, usable⟩
    cases keyword <;> simp [operator?, Keyword.all, Keyword.letters] at usable ⊢ <;> exact usable

/-- Which operator letters spell depends on the context only as far as blanks are pending. -/
theorem operator?_congr {left right : Context} (same : left.isPending = right.isPending)
    (letters : List Char) : left.operator? letters = right.operator? letters := by
  simp only [operator?, same]

/-- Letters that begin like a keyword which can stand here are that operator or none. -/
theorem operator?_of_head {context : Context} {keyword : Keyword} {ch : Char}
    (run : List Char) (begins : keyword.letters.head? = some ch)
    (usable : keyword = .not ∨ context.isPending = true) :
    context.operator? (ch :: run) = if ch :: run = keyword.letters then some keyword else none := by
  split
  · rename_i same
    exact operator?_eq_some_iff.mpr ⟨same, usable⟩
  · rename_i different
    apply Option.eq_none_iff_forall_ne_some.mpr
    intro other found
    have spelled := (operator?_eq_some_iff.mp found).1
    have head : other.letters.head? = some ch := by rw [← spelled]; rfl
    have same : other = keyword := Keyword.eq_of_head (head.trans begins.symm)
    rw [same] at spelled
    exact different spelled

/-- Letters that begin like no keyword which can stand here are none. -/
theorem operator?_eq_none {context : Context} {ch : Char} (run : List Char) (notNot : ch ≠ 'N')
    (others : context.isPending = true → ch ≠ 'O' ∧ ch ≠ 'A') :
    context.operator? (ch :: run) = none := by
  apply Option.eq_none_iff_forall_ne_some.mpr
  intro keyword found
  obtain ⟨spelled, usable⟩ := operator?_eq_some_iff.mp found
  cases keyword with
  | not =>
    cases spelled
    exact notNot rfl
  | and =>
    cases spelled
    exact (others (usable.resolve_left (by decide))).2 rfl
  | or =>
    cases spelled
    exact (others (usable.resolve_left (by decide))).1 rfl

/-- Letters are an operator, or they do not stand alone or spell none. -/
theorem operator_or_word (context : Context) (text : List Char) (ends : Bool) :
    (ends = true ∧ ∃ keyword, context.operator? text = some keyword) ∨
      (ends = true → context.operator? text = none) := by
  cases spelled : context.operator? text with
  | none => exact .inr fun _ => rfl
  | some keyword =>
    cases ends with
    | true => exact .inl ⟨rfl, keyword, rfl⟩
    | false => exact .inr nofun

/-- Letters that are no operator are a word. -/
theorem judge_word {context : Context} {text : List Char} (before : List Char) {ends : Bool}
    (plain : ends = true → context.operator? text = none) :
    context.judge before (.letters text) ends =
      (context.release ++ [⟨.word, before, text⟩], .plain) := by
  cases ends with
  | true => simp only [judge, plain rfl]
  | false => simp [judge]

/-- Letters that are an operator. -/
theorem judge_operator {context : Context} {text : List Char} {keyword : Keyword}
    (before : List Char) (spelled : context.operator? text = some keyword) :
    context.judge before (.letters text) true =
      ((if keyword = .not then context.release else []) ++ [⟨keyword.kind, before, text⟩],
        .operator) := by
  cases keyword <;> simp [judge, spelled, Keyword.kind]

end Context

namespace Lexeme

/-- Whether letters before these lexemes stand alone: nothing follows, or blanks do. -/
def endLetters : List Lexeme → Bool
  | [] | .blanks _ :: _ => true
  | _ => false

/-- The tokens of lexemes. Blanks that are still pending at the end give none. -/
def classify (context : Context) (before : List Char) : List Lexeme → List Cut
  | [] => []
  | lexeme :: rest =>
    let judged := context.judge before lexeme (endLetters rest)
    judged.1 ++ classify judged.2 (before ++ lexeme.text) rest

end Lexeme

namespace Reference

/-- The tokens of a query by way of its lexemes. -/
def lex (query : String) : Except Rejection (List Cut) :=
  (Lexeme.split [] none query.toList).map (Lexeme.classify .plain [])

/-- A query has tokens when it is the text of chained lexemes. -/
theorem lex_eq_ok_iff {query : String} {cuts : List Cut} :
    lex query = .ok cuts ↔ ∃ lexemes, Lexeme.join lexemes = query.toList ∧
      Lexeme.Chained none lexemes ∧ Lexeme.classify .plain [] lexemes = cuts := by
  constructor
  · intro found
    cases whole : Lexeme.split [] none query.toList with
    | error rejection => simp [lex, whole, Except.map] at found
    | ok lexemes =>
      obtain ⟨joined, chained⟩ := Lexeme.split_eq_ok_iff.mp whole
      exact ⟨lexemes, joined, chained, by simpa [lex, whole, Except.map] using found⟩
  · rintro ⟨lexemes, joined, chained, rfl⟩
    rw [lex, Lexeme.split_eq_ok_iff.mpr ⟨joined, chained⟩]
    rfl

theorem split_of_lex_error {query : String} {rejection : Rejection}
    (failed : lex query = .error rejection) :
    Lexeme.split [] none query.toList = .error rejection := by
  cases whole : Lexeme.split [] none query.toList with
  | error other => simpa [lex, whole, Except.map] using failed
  | ok lexemes => simp [lex, whole, Except.map] at failed

end Reference

end SearchLex
