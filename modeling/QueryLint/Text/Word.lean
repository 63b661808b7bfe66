/-!
# Words of a line

A word is a maximal run of ASCII letters, digits and underscores; every other character, a letter
of another script included, stands between words. `occurrences` finds the words of a line that
spell a given keyword in any mixture of cases.
-/

namespace QueryLint.Text

/-- The characters that words are made of. -/
def isWordChar (c : Char) : Bool :=
  c.isAlphanum || c = '_'

/-- Whether two texts differ at most in the case of ASCII letters. -/
def sameLetters : List Char → List Char → Bool
  | [], [] => true
  | a :: as, b :: bs => a.toLower = b.toLower && sameLetters as bs
  | _, _ => false

/-- A word of a line: the number of characters before it and its text. -/
structure Word where
  start : Nat
  text : List Char
  deriving DecidableEq, Repr

/-- The word that a line starts with; empty when it starts with something else. -/
def leadingWord (line : List Char) : List Char :=
  line.takeWhile isWordChar

/-- The words of a line that spell the keyword, left to right. `inside` says whether the character
before the line is part of a word, `start` how many characters were passed. -/
def occurrencesFrom (keyword : List Char) (inside : Bool) (start : Nat) :
    List Char → List Word
  | [] => []
  | c :: rest =>
    let later := occurrencesFrom keyword (isWordChar c) (start + 1) rest
    let word := leadingWord (c :: rest)
    if !inside && sameLetters word keyword then ⟨start, word⟩ :: later else later

/-- The words of a line that spell the keyword, left to right. -/
def occurrences (keyword line : List Char) : List Word :=
  occurrencesFrom keyword false 0 line

end QueryLint.Text
