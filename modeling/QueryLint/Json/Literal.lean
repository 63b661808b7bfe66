import QueryLint.Decimal.Layout
import QueryLint.Json.Basic
import QueryLint.Json.Fault

/-!
# Strings, numbers and words of JSON texts

Readers of the parts of a JSON text that hold no others. Each takes the rest of the text and gives
what it read with the rest after it, or the fault where reading stopped. Running over digits and
characters is structural recursion on the rest.
-/

namespace QueryLint.Json

/-- The result of reading: what was read with the rest of the text, or a fault. -/
abbrev Reading := Except Fault

/-- The four characters that may stand between the parts of a text. -/
def isSpace (c : Char) : Bool :=
  c = ' ' || c = '\n' || c = '\t' || c = '\r'

/-- The text after its leading blanks. -/
def skipSpaces (text : List Char) : List Char :=
  text.dropWhile isSpace

/-- The value of a digit in base sixteen. -/
def hexValue? (c : Char) : Option Nat :=
  if c.isDigit then some (c.toNat - 48)
  else if 'a' ≤ c && c ≤ 'f' then some (c.toNat - 87)
  else if 'A' ≤ c && c ≤ 'F' then some (c.toNat - 55)
  else none

/-- Four digits in base sixteen, four bytes being taken whatever they hold. -/
def readHex (text : List Char) : Reading (Nat × List Char) :=
  if Text.byteCount text < 4 then .error ⟨.endInString, 0⟩
  else match text with
    | a :: b :: c :: d :: rest =>
      match hexValue? a, hexValue? b, hexValue? c, hexValue? d with
      | some a, some b, some c, some d => .ok (((a * 16 + b) * 16 + c) * 16 + d, rest)
      | _, _, _, _ => .error ⟨.invalidEscape, Text.byteCount text - 4⟩
    | _ => .error ⟨.invalidEscape, Text.byteCount text - 4⟩

/-- The character after the `u` of an escape. A code unit of the upper half of a pair needs the
lower half in an escape of its own behind it. -/
def readUnicode (text : List Char) : Reading (Char × List Char) := do
  let (high, rest) ← readHex text
  if 0xDC00 ≤ high && high ≤ 0xDFFF then failBefore .loneSurrogate rest
  else if high < 0xD800 || 0xDBFF < high then .ok (Char.ofNat high, rest)
  else match rest with
    | [] => failBefore .endInString rest
    | '\\' :: afterSlash =>
      match afterSlash with
      | [] => failBefore .endInString afterSlash
      | 'u' :: digits =>
        let (low, rest) ← readHex digits
        if 0xDC00 ≤ low && low ≤ 0xDFFF then
          .ok (Char.ofNat (0x10000 + (high - 0xD800) * 0x400 + (low - 0xDC00)), rest)
        else failBefore .loneSurrogate rest
      | _ => failAt .endOfEscape afterSlash
    | _ => failAt .endOfEscape rest

/-- The character that a letter after a backslash stands for. -/
def simpleEscape? (c : Char) : Option Char :=
  match c with
  | '"' => some '"'
  | '\\' => some '\\'
  | '/' => some '/'
  | 'b' => some '\x08'
  | 'f' => some '\x0c'
  | 'n' => some '\n'
  | 'r' => some '\r'
  | 't' => some '\t'
  | _ => none

/-- The rest of a string after its opening quote; `fuel` bounds the number of its characters. -/
def readCharacters : Nat → List Char → Reading (List Char × List Char)
  | 0, text => failBefore .endInString text
  | _, [] => failBefore .endInString []
  | fuel + 1, c :: rest =>
    if c = '"' then .ok ([], rest)
    else if c = '\\' then
      match rest with
      | [] => failBefore .endInString rest
      | 'u' :: digits => do
        let (character, rest) ← readUnicode digits
        let (more, rest) ← readCharacters fuel rest
        .ok (character :: more, rest)
      | letter :: rest =>
        match simpleEscape? letter with
        | some character => do
          let (more, rest) ← readCharacters fuel rest
          .ok (character :: more, rest)
        | none => failBefore .invalidEscape rest
    else if c.toNat < 32 then failBefore .controlCharacter rest
    else do
      let (more, rest) ← readCharacters fuel rest
      .ok (c :: more, rest)

/-- A string whose opening quote was passed. -/
def readString (text : List Char) : Reading (String × List Char) := do
  let (characters, rest) ← readCharacters (text.length + 1) text
  .ok (String.ofList characters, rest)

/-- The given letters and nothing else. -/
def readWord : List Char → List Char → Reading (Unit × List Char)
  | [], text => .ok ((), text)
  | _ :: _, [] => failBefore .endInValue []
  | expected :: more, c :: rest =>
    if c = expected then readWord more rest else failAt .expectedIdent (c :: rest)

/-- The largest number of 64 bits. -/
def maxWord : Nat := 0xFFFFFFFFFFFFFFFF

/-- Reads digits into the significand as long as it fits into 64 bits. Gives the significand, the
number of digits read and the rest, which starts with a digit only if that digit did not fit. -/
def readDigits (significand count : Nat) : List Char → Nat × Nat × List Char
  | [] => (significand, count, [])
  | c :: rest =>
    if c.isDigit then
      let next := significand * 10 + (c.toNat - 48)
      if maxWord < next then (significand, count, c :: rest)
      else readDigits next (count + 1) rest
    else (significand, count, c :: rest)

/-- Whether the rest starts with a digit. -/
def startsWithDigit : List Char → Bool
  | c :: _ => c.isDigit
  | [] => false

/-- The floating-point number with the given parts, read right before the rest. -/
def floatOf (negative : Bool) (significand : Nat) (exponent : Int) (rest : List Char) :
    Reading (Json × List Char) :=
  match Decimal.Binary64.scaled? significand.toUInt64 exponent with
  | some x => .ok (.float (if negative then x.negate else x), rest)
  | none => failBefore .numberOutOfRange rest

/-- Reads the digits of an exponent as long as it fits into 31 bits. -/
def readExponentDigits (exponent : Nat) : List Char → Option (Nat × List Char) × List Char
  | [] => (some (exponent, []), [])
  | c :: rest =>
    if c.isDigit then
      let next := exponent * 10 + (c.toNat - 48)
      if 0x7FFFFFFF < next then (none, rest) else readExponentDigits next rest
    else (some (exponent, c :: rest), c :: rest)

/-- The number behind the letter of its exponent. -/
def readExponent (negative : Bool) (significand : Nat) (exponent : Int) (text : List Char) :
    Reading (Json × List Char) :=
  let (down, text) := match text with
    | '+' :: rest => (false, rest)
    | '-' :: rest => (true, rest)
    | _ => (false, text)
  match text with
  | [] => failBefore .endInValue []
  | c :: rest =>
    if !c.isDigit then failAt .invalidNumber text
    else match readExponentDigits (c.toNat - 48) rest with
      | (some (shift, rest), _) =>
        floatOf negative significand (if down then exponent - shift else exponent + shift) rest
      | (none, rest) =>
        if significand != 0 && !down then failBefore .numberOutOfRange rest
        else
          let x := Decimal.Binary64.zero
          .ok (.float (if negative then x.negate else x), rest.dropWhile Char.isDigit)

/-- The number behind its point, or behind the digits that did not fit. -/
def readFractionEnd (negative : Bool) (significand : Nat) (exponent : Int) (text : List Char) :
    Reading (Json × List Char) :=
  match text with
  | c :: rest =>
    if c = 'e' || c = 'E' then readExponent negative significand exponent rest
    else floatOf negative significand exponent text
  | [] => floatOf negative significand exponent text

/-- The number behind its point. -/
def readFraction (negative : Bool) (significand : Nat) (exponent : Int) (text : List Char) :
    Reading (Json × List Char) :=
  let (significand, count, rest) := readDigits significand 0 text
  if startsWithDigit rest then
    readFractionEnd negative significand (exponent - count) (rest.dropWhile Char.isDigit)
  else if count = 0 then
    match rest with
    | [] => failAt .endInValue rest
    | _ => failAt .invalidNumber rest
  else readFractionEnd negative significand (exponent - count) rest

/-- The number whose digits before the point were read; those that did not fit only count. -/
def readAfterInteger (negative : Bool) (significand : Nat) (text : List Char) : Reading (Json × List Char) :=
  if startsWithDigit text then
    let rest := text.dropWhile Char.isDigit
    let exponent := text.length - rest.length
    match rest with
    | '.' :: rest => readFraction negative significand exponent rest
    | _ => readFractionEnd negative significand exponent rest
  else match text with
    | '.' :: rest => readFraction negative significand 0 rest
    | 'e' :: rest => readExponent negative significand 0 rest
    | 'E' :: rest => readExponent negative significand 0 rest
    | _ =>
      if !negative then .ok (.integer significand, text)
      else if significand = 0 || 0x8000000000000000 < significand then
        .ok (.float (Decimal.Binary64.ofFloat significand.toUInt64.toFloat).negate, text)
      else .ok (.integer (-(significand : Int)), text)

/-- A number whose minus, if any, was passed. -/
def readNumber (negative : Bool) (text : List Char) : Reading (Json × List Char) :=
  match text with
  | [] => failBefore .endInValue []
  | '0' :: rest =>
    if startsWithDigit rest then failAt .invalidNumber rest
    else readAfterInteger negative 0 rest
  | c :: _ =>
    if c.isDigit then
      let (significand, _, rest) := readDigits 0 0 text
      readAfterInteger negative significand rest
    else failAt .invalidNumber text

end QueryLint.Json
