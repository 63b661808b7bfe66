import QueryLint.Json.Reader

/-!
# Passing over values

The values of members that nobody asked for are passed over without being built. Only their form is
checked: numbers may be of any size, escapes may name half of a pair, and containers may be nested
to any depth, because the open ones are kept on a stack.
-/

namespace QueryLint.Json

/-- An exponent behind its letter. -/
def skipExponent (text : List Char) : Reading (List Char) :=
  let text := match text with
    | '+' :: rest => rest
    | '-' :: rest => rest
    | _ => text
  match text with
  | c :: rest =>
    if c.isDigit then .ok (rest.dropWhile Char.isDigit) else failAt .invalidNumber text
  | [] => failBefore .invalidNumber []

/-- What may follow the digits of a number: an exponent or nothing. -/
def skipNumberEnd (text : List Char) : Reading (List Char) :=
  match text with
  | c :: rest => if c = 'e' || c = 'E' then skipExponent rest else .ok text
  | [] => .ok []

/-- What may follow the whole digits of a number: a point with digits, an exponent or nothing. -/
def skipFraction (text : List Char) : Reading (List Char) :=
  match text with
  | '.' :: rest =>
    if startsWithDigit rest then skipNumberEnd (rest.dropWhile Char.isDigit)
    else failAt .invalidNumber rest
  | _ => skipNumberEnd text

/-- A number whose minus, if any, was passed. -/
def skipNumber (text : List Char) : Reading (List Char) :=
  match text with
  | '0' :: rest => if startsWithDigit rest then failAt .invalidNumber rest else skipFraction rest
  | c :: rest =>
    if c.isDigit then skipFraction (rest.dropWhile Char.isDigit) else failAt .invalidNumber text
  | [] => failBefore .invalidNumber []

/-- The rest of a string after its opening quote. -/
def skipCharacters : Nat → List Char → Reading (List Char)
  | 0, text => failBefore .endInString text
  | _, [] => failBefore .endInString []
  | fuel + 1, c :: rest =>
    if c = '"' then .ok rest
    else if c = '\\' then
      match rest with
      | [] => failBefore .endInString rest
      | 'u' :: digits => do
        let (_, rest) ← readHex digits
        skipCharacters fuel rest
      | letter :: rest =>
        if (simpleEscape? letter).isSome then skipCharacters fuel rest
        else failBefore .invalidEscape rest
    else if c.toNat < 32 then failBefore .controlCharacter rest
    else skipCharacters fuel rest

/-- A string whose opening quote was passed. -/
def skipString (text : List Char) : Reading (List Char) :=
  skipCharacters (text.length + 1) text

/-- A container that is open while values are passed over. -/
inductive Frame
  | array
  | object
  deriving DecidableEq, Repr

/-- The bracket that closes a container. -/
def Frame.closing : Frame → Char
  | .array => ']'
  | .object => '\x7d'

/-- The name and the colon that stand before a value, where the container is an object. -/
def skipKey (frame : Frame) (text : List Char) : Reading (List Char) :=
  match frame with
  | .array => .ok text
  | .object =>
    match skipSpaces text with
    | [] => failAt .endInObject []
    | '"' :: rest => do
      let rest ← skipString rest
      match skipSpaces rest with
      | [] => failAt .endInObject []
      | ':' :: rest => .ok rest
      | other => failAt .expectedColon other
    | other => failAt .keyMustBeString other

/-- Closes containers as long as brackets follow, and stops where another value has to come. Gives
the containers that are still open; none are once the value that was passed over is complete. -/
def closeFrames (comma : Bool) : List Frame → List Char → Reading (List Frame × List Char)
  | [], text => .ok ([], text)
  | frame :: outer, text =>
    match skipSpaces text with
    | [] => failAt (match frame with | .array => .endInList | .object => .endInObject) []
    | c :: rest =>
      if c = ',' && comma then do
        let rest ← skipKey frame rest
        .ok (frame :: outer, rest)
      else if c = frame.closing then closeFrames true outer rest
      else if comma then
        failAt (match frame with
          | .array => .expectedListCommaOrEnd
          | .object => .expectedObjectCommaOrEnd) (c :: rest)
      else do
        let rest ← skipKey frame (c :: rest)
        .ok (frame :: outer, rest)

/-- Passes over one value and whatever the open containers still hold. -/
def skipFrames : Nat → List Frame → List Char → Reading (List Char)
  | 0, _, text => failAt .endInValue text
  | fuel + 1, frames, text => do
    let text := skipSpaces text
    let (opened, rest) ← match text with
      | [] => failAt .endInValue []
      | 'n' :: rest => do
        let (_, rest) ← readWord ['u', 'l', 'l'] rest
        .ok (none, rest)
      | 't' :: rest => do
        let (_, rest) ← readWord ['r', 'u', 'e'] rest
        .ok (none, rest)
      | 'f' :: rest => do
        let (_, rest) ← readWord ['a', 'l', 's', 'e'] rest
        .ok (none, rest)
      | '-' :: rest => do
        let rest ← skipNumber rest
        .ok (none, rest)
      | '"' :: rest => do
        let rest ← skipString rest
        .ok (none, rest)
      | '[' :: rest => .ok (some Frame.array, rest)
      | '\x7b' :: rest => .ok (some Frame.object, rest)
      | c :: _ =>
        if c.isDigit then do
          let rest ← skipNumber text
          .ok (none, rest)
        else failAt .expectedValue text
    let (frames, rest) ← match opened with
      | some frame => closeFrames false (frame :: frames) rest
      | none => closeFrames true frames rest
    match frames with
    | [] => .ok rest
    | _ => skipFrames fuel frames rest

/-- Passes over one value. -/
def skipValue (text : List Char) : Reading (List Char) :=
  skipFrames (text.length + 1) [] text

end QueryLint.Json
