/-!
# Patterns of paths

In a pattern `?` stands for any character, `*` for any text, `[a-z]` for one of some characters and
`[!a-z]` for any other. `**` stands for any number of directories, so it has to be all there is
between two slashes. A pattern knows nothing of files: `Pattern.matches` compares it with a text,
where `*` and `?` may stand for slashes too.
-/

namespace QueryLint.Glob

/-- Why a text is no pattern. -/
inductive Reason
  | range
  | wildcards
  | recursive
  deriving DecidableEq, Repr

/-- Where a text stops being a pattern, and why. -/
structure Failure where
  position : Nat
  reason : Reason
  deriving DecidableEq, Repr

/-- What is said of a reason. -/
def Reason.message : Reason → String
  | range => "invalid range pattern"
  | wildcards => "wildcards are either regular \x60*\x60 or recursive \x60**\x60"
  | recursive => "recursive wildcards must form a single path component"

/-- What is said of a text that is no pattern. -/
def Failure.message (failure : Failure) : String :=
  "Pattern syntax error near position " ++ toString failure.position ++ ": "
    ++ failure.reason.message

/-- The characters from the first to the second. -/
abbrev Span := Char × Char

/-- A part of a pattern. -/
inductive Part
  | char (c : Char)
  | anyChar
  | oneOf (spans : List Span)
  | noneOf (spans : List Span)
  | anyText
  | anyDirectories
  deriving DecidableEq, Repr

/-- A pattern, part by part. -/
abbrev Pattern := List Part

/-- The characters that brackets hold: a hyphen between two of them stands for those in between. -/
def spans : List Char → List Span
  | first :: '-' :: last :: rest => (first, last) :: spans rest
  | c :: rest => (c, c) :: spans rest
  | [] => []

/-- The characters up to the bracket that closes, and what follows it. -/
def closing? : List Char → Option (List Char × List Char)
  | [] => none
  | c :: rest =>
    if c = ']' then some ([], rest)
    else (closing? rest).map fun (inside, behind) => (c :: inside, behind)

/-- The part that brackets make, given what follows the one that opens. Their first character is
never the one that closes. -/
def bracket? : List Char → Option (Part × List Char)
  | '!' :: c :: rest =>
    (closing? rest).map fun (inside, behind) => (.noneOf (spans (c :: inside)), behind)
  | ['!'] => none
  | c :: rest =>
    (closing? rest).map fun (inside, behind) => (.oneOf (spans (c :: inside)), behind)
  | [] => none

/-- What stands behind a closing bracket is shorter than what stands before it. -/
theorem closing?_length {text inside behind : List Char}
    (h : closing? text = some (inside, behind)) : behind.length < text.length := by
  induction text generalizing inside with
  | nil => simp [closing?] at h
  | cons c rest ih =>
    by_cases hc : c = ']'
    · simp only [closing?, hc, if_true, Option.some.injEq, Prod.mk.injEq] at h
      simp [← h.2]
    · simp only [closing?, hc, if_false, Option.map_eq_some_iff, Prod.mk.injEq] at h
      obtain ⟨_, found, _, rfl⟩ := h
      exact Nat.lt_succ_of_lt (ih found)

theorem bracket?_length {text behind : List Char} {part : Part}
    (h : bracket? text = some (part, behind)) : behind.length < text.length := by
  unfold bracket? at h
  split at h
  · simp only [Option.map_eq_some_iff, Prod.mk.injEq] at h
    obtain ⟨_, found, _, rfl⟩ := h
    exact Nat.lt_add_right 2 (closing?_length found)
  · simp at h
  · simp only [Option.map_eq_some_iff, Prod.mk.injEq] at h
    obtain ⟨_, found, _, rfl⟩ := h
    exact Nat.lt_succ_of_lt (closing?_length found)
  · simp at h

/-- Reads the parts of a pattern from a position on; `fresh` tells that a name starts there. -/
def parseFrom (position : Nat) (fresh : Bool) (text : List Char) : Except Failure Pattern :=
  match text with
  | [] => .ok []
  | '?' :: rest => (.anyChar :: ·) <$> parseFrom (position + 1) false rest
  | '*' :: '*' :: '*' :: _ => .error ⟨position + 2, .wildcards⟩
  | '*' :: '*' :: rest =>
    if fresh then
      match rest with
      | [] => .ok [.anyDirectories]
      | '/' :: more => (.anyDirectories :: ·) <$> parseFrom (position + 3) true more
      | _ => .error ⟨position + 2, .recursive⟩
    else .error ⟨position - 1, .recursive⟩
  | '*' :: rest => (.anyText :: ·) <$> parseFrom (position + 1) false rest
  | '[' :: rest =>
    match h : bracket? rest with
    | some (part, behind) =>
      (part :: ·) <$> parseFrom (position + 1 + (rest.length - behind.length)) false behind
    | none => .error ⟨position, .range⟩
  | c :: rest => (.char c :: ·) <$> parseFrom (position + 1) (c == '/') rest
termination_by text.length
decreasing_by
  all_goals try have := bracket?_length h
  all_goals simp only [List.length_cons]
  all_goals omega

/-- Reads a pattern. -/
def Pattern.parse (text : String) : Except Failure Pattern :=
  parseFrom 0 true text.toList

/-- Whether a character is one of some. -/
def isIn (c : Char) (spans : List Span) : Bool :=
  spans.any fun (first, last) => first ≤ c && c ≤ last

/-- A text and what is left of it behind each of its characters. -/
def suffixes : List Char → List (List Char)
  | [] => [[]]
  | c :: rest => (c :: rest) :: suffixes rest

/-- What is left of a text behind each of its slashes. -/
def behindSlashes : List Char → List (List Char)
  | [] => []
  | c :: rest => if c = '/' then rest :: behindSlashes rest else behindSlashes rest

/-- Whether a text is one that a pattern stands for. At the end of a pattern `**` stands for any
text, before that for nothing or for directories, each with its slash. -/
def Pattern.matches : Pattern → List Char → Bool
  | [], text => text.isEmpty
  | .anyText :: parts, text => (suffixes text).any (Pattern.matches parts)
  | .anyDirectories :: parts, text =>
    parts.isEmpty || (text :: behindSlashes text).any (Pattern.matches parts)
  | .char c :: parts, d :: text => c == d && Pattern.matches parts text
  | .anyChar :: parts, _ :: text => Pattern.matches parts text
  | .oneOf spans :: parts, c :: text => isIn c spans && Pattern.matches parts text
  | .noneOf spans :: parts, c :: text => !isIn c spans && Pattern.matches parts text
  | _ :: _, [] => false

namespace Pattern

/-- Whether a pattern stands for a text. -/
def matchesText (pattern : Pattern) (text : String) : Bool :=
  pattern.matches text.toList

/-- The only text that a pattern without wildcards stands for. -/
def literal? (pattern : Pattern) : Option String :=
  String.ofList <$> pattern.mapM fun
    | .char c => some c
    | _ => none

end Pattern

/-- Whether a text has wildcards in it. -/
def hasWildcards (text : String) : Bool :=
  text.toList.any fun c => c == '*' || c == '?' || c == '['

end QueryLint.Glob
