import QueryLint.Json.Skip
import QueryLint.Proofs.Json.Reading

/-!
# Any value can be passed over

A value that nobody asked for is passed over if its text is one of the grammar, however deep it is and
whatever stands in it (`skipValue_gap`). The open containers are kept on a stack, so the induction
over the value is about what stands on the stack as well: a value is passed over in some number of steps
that its length bounds, and leaves the reader where the value around it goes on (`skipOthers`).
-/

namespace QueryLint.Json

/-! ## Numbers and strings -/

theorem skipExponent_sign {sign more rest : List Char} {c : Char}
    (hsign : sign = [] ∨ sign = ['+'] ∨ sign = ['-']) (hc : c.isDigit = true) (hmore : Digits more)
    (hrest : Ends rest) : skipExponent (sign ++ c :: (more ++ rest)) = .ok rest := by
  have hdrop := dropWhile_digits hmore hrest.startsWithDigit
  rcases hsign with rfl | rfl | rfl
  · rw [List.nil_append, skipExponent]
    · rw [if_pos hc, hdrop]
    · exact fun rest heq => Decimal.ne_of_isDigit hc rfl (List.cons.inj heq).1
    · exact fun rest heq => Decimal.ne_of_isDigit hc rfl (List.cons.inj heq).1
  · exact (if_pos hc).trans (congrArg _ hdrop)
  · exact (if_pos hc).trans (congrArg _ hdrop)

/-- Skipping goes on to the end of the exponent, if there is one. -/
theorem skipNumberEnd_append {text rest : List Char} (h : IsExponent text) (hrest : Ends rest) :
    skipNumberEnd (text ++ rest) = .ok rest := by
  cases h with
  | none =>
    cases rest with
    | nil => rfl
    | cons c rest =>
      obtain ⟨-, -, he, hE⟩ := hrest c rfl
      rw [List.nil_append, skipNumberEnd, if_neg (by simp [he, hE])]
  | @digits letter c sign more hletter hsign hc hmore =>
    rw [List.cons_append, List.append_assoc, List.cons_append, skipNumberEnd,
      if_pos (by simpa using hletter), skipExponent_sign hsign hc hmore hrest]

/-- Skipping goes on to the end of the fraction, if there is one. -/
theorem skipFraction_append {fraction text rest : List Char} (hfraction : IsFraction fraction)
    (h : IsExponent text) (hrest : Ends rest) :
    skipFraction (fraction ++ (text ++ rest)) = .ok rest := by
  cases hfraction with
  | none =>
    rw [List.nil_append, skipFraction]
    · exact skipNumberEnd_append h hrest
    · exact h.ne_point hrest
  | @digits c more hc hmore =>
    have hdigits : Digits (c :: more) := List.forall_mem_cons.2 ⟨hc, hmore⟩
    rw [List.cons_append, skipFraction,
      startsWithDigit_digits hdigits (List.cons_ne_nil c more), if_pos rfl,
      dropWhile_digits hdigits (h.startsWithDigit hrest)]
    exact skipNumberEnd_append h hrest

/-- A number is passed over, of whatever size it is. -/
theorem skipNumber_append {text rest : List Char} (h : IsUnsigned text) (hrest : Ends rest) :
    skipNumber (text ++ rest) = .ok rest := by
  cases h with
  | @intro whole fraction exponent hwhole hfraction hexponent =>
    have hdigit := hfraction.startsWithDigit (hexponent.startsWithDigit hrest)
    rw [List.append_assoc, List.append_assoc]
    cases hwhole with
    | zero =>
      rw [List.singleton_append, skipNumber, hdigit, if_neg Bool.false_ne_true]
      exact skipFraction_append hfraction hexponent hrest
    | @digits c more hc hzero hmore =>
      rw [List.cons_append, skipNumber]
      · rw [if_pos hc, dropWhile_digits hmore hdigit]
        exact skipFraction_append hfraction hexponent hrest
      · exact hzero

/-- A quoted text is skipped with its closing quote. -/
theorem skipCharacters_append {text : List Char} (h : IsQuoted text) {fuel : Nat}
    (hfuel : text.length ≤ fuel) (rest : List Char) :
    skipCharacters fuel (text ++ rest) = .ok rest := by
  induction h generalizing fuel with
  | close =>
    obtain ⟨fuel, rfl⟩ := Nat.exists_eq_add_one.2 (Nat.zero_lt_of_lt hfuel)
    rfl
  | plain hc _ ih =>
    obtain ⟨fuel, rfl⟩ := Nat.exists_eq_add_one.2 (Nat.zero_lt_of_lt hfuel)
    obtain ⟨hshown, hquote, hslash⟩ := hc
    rw [List.cons_append, skipCharacters.eq_def]
    change (if _ = '"' then _ else if _ = '\\' then _ else if _ < 32 then _ else _) = _
    rw [if_neg hquote, if_neg hslash, if_neg (Nat.not_lt.2 hshown)]
    exact ih (Nat.le_of_succ_le_succ hfuel)
  | @escape letter c text hletter _ ih =>
    obtain ⟨fuel, rfl⟩ := Nat.exists_eq_add_one.2 (Nat.zero_lt_of_lt hfuel)
    simp only [List.length_cons] at hfuel
    rw [List.cons_append, List.cons_append, skipCharacters.eq_def]
    dsimp only
    rw [if_neg (by decide), if_pos rfl]
    split
    next heq => cases heq
    next heq => exact absurd (List.cons.inj heq).1 (letter_ne_u hletter)
    next heq =>
      obtain ⟨rfl, rfl⟩ := List.cons.inj heq
      rw [hletter, Option.isSome_some, if_pos rfl]
      exact ih (by omega)
  | @code digits text n hdigits _ ih =>
    obtain ⟨fuel, rfl⟩ := Nat.exists_eq_add_one.2 (Nat.zero_lt_of_lt hfuel)
    simp only [List.length_cons, List.length_append] at hfuel
    rw [List.cons_append, List.cons_append, List.append_assoc]
    change (readHex (digits ++ (text ++ rest)) >>= fun read => skipCharacters fuel read.2) = _
    rw [readHex_codes hdigits, ok_bind]
    exact ih (by omega)

/-- A string is passed over, whatever its escapes stand for. -/
theorem skipString_append {text : List Char} (h : IsQuoted text) (rest : List Char) :
    skipString (text ++ rest) = .ok rest :=
  skipCharacters_append h (by rw [List.length_append]; omega) rest

/-! ## What is left to do -/

/-- What is left to do once a value was passed over, with so many steps to go. -/
def skipOthers (fuel : Nat) (frames : List Frame) (text : List Char) : Reading (List Char) := do
  let (frames, rest) ← closeFrames true frames text
  match frames with
  | [] => .ok rest
  | _ => skipFrames fuel frames rest

/-- What is left to do where another item or member of the innermost container comes. -/
def skipNext (fuel : Nat) (frame : Frame) (frames : List Frame) (text : List Char) :
    Reading (List Char) := do
  let rest ← skipKey frame text
  skipFrames fuel (frame :: frames) rest

/-- Blanks before a value do not count. -/
theorem skipFrames_gap (fuel : Nat) (frames : List Frame) {gap : List Char} (hgap : Blanks gap)
    (text : List Char) : skipFrames (fuel + 1) frames (gap ++ text) =
      skipFrames (fuel + 1) frames text := by
  rw [skipFrames, skipFrames, skipSpaces_append hgap]

/-- Blanks before an item or a member do not count. -/
theorem skipNext_gap (fuel : Nat) (frame : Frame) (frames : List Frame) {gap : List Char}
    (hgap : Blanks gap) (text : List Char) :
    skipNext (fuel + 1) frame frames (gap ++ text) = skipNext (fuel + 1) frame frames text := by
  cases frame with
  | array => exact skipFrames_gap fuel _ hgap text
  | object => rw [skipNext, skipNext, skipKey, skipKey, skipSpaces_append hgap]

/-- In an object the name of a member is skipped with its colon. -/
theorem skipKey_object {key between before : List Char} (hkey : IsQuoted key)
    (hbefore : Blanks before) (hbetween : Blanks between) (rest : List Char) :
    skipKey .object (before ++ '"' :: (key ++ (between ++ ':' :: rest))) = .ok rest := by
  rw [skipKey, skipSpaces_gap hbefore rfl]
  change (skipString (key ++ (between ++ ':' :: rest)) >>= fun _ => _) = _
  rw [skipString_append hkey, ok_bind, skipSpaces_gap hbetween rfl]
  rfl

/-- A bracket that closes the innermost container leads out of it. -/
theorem closeFrames_closing (comma : Bool) (frame : Frame) (frames : List Frame) {gap : List Char}
    (hgap : Blanks gap) (rest : List Char) :
    closeFrames comma (frame :: frames) (gap ++ frame.closing :: rest) =
      closeFrames true frames rest := by
  have hblank : isSpace frame.closing = false := by cases frame <;> rfl
  have hcomma : ¬ (frame.closing = ',' && comma) = true := by
    cases frame <;> cases comma <;> decide
  rw [closeFrames.eq_def]
  dsimp only
  rw [skipSpaces_gap hgap hblank]
  change (if _ then _ else if _ then _ else _) = _
  rw [if_neg hcomma, if_pos rfl]

/-- A comma leads to what comes next in the innermost container. -/
theorem closeFrames_comma (frame : Frame) (frames : List Frame) {gap : List Char} (hgap : Blanks gap)
    (rest : List Char) : closeFrames true (frame :: frames) (gap ++ ',' :: rest) =
      (skipKey frame rest >>= fun rest => .ok (frame :: frames, rest)) := by
  rw [closeFrames.eq_def]
  dsimp only
  rw [skipSpaces_gap hgap rfl]
  rfl

/-- Behind the bracket that opens a container comes what is first in it. -/
theorem closeFrames_first (frame : Frame) (frames : List Frame) {gap : List Char} (hgap : Blanks gap)
    {c : Char} (hc : isSpace c = false) (hend : c ≠ frame.closing) (rest : List Char) :
    closeFrames false (frame :: frames) (gap ++ c :: rest) =
      (skipKey frame (c :: rest) >>= fun rest => .ok (frame :: frames, rest)) := by
  rw [closeFrames.eq_def]
  dsimp only
  rw [skipSpaces_gap hgap hc]
  change (if (c = ',' && false) = true then _ else if c = frame.closing then _ else if _ then _ else _)
    = _
  rw [if_neg (by simp), if_neg hend, if_neg Bool.false_ne_true]

/-- When a container closes, the one around it goes on. -/
theorem skipOthers_closing (fuel : Nat) (frame : Frame) (frames : List Frame) {gap : List Char}
    (hgap : Blanks gap) (rest : List Char) :
    skipOthers fuel (frame :: frames) (gap ++ frame.closing :: rest) =
      skipOthers fuel frames rest := by
  rw [skipOthers, closeFrames_closing true frame frames hgap]
  rfl

/-- Behind a comma the next value of the container comes. -/
theorem skipOthers_comma (fuel : Nat) (frame : Frame) (frames : List Frame) {gap : List Char}
    (hgap : Blanks gap) (rest : List Char) :
    skipOthers fuel (frame :: frames) (gap ++ ',' :: rest) = skipNext fuel frame frames rest := by
  rw [skipOthers, closeFrames_comma frame frames hgap, skipNext]
  cases skipKey frame rest <;> rfl

/-- The bracket that opens a container. -/
def Frame.opening : Frame → Char
  | .array => '['
  | .object => '\x7b'

theorem skipFrames_opening (fuel : Nat) (frame : Frame) (frames : List Frame) (text : List Char) :
    skipFrames (fuel + 1) frames (frame.opening :: text) = (do
      let (frames, rest) ← closeFrames false (frame :: frames) text
      match frames with
      | [] => .ok rest
      | _ => skipFrames fuel frames rest) := by
  cases frame <;> rw [skipFrames] <;> rfl

/-- A container with nothing in it is one step. -/
theorem skipFrames_empty (fuel : Nat) (frame : Frame) (frames : List Frame) {gap : List Char}
    (hgap : Blanks gap) (rest : List Char) :
    skipFrames (fuel + 1) frames (frame.opening :: (gap ++ frame.closing :: rest)) =
      skipOthers fuel frames rest := by
  rw [skipFrames_opening, closeFrames_closing false frame frames hgap]
  rfl

/-- A container that is not empty goes on with its first value. -/
theorem skipFrames_first (fuel : Nat) (frame : Frame) (frames : List Frame) {gap : List Char}
    (hgap : Blanks gap) {c : Char} (hc : isSpace c = false) (hend : c ≠ frame.closing)
    (rest : List Char) :
    skipFrames (fuel + 1) frames (frame.opening :: (gap ++ c :: rest)) =
      skipNext fuel frame frames (c :: rest) := by
  rw [skipFrames_opening, closeFrames_first frame frames hgap hc hend, skipNext]
  cases skipKey frame (c :: rest) <;> rfl

/-! ## Values -/

/-- A value is passed over in some steps, no more than it has characters, whatever is open around
it. -/
def IsSkipped (text : List Char) : Prop :=
  ∃ steps, 0 < steps ∧ steps ≤ text.length ∧ ∀ fuel frames rest, Ends rest →
    skipFrames (fuel + steps) frames (text ++ rest) = skipOthers fuel frames rest

/-- What stands in a container is passed over with the bracket that closes it, in some steps, no more
than it has characters. -/
def Frame.Closes (frame : Frame) (text : List Char) : Prop :=
  ∃ steps, 0 < steps ∧ steps ≤ text.length ∧ ∀ fuel frames rest,
    skipNext (fuel + steps) frame frames (text ++ rest) = skipOthers fuel frames rest

/-- A container with blanks in it at most is skipped. -/
theorem isSkipped_empty (frame : Frame) {gap : List Char} (hgap : Blanks gap) :
    IsSkipped (frame.opening :: (gap ++ [frame.closing])) := by
  refine ⟨1, Nat.one_pos, Nat.succ_le_succ (Nat.zero_le _), fun fuel frames rest _ => ?_⟩
  rw [List.cons_append, List.append_assoc, List.singleton_append]
  exact skipFrames_empty fuel frame frames hgap rest

/-- A container is passed over in one step more than what stands in it. -/
theorem Frame.Closes.isSkipped {frame : Frame} {before more : List Char} {c : Char}
    (h : frame.Closes (before ++ c :: more)) (hbefore : Blanks before) (hc : isSpace c = false)
    (hend : c ≠ frame.closing) : IsSkipped (frame.opening :: (before ++ c :: more)) := by
  obtain ⟨steps, hpos, hle, hskip⟩ := h
  obtain ⟨steps, rfl⟩ := Nat.exists_eq_add_one.2 hpos
  refine ⟨steps + 2, Nat.succ_pos _, Nat.succ_le_succ hle, fun fuel frames rest _ => ?_⟩
  rw [← hskip fuel frames rest]
  simp only [List.cons_append, List.append_assoc]
  rw [← Nat.add_assoc fuel steps 1, skipNext_gap _ _ _ hbefore]
  exact skipFrames_first (fuel + steps + 1) frame frames hbefore hc hend _

/-- The items of an array, at least one of them, are passed over with its closing bracket. -/
theorem closes_listed {item text : List Char} {items : List (List Char)}
    (hitems : ∀ item' ∈ item :: items, IsSkipped item') (h : Listed (item :: items) text) :
    Frame.array.Closes text := by
  induction items generalizing item text with
  | nil =>
    obtain ⟨steps, hpos, hle, hskip⟩ := hitems item List.mem_cons_self
    cases h with
    | last hbefore hbehind =>
      refine ⟨steps, hpos, ?_, fun fuel frames rest => ?_⟩
      · simp only [List.length_append]
        omega
      · obtain ⟨steps, rfl⟩ := Nat.exists_eq_add_one.2 hpos
        simp only [List.append_assoc, List.singleton_append]
        rw [← Nat.add_assoc, skipNext_gap _ _ _ hbefore, Nat.add_assoc]
        refine (hskip _ _ _ (.gap hbehind (.cons (by decide) rest))).trans ?_
        exact skipOthers_closing _ .array frames hbehind rest
  | cons next items ih =>
    obtain ⟨steps, hpos, hle, hskip⟩ := hitems item List.mem_cons_self
    cases h with
    | more hbefore hbehind hothers =>
      obtain ⟨others, hpos', hle', hskip'⟩ :=
        ih (fun item hmem => hitems item (List.mem_cons_of_mem _ hmem)) hothers
      refine ⟨others + steps, by omega, ?_, fun fuel frames rest => ?_⟩
      · simp only [List.length_append, List.length_cons]
        omega
      · obtain ⟨steps, rfl⟩ := Nat.exists_eq_add_one.2 hpos
        simp only [List.append_assoc, List.cons_append]
        rw [← Nat.add_assoc, ← Nat.add_assoc, skipNext_gap _ _ _ hbefore, Nat.add_assoc _ steps]
        refine (hskip _ _ _ (.gap hbehind (.cons (by decide) _))).trans ?_
        rw [skipOthers_comma _ .array frames hbehind]
        exact hskip' fuel frames rest

/-- The members of an object, at least one of them, are passed over with its closing brace. -/
theorem closes_membered {entry : List Char × List Char} {text : List Char}
    {entries : List (List Char × List Char)}
    (hkeys : ∀ entry' ∈ entry :: entries, IsQuoted entry'.1)
    (hvalues : ∀ entry' ∈ entry :: entries, IsSkipped entry'.2)
    (h : Membered (entry :: entries) text) : Frame.object.Closes text := by
  induction entries generalizing entry text with
  | nil =>
    obtain ⟨steps, hpos, hle, hskip⟩ := hvalues entry List.mem_cons_self
    cases h with
    | last hbefore hbetween hmiddle hbehind =>
      refine ⟨steps, hpos, ?_, fun fuel frames rest => ?_⟩
      · simp only [List.length_append, List.length_cons] at hle ⊢
        omega
      · obtain ⟨steps, rfl⟩ := Nat.exists_eq_add_one.2 hpos
        simp only [List.append_assoc, List.cons_append, List.nil_append]
        rw [skipNext, skipKey_object (hkeys _ List.mem_cons_self) hbefore hbetween, ok_bind,
          ← Nat.add_assoc, skipFrames_gap _ _ hmiddle, Nat.add_assoc,
          hskip _ _ _ (.gap hbehind (.cons (by decide) rest))]
        exact skipOthers_closing _ .object frames hbehind rest
  | cons next entries ih =>
    obtain ⟨steps, hpos, hle, hskip⟩ := hvalues entry List.mem_cons_self
    cases h with
    | more hbefore hbetween hmiddle hbehind hothers =>
      obtain ⟨others, hpos', hle', hskip'⟩ :=
        ih (fun entry hmem => hkeys entry (List.mem_cons_of_mem _ hmem))
          (fun entry hmem => hvalues entry (List.mem_cons_of_mem _ hmem)) hothers
      refine ⟨others + steps, by omega, ?_, fun fuel frames rest => ?_⟩
      · simp only [List.length_append, List.length_cons] at hle ⊢
        omega
      · obtain ⟨steps, rfl⟩ := Nat.exists_eq_add_one.2 hpos
        simp only [List.append_assoc, List.cons_append]
        rw [skipNext, skipKey_object (hkeys _ List.mem_cons_self) hbefore hbetween, ok_bind,
          ← Nat.add_assoc, ← Nat.add_assoc, skipFrames_gap _ _ hmiddle, Nat.add_assoc _ steps,
          hskip _ _ _ (.gap hbehind (.cons (by decide) _)), skipOthers_comma _ .object frames hbehind]
        exact hskip' fuel frames rest

theorem skipFrames_quote (fuel : Nat) (frames : List Frame) (text : List Char) :
    skipFrames (fuel + 1) frames ('"' :: text) = (skipString text >>= skipOthers fuel frames) := by
  rw [skipFrames, skipSpaces_cons rfl]
  rfl

theorem skipFrames_minus (fuel : Nat) (frames : List Frame) (text : List Char) :
    skipFrames (fuel + 1) frames ('-' :: text) = (skipNumber text >>= skipOthers fuel frames) := by
  rw [skipFrames, skipSpaces_cons rfl]
  rfl

theorem skipFrames_digit (fuel : Nat) (frames : List Frame) {c : Char} (hc : c.isDigit = true)
    (text : List Char) : skipFrames (fuel + 1) frames (c :: text) =
      (skipNumber (c :: text) >>= skipOthers fuel frames) := by
  rw [skipFrames, skipSpaces_cons (isSpace_of_isDigit hc)]
  -- A digit is none of the characters that other values begin with.
  have hne : ∀ d : Char, d.isDigit = false → c ≠ d := fun d => Decimal.ne_of_isDigit hc
  dsimp only
  split
  next heq => cases heq
  next heq => exact absurd (List.cons.inj heq).1 (hne _ rfl)
  next heq => exact absurd (List.cons.inj heq).1 (hne _ rfl)
  next heq => exact absurd (List.cons.inj heq).1 (hne _ rfl)
  next heq => exact absurd (List.cons.inj heq).1 (hne _ rfl)
  next heq => exact absurd (List.cons.inj heq).1 (hne _ rfl)
  next heq => exact absurd (List.cons.inj heq).1 (hne _ rfl)
  next heq => exact absurd (List.cons.inj heq).1 (hne _ rfl)
  next heq =>
    obtain ⟨rfl, rfl⟩ := List.cons.inj heq
    rw [if_pos hc]
    rfl

/-- Every value is passed over. -/
theorem IsValue.isSkipped {n : Nat} {text : List Char} (h : IsValue n text) : IsSkipped text := by
  induction h with
  | null | true | false =>
    exact ⟨1, Nat.one_pos, by decide, fun fuel frames rest _ => by rw [skipFrames]; rfl⟩
  | number h =>
    obtain ⟨c, more, rfl, hc⟩ := h.eq_cons
    refine ⟨1, Nat.one_pos, Nat.succ_le_succ (Nat.zero_le _), fun fuel frames rest hrest => ?_⟩
    rw [List.cons_append, skipFrames_digit fuel frames hc, ← List.cons_append,
      skipNumber_append h hrest, ok_bind]
  | negative h =>
    refine ⟨1, Nat.one_pos, Nat.succ_le_succ (Nat.zero_le _), fun fuel frames rest hrest => ?_⟩
    rw [List.cons_append, skipFrames_minus, skipNumber_append h hrest, ok_bind]
  | string h =>
    refine ⟨1, Nat.one_pos, Nat.succ_le_succ (Nat.zero_le _), fun fuel frames rest _ => ?_⟩
    rw [List.cons_append, skipFrames_quote, skipString_append h, ok_bind]
  | @array n items text h hitems ih =>
    cases items with
    | nil =>
      cases h with
      | none hgap => exact isSkipped_empty .array hgap
    | cons item items =>
      have hcloses := closes_listed ih h
      obtain ⟨before, more, rfl, hbefore⟩ := h.eq_append
      obtain ⟨c, letters, rfl, hc, hend⟩ := (hitems item List.mem_cons_self).begins
      exact hcloses.isSkipped hbefore hc hend
  | @object n entries text h hkeys hvalues ih =>
    cases entries with
    | nil =>
      cases h with
      | none hgap => exact isSkipped_empty .object hgap
    | cons entry entries =>
      have hcloses := closes_membered hkeys ih h
      obtain ⟨before, more, rfl, hbefore⟩ := h.eq_append
      exact hcloses.isSkipped hbefore rfl (by decide)

/-- Any value is passed over with the blanks in front of it, and nothing else. -/
theorem skipValue_gap {n : Nat} {gap text rest : List Char} (hgap : Blanks gap) (h : IsValue n text)
    (hrest : Ends rest) : skipValue (gap ++ (text ++ rest)) = .ok rest := by
  obtain ⟨steps, hpos, hle, hskip⟩ := h.isSkipped
  obtain ⟨fuel, hfuel⟩ : ∃ fuel, (gap ++ (text ++ rest)).length = fuel + steps := by
    refine Nat.exists_eq_add_of_le' ?_
    simp only [List.length_append]
    omega
  rw [skipValue, skipFrames_gap _ _ hgap, hfuel, Nat.add_right_comm, hskip _ _ _ hrest]
  rfl

end QueryLint.Json
