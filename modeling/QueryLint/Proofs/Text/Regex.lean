import QueryLint.Text.Quoted

/-!
# Regular expressions that try one way after the other

An expression can match the start of a text in several ways, and which of them counts is a matter of
order: of two alternatives the first one is tried before the second, a repetition goes on before it
stops, and what was chosen is taken back where the rest of the expression does not follow. All this
is the order of one list: `rests r text` has what is left of the text behind each way of matching,
the one that is tried first at its head. The match that counts is the head (`matchAt?`), at the first
place where there is one (`findAll`).

What an expression finds can be worked out from left to right: a character of its class is gone, and a
repetition makes one step, goes on behind it and comes back to where it was last (`repeated_eq`).
-/

namespace QueryLint.Text

/-- A regular expression. -/
inductive Regex
  /-- One character of a class. -/
  | one (class? : Char → Bool)
  /-- One expression, then another. -/
  | next (first second : Regex)
  /-- One expression, or else another. -/
  | either (first second : Regex)
  /-- An expression as often as possible, also not at all. -/
  | many (body : Regex)

namespace Regex

/-- The character itself. -/
def char (c : Char) : Regex := .one (· == c)

/-- Every character but one. -/
def not (c : Char) : Regex := .one (· != c)

/-- What is left behind steps that are made as often as possible. A step that takes nothing is not made. -/
def repeated (step : List Char → List (List Char)) (text : List Char) : List (List Char) :=
  ((step text).filter fun rest => rest.length < text.length).attach.flatMap
    (fun rest => repeated step rest.1) ++ [text]
termination_by text.length
decreasing_by exact of_decide_eq_true (List.mem_filter.1 rest.2).2

/-- What is left of a text behind each way of matching an expression at its start, the way that is
tried first at the head. -/
def rests : Regex → List Char → List (List Char)
  | one _, [] => []
  | one class?, c :: text => if class? c then [text] else []
  | next first second, text => (rests first text).flatMap (rests second)
  | either first second, text => rests first text ++ rests second text
  | many body, text => repeated (rests body) text

/-- What is left of a text behind the match that counts. -/
def matchAt? (r : Regex) (text : List Char) : Option (List Char) :=
  (r.rests text).head?

/-- The places of the matches that count, from an offset on. The search goes on behind a match, and
otherwise at the next character; a match that takes nothing is passed over. -/
def findAllFrom (r : Regex) (offset : Nat) : List Char → List Stretch
  | [] => []
  | c :: text =>
    match r.matchAt? (c :: text) with
    | some rest =>
      if rest.length < (c :: text).length then
        let stop := offset + ((c :: text).length - rest.length)
        ⟨offset, stop⟩ :: findAllFrom r stop rest
      else findAllFrom r (offset + 1) text
    | none => findAllFrom r (offset + 1) text
termination_by text => text.length
decreasing_by
  · assumption
  · exact Nat.lt_succ_self _
  · exact Nat.lt_succ_self _

/-- The places of the matches in a text, left to right. -/
def findAll (r : Regex) (text : List Char) : List Stretch :=
  r.findAllFrom 0 text

/-! ## One form after the other -/

variable {step : List Char → List (List Char)} {text : List Char}

theorem rests_char_cons (c d : Char) (text : List Char) :
    (char c).rests (d :: text) = if d = c then [text] else [] := by
  rw [char, rests]
  simp only [beq_iff_eq]

theorem rests_not_cons (c d : Char) (text : List Char) :
    (Regex.not c).rests (d :: text) = if d = c then [] else [text] := by
  rw [Regex.not, rests]
  by_cases h : d = c <;> simp [h]

/-- A repetition takes one more step, or else stops; the step has to take some text. -/
theorem repeated_eq (h : ∀ rest ∈ step text, rest.length < text.length) :
    repeated step text = (step text).flatMap (repeated step) ++ [text] := by
  have hfilter : (step text).filter (fun rest => rest.length < text.length) = step text :=
    List.filter_eq_self.2 fun rest hrest => decide_eq_true (h rest hrest)
  rw [repeated, hfilter, List.flatMap_subtype fun _ _ => rfl, List.unattach_attach]

/-- Going through a class of characters, to go as far as possible is tried first; every other way stops
before a character of the class. -/
theorem rests_many_one (class? : Char → Bool) :
    ∀ text : List Char, ∃ others,
      (many (one class?)).rests text = text.dropWhile class? :: others
        ∧ ∀ rest ∈ others, ∃ c more, rest = c :: more ∧ class? c = true
  | [] => by
    have hstep : (one class?).rests [] = [] := by rw [rests]
    have hnone : ∀ rest ∈ (one class?).rests [], rest.length < ([] : List Char).length := by
      rw [hstep]
      exact fun rest hrest => nomatch hrest
    refine ⟨[], ?_, fun rest hrest => nomatch hrest⟩
    rw [rests, repeated_eq hnone, hstep]
    rfl
  | c :: text => by
    have hstep : ∀ rest ∈ (one class?).rests (c :: text), rest.length < (c :: text).length := by
      intro rest hrest
      rw [rests] at hrest
      split at hrest
      next =>
        obtain rfl := List.mem_singleton.1 hrest
        exact Nat.lt_succ_self _
      next => cases hrest
    rw [rests, repeated_eq hstep, rests]
    by_cases hc : class? c = true
    · -- One step is made, and what can be done behind it is tried before stopping here.
      obtain ⟨others, hothers, hall⟩ := rests_many_one class? text
      rw [rests] at hothers
      refine ⟨others ++ [c :: text], ?_, ?_⟩
      · rw [if_pos hc, List.flatMap_singleton, hothers, List.dropWhile_cons_of_pos hc,
          List.cons_append]
      · intro rest hrest
        rcases List.mem_append.1 hrest with hrest | hrest
        · exact hall rest hrest
        · exact ⟨c, text, List.mem_singleton.1 hrest, hc⟩
    · refine ⟨[], ?_, fun rest hrest => nomatch hrest⟩
      rw [if_neg hc, List.flatMap_nil, List.nil_append, List.dropWhile_cons_of_neg hc]

/-- No match is found before the offset from which it is looked for. -/
theorem le_start_of_mem_findAllFrom {r : Regex} {offset : Nat} {s : Stretch}
    (h : s ∈ r.findAllFrom offset text) : offset ≤ s.start := by
  fun_induction findAllFrom r offset text with
  | case1 => cases h
  | case2 offset c text rest hmatch hlt stop ih =>
    rcases List.mem_cons.1 h with rfl | h
    · exact Nat.le_refl _
    · have := ih h
      omega
  | case3 offset c text rest hmatch hlt ih =>
    have := ih h
    omega
  | case4 offset c text hmatch ih =>
    have := ih h
    omega

/-- What is found from some characters on lies in what is behind them. -/
theorem map_drop_findAllFrom {β : Type} (r : Regex) (offset n : Nat) (text : List Char)
    (f : List Char → β) :
    (r.findAllFrom (offset + n) (text.drop n)).map (fun s => f (text.drop (s.start - offset))) =
      (r.findAllFrom (offset + n) (text.drop n)).map fun s =>
        f ((text.drop n).drop (s.start - (offset + n))) := by
  refine List.map_congr_left fun s hs => ?_
  have hle := le_start_of_mem_findAllFrom hs
  rw [List.drop_drop, show n + (s.start - (offset + n)) = s.start - offset by omega]

end Regex
end QueryLint.Text
