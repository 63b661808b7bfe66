import Mathlib.Data.List.Forall2
import QueryLint.Proofs.Decimal
import QueryLint.Report

/-!
# Reports in colour

A terminal takes a text for characters to show and marks between them, each of which sets the ink
(`signs`). In the coloured report every piece that is painted has a mark before it and the mark that
ends it behind it, so that `render_stylish_colored` can say: without its marks it is the report without
colours, and no ink runs into another one or stays on.

What carries this through a report is that a text without the escape character can neither end in
the middle of a mark nor begin with the rest of one: the signs of a report are those of its pieces, one
after the other (`Decorates.append`).
-/

namespace QueryLint.Report

/-! ## Marks -/

/-- The character that a mark starts with. -/
def escape : Char := '\x1b'

/-- What a terminal takes from a text at a time. -/
inductive Sign
  | shown (c : Char)
  | mark (digits : List Char)
  deriving DecidableEq

/-- The digits of the mark that a text starts with, and the text behind it. A mark is an escape character,
a bracket, digits and an `m`. -/
def mark? : List Char → Option (List Char × List Char)
  | c :: '[' :: rest =>
    let digits := rest.takeWhile Char.isDigit
    match rest.dropWhile Char.isDigit with
    | 'm' :: behind => if c = escape && digits ≠ [] then some (digits, behind) else none
    | _ => none
  | _ => none

theorem length_lt_of_mark? {text digits behind : List Char}
    (h : mark? text = some (digits, behind)) : behind.length < text.length := by
  unfold mark? at h
  split at h
  next c rest =>
    dsimp only at h
    split at h
    next heq =>
      split at h
      · obtain ⟨-, rfl⟩ := Prod.mk.inj (Option.some.inj h)
        have := (List.dropWhile_suffix Char.isDigit (l := rest)).length_le
        rw [heq, List.length_cons] at this
        simp only [List.length_cons]
        omega
      · cases h
    next => cases h
  next => cases h

/-- A text as it is taken: a mark where there is one, and else a character that is shown. -/
def signs : List Char → List Sign
  | [] => []
  | c :: rest =>
    match _h : mark? (c :: rest) with
    | some (digits, behind) => .mark digits :: signs behind
    | none => .shown c :: signs rest
termination_by text => text.length
decreasing_by
  · exact length_lt_of_mark? _h
  · exact Nat.lt_succ_self _

/-- The characters among some signs. -/
def shown (signs : List Sign) : List Char :=
  signs.filterMap fun
    | .shown c => some c
    | .mark _ => none

/-- The marks among some signs. -/
def marks (signs : List Sign) : List (List Char) :=
  signs.filterMap fun
    | .shown _ => none
    | .mark digits => some digits

/-- A text without its marks. -/
def withoutMarks (text : String) : String :=
  String.ofList (shown (signs text.toList))

/-- The digits of the mark that ends all others. -/
def reset : List Char := ['0']

/-- Every mark that starts something is ended before the next one starts, and so is the last. -/
inductive Closed : List (List Char) → Prop
  | nil : Closed []
  | pair {start : List Char} {rest : List (List Char)} (hstart : start ≠ reset) (h : Closed rest) :
    Closed (start :: reset :: rest)

/-- Marks that are closed stay so when others that are closed follow. -/
theorem Closed.append {first second : List (List Char)} (h : Closed first) (h' : Closed second) :
    Closed (first ++ second) := by
  induction h with
  | nil => exact h'
  | pair hstart _ ih => exact .pair hstart ih

/-- Any other character than the one that a mark starts with is shown. -/
theorem signs_cons {c : Char} (h : c ≠ escape) (rest : List Char) :
    signs (c :: rest) = .shown c :: signs rest := by
  have hnone : mark? (c :: rest) = none := by
    unfold mark?
    split
    next heq =>
      obtain ⟨rfl, rfl⟩ := List.cons.inj heq
      dsimp only
      split
      · rw [if_neg (by simp [h])]
      · rfl
    next => rfl
  rw [signs]
  split
  next heq => rw [hnone] at heq; cases heq
  next => rfl

/-- A mark is taken as one, whatever stands behind it. -/
theorem signs_mark {digits : List Char} (hne : digits ≠ [])
    (hdigits : ∀ c ∈ digits, c.isDigit = true) (rest : List Char) :
    signs (escape :: '[' :: (digits ++ 'm' :: rest)) = .mark digits :: signs rest := by
  have hmark : mark? (escape :: '[' :: (digits ++ 'm' :: rest)) = some (digits, rest) := by
    have hstop : ¬ 'm'.isDigit = true := by decide
    unfold mark?
    simp only [List.takeWhile_append_of_pos hdigits, List.dropWhile_append_of_pos hdigits,
      List.takeWhile_cons_of_neg hstop, List.dropWhile_cons_of_neg hstop, List.append_nil]
    rw [if_pos (by simpa using hne)]
  rw [signs]
  split
  next heq =>
    obtain ⟨rfl, rfl⟩ := Prod.mk.inj (Option.some.inj (hmark.symm.trans heq))
    rfl
  next heq => rw [hmark] at heq; cases heq

/-- A text without the escape character is shown as it is, and what stands behind it is taken as by
itself. -/
theorem signs_append {text : List Char} (h : escape ∉ text) (rest : List Char) :
    signs (text ++ rest) = text.map .shown ++ signs rest := by
  induction text with
  | nil => rfl
  | cons c text ih =>
    rw [List.mem_cons, not_or] at h
    rw [List.cons_append, signs_cons (Ne.symm h.1), ih h.2, List.map_cons, List.cons_append]

/-! ## Decorated texts -/

theorem shown_append (a b : List Sign) : shown (a ++ b) = shown a ++ shown b :=
  List.filterMap_append

theorem marks_append (a b : List Sign) : marks (a ++ b) = marks a ++ marks b :=
  List.filterMap_append

theorem shown_map (text : List Char) : shown (text.map .shown) = text := by
  rw [shown, List.filterMap_map]
  exact List.filterMap_some

theorem marks_map (text : List Char) : marks (text.map .shown) = [] := by
  rw [marks, List.filterMap_map]
  exact List.filterMap_eq_nil_iff.2 fun _ _ => rfl

/-- A text with marks is another one in colour: the other one is left when the marks are taken out,
and every mark is ended in it. Its signs do not depend on what stands behind it. -/
def Decorates (colored plain : String) : Prop :=
  ∃ own, (∀ rest, signs (colored.toList ++ rest) = own ++ signs rest)
    ∧ shown own = plain.toList ∧ Closed (marks own)

namespace Decorates

variable {colored plain colored' plain' : String}

/-- A text without the escape character needs no marks. -/
theorem refl {text : String} (h : escape ∉ text.toList) : Decorates text text := by
  refine ⟨text.toList.map .shown, signs_append h, shown_map _, ?_⟩
  rw [marks_map]
  exact .nil

/-- Two decorated texts, one behind the other, are the two plain ones decorated. -/
theorem append (h : Decorates colored plain) (h' : Decorates colored' plain') :
    Decorates (colored ++ colored') (plain ++ plain') := by
  obtain ⟨own, hsigns, hshown, hclosed⟩ := h
  obtain ⟨own', hsigns', hshown', hclosed'⟩ := h'
  refine ⟨own ++ own', fun rest => ?_, ?_, ?_⟩
  · rw [String.toList_append, List.append_assoc, hsigns, hsigns', List.append_assoc]
  · rw [shown_append, hshown, hshown', String.toList_append]
  · rw [marks_append]
    exact hclosed.append hclosed'

/-- Texts one after the other are decorated if each is. -/
theorem join {α : Type} {xs : List α} {f g : α → String}
    (h : ∀ x ∈ xs, Decorates (f x) (g x)) :
    Decorates (String.join (xs.map f)) (String.join (xs.map g)) := by
  induction xs with
  | nil => exact refl List.not_mem_nil
  | cons x xs ih =>
    rw [List.map_cons, List.map_cons, String.join_cons, String.join_cons]
    exact (h x List.mem_cons_self).append (ih fun y hy => h y (List.mem_cons_of_mem x hy))

/-- So are texts with a separator between them that has no mark in it. -/
theorem intercalate {separator : String} (hseparator : escape ∉ separator.toList)
    {colored plain : List String} (h : List.Forall₂ Decorates colored plain) :
    Decorates (String.intercalate separator colored) (String.intercalate separator plain) := by
  induction h with
  | nil => exact refl List.not_mem_nil
  | cons hfirst hrest ih =>
    cases hrest with
    | nil => exact hfirst
    | cons =>
      rw [String.intercalate_cons_cons, String.intercalate_cons_cons]
      exact hfirst.append (refl hseparator) |>.append ih

/-- A painted text begins with the mark of its ink and ends with the one that ends it. -/
theorem paint (ink : Ink) {text : String} (h : escape ∉ text.toList) :
    Decorates (paint true ink text) (paint false ink text) := by
  have hcode : ink.code.toList ≠ [] ∧ ink.code.toList ≠ reset := by
    cases ink <;> decide
  have hdigits : ∀ c ∈ ink.code.toList, c.isDigit = true :=
    List.all_eq_true.1 (by cases ink <;> decide)
  have hreset : ∀ c ∈ reset, c.isDigit = true := List.all_eq_true.1 (by decide)
  refine ⟨[.mark ink.code.toList] ++ text.toList.map .shown ++ [.mark reset], fun rest => ?_, ?_, ?_⟩
  · have htext : (Report.paint true ink text).toList ++ rest =
        escape :: '[' :: (ink.code.toList ++ 'm' ::
          (text.toList ++ escape :: '[' :: (reset ++ 'm' :: rest))) := by
      simp [Report.paint, escape, reset]
    rw [htext, signs_mark hcode.1 hdigits, signs_append h, signs_mark (by decide) hreset]
    simp
  · rw [shown_append, shown_append, shown_map]
    exact List.append_nil _
  · rw [marks_append, marks_append, marks_map]
    exact .pair hcode.2 .nil

/-- The marks of a text in colour are taken out, and all of them are ended. -/
theorem signs_eq (h : Decorates colored plain) :
    withoutMarks colored = plain ∧ Closed (marks (signs colored.toList)) := by
  obtain ⟨own, hsigns, hshown, hclosed⟩ := h
  have hown : signs colored.toList = own := by
    have := hsigns []
    rwa [List.append_nil, signs, List.append_nil] at this
  rw [withoutMarks, hown, hshown, String.ofList_toList]
  exact ⟨rfl, hclosed⟩

end Decorates

/-! ## Reports -/

theorem escape_not_mem_toString (n : Nat) : escape ∉ (toString n).toList := by
  intro h
  have hdigit := Decimal.isDigit_of_mem_decimalDigits (n := n) (Nat.toList_repr ▸ h)
  cases hdigit

/-- A counted noun has no mark in it, if the noun has none. -/
theorem escape_not_mem_plural (count : Nat) {noun : String} (h : escape ∉ noun.toList) :
    escape ∉ (plural count noun).toList := by
  have hcount := escape_not_mem_toString count
  unfold plural
  split <;> simp only [String.toList_append, List.mem_append, not_or]
  · exact ⟨⟨hcount, by decide⟩, h⟩
  · exact ⟨⟨⟨hcount, by decide⟩, h⟩, by decide⟩

theorem escape_not_mem_place (issue : Issue) : escape ∉ (place issue).toList := by
  unfold place
  split
  · simp only [String.toList_append, List.mem_append, not_or]
    exact ⟨⟨escape_not_mem_toString _, by decide⟩, escape_not_mem_toString _⟩
  · decide

/-- The line on an issue is the plain line with colors, if nothing in the issue looks like a mark. -/
theorem decorates_issueLine {issue : Issue} (hmessage : escape ∉ issue.message.toList)
    (hrule : escape ∉ issue.rule.toList) :
    Decorates (issueLine true issue) (issueLine false issue) := by
  have hgap : Decorates "  " "  " := .refl (by decide)
  have hseverity : escape ∉ issue.severity.name.toList := by
    cases issue.severity <;> decide
  exact hgap.append (.refl (escape_not_mem_place issue)) |>.append hgap
    |>.append (.paint _ hseverity) |>.append hgap |>.append (.refl hmessage) |>.append hgap
    |>.append (.paint .gray hrule) |>.append (.refl (by decide))

/-- The same of all lines on a file. -/
theorem decorates_block {result : LintResult} (hname : escape ∉ result.filename.toList)
    (h : ∀ issue ∈ result.issues, escape ∉ issue.message.toList ∧ escape ∉ issue.rule.toList) :
    Decorates (block true result) (block false result) := by
  have hnewline : Decorates "\n" "\n" := .refl (by decide)
  exact Decorates.paint .underline hname |>.append hnewline
    |>.append (.join fun issue hissue => decorates_issueLine (h issue hissue).1 (h issue hissue).2)
    |>.append hnewline

/-- The same of the last line, whatever the counts. -/
theorem decorates_summary (errors warnings : Nat) (isEmpty : Bool) :
    Decorates (summary true errors warnings isEmpty) (summary false errors warnings isEmpty) := by
  have hnewline : Decorates "\n" "\n" := .refl (by decide)
  have hpart : ∀ (ink : Ink) (count : Nat) (noun : String), escape ∉ noun.toList →
      List.Forall₂ Decorates
        (if 0 < count then [paint true ink (plural count noun)] else [])
        (if 0 < count then [paint false ink (plural count noun)] else []) := by
    intro ink count noun hnoun
    split
    · exact .cons (.paint ink (escape_not_mem_plural count hnoun)) .nil
    · exact .nil
  unfold summary
  split
  · have hparts := List.rel_append (hpart .red errors "error" (by decide))
      (hpart .yellow warnings "warning" (by decide))
    exact Decorates.refl (by decide) |>.append (.intercalate (by decide) hparts) |>.append hnewline
  · split
    · exact .refl (by decide)
    · exact Decorates.paint .green (by decide) |>.append hnewline

/-- **Colours only decorate.** Where neither a name of a text nor a message nor the name of a rule has the
escape character in it, the report in colour becomes the one without when its marks are taken out,
whatever counts the results come with; and each of its marks is ended before the next one starts, the
last one too. -/
theorem render_stylish_colored (results : List LintResult)
    (hnames : ∀ result ∈ results, escape ∉ result.filename.toList)
    (hissues : ∀ result ∈ results, ∀ issue ∈ result.issues,
      escape ∉ issue.message.toList ∧ escape ∉ issue.rule.toList) :
    withoutMarks (render .stylish true results) = render .stylish false results
      ∧ Closed (marks (signs (render .stylish true results).toList)) := by
  refine Decorates.signs_eq (.append (.join fun result hresult => ?_) (decorates_summary ..))
  have hmem := (List.mem_filter.1 hresult).1
  exact decorates_block (hnames result hmem) (hissues result hmem)

/-- Texts that look like the rest of a mark, or like a part of it, next to where marks are. -/
theorem render_stylish_colored_look_alikes :
    let results : List LintResult :=
      [⟨"0m.sql", [⟨"[31m", .error, "m[0m", some 4, none, none, none⟩], 0, 2⟩, ⟨"[4m", [], 1, 1⟩]
    (∀ result ∈ results, escape ∉ result.filename.toList)
      ∧ (∀ result ∈ results, ∀ issue ∈ result.issues,
        escape ∉ issue.message.toList ∧ escape ∉ issue.rule.toList)
      ∧ withoutMarks (render .stylish true results) = render .stylish false results
      ∧ Closed (marks (signs (render .stylish true results).toList)) := by
  intro results
  have hnames : ∀ result ∈ results, escape ∉ result.filename.toList := by decide
  have hissues : ∀ result ∈ results, ∀ issue ∈ result.issues,
      escape ∉ issue.message.toList ∧ escape ∉ issue.rule.toList := by decide
  exact ⟨hnames, hissues, render_stylish_colored results hnames hissues⟩

end QueryLint.Report
