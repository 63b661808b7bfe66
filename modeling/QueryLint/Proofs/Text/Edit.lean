import Mathlib.Data.List.Basic

/-!
# Changes to a text

An edit puts other characters in the place of some characters of one line. Where it puts in as many
as it takes out, all other characters stay where they are, and the lines keep their lengths: this
makes the effect of an edit a fact about single places (`cell?_apply`). Of edits that do not overlap
it follows that each of them is in force in the end, whatever comes before or behind it
(`cell?_applyAll_of_mem`), and that they can be made in any order (`applyAll_perm`).
-/

namespace QueryLint.Text

/-- A change to one line: the characters from one place up to another become others. Lines and
places are counted from zero. -/
structure Edit where
  row : Nat
  start : Nat
  stop : Nat
  new : List Char
  deriving DecidableEq, Repr

/-- The character at a place of some lines. -/
def cell? (lines : List (List Char)) (row column : Nat) : Option Char :=
  lines[row]?.bind fun chars => chars[column]?

/-- Puts other characters in the place of those from `start` up to `stop`. -/
def overwrite (start stop : Nat) (new chars : List Char) : List Char :=
  chars.take start ++ new ++ chars.drop stop

namespace Edit

/-- Makes a change. -/
def apply (lines : List (List Char)) (e : Edit) : List (List Char) :=
  lines.modify e.row (overwrite e.start e.stop e.new)

/-- Makes changes, one after the other. -/
def applyAll (lines : List (List Char)) (edits : List Edit) : List (List Char) :=
  edits.foldl apply lines

/-- An edit is about characters that there are, and puts in as many as it takes out. -/
structure Fits (lines : List (List Char)) (e : Edit) : Prop where
  inside : ∃ line, lines[e.row]? = some line ∧ e.stop ≤ line.length
  length_eq : e.start + e.new.length = e.stop

/-- A place is one of those that an edit is about. -/
def Covers (e : Edit) (row column : Nat) : Prop :=
  e.row = row ∧ e.start ≤ column ∧ column < e.stop

instance (e : Edit) (row column : Nat) : Decidable (e.Covers row column) :=
  inferInstanceAs (Decidable (_ ∧ _))

/-- Two edits are about different lines, or the one ends before the other starts. -/
def Apart (e f : Edit) : Prop :=
  e.row ≠ f.row ∨ e.stop ≤ f.start ∨ f.stop ≤ e.start

end Edit

/-! ## One line -/

section Overwrite

variable {start stop : Nat} {new chars : List Char}

/-- Overwriting with as many characters leaves the length as it is. -/
theorem length_overwrite (hnew : start + new.length = stop) (hstop : stop ≤ chars.length) :
    (overwrite start stop new chars).length = chars.length := by
  rw [overwrite, List.length_append, List.length_append, List.length_take, List.length_drop]
  omega

/-- The new characters stand in the place of the old ones, and the others where they stood. -/
theorem getElem?_overwrite (hnew : start + new.length = stop) (hstop : stop ≤ chars.length)
    (i : Nat) : (overwrite start stop new chars)[i]? =
      if start ≤ i ∧ i < stop then new[i - start]? else chars[i]? := by
  have htake : (chars.take start).length = start := by
    rw [List.length_take]
    omega
  rw [overwrite, List.append_assoc, List.getElem?_append, htake]
  by_cases hbefore : i < start
  · rw [if_pos hbefore, if_neg (by omega), List.getElem?_take, if_pos hbefore]
  · rw [if_neg hbefore, List.getElem?_append]
    by_cases hinside : i < stop
    · rw [if_pos (by omega), if_pos ⟨by omega, hinside⟩]
    · rw [if_neg (by omega), if_neg (by omega), List.getElem?_drop]
      congr 1
      omega

end Overwrite

/-! ## All lines -/

theorem cell?_of_getElem? {lines : List (List Char)} {row : Nat} {chars : List Char}
    (h : lines[row]? = some chars) (column : Nat) : cell? lines row column = chars[column]? := by
  rw [cell?, h, Option.bind_some]

/-- Lines are the same that have the same lengths and the same characters. -/
theorem lines_ext {a b : List (List Char)} (hlength : a.map List.length = b.map List.length)
    (hcell : ∀ row column, cell? a row column = cell? b row column) : a = b := by
  refine List.ext_getElem? fun row => ?_
  have hrow : a[row]?.map List.length = b[row]?.map List.length := by
    rw [← List.getElem?_map, ← List.getElem?_map, hlength]
  cases ha : a[row]? with
  | none =>
    rw [ha] at hrow
    exact (Option.map_eq_none_iff.1 hrow.symm).symm
  | some line =>
    rw [ha] at hrow
    obtain ⟨line', hb, -⟩ := Option.map_eq_some_iff.1 hrow.symm
    rw [hb]
    congr 1
    refine List.ext_getElem? fun column => ?_
    rw [← cell?_of_getElem? ha, ← cell?_of_getElem? hb, hcell]

namespace Edit

variable {lines : List (List Char)} {e : Edit} {edits : List Edit}

/-- What lines have to be for an edit is a matter of their lengths. -/
theorem Fits.of_length_eq {lines' : List (List Char)} (h : e.Fits lines)
    (hlength : lines'.map List.length = lines.map List.length) : e.Fits lines' := by
  obtain ⟨line, hline, hstop⟩ := h.inside
  have hrow : lines'[e.row]?.map List.length = some line.length := by
    rw [← List.getElem?_map, hlength, List.getElem?_map, hline, Option.map_some]
  obtain ⟨line', hline', heq⟩ := Option.map_eq_some_iff.1 hrow
  exact ⟨⟨line', hline', heq ▸ hstop⟩, h.length_eq⟩

/-- Two edits that are apart have no place in common. -/
theorem Apart.not_covers {f : Edit} (h : e.Apart f) {row column : Nat} (he : e.Covers row column) :
    ¬ f.Covers row column := by
  rintro ⟨hrow, hstart, hstop⟩
  obtain ⟨hrow', hstart', hstop'⟩ := he
  rcases h with h | h | h
  · exact h (hrow'.trans hrow.symm)
  · omega
  · omega

theorem Apart.symm {f : Edit} (h : e.Apart f) : f.Apart e := by
  rcases h with h | h | h
  · exact .inl (Ne.symm h)
  · exact .inr (.inr h)
  · exact .inr (.inl h)

/-! ### One edit -/

/-- An edit that fits leaves every line at its length. -/
theorem map_length_apply (h : e.Fits lines) :
    (apply lines e).map List.length = lines.map List.length := by
  refine List.ext_getElem? fun row => ?_
  rw [List.getElem?_map, List.getElem?_map, apply, List.getElem?_modify]
  obtain ⟨line, hline, hstop⟩ := h.inside
  by_cases hrow : e.row = row
  · subst hrow
    rw [hline]
    simp [length_overwrite h.length_eq hstop]
  · simp [hrow]

/-- An edit that fits changes the places that it is about, and no others. -/
theorem cell?_apply (h : e.Fits lines) (row column : Nat) : cell? (apply lines e) row column =
    if e.Covers row column then e.new[column - e.start]? else cell? lines row column := by
  obtain ⟨line, hline, hstop⟩ := h.inside
  rw [cell?, cell?, apply, List.getElem?_modify]
  by_cases hrow : e.row = row
  · subst hrow
    rw [hline]
    simp [Covers, getElem?_overwrite h.length_eq hstop]
  · have hnot : ¬ e.Covers row column := fun hcovers => hrow hcovers.1
    rw [if_neg hnot]
    simp [hrow]

/-! ### All edits -/

/-- Edits that fit leave every line at its length. -/
theorem map_length_applyAll (h : ∀ e ∈ edits, e.Fits lines) :
    (applyAll lines edits).map List.length = lines.map List.length := by
  induction edits generalizing lines with
  | nil => rfl
  | cons e rest ih =>
    have hlength := map_length_apply (h e List.mem_cons_self)
    have hrest : ∀ f ∈ rest, f.Fits (apply lines e) := fun f hf =>
      (h f (List.mem_cons_of_mem _ hf)).of_length_eq hlength
    exact (ih hrest).trans hlength

/-- Places that no edit is about stay as they are. -/
theorem cell?_applyAll_of_not_covers (h : ∀ e ∈ edits, e.Fits lines) {row column : Nat}
    (hnot : ∀ e ∈ edits, ¬ e.Covers row column) :
    cell? (applyAll lines edits) row column = cell? lines row column := by
  induction edits generalizing lines with
  | nil => rfl
  | cons e rest ih =>
    have he := h e List.mem_cons_self
    have hrest : ∀ f ∈ rest, f.Fits (apply lines e) := fun f hf =>
      (h f (List.mem_cons_of_mem _ hf)).of_length_eq (map_length_apply he)
    have hcell := ih hrest fun f hf => hnot f (List.mem_cons_of_mem _ hf)
    rw [applyAll, List.foldl_cons, ← applyAll, hcell, cell?_apply he,
      if_neg (hnot e List.mem_cons_self)]

/-- Of edits that are apart each is in force in the end: those behind it leave its places alone. -/
theorem cell?_applyAll_of_mem (h : ∀ e ∈ edits, e.Fits lines) (hapart : edits.Pairwise Apart)
    (he : e ∈ edits) {row column : Nat} (hcovers : e.Covers row column) :
    cell? (applyAll lines edits) row column = e.new[column - e.start]? := by
  induction edits generalizing lines with
  | nil => cases he
  | cons f rest ih =>
    have hf := h f List.mem_cons_self
    have hrest : ∀ g ∈ rest, g.Fits (apply lines f) := fun g hg =>
      (h g (List.mem_cons_of_mem _ hg)).of_length_eq (map_length_apply hf)
    obtain ⟨hhead, htail⟩ := List.pairwise_cons.1 hapart
    rw [applyAll, List.foldl_cons, ← applyAll]
    rcases List.mem_cons.1 he with rfl | hmem
    · rw [cell?_applyAll_of_not_covers hrest fun g hg => (hhead g hg).not_covers hcovers,
        cell?_apply hf, if_pos hcovers]
    · exact ih hrest htail hmem

/-- Edits that fit and are apart can be made in any order. -/
theorem applyAll_perm {edits' : List Edit} (hperm : edits'.Perm edits)
    (h : ∀ e ∈ edits, e.Fits lines) (hapart : edits.Pairwise Apart) :
    applyAll lines edits' = applyAll lines edits := by
  have h' : ∀ e ∈ edits', e.Fits lines := fun e he => h e (hperm.mem_iff.1 he)
  have hapart' : edits'.Pairwise Apart :=
    hperm.symm.pairwise hapart fun hef => hef.symm
  have hlength : (applyAll lines edits').map List.length = (applyAll lines edits).map List.length :=
    (map_length_applyAll h').trans (map_length_applyAll h).symm
  -- A place that an edit is about has what that edit puts there, whatever the order.
  refine lines_ext hlength fun row column => ?_
  by_cases hcovered : ∃ e ∈ edits, e.Covers row column
  · obtain ⟨e, he, hcovers⟩ := hcovered
    rw [cell?_applyAll_of_mem h' hapart' (hperm.mem_iff.2 he) hcovers,
      cell?_applyAll_of_mem h hapart he hcovers]
  · have hnot : ∀ e ∈ edits, ¬ e.Covers row column := fun e he hcovers =>
      hcovered ⟨e, he, hcovers⟩
    rw [cell?_applyAll_of_not_covers h' fun e he => hnot e (hperm.mem_iff.1 he),
      cell?_applyAll_of_not_covers h hnot]

end Edit

end QueryLint.Text
