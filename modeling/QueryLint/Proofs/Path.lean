import Mathlib.Data.List.Basic
import QueryLint.Path

/-!
# Paths of places

The parts of a path are what lies between its slashes (`segments_eq_splitOn`). A text that has no slash
and is no detour can be the name of a file (`IsName`), and the path that is made of such names for a
place leads through them and nothing else (`names_absolute`). The directories above a place are what
its path begins with, the longest first (`ancestors_concat`).
-/

namespace QueryLint

namespace Path

theorem segments_ne_nil : ∀ text : List Char, segments text ≠ []
  | [] => List.cons_ne_nil _ _
  | c :: text => by
    unfold segments
    split
    next => exact List.cons_ne_nil _ _
    next => split <;> exact List.cons_ne_nil _ _

/-- The parts of a text are the text split at its slashes. -/
theorem segments_eq_splitOn (text : List Char) : segments text = text.splitOn '/' := by
  induction text with
  | nil => rfl
  | cons c text ih =>
    rw [List.splitOn_cons_eq_if_modifyHead, segments]
    by_cases hc : c = '/'
    · rw [if_pos hc, if_pos (by simpa using hc), ih]
    · rw [if_neg hc, if_neg (by simpa using hc), ← ih]
      cases h : segments text with
      | nil => exact absurd h (segments_ne_nil text)
      | cons first more => rfl

/-- A text that can be the name of a file: it has no slash and is no detour. -/
structure IsName (name : String) : Prop where
  slash : '/' ∉ name.toList
  ne_empty : name ≠ ""
  ne_here : name ≠ "."
  ne_above : name ≠ ".."

theorem IsName.head? {name : String} (h : IsName name) : name.toList.head? ≠ some '/' :=
  fun heq => h.slash (List.mem_of_mem_head? heq)

/-- A name leads from where a program runs. -/
theorem IsName.relative {name : String} (h : IsName name) : isAbsolute name = false := by
  simpa [isAbsolute] using h.head?

/-- The path of one name leads through it. -/
theorem IsName.names {name : String} (h : IsName name) : names name = [name] := by
  have hparts : segments name.toList = [name.toList] := by
    rw [segments_eq_splitOn, List.splitOn_eq_singleton h.slash]
  unfold Path.names
  split
  next rest htext => exact absurd (by rw [htext, List.head?_cons]) h.head?
  next => rw [hparts, List.map_singleton, String.ofList_toList]

theorem absolute_ne_empty (place : Location) : absolute place ≠ "" := by
  simp [absolute]

theorem isAbsolute_absolute (place : Location) : isAbsolute (absolute place) = true := by
  simp [isAbsolute, absolute]

/-- The path of a place leads through its names. -/
theorem names_absolute {place : Location} (hne : place ≠ []) (h : ∀ name ∈ place, IsName name) :
    names (absolute place) = place := by
  have htext : (absolute place).toList = '/' :: ['/'].intercalate (place.map String.toList) := by
    rw [absolute, String.toList_append, String.toList_intercalate]
    rfl
  have hslash : ∀ part ∈ place.map String.toList, '/' ∉ part := by
    intro part hpart
    obtain ⟨name, hname, rfl⟩ := List.mem_map.1 hpart
    exact (h name hname).slash
  rw [names, htext]
  change (segments _).map String.ofList = _
  rw [segments_eq_splitOn, List.splitOn_intercalate '/' hslash (by simpa using hne), List.map_map]
  exact (List.map_congr_left fun name _ => String.ofList_toList).trans (List.map_id place)

end Path

namespace Location

theorem ancestors_nil : ancestors [] = [[]] := rfl

/-- Above a place are the place itself and all that is above the directory that it is in. -/
theorem ancestors_concat (place : Location) (name : String) :
    ancestors (place ++ [name]) = (place ++ [name]) :: ancestors place := by
  have htake : ∀ n ∈ (List.range (place.length + 1)).reverse,
      (place ++ [name]).take n = place.take n := by
    intro n hn
    rw [List.mem_reverse, List.mem_range, Nat.lt_succ_iff] at hn
    exact List.take_append_of_le_length hn
  have hall : (place ++ [name]).take (place.length + 1) = place ++ [name] := by
    rw [← List.length_concat (a := name), List.concat_eq_append, List.take_length]
  rw [ancestors, List.length_append, List.length_singleton, List.range_succ, List.reverse_append,
    List.reverse_singleton, List.singleton_append, List.map_cons, hall, List.map_congr_left htake,
    ancestors]

end Location

end QueryLint
