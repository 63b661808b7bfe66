import QueryLint.Text.Bytes
import QueryLint.Text.Quoted

/-!
# Characters counted in bytes

Every character takes at least one byte, so places counted in bytes are in the order of the places
counted in characters (`byteOffset_lt_iff`), and an interval contains a place whichever way it is
counted (`contains_inBytes`).
-/

namespace QueryLint.Text

theorem byteCount_cons (c : Char) (text : List Char) :
    byteCount (c :: text) = c.utf8Size + byteCount text := by
  have hshift : ∀ (text : List Char) (n : Nat),
      text.foldl (fun count c => count + c.utf8Size) n =
        n + text.foldl (fun count c => count + c.utf8Size) 0 := by
    intro text
    induction text with
    | nil => intro n; rfl
    | cons d text ih =>
      intro n
      rw [List.foldl_cons, List.foldl_cons, ih, ih (0 + d.utf8Size)]
      omega
  rw [byteCount, List.foldl_cons, hshift, Nat.zero_add]
  rfl

/-- The number of bytes before a character of a line. -/
def byteOffset (line : List Char) (i : Nat) : Nat :=
  byteCount (line.take i)

/-- An interval of characters of a line, as the interval of their bytes. -/
def Stretch.inBytes (line : List Char) (s : Stretch) : Stretch :=
  ⟨byteOffset line s.start, byteOffset line s.stop⟩

@[simp] theorem byteOffset_zero (line : List Char) : byteOffset line 0 = 0 := rfl

@[simp] theorem byteOffset_cons_succ (c : Char) (line : List Char) (i : Nat) :
    byteOffset (c :: line) (i + 1) = c.utf8Size + byteOffset line i := by
  rw [byteOffset, List.take_succ_cons, byteCount_cons, byteOffset]

/-- Behind a character are more bytes than before it. -/
theorem byteOffset_lt {line : List Char} {i j : Nat} (hij : i < j) (hj : j ≤ line.length) :
    byteOffset line i < byteOffset line j := by
  induction line generalizing i j with
  | nil =>
    rw [List.length_nil] at hj
    omega
  | cons c line ih =>
    obtain ⟨j, rfl⟩ : ∃ k, j = k + 1 := ⟨j - 1, by omega⟩
    rw [List.length_cons] at hj
    have := c.utf8Size_pos
    cases i with
    | zero =>
      rw [byteOffset_zero, byteOffset_cons_succ]
      omega
    | succ i =>
      have := ih (i := i) (j := j) (by omega) (by omega)
      rw [byteOffset_cons_succ, byteOffset_cons_succ]
      omega

/-- Offsets are in the order of the characters. -/
theorem byteOffset_lt_iff {line : List Char} {i j : Nat} (hi : i ≤ line.length)
    (hj : j ≤ line.length) : byteOffset line i < byteOffset line j ↔ i < j := by
  refine ⟨fun h => Nat.lt_of_not_le fun hle => ?_, fun h => byteOffset_lt h hj⟩
  rcases Nat.lt_or_eq_of_le hle with hlt | rfl
  · have := byteOffset_lt hlt hi
    omega
  · exact Nat.lt_irrefl _ h

theorem byteOffset_le_iff {line : List Char} {i j : Nat} (hi : i ≤ line.length)
    (hj : j ≤ line.length) : byteOffset line i ≤ byteOffset line j ↔ i ≤ j := by
  rw [← Nat.not_lt, ← Nat.not_lt, byteOffset_lt_iff hj hi]

/-- An interval contains a place counted in bytes if it contains the place counted in characters. -/
theorem contains_inBytes {line : List Char} {s : Stretch} {i : Nat} (hstart : s.start ≤ line.length)
    (hstop : s.stop ≤ line.length) (hi : i ≤ line.length) :
    (s.inBytes line).contains (byteOffset line i) = s.contains i := by
  rw [Stretch.contains, Stretch.contains, Stretch.inBytes, decide_eq_decide.2
    (byteOffset_le_iff hstart hi), decide_eq_decide.2 (byteOffset_lt_iff hi hstop)]

end QueryLint.Text
