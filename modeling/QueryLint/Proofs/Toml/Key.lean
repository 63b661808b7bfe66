import QueryLint.Proofs.Toml.Quoted
import QueryLint.Toml.Reader

/-!
# Keys are read back

A key is read as the name that it was written for, with or without quotes (`readName_writeKey`), and
the path of a header as its names (`readKey_writePath`). Where a key was written is of no interest
here.
-/

namespace QueryLint.Toml

open Reading

/-! ## How a key begins -/

/-- Characters that no key begins with. -/
def marks : List Char :=
  [' ', '\t', '\n', '\r', '#', '.', ',', '=', '[', ']', '\x7d', '\ufeff']

theorem isBare_of_mem_marks : ∀ c ∈ marks, isBare c = false := by
  simp [marks, isBare]

/-- A written key starts with none of the marks. -/
theorem writeKey_eq_cons (key : String) : ∃ c tail, writeKey key = c :: tail ∧ c ∉ marks := by
  unfold writeKey
  dsimp only
  split
  next h =>
    simp only [Bool.and_eq_true, Bool.not_eq_true', List.all_eq_true] at h
    obtain ⟨hne, hbare⟩ := h
    cases hkey : key.toList with
    | nil =>
      rw [hkey] at hne
      cases hne
    | cons c tail =>
      refine ⟨c, tail, rfl, fun hc => ?_⟩
      have : isBare c = true := hbare c (hkey ▸ List.mem_cons_self)
      rw [isBare_of_mem_marks c hc] at this
      cases this
  split
  · exact ⟨'"', _, rfl, by decide⟩
  split
  · exact ⟨'\'', _, rfl, by decide⟩
  · exact ⟨'"', _, rfl, by decide⟩

theorem isBlank_of_not_mem_marks {c : Char} (h : c ∉ marks) : isBlank c = false := by
  simp only [isBlank, Bool.or_eq_false_iff, decide_eq_false_iff_not]
  constructor <;> rintro rfl <;> exact h (by decide)

theorem skipBlanks_cons {c : Char} (h : isBlank c = false) (text : List Char) :
    skipBlanks (c :: text) = c :: text :=
  List.dropWhile_cons_of_neg (Bool.eq_false_iff.1 h)

theorem skipBlanks_append {text tail : List Char} {c : Char} (h : text = c :: tail)
    (hc : isBlank c = false) (rest : List Char) : skipBlanks (text ++ rest) = text ++ rest := by
  rw [h]
  exact skipBlanks_cons hc _

/-! ## One name -/

/-- A key between double quotes is read back. -/
theorem readName_writeBasic (key : String) (rest : List Char) :
    ∃ stretch, readName (writeBasic key.toList ++ rest) = .ok (⟨key, stretch⟩, rest) := by
  have htext : writeBasic key.toList ++ rest = '"' :: (escapeAll key.toList ++ '"' :: rest) := by
    rw [writeBasic, List.append_assoc]
    rfl
  refine ⟨between (writeBasic key.toList ++ rest) rest, ?_⟩
  rw [htext, readName]
  change (readBasic _ (escapeAll key.toList ++ '"' :: rest) >>= fun _ => _) = _
  rw [readBasic_tail]
  change Except.ok ((⟨String.ofList key.toList, _⟩ : Key), rest) = _
  rw [String.ofList_toList]

/-- A key between single quotes is read back, if it has only characters that may stand there. -/
theorem readName_writeLiteral {key : String} (h : ∀ c ∈ key.toList, isLiteral c = true)
    (rest : List Char) :
    ∃ stretch, readName (writeLiteral key.toList ++ rest) = .ok (⟨key, stretch⟩, rest) := by
  have htext : writeLiteral key.toList ++ rest = '\'' :: (key.toList ++ '\'' :: rest) := by
    rw [writeLiteral, List.append_assoc]
    rfl
  refine ⟨between (writeLiteral key.toList ++ rest) rest, ?_⟩
  rw [htext, readName]
  change (readLiteral (key.toList ++ '\'' :: rest) >>= fun _ => _) = _
  rw [readLiteral_append h]
  change Except.ok ((⟨String.ofList key.toList, _⟩ : Key), rest) = _
  rw [String.ofList_toList]

/-- A bare key is read up to a character that may not stand in one. -/
theorem readName_bare {key : String} (hne : key.toList ≠ []) (h : ∀ c ∈ key.toList, isBare c = true)
    {rest : List Char} (hrest : ∀ c ∈ rest.head?, isBare c = false) :
    ∃ stretch, readName (key.toList ++ rest) = .ok (⟨key, stretch⟩, rest) := by
  have htake : (key.toList ++ rest).takeWhile isBare = key.toList := by
    rw [List.takeWhile_append_of_pos h]
    cases rest with
    | nil => exact List.append_nil _
    | cons c rest =>
      rw [List.takeWhile_cons_of_neg (Bool.eq_false_iff.1 (hrest c rfl)), List.append_nil]
  have hdrop : (key.toList ++ rest).dropWhile isBare = rest := by
    rw [List.dropWhile_append_of_pos h]
    cases rest with
    | nil => rfl
    | cons c rest => rw [List.dropWhile_cons_of_neg (Bool.eq_false_iff.1 (hrest c rfl))]
  have hisEmpty : key.toList.isEmpty = false := List.isEmpty_eq_false_iff.2 hne
  -- No quote comes first.
  have hquote : ∀ quote more, isBare quote = false → key.toList ++ rest ≠ quote :: more := by
    intro quote more hquote heq
    cases hkey : key.toList with
    | nil => exact hne hkey
    | cons c tail =>
      rw [hkey] at heq
      have := h c (hkey ▸ List.mem_cons_self)
      rw [(List.cons.inj heq).1, hquote] at this
      cases this
  refine ⟨between (key.toList ++ rest) rest, ?_⟩
  unfold readName
  split
  next heq => exact absurd heq (hquote _ _ rfl)
  next heq => exact absurd heq (hquote _ _ rfl)
  next =>
    rw [htake, hdrop]
    dsimp only
    rw [hisEmpty]
    change Except.ok ((⟨String.ofList key.toList, _⟩ : Key), rest) = _
    rw [String.ofList_toList]

/-- A key is read up to a character that cannot belong to it. -/
theorem readName_writeKey (key : String) {rest : List Char}
    (hrest : ∀ c ∈ rest.head?, isBare c = false) :
    ∃ stretch, readName (writeKey key ++ rest) = .ok (⟨key, stretch⟩, rest) := by
  unfold writeKey
  dsimp only
  split
  next h =>
    simp only [Bool.and_eq_true, Bool.not_eq_true', List.all_eq_true] at h
    exact readName_bare (List.isEmpty_eq_false_iff.1 h.1) h.2 hrest
  split
  · exact readName_writeBasic key rest
  split
  next h =>
    simp only [Bool.and_eq_true, Bool.not_eq_true', List.any_eq_false, Bool.or_eq_true, not_or,
      Bool.not_eq_true, decide_eq_true_eq] at h
    obtain ⟨hcontrol, hquotes⟩ := h
    refine readName_writeLiteral (fun c hc => ?_) rest
    refine isLiteral_of_not_isControl (hcontrol c hc).1 (hcontrol c hc).2 ?_
    rintro rfl
    rw [List.contains_iff_mem.2 hc] at hquotes
    cases hquotes
  · exact readName_writeBasic key rest

/-! ## Paths -/

theorem writePath_singleton (name : String) : writePath [name] = writeKey name :=
  List.append_nil _

theorem writePath_cons {name : String} {path : List String} (h : path ≠ []) :
    writePath (name :: path) = writeKey name ++ '.' :: writePath path := by
  obtain ⟨next, path, rfl⟩ := List.exists_cons_of_ne_nil h
  rfl

theorem writePath_eq_cons {path : List String} (h : path ≠ []) :
    ∃ c tail, writePath path = c :: tail ∧ c ∉ marks := by
  obtain ⟨name, path, rfl⟩ := List.exists_cons_of_ne_nil h
  obtain ⟨c, tail, hkey, hc⟩ := writeKey_eq_cons name
  by_cases hpath : path = []
  · subst hpath
    exact ⟨c, tail, writePath_singleton name ▸ hkey, hc⟩
  · rw [writePath_cons hpath, hkey]
    exact ⟨c, _, rfl, hc⟩

theorem skipBlanks_writePath {path : List String} (h : path ≠ []) (rest : List Char) :
    skipBlanks (writePath path ++ rest) = writePath path ++ rest := by
  obtain ⟨c, tail, hwritten, hc⟩ := writePath_eq_cons h
  exact skipBlanks_append hwritten (isBlank_of_not_mem_marks hc) rest

/-- There are no more keys than characters, so fuel measured by the text is enough for a path. -/
theorem length_le_writePath (path : List String) : path.length ≤ (writePath path).length := by
  induction path with
  | nil => exact Nat.le_refl 0
  | cons name path ih =>
    obtain ⟨c, tail, hkey, -⟩ := writeKey_eq_cons name
    by_cases hpath : path = []
    · subst hpath
      rw [writePath_singleton, hkey]
      exact Nat.succ_le_succ (Nat.zero_le _)
    · rw [writePath_cons hpath, hkey, List.length_append, List.length_cons, List.length_cons,
        List.length_cons]
      omega

/-- The names of a path are read up to what cannot belong to the last one. -/
theorem readNames_writePath {path : List String} (hne : path ≠ []) {fuel : Nat}
    (hfuel : path.length ≤ fuel) {text rest : List Char} (hrest : ∀ c ∈ rest.head?, isBare c = false)
    (hpoint : ∀ c ∈ (skipBlanks rest).head?, c ≠ '.')
    (htext : skipBlanks text = writePath path ++ rest) :
    ∃ keys, keys.map Key.name = path ∧ readNames fuel text = .ok (keys, skipBlanks rest) := by
  induction path generalizing fuel text with
  | nil => exact absurd rfl hne
  | cons name path ih =>
    obtain ⟨fuel, rfl⟩ := Nat.exists_eq_add_one.2 (Nat.lt_of_lt_of_le (Nat.succ_pos _) hfuel)
    by_cases hpath : path = []
    · subst hpath
      rw [writePath_singleton] at htext
      obtain ⟨stretch, hname⟩ := readName_writeKey name hrest
      refine ⟨[⟨name, stretch⟩], rfl, ?_⟩
      rw [readNames, htext, hname]
      dsimp only [bind, Except.bind]
      split
      next heq => exact absurd rfl (hpoint '.' (heq ▸ rfl))
      next => rfl
    · rw [writePath_cons hpath, List.append_assoc, List.cons_append] at htext
      have hdot : ∀ c ∈ ('.' :: (writePath path ++ rest)).head?, isBare c = false := by
        intro c hc
        obtain rfl := Option.some.inj hc
        rfl
      have hskip := skipBlanks_writePath hpath rest
      obtain ⟨stretch, hname⟩ := readName_writeKey name hdot
      -- Behind a point there is another name, so the point is not given back.
      obtain ⟨keys, hkeys, hread⟩ := ih hpath (Nat.le_of_succ_le_succ hfuel) hskip
      refine ⟨⟨name, stretch⟩ :: keys, congrArg (name :: ·) hkeys, ?_⟩
      rw [readNames, htext, hname]
      dsimp only [bind, Except.bind]
      rw [skipBlanks_cons rfl]
      split
      next heq =>
        obtain rfl := (List.cons.inj heq).2
        rw [hread]
      next hne => exact absurd rfl (hne _)

/-- A key of names, not too many of them, is read up to what cannot belong to it. -/
theorem readKey_writePath {path : List String} {name : String} (hlength : path.length < maxDepth)
    {text rest : List Char} (hrest : ∀ c ∈ rest.head?, isBare c = false)
    (hpoint : ∀ c ∈ (skipBlanks rest).head?, c ≠ '.')
    (htext : skipBlanks text = writePath (path ++ [name]) ++ rest) :
    ∃ keys key, keys.map Key.name = path ∧ Key.name key = name
      ∧ readKey text = .ok ((keys, key), skipBlanks rest) := by
  have hfuel : (path ++ [name]).length ≤ text.length + 1 := by
    have hskipped := (List.dropWhile_suffix isBlank (l := text)).length_le
    have hwritten := length_le_writePath (path ++ [name])
    rw [← skipBlanks, htext, List.length_append] at hskipped
    omega
  obtain ⟨names, hnames, hread⟩ :=
    readNames_writePath (List.concat_ne_nil name path) hfuel hrest hpoint htext
  obtain ⟨keys, last, rfl, hkeys, hlast⟩ := List.map_eq_append_iff.1 hnames
  obtain ⟨key, rfl, hkey⟩ := List.map_eq_singleton_iff.1 hlast
  have hfew : ¬ maxDepth < (keys ++ [key]).length := by
    rw [List.length_append, ← List.length_map, hkeys, List.length_singleton]
    omega
  refine ⟨keys, key, hkeys, hkey, ?_⟩
  rw [readKey, hread, labelled]
  dsimp only [Except.mapError, bind, Except.bind]
  rw [if_neg hfew, List.getLast?_concat, List.dropLast_concat]

end QueryLint.Toml
