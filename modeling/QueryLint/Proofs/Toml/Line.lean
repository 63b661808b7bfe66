import QueryLint.Proofs.Toml.Value

/-!
# Lines are read back

Lines lead from one draft to another, whatever follows them (`Leads`), so what is read of a document
is put together from what is read of its parts: the line of a member adds it to the table of the last
header (`leads_line`), and the line of a header begins a table (`leads_header`).
-/

namespace QueryLint.Toml

open Reading Table

/-! ## Parts of a document -/

/-- Reading some lines leads from one draft to another of which something is known, whatever follows
the lines. -/
def Leads (lines : List Char) (a : Draft) (post : Draft → Prop) : Prop :=
  ∀ rest fuel, (lines ++ rest).length < fuel → ∃ fuel' b, post b ∧ rest.length < fuel'
    ∧ readLines fuel a (lines ++ rest) = readLines fuel' b rest

/-- Where there are no lines, all stays as it is. -/
theorem leads_nil {a : Draft} {post : Draft → Prop} (h : post a) : Leads [] a post :=
  fun _ fuel hfuel => ⟨fuel, a, h, hfuel, rfl⟩

/-- Lines behind lines lead on from where those have led. -/
theorem Leads.append {first second : List Char} {a : Draft} {mid post : Draft → Prop}
    (h : Leads first a mid) (hnext : ∀ b, mid b → Leads second b post) :
    Leads (first ++ second) a post := by
  intro rest fuel hfuel
  rw [List.append_assoc] at hfuel ⊢
  obtain ⟨fuel, b, hb, hfuel, hfirst⟩ := h (second ++ rest) fuel hfuel
  obtain ⟨fuel', c, hc, hfuel', hsecond⟩ := hnext b hb rest fuel hfuel
  exact ⟨fuel', c, hc, hfuel', hfirst.trans hsecond⟩

theorem Leads.mono {lines : List Char} {a : Draft} {mid post : Draft → Prop}
    (h : Leads lines a mid) (hpost : ∀ b, mid b → post b) : Leads lines a post := by
  intro rest fuel hfuel
  obtain ⟨fuel', b, hb, hfuel', hread⟩ := h rest fuel hfuel
  exact ⟨fuel', b, hpost b hb, hfuel', hread⟩

/-- At the end of the text the draft is as it is. -/
theorem readLines_nil (fuel : Nat) (a : Draft) : readLines fuel a [] = .ok a := by
  cases fuel <;> rfl

/-- What was read of one line is gone on from. -/
theorem readLines_of_read {read : Reading (Draft × List Char)} {b : Draft} {rest : List Char}
    (fuel : Nat) : read = .ok (b, rest) →
    (match read with
      | .error f => .error f
      | .ok (draft, []) => .ok draft
      | .ok (draft, rest) => readLines fuel draft rest) = readLines fuel b rest := by
  rintro rfl
  cases rest with
  | nil => exact (readLines_nil fuel b).symm
  | cons => rfl

/-- One line takes one step. -/
theorem leads_of_step {line : List Char} {a : Draft} {post : Draft → Prop} (hne : line ≠ [])
    (h : ∀ rest, ∃ b, post b
      ∧ ∀ fuel, readLines (fuel + 1) a (line ++ rest) = readLines fuel b rest) :
    Leads line a post := by
  intro rest fuel hfuel
  obtain ⟨fuel, rfl⟩ := Nat.exists_eq_add_one.2 (Nat.lt_of_le_of_lt (Nat.zero_le _) hfuel)
  obtain ⟨b, hb, hstep⟩ := h rest
  have hlength := List.length_pos_iff.2 hne
  rw [List.length_append] at hfuel
  exact ⟨fuel, b, hb, by omega, hstep fuel⟩

/-- An empty line changes nothing. -/
theorem readLines_newline (fuel : Nat) (a : Draft) (rest : List Char) :
    readLines (fuel + 1) a ('\n' :: rest) = readLines fuel a rest :=
  readLines_of_read fuel rfl

theorem leads_newline (a : Draft) : Leads ['\n'] a (· = a) :=
  leads_of_step (List.cons_ne_nil _ _) fun rest => ⟨a, rfl, fun fuel => readLines_newline fuel a rest⟩

/-! ## Lines -/

/-- What begins as a key does is read as a line of its own. -/
theorem readLines_of_readLine {c : Char} (hc : c ∉ marks) {a b : Draft} {text rest : List Char}
    (h : readLine a (c :: text) = .ok (b, rest)) (fuel : Nat) :
    readLines (fuel + 1) a (c :: text) = readLines fuel b rest := by
  rw [readLines, skipBlanks_cons (isBlank_of_not_mem_marks hc)]
  refine readLines_of_read fuel ?_
  -- Every other kind of line begins with a mark.
  split
  next heq => cases heq
  next heq => exact absurd ((List.cons.inj heq).1 ▸ hc) (by decide)
  next heq => exact absurd ((List.cons.inj heq).1 ▸ hc) (by decide)
  next heq => exact absurd ((List.cons.inj heq).1 ▸ hc) (by decide)
  next heq => exact absurd ((List.cons.inj heq).1 ▸ hc) (by decide)
  next heq => exact absurd ((List.cons.inj heq).1 ▸ hc) (by decide)
  next heq => exact absurd ((List.cons.inj heq).1 ▸ hc) (by decide)
  next heq => exact absurd ((List.cons.inj heq).1 ▸ hc) (by decide)
  next => exact h

/-- The members of an object that get headers. -/
def withHeaders (members : Json.Members) : Json.Members :=
  members.filter fun member => hasHeader member.2

/-- The members of an object that get lines. -/
def withLines (members : Json.Members) : Json.Members :=
  members.filter fun member => !hasHeader member.2

/-- Members are written on a line or under a header, and none is lost. -/
theorem withLines_append_withHeaders (members : Json.Members) :
    (withLines members ++ withHeaders members).Perm members :=
  List.perm_append_comm.trans (List.filter_append_perm _ members)

section Lines

variable {fill : Table → Table} {a : Draft} {t : Table}

/-- The line of a member adds it to the table of the last header. -/
theorem leads_line (hfill : Context a.names fill) (hroot : a.root = fill t)
    (hdotted : t.isDotted = false) {name : String} (hname : name ∉ t.names) {value : Json}
    (hvalue : Expressible value) (hordered : value.IsOrdered) (hdepth : value.depth ≤ maxDepth) :
    Leads (writeKey name ++ [' ', '=', ' '] ++ writeValue value ++ ['\n']) a fun b =>
      ∃ u, t.Grows u [(name, value)] ∧ b = ⟨fill u, a.path⟩ := by
  obtain ⟨c, tail, hkeytext, hc⟩ := writeKey_eq_cons name
  refine leads_of_step (List.concat_ne_nil _ _) fun rest => ?_
  have hskip : skipBlanks (writeKey name ++ [' ', '=', ' '] ++ writeValue value ++ '\n' :: rest) =
      writeKey name ++ [' ', '=', ' '] ++ writeValue value ++ '\n' :: rest := by
    rw [List.append_assoc, List.append_assoc]
    exact skipBlanks_append hkeytext (isBlank_of_not_mem_marks hc) _
  obtain ⟨key, item, rfl, rfl, hread⟩ := readAssignment_written hvalue
    (reads_writeValue hvalue hordered hdepth) name ⟨_, _, rfl, by decide⟩ hskip
  obtain ⟨u, hu, hassign⟩ := Draft.assign_push hfill hroot hdotted hname item
  -- What is read takes the place of the table that the header has left open.
  have hline : readLine a (writeKey key.name ++ [' ', '=', ' '] ++ writeValue item.toJson
      ++ '\n' :: rest) = .ok (⟨fill u, a.path⟩, rest) := by
    rw [readLine, hread]
    change (settled _ (a.assign [] key item) >>= fun _ => _) = _
    rw [hassign]
    rfl
  refine ⟨_, ⟨u, hu, rfl⟩, fun fuel => ?_⟩
  rw [List.append_assoc, List.singleton_append]
  rw [hkeytext] at hline ⊢
  exact readLines_of_readLine hc hline fuel

/-- The lines of an object add those of its members that have no header. -/
theorem leads_writeLines {members : Json.Members} (hfill : Context a.names fill)
    (hroot : a.root = fill t) (hdotted : t.isDotted = false)
    (hnames : (t.names ++ members.map Prod.fst).Nodup)
    (hmembers : ∀ member ∈ members,
      Expressible member.2 ∧ member.2.IsOrdered ∧ member.2.depth ≤ maxDepth) :
    Leads (writeLines members) a fun b =>
      ∃ u, t.Grows u (withLines members) ∧ b = ⟨fill u, a.path⟩ := by
  induction members generalizing a t with
  | nil => exact leads_nil ⟨t, .refl t, by rw [← hroot]⟩
  | cons member members ih =>
    obtain ⟨name, value⟩ := member
    obtain ⟨hvalue, hordered, hdepth⟩ := hmembers (name, value) List.mem_cons_self
    have hrest := fun member hmem => hmembers member (List.mem_cons_of_mem _ hmem)
    rw [writeLines]
    -- The table of the header grows line by line, so the members that follow are added to what the
    -- ones before them have made of it.
    by_cases hheader : hasHeader value = true
    · rw [if_pos hheader, withLines, List.filter_cons, if_neg (by rw [hheader]; decide)]
      refine ih hfill hroot hdotted ?_ hrest
      exact hnames.sublist ((List.sublist_cons_self _ _).append_left _)
    · have hname : name ∉ t.names := Table.not_mem_names_of_nodup hnames
      rw [if_neg hheader, List.append_cons, withLines, List.filter_cons,
        if_pos (by simpa using hheader)]
      refine (leads_line hfill hroot hdotted hname hvalue hordered hdepth).append ?_
      rintro _ ⟨u, hu, rfl⟩
      refine (ih (a := ⟨fill u, a.path⟩) hfill rfl (hu.isDotted.trans hdotted) ?_ hrest).mono ?_
      · rw [hu.names, List.append_assoc]
        exact hnames
      · rintro b ⟨v, hv, rfl⟩
        exact ⟨v, hu.trans hv, rfl⟩

end Lines

/-! ## Headers -/

/-- The line of a header, which may be one of several that say the same. -/
def header (several : Bool) (path : List String) : List Char :=
  (if several then ['[', '['] else ['[']) ++ writePath path
    ++ (if several then [']', ']'] else [']']) ++ ['\n']

/-- A table of a list has its header, and then its lines. -/
theorem writeSharedSection_eq (path : List String) (members : Json.Members) :
    writeSharedSection path members = header true path ++ writeLines members := by
  rw [writeSharedSection, header, if_pos rfl, if_pos rfl]
  simp only [List.append_assoc, List.cons_append, List.nil_append]

section Headers

variable {path : List String} {name : String} {a : Draft} {several : Bool} {post : Draft → Prop}

theorem names_eq_concat {keys : List Key} {key : Key} (hkeys : keys.map Key.name = path)
    (hkey : key.name = name) (root : Table) :
    Draft.names ⟨root, keys ++ [key]⟩ = path ++ [name] := by
  rw [Draft.names, List.map_append, hkeys, List.map_singleton, hkey]

/-- A header begins a table under its names. -/
theorem readHeader_writePath (hlength : path.length < maxDepth)
    (henter : ∀ keys key, keys.map Key.name = path → Key.name key = name → ∀ stretch,
      ∃ b, post b ∧ a.enter several keys key stretch = .ok b) (text rest : List Char) :
    ∃ b, post b
      ∧ readHeader a several text
          (writePath (path ++ [name]) ++ ((if several then [']', ']'] else [']']) ++ '\n' :: rest)) =
        .ok (b, rest) := by
  obtain ⟨tail, htail⟩ : ∃ tail,
      (if several then [']', ']'] else [']']) ++ '\n' :: rest = ']' :: tail := by
    cases several <;> exact ⟨_, rfl⟩
  have hskip := skipBlanks_writePath (List.concat_ne_nil name path) (']' :: tail)
  obtain ⟨keys, key, hkeys, hkey, hread⟩ := readKey_writePath hlength
    (fun c hc => by obtain rfl := Option.some.inj hc; rfl)
    (fun c hc => by obtain rfl := Option.some.inj hc; decide) hskip
  obtain ⟨b, hpost, henter⟩ := henter keys key hkeys hkey (between text ('\n' :: rest))
  refine ⟨b, hpost, ?_⟩
  rw [htail, readHeader, hread, skipBlanks_cons rfl, ← htail]
  cases several
  all_goals
    change labelled "table header" (settled text (a.enter _ keys key (between text ('\n' :: rest)))
      >>= fun _ => _) = _
    rw [henter]
    rfl

/-- The line of a header leads to the draft in which its table was begun. -/
theorem leads_header (hlength : path.length < maxDepth)
    (henter : ∀ keys key, keys.map Key.name = path → Key.name key = name → ∀ stretch,
      ∃ b, post b ∧ a.enter several keys key stretch = .ok b) :
    Leads (header several (path ++ [name])) a post := by
  refine leads_of_step (List.concat_ne_nil _ _) fun rest => ?_
  obtain ⟨c, tail, hpath, hc⟩ := writePath_eq_cons (List.concat_ne_nil name path)
  have hread := readHeader_writePath hlength henter
    (header several (path ++ [name]) ++ rest) rest
  obtain ⟨b, hpost, hread⟩ := hread
  refine ⟨b, hpost, fun fuel => ?_⟩
  cases several with
  | false =>
    have htext : header false (path ++ [name]) ++ rest =
        '[' :: (writePath (path ++ [name]) ++ ([']'] ++ '\n' :: rest)) := by
      simp [header]
    rw [htext] at hread ⊢
    rw [readLines, skipBlanks_cons rfl]
    refine readLines_of_read fuel ?_
    rw [hpath] at hread ⊢
    split
    next heq => cases heq
    next heq => cases heq
    next heq => cases heq
    next heq => cases heq
    next heq => cases heq
    next heq => cases heq
    -- A second bracket is a mark, so the path does not begin with one.
    next heq => exact absurd ((List.cons.inj (List.cons.inj heq).2).1 ▸ hc) (by decide)
    next heq =>
      obtain rfl := (List.cons.inj heq).2
      exact hread
    next hother => exact absurd rfl (hother _)
  | true =>
    have htext : header true (path ++ [name]) ++ rest =
        '[' :: '[' :: (writePath (path ++ [name]) ++ ([']', ']'] ++ '\n' :: rest)) := by
      simp [header]
    rw [htext] at hread ⊢
    exact readLines_of_read fuel hread

end Headers

end QueryLint.Toml
