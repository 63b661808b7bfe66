import QueryLint.Proofs.Toml.Line

/-!
# Documents are read back

The sections of a value add it under its name to the table at a path (`Adds`), whichever headers they
leave out; that all values do so is an induction on their depth (`adds`). A document is its lines and
the sections of its members (`parse_writeDocument`).
-/

namespace QueryLint.Toml

open Reading Table

/-! ## Sections -/

/-- Sections with an empty line before each. -/
def spaced (sections : List (List Char)) : List Char :=
  sections.flatMap fun lines => '\n' :: lines

theorem spaced_append (before after : List (List Char)) :
    spaced (before ++ after) = spaced before ++ spaced after :=
  List.flatMap_append

theorem Leads.spaced_cons {lines : List Char} {sections : List (List Char)} {a : Draft}
    {post : Draft → Prop} (h : Leads (lines ++ spaced sections) a post) :
    Leads (spaced (lines :: sections)) a post := by
  refine (leads_newline a).append ?_
  rintro _ rfl
  exact h

/-- The sections of a value add it under its name to the table at a path. -/
def Adds (value : Json) : Prop :=
  ∀ ⦃path : List String⦄ ⦃name : String⦄ ⦃around : (Table → Table) → Prop⦄ ⦃t : Table⦄ ⦃a : Draft⦄,
    path.length + value.depth ≤ maxDepth → Reaches path a.root t around → name ∉ t.names →
    Leads (spaced (sectionsOf (path ++ [name]) value)) a fun b =>
      ∃ fill u, around fill ∧ Context path fill ∧ t.Grows u [(name, value)] ∧ b.root = fill u

/-- The value of a member can be written and has room under a path; if it has a header, its sections
add it. -/
structure Fits (path : List String) (value : Json) : Prop where
  expressible : Expressible value
  isOrdered : value.IsOrdered
  depth : path.length + value.depth ≤ maxDepth
  adds : hasHeader value = true → Adds value

section Sections

variable {path : List String} {fill : Table → Table} {t : Table} {a : Draft} {members : Json.Members}

/-- A value that is written on a line has no section. -/
theorem sectionsOf_eq_nil {value : Json} (h : hasHeader value = false) (path : List String) :
    sectionsOf path value = [] := by
  cases value with
  | null | bool | integer | float | string => rfl
  | array items =>
    rw [hasHeader] at h
    rw [sectionsOf, h]
    rfl
  | object members => cases h

/-- The sections in a table add those of its members that have headers. -/
theorem leads_sectionsIn (hfill : Context path fill) (hroot : a.root = fill t)
    (hnames : (t.names ++ (withHeaders members).map Prod.fst).Nodup)
    (hmembers : ∀ member ∈ members, Fits path member.2) :
    Leads (spaced (sectionsIn path members)) a fun b =>
      ∃ u, t.Grows u (withHeaders members) ∧ b.root = fill u := by
  induction members generalizing a t with
  | nil => exact leads_nil ⟨t, .refl t, hroot⟩
  | cons member members ih =>
    obtain ⟨name, value⟩ := member
    obtain ⟨-, -, hdepth, hadds⟩ := hmembers (name, value) List.mem_cons_self
    have hrest := fun member hmem => hmembers member (List.mem_cons_of_mem _ hmem)
    rw [sectionsIn, spaced_append]
    -- The sections of a member may leave off under any header; all that those of the next one rely on
    -- is where the root has the table that they add to.
    by_cases hheader : hasHeader value = true
    · have hcons : withHeaders ((name, value) :: members) = (name, value) :: withHeaders members :=
        List.filter_cons_of_pos hheader
      rw [hcons] at hnames ⊢
      have hname : name ∉ t.names := Table.not_mem_names_of_nodup hnames
      refine (hadds hheader hdepth (hroot ▸ hfill.reaches t) hname).append ?_
      rintro b ⟨_, u, rfl, -, hu, hb⟩
      refine (ih hb ?_ hrest).mono ?_
      · rw [hu.names, List.append_assoc]
        exact hnames
      · rintro c ⟨v, hv, hc⟩
        exact ⟨v, hu.trans hv, hc⟩
    · have hcons : withHeaders ((name, value) :: members) = withHeaders members :=
        List.filter_cons_of_neg hheader
      rw [hcons] at hnames ⊢
      rw [sectionsOf_eq_nil (Bool.eq_false_iff.2 hheader)]
      exact ih hroot hnames hrest

/-- Behind a header, the lines and the sections of an object make up its table. -/
theorem leads_body (hfill : Context a.names fill) (hroot : a.root = fill t) (hfresh : t.IsFresh)
    (hnames : (members.map Prod.fst).Nodup) (hmembers : ∀ member ∈ members, Fits a.names member.2) :
    Leads (writeLines members ++ spaced (sectionsIn a.names members)) a fun b =>
      ∃ u, entriesToJson u.entries = withLines members ++ withHeaders members ∧ b.root = fill u := by
  refine (leads_writeLines hfill hroot hfresh.isDotted ?_ fun member hmem => ?_).append ?_
  · rw [hfresh.names]
    exact hnames
  · obtain ⟨hvalue, hordered, hdepth, -⟩ := hmembers member hmem
    exact ⟨hvalue, hordered, by omega⟩
  · rintro _ ⟨u, hu, rfl⟩
    -- The names that have lines are taken by now, and those that get headers are the others.
    refine (leads_sectionsIn (a := ⟨fill u, a.path⟩) hfill rfl ?_ hmembers).mono ?_
    · rw [hu.names, hfresh.names, List.nil_append, ← List.map_append]
      exact ((withLines_append_withHeaders members).map Prod.fst).nodup_iff.2 hnames
    · rintro b ⟨v, hv, hb⟩
      exact ⟨v, (hu.trans hv).members hfresh, hb⟩

/-- Where no line is written, all members have headers. -/
theorem hasHeader_of_writeLines_eq_nil (h : writeLines members = []) :
    ∀ member ∈ members, hasHeader member.2 = true := by
  induction members with
  | nil => exact fun _ => nofun
  | cons member members ih =>
    obtain ⟨name, value⟩ := member
    rw [writeLines] at h
    split at h
    next hheader =>
      intro member hmem
      rcases List.mem_cons.1 hmem with rfl | hmem
      · exact hheader
      · exact ih h member hmem
    next => exact absurd h (List.append_ne_nil_of_right_ne_nil _ (List.cons_ne_nil _ _))

section Under

variable {name : String} {around : (Table → Table) → Prop}

/-- A header leads to a table that was only just begun. -/
theorem leads_header_table (hlength : path.length < maxDepth) (h : Reaches path a.root t around)
    (hname : name ∉ t.names) :
    Leads (header false (path ++ [name])) a fun b => b.names = path ++ [name]
      ∧ ∃ fill, ∃ key : Key, ∃ fresh : Table, around fill ∧ Context path fill ∧ key.name = name
        ∧ fresh.IsFresh ∧ b.root = fill (t.push key ⟨.table fresh, none⟩) := by
  refine leads_header hlength fun keys key hkeys hkey stretch => ?_
  obtain ⟨fill, fresh, haround, hfill, hfresh, henter⟩ :=
    Draft.enter_table h hkeys (hkey ▸ hname) stretch
  exact ⟨_, ⟨names_eq_concat hkeys hkey _, fill, key, fresh, haround, hfill, hkey, hfresh, rfl⟩,
    henter⟩

/-- So does the first of several headers that say the same. -/
theorem leads_header_first (hlength : path.length < maxDepth) (h : Reaches path a.root t around)
    (hname : name ∉ t.names) :
    Leads (header true (path ++ [name])) a fun b => b.names = path ++ [name]
      ∧ ∃ fill, ∃ key : Key, ∃ fresh : Table, around fill ∧ Context path fill ∧ key.name = name
        ∧ fresh.IsFresh ∧ b.root = fill (t.push key ⟨.tables [fresh], none⟩) := by
  refine leads_header hlength fun keys key hkeys hkey stretch => ?_
  obtain ⟨fill, fresh, haround, hfill, hfresh, henter⟩ :=
    Draft.enter_first h hkeys (hkey ▸ hname) stretch
  exact ⟨_, ⟨names_eq_concat hkeys hkey _, fill, key, fresh, haround, hfill, hkey, hfresh, rfl⟩,
    henter⟩

/-- Each further one leads to a table next to the others. -/
theorem leads_header_next (hlength : path.length < maxDepth) (hfill : Context path fill) {key : Key}
    {before : List Table} (hroot : a.root = fill (t.push key ⟨.tables before, none⟩))
    (hkey : key.name ∉ t.names) :
    Leads (header true (path ++ [key.name])) a fun b => b.names = path ++ [key.name]
      ∧ ∃ fresh : Table, fresh.IsFresh
        ∧ b.root = fill (t.push key ⟨.tables (before ++ [fresh]), none⟩) := by
  refine leads_header hlength fun keys next hkeys hnext stretch => ?_
  obtain ⟨fresh, hfresh, henter⟩ := Draft.enter_next hfill hroot hkeys hkey hnext stretch
  exact ⟨_, ⟨names_eq_concat hkeys hnext _, fresh, hfresh, rfl⟩, henter⟩

/-- The sections of members that all have headers make up a table that only its name implies: the
first of them is put into it when there is none yet, the others are added to that one. -/
theorem leads_implied (h : Reaches path a.root t around) (hname : name ∉ t.names)
    (hnames : (members.map Prod.fst).Nodup)
    (hmembers : ∀ member ∈ members, Fits (path ++ [name]) member.2) (hne : members ≠ [])
    (hheaders : ∀ member ∈ members, hasHeader member.2 = true) :
    Leads (spaced (sectionsIn (path ++ [name]) members)) a fun b =>
      ∃ fill, ∃ key : Key, ∃ u, around fill ∧ Context path fill ∧ key.name = name
        ∧ entriesToJson u.entries = members ∧ b.root = fill (t.push key ⟨.table u, none⟩) := by
  obtain ⟨⟨first, value⟩, members, rfl⟩ := List.exists_cons_of_ne_nil hne
  have hfirst := hmembers (first, value) List.mem_cons_self
  have hmore := fun member hmem => hmembers member (List.mem_cons_of_mem _ hmem)
  have hrest : withHeaders members = members :=
    List.filter_eq_self.2 fun member hmem => hheaders member (List.mem_cons_of_mem _ hmem)
  rw [sectionsIn, spaced_append]
  -- Reading the first section implies the table; from then on it stands in a context of its own.
  refine (hfirst.adds (hheaders _ List.mem_cons_self) hfirst.depth (h.implied hname)
    List.not_mem_nil).append ?_
  rintro b ⟨_, u, ⟨fill, key, haround, hfill, hkey, rfl⟩, hinner, hu, hb⟩
  refine (leads_sectionsIn hinner hb ?_ hmore).mono ?_
  · rw [hu.names, hrest]
    exact hnames
  · rintro c ⟨v, hv, hc⟩
    rw [hrest] at hv
    exact ⟨fill, key, v, haround, hfill, hkey, (hu.trans hv).members ⟨rfl, rfl⟩, hc⟩

/-- The sections of an object make up its table, with a header of its own or without one. -/
theorem leads_object (hlength : path.length < maxDepth) (h : Reaches path a.root t around)
    (hname : name ∉ t.names) (hnames : (members.map Prod.fst).Nodup)
    (hmembers : ∀ member ∈ members, Fits (path ++ [name]) member.2) :
    Leads (spaced (sectionsOf (path ++ [name]) (.object members))) a fun b =>
      ∃ fill, ∃ key : Key, ∃ u, around fill ∧ Context path fill ∧ key.name = name
        ∧ entriesToJson u.entries = withLines members ++ withHeaders members
        ∧ b.root = fill (t.push key ⟨.table u, none⟩) := by
  rw [sectionsOf, writeSection]
  split
  -- A header is left out where there are members but no lines.
  next homitted =>
    simp only [Bool.and_eq_true, Bool.not_eq_true', List.isEmpty_eq_false_iff,
      List.isEmpty_iff] at homitted
    have hheaders := hasHeader_of_writeLines_eq_nil homitted.1
    have hlines : withLines members = [] := by
      refine List.filter_eq_nil_iff.2 fun member hmem => ?_
      rw [hheaders member hmem]
      decide
    have hall : withHeaders members = members := List.filter_eq_self.2 hheaders
    rw [hlines, hall]
    exact leads_implied h hname hnames hmembers homitted.2 hheaders
  next =>
    have htext : ['['] ++ writePath (path ++ [name]) ++ [']', '\n'] ++ writeLines members =
        header false (path ++ [name]) ++ writeLines members := by
      simp [header]
    rw [htext, List.singleton_append]
    refine Leads.spaced_cons ?_
    rw [List.append_assoc]
    refine (leads_header_table hlength h hname).append ?_
    rintro b ⟨hpath, fill, key, fresh, haround, hfill, rfl, hfresh, hroot⟩
    have hinner := hfill.table (t := t) hname
    rw [← hpath] at hmembers hinner ⊢
    refine (leads_body hinner hroot hfresh hnames hmembers).mono ?_
    rintro c ⟨u, hu, hc⟩
    exact ⟨fill, key, u, haround, hfill, rfl, hu, hc⟩

end Under

/-- What the sections of an object make up is added to the tables that share their header. -/
theorem leads_sharedBody {key : Key} {before : List Table} {fresh : Table}
    (hfill : Context path fill) (hkey : key.name ∉ t.names) (hfresh : fresh.IsFresh)
    (hpath : a.names = path ++ [key.name])
    (hroot : a.root = fill (t.push key ⟨.tables (before ++ [fresh]), none⟩))
    (hordered : (members.map Prod.fst).Pairwise (· < ·))
    (hmembers : ∀ member ∈ members, Fits (path ++ [key.name]) member.2) :
    Leads (writeLines members ++ spaced (sectionsIn (path ++ [key.name]) members)) a fun b =>
      ∃ u, u.toJson = .object members
        ∧ b.root = fill (t.push key ⟨.tables (before ++ [u]), none⟩) := by
  have hinner := hfill.tables before hkey
  rw [← hpath] at hmembers hinner ⊢
  refine (leads_body hinner hroot hfresh (Json.nodup_of_ordered hordered) hmembers).mono ?_
  rintro b ⟨u, hu, hb⟩
  exact ⟨u, toJson_of_perm (by rw [hu]; exact withLines_append_withHeaders members) hordered, hb⟩

/-- The members of an object that can be written, with room for it under a path but the last name
of that, if those of them that have headers are added by their sections. -/
theorem fits_member (hvalue : Expressible (.object members))
    (hordered : (Json.object members).IsOrdered)
    (hdepth : path.length + (Json.object members).depth ≤ maxDepth + 1)
    (hadds : ∀ member ∈ members, hasHeader member.2 = true → Adds member.2) :
    ∀ member ∈ members, Fits path member.2 := by
  intro member hmem
  refine ⟨hvalue.member hmem, hordered.member hmem, ?_, hadds member hmem⟩
  have hinner := Json.depth_le_depthOfMembers hmem
  rw [Json.depth] at hdepth
  omega

theorem allObjects_cons {item : Json} {items : List Json} (h : allObjects (item :: items) = true) :
    ∃ members, item = .object members ∧ allObjects items = true := by
  cases item with
  | object members => exact ⟨members, rfl, h⟩
  | _ => cases h

/-- Each further object of an array adds a table to those that share a header. -/
theorem leads_sharedSections {key : Key} {before : List Table} {items : List Json}
    (hlength : path.length < maxDepth) (hobjects : allObjects items = true)
    (hitems : ∀ members, .object members ∈ items → (members.map Prod.fst).Pairwise (· < ·)
      ∧ ∀ member ∈ members, Fits (path ++ [key.name]) member.2)
    (hfill : Context path fill) (hkey : key.name ∉ t.names)
    (hroot : a.root = fill (t.push key ⟨.tables before, none⟩)) :
    Leads (spaced (sharedSections (path ++ [key.name]) items)) a fun b =>
      ∃ more, tablesToJson more = items
        ∧ b.root = fill (t.push key ⟨.tables (before ++ more), none⟩) := by
  induction items generalizing a before with
  | nil => exact leads_nil ⟨[], rfl, by rw [List.append_nil, hroot]⟩
  | cons item items ih =>
    obtain ⟨members, rfl, hobjects⟩ := allObjects_cons hobjects
    obtain ⟨hordered, hmembers⟩ := hitems members List.mem_cons_self
    rw [sharedSections, List.cons_append, writeSharedSection_eq]
    refine Leads.spaced_cons ?_
    rw [spaced_append, List.append_assoc, ← List.append_assoc (writeLines members)]
    refine (leads_header_next hlength hfill hroot hkey).append ?_
    rintro b ⟨hpath, fresh, hfresh, hb⟩
    refine (leads_sharedBody hfill hkey hfresh hpath hb hordered hmembers).append ?_
    rintro c ⟨u, hu, hc⟩
    have hrest := fun members hmem => hitems members (List.mem_cons_of_mem _ hmem)
    refine (ih hobjects hrest hc).mono ?_
    rintro d ⟨more, hmore, hd⟩
    exact ⟨u :: more, by rw [tablesToJson, hu, hmore], by rw [List.append_cons]; exact hd⟩

end Sections

/-! ## Values under headers -/

/-- An object is added by its sections if the members of it are that have headers. -/
theorem adds_object {members : Json.Members} (hvalue : Expressible (.object members))
    (hordered : (Json.object members).IsOrdered)
    (hadds : ∀ member ∈ members, hasHeader member.2 = true → Adds member.2) :
    Adds (.object members) := by
  intro path name around t a hdepth h hname
  have hnames := hordered _ .here members rfl
  have hlength : path.length < maxDepth := by
    rw [Json.depth] at hdepth
    omega
  have hinner : (path ++ [name]).length + (Json.object members).depth ≤ maxDepth + 1 := by
    rw [List.length_append, List.length_singleton]
    omega
  refine (leads_object hlength h hname (Json.nodup_of_ordered hnames)
    (fits_member hvalue hordered hinner hadds)).mono ?_
  rintro b ⟨fill, key, u, haround, hfill, rfl, hu, hb⟩
  have hobject : u.toJson = .object members :=
    toJson_of_perm (by rw [hu]; exact withLines_append_withHeaders members) hnames
  refine ⟨fill, _, haround, hfill, ?_, hb⟩
  rw [← hobject]
  exact grows_push t key ⟨.table u, none⟩

/-- An array of objects is added by its sections if the members of its objects are that have
headers. -/
theorem adds_array {items : List Json} (hvalue : Expressible (.array items))
    (hordered : (Json.array items).IsOrdered) (hheader : hasHeader (.array items) = true)
    (hadds : ∀ members, .object members ∈ items →
      ∀ member ∈ members, hasHeader member.2 = true → Adds member.2) :
    Adds (.array items) := by
  intro path name around t a hdepth h hname
  rw [hasHeader] at hheader
  rw [sectionsOf, if_pos hheader]
  simp only [Bool.and_eq_true, Bool.not_eq_true', List.isEmpty_eq_false_iff] at hheader
  obtain ⟨hne, hobjects⟩ := hheader
  have hlength : path.length < maxDepth := by
    rw [Json.depth] at hdepth
    omega
  have hitems : ∀ members, .object members ∈ items → (members.map Prod.fst).Pairwise (· < ·)
      ∧ ∀ member ∈ members, Fits (path ++ [name]) member.2 := by
    intro members hmem
    have hobject := hordered.item hmem
    refine ⟨hobject _ .here members rfl,
      fits_member (hvalue.item hmem) hobject ?_ (hadds members hmem)⟩
    have hitem := Json.depth_le_depthOfItems hmem
    rw [Json.depth] at hdepth
    rw [List.length_append, List.length_singleton]
    omega
  -- The header of the first object begins the array, and those of the others find it there.
  obtain ⟨item, items, rfl⟩ := List.exists_cons_of_ne_nil hne
  obtain ⟨members, rfl, hmore⟩ := allObjects_cons hobjects
  obtain ⟨hnames, hmembers⟩ := hitems members List.mem_cons_self
  rw [sharedSections, List.cons_append, writeSharedSection_eq]
  refine Leads.spaced_cons ?_
  rw [spaced_append, List.append_assoc, ← List.append_assoc (writeLines members)]
  refine (leads_header_first hlength h hname).append ?_
  rintro b ⟨hpath, fill, key, fresh, haround, hfill, rfl, hfresh, hb⟩
  have hroot : b.root = fill (t.push key ⟨.tables ([] ++ [fresh]), none⟩) := hb
  refine (leads_sharedBody hfill hname hfresh hpath hroot hnames hmembers).append ?_
  rintro c ⟨u, hu, hc⟩
  refine (leads_sharedSections hlength hmore
    (fun members hmem => hitems members (List.mem_cons_of_mem _ hmem)) hfill hname hc).mono ?_
  rintro d ⟨more, rfl, hd⟩
  refine ⟨fill, _, haround, hfill, ?_, hd⟩
  have hgrows := grows_push t key ⟨.tables (u :: more), none⟩
  rw [Item.toJson, Node.toJson, tablesToJson, hu] at hgrows
  exact hgrows

/-- **Every value that can be written is added by its sections**, if it has any. -/
theorem adds {value : Json} (hvalue : Expressible value) (hordered : value.IsOrdered)
    (hheader : hasHeader value = true) : Adds value := by
  suffices hbound : ∀ n, ∀ value : Json, value.depth ≤ n → Expressible value → value.IsOrdered →
      hasHeader value = true → Adds value from
    hbound value.depth value (Nat.le_refl _) hvalue hordered hheader
  intro n
  -- On the depth, since what is needed of an array are the members of its objects.
  induction n with
  | zero =>
    intro value hdepth _ _ hheader
    cases value with
    | null | bool | integer | float | string => cases hheader
    | array | object => rw [Json.depth] at hdepth; omega
  | succ n ih =>
    intro value hdepth hvalue hordered hheader
    cases value with
    | null | bool | integer | float | string => cases hheader
    | object members =>
      refine adds_object hvalue hordered fun member hmem hinner => ?_
      exact ih _ (Json.depth_member_le hmem hdepth) (hvalue.member hmem) (hordered.member hmem) hinner
    | array items =>
      refine adds_array hvalue hordered hheader fun members hitem member hmem hinner => ?_
      have hobject := Json.depth_item_le hitem hdepth
      exact ih _ (Json.depth_member_le hmem (Nat.le_succ_of_le hobject))
        ((hvalue.item hitem).member hmem) ((hordered.item hitem).member hmem) hinner

/-! ## Whole documents -/

mutual

/-- Every section begins with the bracket of its header. -/
theorem head?_sectionsOf (path : List String) :
    ∀ value : Json, ∀ lines ∈ sectionsOf path value, lines.head? = some '['
  | .object members, lines, h => by
    rw [sectionsOf, List.mem_append] at h
    rcases h with h | h
    · rw [writeSection] at h
      split at h
      · cases h
      · rw [List.mem_singleton.1 h]
        rfl
    · exact head?_sectionsIn path members lines h
  | .array items, lines, h => by
    rw [sectionsOf] at h
    split at h
    · exact head?_sharedSections path items lines h
    · cases h
  | .null, _, h | .bool _, _, h | .integer _, _, h | .float _, _, h | .string _, _, h => by cases h

/-- The sections of a list of tables start with a header. -/
theorem head?_sharedSections (path : List String) :
    ∀ items : List Json, ∀ lines ∈ sharedSections path items, lines.head? = some '['
  | .object members :: rest, lines, h => by
    rw [sharedSections, List.cons_append, List.mem_cons, List.mem_append] at h
    rcases h with rfl | h | h
    · rfl
    · exact head?_sectionsIn path members lines h
    · exact head?_sharedSections path rest lines h
  | [], _, h => by cases h
  | .null :: _, _, h | .bool _ :: _, _, h | .integer _ :: _, _, h | .float _ :: _, _, h
  | .string _ :: _, _, h | .array _ :: _, _, h => by cases h

theorem head?_sectionsIn (path : List String) :
    ∀ members : List (String × Json), ∀ lines ∈ sectionsIn path members, lines.head? = some '['
  | [], _, h => by cases h
  | (name, value) :: rest, lines, h => by
    rw [sectionsIn, List.mem_append] at h
    rcases h with h | h
    · exact head?_sectionsOf (path ++ [name]) value lines h
    · exact head?_sectionsIn path rest lines h

end

theorem spaced_eq_cons (lines : List Char) (parts : List (List Char)) :
    spaced (lines :: parts) = '\n' :: List.intercalate ['\n'] (lines :: parts) := by
  induction parts generalizing lines with
  | nil => rw [List.intercalate_singleton, spaced, List.flatMap_singleton]
  | cons next parts ih =>
    rw [List.intercalate_cons_cons, List.append_assoc, List.singleton_append, ← ih next]
    rfl

/-- The parts of a document, with an empty line between them, are read as if there were one before
each. -/
theorem parse_of_leads {parts : List (List Char)} {post : Draft → Prop}
    (hmark : ∀ c ∈ (List.intercalate ['\n'] parts).head?, c ≠ '\ufeff')
    (h : ∀ bytes, Leads (spaced parts) (Draft.start bytes) post) :
    ∃ b, post b ∧ parse (List.intercalate ['\n'] parts) = .ok b.root := by
  -- An empty line takes one more step and changes nothing, so it may as well be left out.
  have hlines : ∀ bytes fuel, (List.intercalate ['\n'] parts).length < fuel →
      ∃ b, post b ∧ readLines fuel (Draft.start bytes) (List.intercalate ['\n'] parts) = .ok b := by
    intro bytes fuel hfuel
    cases parts with
    | nil =>
      obtain ⟨fuel', b, hb, -, hread⟩ := h bytes [] fuel hfuel
      exact ⟨b, hb, hread.trans (readLines_nil fuel' b)⟩
    | cons lines parts =>
      have hspaced := h bytes [] (fuel + 1)
      rw [spaced_eq_cons, List.append_nil] at hspaced
      obtain ⟨fuel', b, hb, -, hread⟩ := hspaced (Nat.succ_lt_succ hfuel)
      rw [readLines_newline, readLines_nil] at hread
      exact ⟨b, hb, hread⟩
  obtain ⟨b, hb, hread⟩ := hlines (Text.byteCount (List.intercalate ['\n'] parts))
    ((List.intercalate ['\n'] parts).length + 1) (Nat.lt_succ_self _)
  refine ⟨b, hb, ?_⟩
  unfold parse
  split
  next heq => exact absurd rfl (hmark _ (heq ▸ rfl))
  next =>
    change (readLines _ _ _ >>= fun _ => _) = _
    rw [hread]
    rfl

/-- A table at the end adds no line. -/
theorem writeLines_append_table {before : Json.Members}
    (hbefore : ∀ member ∈ before, hasHeader member.2 = false) (name : String)
    (members : Json.Members) :
    writeLines (before ++ [(name, .object members)]) = writeLines before := by
  induction before with
  | nil => rfl
  | cons member before ih =>
    obtain ⟨first, value⟩ := member
    have hheader : hasHeader value = false := hbefore _ List.mem_cons_self
    rw [List.cons_append, writeLines, writeLines, hheader, if_neg Bool.false_ne_true,
      if_neg Bool.false_ne_true, ih fun member hmem => hbefore member (List.mem_cons_of_mem _ hmem)]

/-- Its sections are all that it adds, where the members before it have none. -/
theorem sectionsIn_append_table {before : Json.Members}
    (hbefore : ∀ member ∈ before, hasHeader member.2 = false) (path : List String) (name : String)
    (members : Json.Members) :
    sectionsIn path (before ++ [(name, .object members)]) =
      sectionsOf (path ++ [name]) (.object members) := by
  induction before with
  | nil => rw [List.nil_append, sectionsIn, sectionsIn, List.append_nil]
  | cons member before ih =>
    obtain ⟨first, value⟩ := member
    rw [List.cons_append, sectionsIn, sectionsOf_eq_nil (hbefore _ List.mem_cons_self),
      List.nil_append, ih fun member hmem => hbefore member (List.mem_cons_of_mem _ hmem)]

/-- Lines start with none of the marks. -/
theorem writeLines_eq_cons {members : Json.Members} (h : writeLines members ≠ []) :
    ∃ c tail, writeLines members = c :: tail ∧ c ∉ marks := by
  induction members with
  | nil => exact absurd rfl h
  | cons member members ih =>
    obtain ⟨name, value⟩ := member
    obtain ⟨c, tail, hkey, hc⟩ := writeKey_eq_cons name
    rw [writeLines] at h ⊢
    split
    next hheader =>
      rw [if_pos hheader] at h
      exact ih h
    next =>
      rw [hkey]
      exact ⟨c, _, rfl, hc⟩

/-- A document begins with no mark of the byte order. -/
theorem head?_writeDocument (members : Json.Members) :
    ∀ c ∈ (writeDocument members).head?, c ≠ '\ufeff' := by
  have hpart : ∀ part ∈ (if (writeLines members).isEmpty then [] else [writeLines members])
      ++ sectionsIn [] members, ∃ c tail, part = c :: tail ∧ c ≠ '\ufeff' := by
    intro part hpart
    rcases List.mem_append.1 hpart with hown | hsection
    · split at hown
      · cases hown
      next hempty =>
        obtain ⟨c, tail, hlines, hc⟩ :=
          writeLines_eq_cons fun h => hempty (List.isEmpty_iff.2 h)
        refine ⟨c, tail, (List.mem_singleton.1 hown).trans hlines, ?_⟩
        rintro rfl
        exact hc (by decide)
    · obtain ⟨tail, htail⟩ := List.head?_eq_some_iff.1 (head?_sectionsIn [] members part hsection)
      exact ⟨'[', tail, htail, by decide⟩
  rw [writeDocument]
  generalize (if (writeLines members).isEmpty then [] else [writeLines members])
      ++ sectionsIn [] members = parts at hpart
  cases parts with
  | nil => exact nofun
  | cons part parts =>
    obtain ⟨c, tail, rfl, hc⟩ := hpart part List.mem_cons_self
    cases parts <;> rintro _ ⟨⟩ <;> exact hc

/-- The lines of a document are read into its root, if there are any. -/
theorem leads_ownLines {members : Json.Members}
    (hlines : ∀ member ∈ members, hasHeader member.2 = false)
    (hmembers : ∀ member ∈ members,
      Expressible member.2 ∧ member.2.IsOrdered ∧ member.2.depth ≤ maxDepth)
    (hnames : (members.map Prod.fst).Nodup) (bytes : Nat) :
    Leads (spaced (if (writeLines members).isEmpty then [] else [writeLines members]))
      (Draft.start bytes) fun b => ∃ t, (Draft.start bytes).root.Grows t members ∧ b = ⟨t, []⟩ := by
  have hall : withLines members = members :=
    List.filter_eq_self.2 fun member hmem => by rw [hlines member hmem]; rfl
  have hwritten := leads_writeLines (a := Draft.start bytes) Context.root rfl rfl hnames hmembers
  rw [hall] at hwritten
  split
  next hempty =>
    rw [List.isEmpty_iff.1 hempty] at hwritten
    exact hwritten
  next =>
    refine Leads.spaced_cons ?_
    rw [spaced, List.flatMap_nil, List.append_nil]
    exact hwritten

/-- **A document is read back** whose one table is its last member: as the members before it, in their
order, and the table, with those of its members behind the others that get headers. -/
theorem parse_writeDocument {before members : Json.Members} {name : String}
    (hlines : ∀ member ∈ before, hasHeader member.2 = false)
    (hbefore : ∀ member ∈ before,
      Expressible member.2 ∧ member.2.IsOrdered ∧ member.2.depth ≤ maxDepth)
    (hnames : (before.map Prod.fst ++ [name]).Nodup) (hinner : (members.map Prod.fst).Nodup)
    (hmembers : ∀ member ∈ members,
      Expressible member.2 ∧ member.2.IsOrdered ∧ member.2.depth < maxDepth) :
    ∃ t u : Table, ∃ key : Key, entriesToJson t.entries = before ∧ key.name = name
      ∧ entriesToJson u.entries = withLines members ++ withHeaders members
      ∧ parse (writeDocument (before ++ [(name, .object members)])) =
        .ok (t.push key ⟨.table u, none⟩) := by
  have hfits : ∀ member ∈ members, Fits ([] ++ [name]) member.2 := by
    intro member hmem
    obtain ⟨hvalue, hordered, hdepth⟩ := hmembers member hmem
    exact ⟨hvalue, hordered, by rw [Nat.add_comm]; exact hdepth, adds hvalue hordered⟩
  have hread : ∀ bytes, Leads
      (spaced ((if (writeLines before).isEmpty then [] else [writeLines before])
        ++ sectionsOf ([] ++ [name]) (.object members))) (Draft.start bytes)
      fun b => ∃ t u : Table, ∃ key : Key, entriesToJson t.entries = before ∧ key.name = name
        ∧ entriesToJson u.entries = withLines members ++ withHeaders members
        ∧ b.root = t.push key ⟨.table u, none⟩ := by
    intro bytes
    rw [spaced_append]
    -- The lines come first and fill the root, as no header has been read by then.
    refine (leads_ownLines hlines hbefore (List.nodup_append.1 hnames).1 bytes).append ?_
    rintro _ ⟨t, ht, rfl⟩
    have hothers : (t.names ++ [name]).Nodup := by
      rw [ht.names]
      exact hnames
    have hname : name ∉ t.names := Table.not_mem_names_of_nodup hothers
    have hroot : Reaches [] t t (· = id) := Context.root.reaches t
    refine (leads_object (by decide) hroot hname hinner hfits).mono ?_
    rintro b ⟨_, key, u, rfl, -, hkey, hu, hb⟩
    exact ⟨t, u, key, ht.members ⟨rfl, rfl⟩, hkey, hu, hb⟩
  have hmark := head?_writeDocument (before ++ [(name, .object members)])
  rw [writeDocument, writeLines_append_table hlines, sectionsIn_append_table hlines] at hmark ⊢
  obtain ⟨b, ⟨t, u, key, ht, hkey, hu, hb⟩, hparse⟩ := parse_of_leads hmark hread
  exact ⟨t, u, key, ht, hkey, hu, hb ▸ hparse⟩

end QueryLint.Toml
