import QueryLint.Proofs.Config.Canonical
import QueryLint.Proofs.History
import QueryLint.Proofs.Json.Skip

/-!
# The values of a configuration's fields

Each field of a configuration has a reader of its own, and these are readers of the grammar as well:
whether the value of a field is taken, and what it is taken for, lies in its text alone, be it a value
of the right kind or not (`exists_reads_readDialect`, `exists_reads_readPatterns`,
`exists_reads_readRules`). An object of rules gives its settings one after the other, so that of one
rule the first mention has the place and the last one the setting (`rules_of_taken`).
-/

namespace QueryLint.Config

open Json

/-! ## The values of fields -/

theorem toOption_unexpected {α : Type} (expected : String) (text : List Char) :
    (unexpected (α := α) expected text).toOption = none :=
  Option.eq_none_iff_forall_ne_some.2 fun _ h => unexpected_ne_ok (toOption_eq_some_iff.1 h)

/-- Behind a quote a text is read as any string is. -/
theorem readText_string (expected : String) (text : List Char) :
    readText expected ('"' :: text) = readString text := by
  rw [readText, skipSpaces_cons rfl]
  rfl

theorem toOption_readText (expected : String) {c : Char} (hc : isSpace c = false) (hquote : c ≠ '"')
    (text : List Char) : (readText expected (c :: text)).toOption = none := by
  rw [readText, skipSpaces_cons hc]
  split
  next heq => exact absurd (List.cons.inj heq).1 hquote
  next heq => cases heq
  next => exact toOption_unexpected _ _

theorem skipsBlanks_readText (expected : String) : SkipsBlanks (readText expected) := by
  intro gap text hgap
  rw [readText, readText, skipSpaces_append hgap]

/-- A string is expected, and a value that is none is not taken for one. -/
theorem exists_reads_readText (expected : String) {n : Nat} {text : List Char} (h : IsValue n text) :
    ∃ result, Reads (readText expected) text result := by
  obtain ⟨c, more, rfl, hc, -⟩ := h.begins
  by_cases hquote : c = '"'
  · subst hquote
    obtain ⟨result, hresult⟩ := exists_reads_readString h.isQuoted
    refine ⟨result, fun rest hrest => ?_⟩
    rw [List.cons_append, readText_string]
    exact hresult rest hrest
  · exact ⟨none, fun rest _ => toOption_readText expected hc hquote _⟩

theorem skipsBlanks_readPatterns : SkipsBlanks readPatterns := by
  intro gap text hgap
  rw [readPatterns, readPatterns, skipSpaces_append hgap]

theorem exists_reads_readPatterns {n : Nat} {text : List Char} (h : IsValue n text) :
    ∃ result, Reads readPatterns text result := by
  obtain ⟨c, more, rfl, hc, -⟩ := h.begins
  by_cases hbracket : c = '['
  · subst hbracket
    obtain ⟨items, hlisted, hitems⟩ := h.exists_listed
    have hbegins := fun item hmem => (hitems item hmem).begins
    refine ⟨items.mapM (taken (readText "a string")), fun rest _ => ?_⟩
    rw [List.cons_append, readPatterns, skipSpaces_cons rfl]
    exact readItems_listed hbegins
      (fun item hmem => reads_taken (exists_reads_readText _ (hitems item hmem))) hlisted
      (hlisted.lt_fuel hbegins rest) rest
  · refine ⟨none, fun rest _ => ?_⟩
    rw [List.cons_append, readPatterns, skipSpaces_cons hc]
    split
    next heq => cases heq
    next heq => exact absurd (List.cons.inj heq).1 hbracket
    next => exact toOption_unexpected _ _

/-! ## The dialect -/

theorem skipsBlanks_readDialect : SkipsBlanks readDialect := by
  intro gap text hgap
  rw [readDialect, readDialect, skipSpaces_append hgap]

/-- The name of a dialect is a string. -/
theorem exists_reads_readDialectName (expected : String) {text : List Char} (h : IsQuoted text) :
    ∃ result, Reads (readDialectName expected) ('"' :: text) result := by
  obtain ⟨result, hresult⟩ := exists_reads_readString h
  refine ⟨result.bind Dialect.ofName?, fun rest hrest => ?_⟩
  rw [List.cons_append, readDialectName, readText_string, toOption_bind, hresult rest hrest]
  cases result with
  | none => rfl
  | some name =>
    rw [Option.map_some, Option.bind_some, Option.bind_some]
    dsimp only
    cases Dialect.ofName? name <;> rfl

theorem skipsBlanks_readDialectName (expected : String) :
    SkipsBlanks (readDialectName expected) := by
  intro gap text hgap
  rw [readDialectName, readDialectName, skipsBlanks_readText expected gap text hgap]

/-- The name of a dialect may stand as the only member of an object, with nothing for its value. -/
theorem readDialect_member {n : Nat} {before key between middle value tail : List Char}
    (hkey : IsQuoted key) (hvalue : IsValue n value) (hbefore : Blanks before)
    (hbetween : Blanks between) (hmiddle : Blanks middle) :
    (readDialect ('\x7b' :: (before ++ '"' :: (key ++ (between ++ ':' ::
      (middle ++ (value ++ tail))))))).toOption =
      (if value = ['n', 'u', 'l', 'l'] then
        taken (readDialectName "variant identifier") ('"' :: key) else none).bind fun dialect =>
        match skipSpaces tail with
        | '\x7d' :: rest => some (some dialect, rest)
        | _ => none := by
  have hends : Ends (between ++ ':' :: (middle ++ (value ++ tail))) :=
    .gap hbetween (.cons (by decide) _)
  have hname := reads_taken (exists_reads_readDialectName "variant identifier" hkey)
  rw [readDialect, skipSpaces_cons rfl]
  change (readDialectName "variant identifier" (before ++ ('"' :: key ++ (between ++ ':' ::
    (middle ++ (value ++ tail))))) >>= fun _ => _).toOption = _
  rw [skipsBlanks_readDialectName _ _ _ hbefore, hname.bind hends]
  cases taken (readDialectName "variant identifier") ('"' :: key) with
  | none => rw [Option.bind_none, ite_self]; rfl
  | some dialect =>
    rw [Option.bind_some]
    dsimp only
    rw [readColon_gap hbetween, ok_bind]
    obtain ⟨c, more, rfl, hc, -⟩ := hvalue.begins
    by_cases hn : c = 'n'
    · subst hn
      obtain rfl := hvalue.eq_null
      have hword : readWord ['u', 'l', 'l'] (['u', 'l', 'l'] ++ tail) = .ok ((), tail) := rfl
      rw [if_pos rfl, Option.bind_some, List.cons_append, skipSpaces_gap hmiddle rfl]
      split
      next heq => cases heq
      next heq =>
        obtain ⟨-, rfl⟩ := List.cons.inj heq
        rw [hword, ok_bind, ok_bind]
        split
        next heq => rw [heq]; rfl
        next heq => rw [heq]; rfl
        next hclosing _ =>
          split
          next heq => exact absurd heq (hclosing _)
          next => rfl
      next hnull => exact absurd rfl (hnull _)
    · rw [if_neg (fun heq => hn (List.cons.inj heq).1), Option.bind_none, List.cons_append,
        skipSpaces_gap hmiddle hc]
      split
      next heq => cases heq
      next heq => exact absurd (List.cons.inj heq).1 hn
      next => rw [toOption_bind, toOption_unexpected]; rfl

/-- A dialect in the form of an object: one member, and no value but null in it. -/
theorem exists_reads_readDialect_brace {n : Nat} {text : List Char}
    (h : IsValue n ('\x7b' :: text)) : ∃ result, Reads readDialect ('\x7b' :: text) result := by
  obtain ⟨entries, hmembered, hkeys, hvalues⟩ := h.exists_membered
  cases hmembered with
  | none hgap =>
    refine ⟨none, fun rest _ => ?_⟩
    rw [List.cons_append, List.append_assoc, readDialect, skipSpaces_cons rfl]
    change (readDialectName "variant identifier" _ >>= fun _ => _).toOption = _
    rw [skipsBlanks_readDialectName _ _ _ hgap, toOption_bind, readDialectName, toOption_bind,
      List.singleton_append, toOption_readText _ rfl (by decide)]
    rfl
  | @last key value before between middle behind hbefore hbetween hmiddle hbehind =>
    refine ⟨if value = ['n', 'u', 'l', 'l'] then
      (taken (readDialectName "variant identifier") ('"' :: key)).map some else none,
      fun rest _ => ?_⟩
    simp only [List.cons_append, List.append_assoc, List.nil_append]
    rw [readDialect_member (hkeys _ List.mem_cons_self) (hvalues _ List.mem_cons_self) hbefore hbetween
      hmiddle, skipSpaces_gap hbehind rfl]
    split
    · cases taken (readDialectName "variant identifier") ('"' :: key) <;> rfl
    · rfl
  | @more key value before between middle behind others _ _ hbefore hbetween hmiddle hbehind =>
    refine ⟨none, fun rest _ => ?_⟩
    simp only [List.cons_append, List.append_assoc]
    rw [readDialect_member (hkeys _ List.mem_cons_self) (hvalues _ List.mem_cons_self) hbefore hbetween
      hmiddle, skipSpaces_gap hbehind rfl]
    exact Option.bind_fun_none _

/-- Every value is read or refused as a dialect in the same way, whatever stands behind it. -/
theorem exists_reads_readDialect {n : Nat} {text : List Char} (h : IsValue n text) :
    ∃ result, Reads readDialect text result := by
  obtain ⟨c, more, rfl, hc, -⟩ := h.begins
  by_cases hbrace : c = '\x7b'
  · subst hbrace
    exact exists_reads_readDialect_brace h
  by_cases hquote : c = '"'
  · subst hquote
    obtain ⟨result, hresult⟩ := exists_reads_readDialectName "variant identifier" h.isQuoted
    refine ⟨result.map some, fun rest hrest => ?_⟩
    rw [List.cons_append, readDialect, skipSpaces_cons rfl]
    refine (hresult.bind hrest fun read => .ok (some read.1, read.2)).trans ?_
    cases result <;> rfl
  by_cases hn : c = 'n'
  · subst hn
    obtain rfl := h.eq_null
    exact ⟨some none, fun rest _ => by rw [readDialect]; rfl⟩
  · refine ⟨none, fun rest _ => ?_⟩
    rw [List.cons_append, readDialect, skipSpaces_cons hc]
    split
    next heq => cases heq
    next heq => exact absurd (List.cons.inj heq).1 hn
    next heq => exact absurd (List.cons.inj heq).1 hquote
    next heq => exact absurd (List.cons.inj heq).1 hbrace
    next => rfl

/-! ## The rules -/

theorem skipsBlanks_readRules : SkipsBlanks readRules := by
  intro gap text hgap
  rw [readRules, readRules, skipSpaces_append hgap]

/-- A rule is given the setting that its value is read as. -/
def giveSetting (name : String) (value : List Char) (settings : Settings) : Option Settings :=
  (valueOf value).map fun value => Settings.set name (Setting.ofJson value) settings

/-- The settings are read one after the other. -/
theorem readRules_membered {n : Nat} {entries : List (List Char × List Char)} {text : List Char}
    (h : Membered entries text) (hkeys : ∀ entry ∈ entries, IsQuoted entry.1)
    (hvalues : ∀ entry ∈ entries, IsValue n entry.2) (hn : n ≤ maxDepth - 2) :
    Reads readRules ('\x7b' :: text) (entries.foldlM (fun settings entry =>
      (taken readString entry.1).bind fun name => giveSetting name entry.2 settings) []) := by
  intro rest _
  rw [List.cons_append, readRules, skipSpaces_cons rfl]
  refine readMembers_membered (fun entry hmem => ?_) h (h.lt_fuel rest) [] rest
  refine takes_of_key (hkeys entry hmem)
    fun name settings between middle rest hbetween hmiddle hrest => ?_
  have hread := readValue_reads (hvalues entry hmem) hn (Nat.le_trans hn (Nat.sub_le _ _))
  exact toOption_colon (skipsBlanks_readValue _) hread
    (fun value => Settings.set name (Setting.ofJson value) settings) hbetween hmiddle hrest

/-- The same of rules, if the values in them are not too deep. -/
theorem exists_reads_readRules {n : Nat} {text : List Char} (h : IsValue n text)
    (hn : n ≤ maxDepth - 2) : ∃ result, Reads readRules text result := by
  obtain ⟨c, more, rfl, hc, -⟩ := h.begins
  by_cases hbrace : c = '\x7b'
  · subst hbrace
    obtain ⟨entries, hmembered, hkeys, hvalues⟩ := h.exists_membered
    exact ⟨_, readRules_membered hmembered hkeys hvalues (Nat.le_trans (Nat.sub_le _ _) hn)⟩
  · refine ⟨none, fun rest _ => ?_⟩
    rw [List.cons_append, readRules, skipSpaces_cons hc]
    split
    next heq => cases heq
    next heq => exact absurd (List.cons.inj heq).1 hbrace
    next => exact toOption_unexpected _ _

/-- The settings of an object of rules are those that its members give, in order. -/
theorem readRules_object {n : Nat} {members : List (String × List Char)} {text : List Char}
    (h : IsObject n members text) (hn : n ≤ maxDepth - 2) :
    Reads readRules text (members.foldlM (fun settings member =>
      giveSetting member.1 member.2 settings) []) := by
  obtain ⟨entries, body, rfl, hmembered, hentries, hkeys, hvalues⟩ := h.exists_membered
  rw [← foldlM_spells hentries]
  exact readRules_membered hmembered hkeys hvalues hn

/-- A member of an object of rules gives a rule a setting. -/
def Gives (member : String × List Char) (entry : String × Setting) : Prop :=
  entry.1 = member.1 ∧ ∃ value, valueOf member.2 = some value ∧ entry.2 = Setting.ofJson value

/-- The settings are those that are given, if every member gives one. -/
theorem foldlM_giveSetting {members : List (String × List Char)} {before settings : Settings} :
    members.foldlM (fun settings member => giveSetting member.1 member.2 settings) before =
        some settings ↔
      ∃ given : Settings, List.Forall₂ Gives members given
        ∧ given.foldl (fun settings entry => Settings.set entry.1 entry.2 settings) before =
          settings := by
  induction members generalizing before with
  | nil => simp
  | cons member members ih =>
    rw [List.foldlM_cons, Option.bind_eq_bind, Option.bind_eq_some_iff]
    simp only [ih]
    simp only [giveSetting, Option.map_eq_some_iff, List.forall₂_cons_left_iff]
    constructor
    · rintro ⟨_, ⟨value, hvalue, rfl⟩, given, hgiven, hsettings⟩
      exact ⟨(member.1, Setting.ofJson value) :: given, ⟨_, _, ⟨rfl, value, hvalue, rfl⟩, hgiven, rfl⟩,
        hsettings⟩
    · rintro ⟨_, ⟨⟨name, setting⟩, given, ⟨hname, value, hvalue, hsetting⟩, hgiven, rfl⟩, hsettings⟩
      exact ⟨_, ⟨value, hvalue, rfl⟩, given, hgiven, by rw [← hsettings, ← hname, ← hsetting]; rfl⟩

/-- Members give settings if all of their values can be read. -/
theorem exists_gives_iff {members : List (String × List Char)} :
    (∃ given : Settings, List.Forall₂ Gives members given) ↔
      ∀ member ∈ members, ∃ value, valueOf member.2 = some value := by
  constructor
  · rintro ⟨given, hgiven⟩
    induction hgiven with
    | nil => exact nofun
    | cons hentry _ ih =>
      obtain ⟨-, value, hvalue, -⟩ := hentry
      exact List.forall_mem_cons.2 ⟨⟨value, hvalue⟩, ih⟩
  · intro h
    induction members with
    | nil => exact ⟨[], .nil⟩
    | cons member members ih =>
      obtain ⟨⟨value, hvalue⟩, hrest⟩ := List.forall_mem_cons.1 h
      obtain ⟨given, hgiven⟩ := ih hrest
      exact ⟨_, .cons (b := (member.1, Setting.ofJson value)) ⟨rfl, value, hvalue, rfl⟩ hgiven⟩

theorem rules_ofSettings (given : Settings) :
    (ofSettings given).rules =
      given.foldl (fun settings entry => Settings.set entry.1 entry.2 settings) [] :=
  (List.foldl_hom rules fun _ _ => rfl).symm

theorem names_of_gives {members : List (String × List Char)} {given : Settings}
    (h : List.Forall₂ Gives members given) : given.map Prod.fst = members.map Prod.fst := by
  induction h with
  | nil => rfl
  | cons hentry _ ih => rw [List.map_cons, List.map_cons, hentry.1, ih]

/-- What is found under a name in given settings is read from what is found under it among the members. -/
theorem lookup_of_gives {members : List (String × List Char)} {given : Settings}
    (h : List.Forall₂ Gives members given) (name : String) :
    given.lookup name = ((members.lookup name).bind valueOf).map Setting.ofJson := by
  induction h with
  | nil => rfl
  | @cons member entry _ _ hentry _ ih =>
    obtain ⟨hname, value, hvalue, hsetting⟩ := hentry
    rw [Entries.lookup_cons, Entries.lookup_cons, hname, ih]
    split
    · rw [Option.bind_some, hvalue, hsetting]
      rfl
    · rfl

/-- Settings are taken if every value among them is one. -/
theorem exists_taken_readRules_iff {n : Nat} {members : List (String × List Char)} {text : List Char}
    (h : IsObject n members text) (hn : n ≤ maxDepth - 2) :
    (∃ rules, taken readRules text = some rules) ↔
      ∀ member ∈ members, ∃ value, valueOf member.2 = some value := by
  simp only [(readRules_object h hn).taken_eq, foldlM_giveSetting, ← exists_gives_iff]
  exact ⟨fun ⟨_, given, hgiven, _⟩ => ⟨given, hgiven⟩, fun ⟨given, hgiven⟩ => ⟨_, given, hgiven, rfl⟩⟩

/-- A rule that is named more than once stands where it was named first and has the setting that it was
given last. -/
theorem rules_of_taken {n : Nat} {members : List (String × List Char)} {text : List Char}
    {config : Config} (h : IsObject n members text) (hn : n ≤ maxDepth - 2)
    (hrules : taken readRules text = some config.rules) :
    Settings.names config.rules = (members.map Prod.fst).eraseDups
      ∧ ∀ name, config.setting? name =
        ((members.reverse.lookup name).bind valueOf).map Setting.ofJson := by
  rw [(readRules_object h hn).taken_eq, foldlM_giveSetting] at hrules
  obtain ⟨given, hgiven, hrules⟩ := hrules
  rw [← rules_ofSettings] at hrules
  refine ⟨?_, fun name => ?_⟩
  · rw [← hrules, names_ofSettings, names_of_gives hgiven]
  · rw [setting?, ← hrules, ← lookup_of_gives (List.forall₂_reverse_iff.2 hgiven)]
    exact setting?_ofSettings given name

end QueryLint.Config
