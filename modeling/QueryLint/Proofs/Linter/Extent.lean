import QueryLint.Proofs.Linter
import QueryLint.Proofs.ParseError
import QueryLint.Proofs.Linter.Block
import QueryLint.Proofs.Registry

/-!
# The places of issues

An issue has four fields for its place, each of which may be missing, and whoever shows it counts on
them to fit together (`Extent.WellFormed`). They are filled in at four different places: where words
are found in a line, where stars stand in a statement, where aliases are judged, and where a message
tells where reading stopped. This file says what each of them fills in:

* the extent of a keyword lies on one line of the text, and inside it (`Extent.OnLine`);
* that of a star is taken from one span, the star's own if it is known (`starExtent`);
* an alias has none;
* an error of reading has a start at most.

A severity that is given to an issue leaves its extent as it is, so all this holds of results too
(`lint_extents`).
-/

namespace QueryLint

/-- The place of an issue, as far as it is given. -/
structure Extent where
  line : Option Nat := none
  column : Option Nat := none
  endLine : Option Nat := none
  endColumn : Option Nat := none
  deriving DecidableEq

/-- The fields of an issue that say where it stands. -/
def Issue.extent (issue : Issue) : Extent :=
  ⟨issue.line, issue.column, issue.endLine, issue.endColumn⟩

namespace Extent

/-- The fields fit together: a line comes with a column, an end comes with a start, and lines are
counted from one. -/
structure WellFormed (e : Extent) : Prop where
  start : e.line.isSome ↔ e.column.isSome
  stop : e.endLine.isSome ↔ e.endColumn.isSome
  stop_start : e.endLine.isSome → e.line.isSome
  line_pos : ∀ n ∈ e.line, 1 ≤ n
  endLine_pos : ∀ n ∈ e.endLine, 1 ≤ n

/-- The extent takes characters of one line of a text, one character at least. -/
def OnLine (text : List Char) (e : Extent) : Prop :=
  ∃ number line column stop, 1 ≤ number ∧ number ≤ (text.splitOn '\n').length
    ∧ (text.splitOn '\n')[number - 1]? = some line
    ∧ e = ⟨some number, some column, some number, some stop⟩
    ∧ 1 ≤ column ∧ column < stop ∧ stop ≤ 1 + line.length

/-- The extent of a span that starts at a known place; line zero says that a place is not known. -/
def ofSpan (span : Sql.Span) : Extent where
  line := some span.start.line
  column := some span.start.column
  endLine := if span.stop.line = 0 then none else some span.stop.line
  endColumn := if span.stop.line = 0 then none else some span.stop.column

theorem wellFormed_empty : WellFormed {} where
  start := Iff.rfl
  stop := Iff.rfl
  stop_start := id
  line_pos := nofun
  endLine_pos := nofun

/-- A place on a line has all four fields, and they fit together. -/
theorem OnLine.wellFormed {text : List Char} {e : Extent} (h : e.OnLine text) : e.WellFormed := by
  obtain ⟨number, line, column, stop, hpos, -, -, rfl, -, -, -⟩ := h
  exact {
    start := Iff.rfl
    stop := Iff.rfl
    stop_start := id
    line_pos := fun n hn => Option.some.inj hn ▸ hpos
    endLine_pos := fun n hn => Option.some.inj hn ▸ hpos }

/-- A span that starts at a known place makes a place that fits together, whether its end is known or
not. -/
theorem wellFormed_ofSpan {span : Sql.Span} (h : span.start.line ≠ 0) : (ofSpan span).WellFormed := by
  have hstart : 1 ≤ span.start.line := Nat.pos_of_ne_zero h
  by_cases hstop : span.stop.line = 0
  · have hspan : ofSpan span = ⟨some span.start.line, some span.start.column, none, none⟩ := by
      rw [ofSpan, if_pos hstop, if_pos hstop]
    rw [hspan]
    exact ⟨Iff.rfl, Iff.rfl, fun _ => rfl, fun n hn => Option.some.inj hn ▸ hstart, nofun⟩
  · have hspan : ofSpan span = ⟨some span.start.line, some span.start.column, some span.stop.line,
        some span.stop.column⟩ := by
      rw [ofSpan, if_neg hstop, if_neg hstop]
    rw [hspan]
    exact ⟨Iff.rfl, Iff.rfl, fun _ => rfl, fun n hn => Option.some.inj hn ▸ hstart,
      fun n hn => Option.some.inj hn ▸ Nat.pos_of_ne_zero hstop⟩

end Extent

/-! ## Keywords -/

namespace KeywordCase

/-- What is reported of a keyword is a word, so it has a first letter and ends with its line at the
latest. -/
theorem onLine_of_mem_scan {text : List Char} {issue : Issue} (h : issue ∈ scan text) :
    issue.extent.OnLine text := by
  obtain ⟨number, line, hline, keyword, hkeyword, word, hword, rfl⟩ := mem_scan.1 h
  obtain ⟨row, rfl, hrow⟩ := Text.mem_numberedLines.1 hline
  have hrun := ((mem_misspelt hkeyword).1 hword).run
  have hstop := hrun.stop_le
  have hlength : 0 < word.text.length := by
    obtain ⟨-, -, -, -, hne, -⟩ := hrun
    exact List.length_pos_iff.2 hne
  have hlast := (List.getElem?_eq_some_iff.1 hrow).1
  exact ⟨row + 1, line, word.start + 1, word.start + 1 + word.text.length, Nat.succ_pos row, hlast,
    hrow, rfl, Nat.succ_pos _, by omega, by omega⟩

end KeywordCase

/-! ## Aliases -/

/-- Aliases are reported without a place. -/
theorem TableAlias.extent_of_mem_check {script : Sql.Script} {issue : Issue}
    (h : issue ∈ check script) : issue.extent = {} := by
  rw [check_eq] at h
  obtain ⟨text, -, rfl⟩ := List.mem_map.1 h
  rfl

/-! ## Stars -/

namespace NoSelectStar

open Sql

/-- The spans of the stars among the columns of a selection, each with that of the selection. -/
def starSpans (s : Select) : List (Span × Span) :=
  s.items.flatMap fun
    | .expr _ _ => []
    | .star span _ => [(span, s.span)]
    | .starOf _ span _ => [(span, s.span)]

/-- Where a star is reported: in its own place, or where that is not known in that of the selection;
if neither is known, in no place. -/
def starExtent (star selection : Span) : Extent :=
  if star.start.line ≠ 0 then .ofSpan star
  else if selection.start.line ≠ 0 then .ofSpan selection
  else {}

/-- Wherever stars and selections say that they are, the place of a star fits together. -/
theorem wellFormed_starExtent (star selection : Span) : (starExtent star selection).WellFormed := by
  unfold starExtent
  split
  next h => exact Extent.wellFormed_ofSpan h
  next =>
    split
    next h => exact Extent.wellFormed_ofSpan h
    next => exact Extent.wellFormed_empty

/-- Start and end of an issue are taken from one span, and from the selection's only if the star's
has no start. -/
theorem extent_issueAt (star selection : Span) :
    (issueAt star selection).extent = starExtent star selection := by
  have hsome : (position? star.start).isSome = true ↔ star.start.line ≠ 0 := by
    rw [position?, Position.ofLocation?]
    by_cases h : star.start.line = 0 <;> simp [h]
  unfold starExtent issueAt
  by_cases hstar : star.start.line ≠ 0
  · rw [if_pos (hsome.2 hstar), if_pos hstar]
    by_cases hstop : star.stop.line = 0 <;>
      simp [position?, Position.ofLocation?, hstar, hstop, Extent.ofSpan, Issue.extent,
        Issue.withPosition, Issue.withEnd]
  · rw [if_neg (fun h => hstar (hsome.1 h)), if_neg hstar]
    by_cases hstart : selection.start.line = 0
    · simp [position?, Position.ofLocation?, hstart, Issue.extent]
    · by_cases hstop : selection.stop.line = 0 <;>
        simp [position?, Position.ofLocation?, hstart, hstop, Extent.ofSpan, Issue.extent,
          Issue.withPosition, Issue.withEnd]

/-- The stars of one selection are reported in their places, one by one. -/
theorem map_extent_starIssues (s : Select) :
    (starIssues s).map Issue.extent = (starSpans s).map fun p => starExtent p.1 p.2 := by
  rw [starIssues, starSpans, List.map_flatMap, List.map_flatMap]
  refine List.flatMap_congr fun item _ => ?_
  cases item with
  | expr e label => rfl
  | star span options => exact congrArg (· :: []) (extent_issueAt span s.span)
  | starOf table span options => exact congrArg (· :: []) (extent_issueAt span s.span)

/-- Issue by issue the extents are those of the stars. -/
theorem map_extent_check (script : Script) :
    (check script).map Issue.extent =
      ((script.flatMap Statement.queries).flatMap fun q => q.body.selects.flatMap starSpans).map
        fun p => starExtent p.1 p.2 := by
  rw [check_eq, List.map_flatMap, List.map_flatMap]
  refine List.flatMap_congr fun q _ => ?_
  rw [List.map_flatMap, List.map_flatMap]
  exact List.flatMap_congr fun s _ => map_extent_starIssues s

theorem extent_of_mem_check {script : Script} {issue : Issue} (h : issue ∈ check script) :
    ∃ s ∈ script.flatMap Statement.selections, ∃ p ∈ starSpans s,
      issue.extent = starExtent p.1 p.2 := by
  obtain ⟨s, hs, hissue⟩ := List.mem_flatMap.1 ((check_perm script).mem_iff.1 h)
  have hextent := List.mem_map_of_mem (f := Issue.extent) hissue
  rw [map_extent_starIssues] at hextent
  obtain ⟨p, hp, heq⟩ := List.mem_map.1 hextent
  exact ⟨s, hs, p, hp, heq.symm⟩

end NoSelectStar

/-! ## Errors of reading -/

namespace ParseError

/-- A position that is found in a message has a line, since none is made of line zero. -/
theorem line_pos_of_positionIn? {message : String} {position : Position}
    (h : positionIn? message = some position) : 1 ≤ position.line := by
  obtain ⟨digits, -, h⟩ := Option.bind_eq_some_iff.1 h
  obtain ⟨line, -, h⟩ := Option.bind_eq_some_iff.1 h
  obtain ⟨column, -, h⟩ := Option.bind_eq_some_iff.1 h
  unfold Position.ofLocation? at h
  split at h
  next => cases h
  next hline =>
    obtain rfl := Option.some.inj h
    exact Nat.pos_of_ne_zero hline

/-- The place of an error is on a line, counted from one. -/
theorem line_pos_of_ofMessage {message : String} {range : SourceRange}
    (h : (ofMessage message).location = some range) : 1 ≤ range.start.line := by
  rw [ofMessage_eq] at h
  obtain ⟨position, hposition, rfl⟩ := Option.map_eq_some_iff.1 h
  exact line_pos_of_positionIn? hposition

end ParseError

/-- Whatever the parser, the error is made of the message with which it refuses a text. -/
theorem Sql.Script.exists_ofMessage {dialect : Dialect} {text : String} {parser : Parser}
    {e : ParseError} (h : parse dialect text parser = .error e) :
    ∃ message, parser.parse dialect text = .error message ∧ e = .ofMessage message := by
  unfold parse at h
  cases hparse : parser.parse dialect text with
  | ok script =>
    rw [hparse] at h
    cases h
  | error message =>
    rw [hparse] at h
    exact ⟨message, rfl, (Except.error.inj h).symm⟩

namespace Linter

/-- The issue of a text that cannot be read has no end, and a start if the error has a place. -/
theorem wellFormed_parseErrorIssue {dialect : Dialect} {text : String} {parser : Sql.Parser}
    {e : ParseError} (h : Sql.Script.parse dialect text parser = .error e) :
    (parseErrorIssue e).extent.WellFormed ∧ (parseErrorIssue e).endLine = none
      ∧ (parseErrorIssue e).endColumn = none := by
  obtain ⟨message, -, rfl⟩ := Sql.Script.exists_ofMessage h
  rw [parseErrorIssue_eq]
  refine ⟨?_, rfl, rfl⟩
  cases hlocation : (ParseError.ofMessage message).location with
  | none => exact Extent.wellFormed_empty
  | some range =>
    have hpos := ParseError.line_pos_of_ofMessage hlocation
    exact ⟨Iff.rfl, Iff.rfl, fun _ => rfl, fun n hn => Option.some.inj hn ▸ hpos, nofun⟩

/-! ## Results -/

/-- What is known of the place of an issue by the rule that it comes from. -/
structure Placed (script : Sql.Script) (text : List Char) (rule : String) (e : Extent) : Prop where
  wellFormed : e.WellFormed
  keyword : rule = "keyword-case" → e.OnLine text
  unplaced : rule = "table-alias" → e = {}
  star : rule = "no-select-star" → ∃ s ∈ script.flatMap Sql.Statement.selections,
    ∃ p ∈ NoSelectStar.starSpans s, e = NoSelectStar.starExtent p.1 p.2

/-- Each of the program's rules places what it reports, each in its way. -/
theorem placed_of_mem_check {rule : Rule} (hrule : rule ∈ Registry.standard.rules)
    {script : Sql.Script} {source : Source} {issue : Issue} (h : issue ∈ rule.check script source) :
    Placed script source.text.toList rule.name issue.extent := by
  rw [Registry.standard_rules] at hrule
  simp only [List.mem_cons, List.not_mem_nil, or_false] at hrule
  rcases hrule with rfl | rfl | rfl
  · obtain ⟨s, hs, p, hp, hextent⟩ := NoSelectStar.extent_of_mem_check h
    rw [hextent]
    exact {
      wellFormed := NoSelectStar.wellFormed_starExtent p.1 p.2
      keyword := fun hname => absurd hname (by decide)
      unplaced := fun hname => absurd hname (by decide)
      star := fun _ => ⟨s, hs, p, hp, rfl⟩ }
  · have honLine := KeywordCase.onLine_of_mem_scan h
    exact {
      wellFormed := honLine.wellFormed
      keyword := fun _ => honLine
      unplaced := fun hname => absurd hname (by decide)
      star := fun hname => absurd hname (by decide) }
  · rw [TableAlias.extent_of_mem_check h]
    exact {
      wellFormed := Extent.wellFormed_empty
      keyword := fun hname => absurd hname (by decide)
      unplaced := fun _ => rfl
      star := fun hname => absurd hname (by decide) }

/-- An issue of a rule that runs is one that the rule reports, up to its severity. -/
theorem exists_reported {active : ActiveRule} {script : Sql.Script} {source : Source} {issue : Issue}
    (h : issue ∈ active.check script source) :
    ∃ reported ∈ active.rule.check script source, issue.extent = reported.extent := by
  unfold ActiveRule.check at h
  cases ho : active.override? with
  | none =>
    rw [ho] at h
    exact ⟨issue, h, rfl⟩
  | some severity =>
    rw [ho] at h
    obtain ⟨reported, hreported, rfl⟩ := List.mem_map.1 h
    exact ⟨reported, hreported, rfl⟩

/-- Whatever the statements are, and wherever they say that they stand, the issues of the rules that
run are placed as the rules place them. -/
theorem placed_of_mem_active {config : Config} {script : Sql.Script} {source : Source} {issue : Issue}
    (h : issue ∈ (Registry.standard.active config).flatMap (·.check script source)) :
    issue.rule ∈ Registry.standard.names ∧ Placed script source.text.toList issue.rule issue.extent := by
  obtain ⟨active, hactive, hissue⟩ := List.mem_flatMap.1 h
  have hrule := Registry.mem_of_mem_active hactive
  obtain ⟨reported, hreported, hextent⟩ := exists_reported hissue
  have hname := (active.signs_check (Registry.signs_of_mem_standard hrule) script source issue hissue).1
  rw [hname, hextent]
  exact ⟨List.mem_map_of_mem hrule, placed_of_mem_check hrule hreported⟩

/-- **Every issue is placed.** Whatever statements the program's rules are asked about, with places
known or not, and whatever text is linted with whatever parser: the fields of an issue fit together; one
of a keyword takes characters of one line of the text; one of an alias has no place; one of a star has
the place of the star, or else of its selection, or else none; one of a text that cannot be read has no
end. Star by star, the stars that are reported have the places so determined. -/
theorem lint_extents (config : Config) (source : Source) (parser : Sql.Parser) :
    (∀ script, ∀ issue ∈ (Registry.standard.active config).flatMap (·.check script source),
      Placed script source.text.toList issue.rule issue.extent)
    ∧ (∀ issue ∈ (lint config Registry.standard source parser).issues, issue.extent.WellFormed
      ∧ (issue.rule = "parse-error" → issue.endLine = none ∧ issue.endColumn = none)
      ∧ (issue.rule ≠ "parse-error" → ∃ script,
        Sql.Script.parse config.dialect source.text parser = .ok script
          ∧ Placed script source.text.toList issue.rule issue.extent))
    ∧ ∀ script, (NoSelectStar.check script).map Issue.extent =
      ((script.flatMap Sql.Statement.queries).flatMap fun q =>
        q.body.selects.flatMap NoSelectStar.starSpans).map fun p =>
          NoSelectStar.starExtent p.1 p.2 := by
  refine ⟨fun script issue h => (placed_of_mem_active h).2, ?_, NoSelectStar.map_extent_check⟩
  intro issue h
  change issue ∈ issues config Registry.standard source parser at h
  cases hparse : Sql.Script.parse config.dialect source.text parser with
  | error e =>
    rw [issues_of_error hparse] at h
    obtain rfl := List.mem_singleton.1 h
    obtain ⟨hwellFormed, hend⟩ := wellFormed_parseErrorIssue hparse
    have hrule : (parseErrorIssue e).rule = "parse-error" := by rw [parseErrorIssue_eq]
    exact ⟨hwellFormed, fun _ => hend, fun hne => absurd hrule hne⟩
  | ok script =>
    rw [issues, hparse] at h
    obtain ⟨hname, hplaced⟩ := placed_of_mem_active h
    refine ⟨hplaced.wellFormed, fun heq => ?_, fun _ => ⟨script, rfl, hplaced⟩⟩
    -- No rule of the program has the name of the report of such texts.
    rw [heq] at hname
    exact absurd hname (by decide)

/-- A keyword in the second line of a text stands in that line, and a star that is nowhere is reported
where its selection starts. -/
theorem lint_extents_second_line :
    let source : Source := ⟨"word.sql", "COMMIT\n-- is", []⟩
    let word : Issue :=
      { rule := "keyword-case", severity := .warning
        message := "Keyword \"is\" should be uppercase \"IS\"", line := some 2, column := some 4
        endLine := some 2, endColumn := some 6 }
    let script : Sql.Script := [.query ⟨false, [], .select ⟨⟨⟨3, 1⟩, ⟨0, 0⟩⟩, false, [], [],
      [.star Sql.Span.unknown (.plain "")], "", [], .plain "", none, [], .plain "", none, .plain ""⟩,
      [], none, none, "", .plain ""⟩]
    let star : Issue :=
      { rule := "no-select-star", severity := .warning, message := NoSelectStar.message
        line := some 3, column := some 1 }
    (word ∈ (lint Config.standard Registry.standard source .standard).issues
      ∧ word.extent.OnLine source.text.toList)
    ∧ (star ∈ (Registry.standard.active Config.standard).flatMap (·.check script source)
      ∧ Placed script source.text.toList star.rule star.extent)
    ∧ (NoSelectStar.check script).map Issue.extent = [⟨some 3, some 1, none, none⟩] := by
  intro source word script star
  obtain ⟨hactive, hresult, hstars⟩ := lint_extents Config.standard source .standard
  have hword : word ∈ (lint Config.standard Registry.standard source .standard).issues := by
    decide +kernel
  have hstar : star ∈ (Registry.standard.active Config.standard).flatMap (·.check script source) := by
    decide +kernel
  refine ⟨⟨hword, ?_⟩, ⟨hstar, hactive script star hstar⟩, ?_⟩
  · obtain ⟨-, -, hplaced⟩ := hresult word hword
    obtain ⟨script, -, hplaced⟩ := hplaced (by decide)
    exact hplaced.keyword rfl
  · rw [hstars script]
    decide

end Linter

end QueryLint
