import QueryLint.Proofs.Json.Written
import QueryLint.Proofs.Record
import QueryLint.Report

/-!
# Reports for other programs

The report in JSON is one value in the notation and a newline. What another program reads of it is
the list of results that was reported, field by field (`render_json_read_back`): texts survive their
escapes, numbers their digits, and a place that is not known is left out and read as not known.
-/

namespace QueryLint

open Json

/-- The numbers of the places of an issue have 64 bits. -/
def Issue.FitsWords (issue : Issue) : Prop :=
  ∀ place ∈ [issue.line, issue.column, issue.endLine, issue.endColumn], ∀ n ∈ place,
    n < 0x10000000000000000

/-- The counts of a result have 64 bits, and so have the places of its issues. -/
structure LintResult.FitsWords (result : LintResult) : Prop where
  errorCount : result.errorCount < 0x10000000000000000
  warningCount : result.warningCount < 0x10000000000000000
  issues : ∀ issue ∈ result.issues, issue.FitsWords

/-- A member of a written issue is a text or one of its places. -/
theorem Issue.mem_toMembers {issue : Issue} {name : String} {value : Json}
    (h : (name, value) ∈ issue.toMembers) :
    (∃ s, value = .string s)
      ∨ ∃ place ∈ [issue.line, issue.column, issue.endLine, issue.endColumn],
        ∃ n ∈ place, value = .integer (n : Nat) := by
  have htext : ∀ s, some value = some (.string s) → ∃ s, value = .string s :=
    fun s h => ⟨s, Option.some.inj h⟩
  have hplace : ∀ place : Option Nat, some value = Record.ofPlace place →
      ∃ n ∈ place, value = .integer (n : Nat) := by
    intro place h
    obtain ⟨n, hn, rfl⟩ := Option.map_eq_some_iff.1 h.symm
    exact ⟨n, hn, rfl⟩
  rw [Issue.toMembers_eq] at h
  obtain ⟨⟨field, given⟩, hfield, hvalue⟩ := List.mem_filterMap.1 h
  obtain ⟨value, rfl, heq⟩ := Option.map_eq_some_iff.1 hvalue
  obtain ⟨rfl, rfl⟩ := Prod.mk.inj heq
  simp only [List.mem_cons, List.not_mem_nil, or_false, Prod.mk.injEq] at hfield ⊢
  rcases hfield with ⟨-, h⟩ | ⟨-, h⟩ | ⟨-, h⟩ | ⟨-, h⟩ | ⟨-, h⟩ | ⟨-, h⟩ | ⟨-, h⟩
  · exact .inl (htext _ h)
  · exact .inl (htext _ h)
  · exact .inl (htext _ h)
  · exact .inr ⟨_, .inl rfl, hplace _ h⟩
  · exact .inr ⟨_, .inr (.inl rfl), hplace _ h⟩
  · exact .inr ⟨_, .inr (.inr (.inl rfl)), hplace _ h⟩
  · exact .inr ⟨_, .inr (.inr (.inr rfl)), hplace _ h⟩

section

variable {p : Json → Prop} (hobject : ∀ members, p (.object members))
  (hstring : ∀ s, p (.string s)) (hinteger : ∀ n : Nat, n < 0x10000000000000000 → p (.integer n))

include hobject hstring hinteger

/-- A written issue is an object of texts and of numbers that fit. -/
theorem Issue.everywhere_toJson {issue : Issue} (h : issue.FitsWords) :
    issue.toJson.Everywhere p := by
  refine .object (hobject _) fun name value hmem => ?_
  rcases Issue.mem_toMembers hmem with ⟨s, rfl⟩ | ⟨place, hplace, n, hn, rfl⟩
  · exact .string (hstring s)
  · exact .integer (hinteger n (h place hplace n hn))

/-- Written results are arrays and objects of texts and of numbers that fit. -/
theorem everywhere_toJson (harray : ∀ items, p (.array items)) {results : List LintResult}
    (h : ∀ result ∈ results, result.FitsWords) :
    (Json.array (results.map LintResult.toJson)).Everywhere p := by
  refine .array (harray _) fun value hmem => ?_
  obtain ⟨result, hresult, rfl⟩ := List.mem_map.1 hmem
  refine .object (hobject _) fun name value hmem => ?_
  simp only [List.mem_cons, List.not_mem_nil, or_false, Prod.mk.injEq] at hmem
  rcases hmem with ⟨-, rfl⟩ | ⟨-, rfl⟩ | ⟨-, rfl⟩ | ⟨-, rfl⟩
  · exact .string (hstring _)
  · refine .array (harray _) fun value hmem => ?_
    obtain ⟨issue, hissue, rfl⟩ := List.mem_map.1 hmem
    exact issue.everywhere_toJson hobject hstring hinteger ((h result hresult).issues issue hissue)
  · exact .integer (hinteger _ (h result hresult).errorCount)
  · exact .integer (hinteger _ (h result hresult).warningCount)

end

/-- Results are nested four levels deep at most. -/
theorem depth_toJson_le (results : List LintResult) :
    (Json.array (results.map LintResult.toJson)).depth ≤ 4 := by
  refine depth_array_le fun value hmem => ?_
  obtain ⟨result, -, rfl⟩ := List.mem_map.1 hmem
  refine depth_object_le fun name value hmem => ?_
  simp only [List.mem_cons, List.not_mem_nil, or_false, Prod.mk.injEq] at hmem
  rcases hmem with ⟨-, rfl⟩ | ⟨-, rfl⟩ | ⟨-, rfl⟩ | ⟨-, rfl⟩
  · exact Nat.zero_le 2
  · refine depth_array_le fun value hmem => ?_
    obtain ⟨issue, -, rfl⟩ := List.mem_map.1 hmem
    refine depth_object_le fun name value hmem => ?_
    rcases Issue.mem_toMembers hmem with ⟨s, rfl⟩ | ⟨place, -, n, -, rfl⟩ <;> exact Nat.le_refl 0
  · exact Nat.zero_le 2
  · exact Nat.zero_le 2

namespace Report

/-- **The report for other programs can be read back.** With colours or without, it is a value in the
notation of JSON and one newline; the text before the newline, and the report as a whole, are taken
for a value from which the very results are read that were reported. -/
theorem render_json_read_back (color : Bool) (results : List LintResult)
    (h : ∀ result ∈ results, result.FitsWords) :
    ∃ body value, render .json color results = body ++ "\n"
      ∧ Written (.array (results.map LintResult.toJson)) body.toList
      ∧ Json.parse body = .ok value
      ∧ Json.parse (render .json color results) = .ok value
      ∧ Record.list LintResult.ofJson value = .ok results := by
  have hexact : (Json.array (results.map LintResult.toJson)).IsExact :=
    everywhere_toJson (fun _ _ => nofun) (fun _ _ => nofun) (fun _ _ _ => nofun) (fun _ _ => nofun) h
  have hfits : (Json.array (results.map LintResult.toJson)).FitsWords :=
    everywhere_toJson (fun _ _ => nofun) (fun _ _ => nofun)
      (fun n hn i hi => by obtain rfl := Json.integer.inj hi; omega) (fun _ _ => nofun) h
  have hdepth : (Json.array (results.map LintResult.toJson)).depth ≤ maxDepth :=
    Nat.le_trans (depth_toJson_le results) (by decide)
  have hwritten := written_layOut 0 hexact
  have hnewline : Blanks ['\n'] := fun c hc => by rw [List.mem_singleton.1 hc]; rfl
  have hbody := parse_written hwritten hdepth hfits .nil .nil
  have hwhole := parse_written hwritten hdepth hfits .nil hnewline
  rw [List.nil_append] at hbody hwhole
  rw [List.append_nil] at hbody
  refine ⟨Json.pretty (.array (results.map LintResult.toJson)), _, rfl, ?_, hbody, ?_, ?_⟩
  · rw [Json.pretty, String.toList_ofList]
    exact hwritten
  · rw [String.ofList_append] at hwhole
    exact hwhole
  · rw [sorted, sortedItems_eq_map, List.map_map]
    exact Record.list_map fun result _ => result.ofJson_toJson

/-- Two results, one of them with texts that need escapes and with issues whose places are known in
part. -/
theorem render_json_read_back_escapes :
    let results : List LintResult :=
      [⟨"a\"b\\.sql", [⟨"é\t", .error, "x\u0001\n", some 1, none, none, some 18446744073709551615⟩,
          ⟨"", .info, "", none, none, none, none⟩], 1, 0⟩, ⟨"clean.sql", [], 0, 0⟩]
    (∀ result ∈ results, result.FitsWords)
      ∧ ∃ body value, render .json true results = body ++ "\n"
        ∧ Written (.array (results.map LintResult.toJson)) body.toList
        ∧ Json.parse body = .ok value
        ∧ Json.parse (render .json true results) = .ok value
        ∧ Record.list LintResult.ofJson value = .ok results := by
  intro results
  have h : ∀ result ∈ results, result.FitsWords := by
    intro result hmem
    simp only [results, List.mem_cons, List.not_mem_nil, or_false] at hmem
    rcases hmem with rfl | rfl
    · exact ⟨by decide, by decide, by simp [Issue.FitsWords]⟩
    · exact ⟨by decide, by decide, by simp⟩
  exact ⟨h, render_json_read_back true results h⟩

end Report

end QueryLint
