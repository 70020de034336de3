import ParamDoc.Format
import ParamDoc.Proofs.Dump.Carrying

/-!
# Summaries as JSON

The JSON form of a summary is an object with one member a line, and it can be read in one way only:
as the names of the parts with their texts. So summaries that differ differ in print.
-/

namespace ParamDoc

open Dump
open Json (Spaces StringLiteral WellFormed IsEntry Entries Object Printable literal)

namespace Summary

section Lines

theorem printable_member (part : String × String) : Printable (member part) := by
  have hkey := (Json.stringLiteral_literal part.1).printable
  have hvalue := (Json.stringLiteral_literal part.2).printable
  have hcolon : Printable (':' :: ' ' :: literal part.2.toList) :=
    (hvalue.cons (by decide)).cons (by decide)
  exact ((hkey.append hcolon).cons (by decide)).cons (by decide)

/-- The lines of the JSON form of a summary. -/
def jsonLines (s : Summary) : List (List Char) :=
  [['\x7b'], member ("function", s.function) ++ [','], member ("parameter", s.parameter) ++ [','],
    member ("description", s.description) ++ [','],
    member ("parameter_doc", s.parameterDoc) ++ [','], member ("size", s.size), ['\x7d']]

theorem print_json_eq_join (s : Summary) :
    s.print .json = String.join (s.jsonLines.map fun line => String.ofList line ++ "\n") := by
  apply String.toList_injective
  simp [print, toJson, parts, jsonLines, List.intercalate, List.intersperse, String.join]

theorem printable_of_mem_jsonLines {s : Summary} {line : List Char} (h : line ∈ s.jsonLines) :
    Printable line := by
  have hcomma (part : String × String) : Printable (member part ++ [',']) :=
    (printable_member part).append (Json.printable_nil.cons (by decide))
  simp only [jsonLines, List.mem_cons, List.not_mem_nil, or_false] at h
  rcases h with rfl | rfl | rfl | rfl | rfl | rfl | rfl
  · exact Json.printable_nil.cons (by decide)
  · exact hcomma _
  · exact hcomma _
  · exact hcomma _
  · exact hcomma _
  · exact printable_member _
  · exact Json.printable_nil.cons (by decide)

end Lines

section Entries

theorem isEntry_member (part : String × String) {e : List Char} (he : Spaces e) :
    IsEntry (part.1, literal part.2.toList) ('\n' :: member part ++ e) := by
  have hindent : Spaces ['\n', ' ', ' '] :=
    ((Json.spaces_nil.concat (c := '\n') rfl).concat (c := ' ') rfl).concat (c := ' ') rfl
  have hspace : Spaces [' '] := Json.spaces_nil.concat rfl
  refine ⟨['\n', ' ', ' '], literal part.1.toList, [], [' '], e, hindent,
    Json.stringLiteral_literal _, Json.spaces_nil, hspace,
    (Json.stringLiteral_literal part.2).wellFormed, he, ?_⟩
  simp [member]

/-- Members on lines of their own, with commas between them, are entries. -/
theorem entries_members {parts : List (String × String)} (h : parts ≠ []) :
    Entries (parts.map fun part => (part.1, literal part.2.toList))
      ('\n' :: List.intercalate [',', '\n'] (parts.map member) ++ ['\n']) := by
  induction parts with
  | nil => exact absurd rfl h
  | cons part parts ih =>
    cases parts with
    | nil =>
      have hend : Spaces ['\n'] := Json.spaces_nil.concat rfl
      simpa using Entries.one (isEntry_member part hend)
    | cons next parts =>
      have hpart := isEntry_member part Json.spaces_nil
      have hrest := ih (List.cons_ne_nil _ _)
      simpa [List.intercalate] using Entries.cons hpart hrest

theorem exists_object_print_json (s : Summary) : ∃ t, (s.print .json).toList = t ++ ['\n'] ∧
    Object (s.parts.map fun part => (part.1, literal part.2.toList)) t := by
  have hparts : s.parts ≠ [] := List.cons_ne_nil _ _
  refine ⟨_, ?_, .entries (entries_members hparts)⟩
  simp [print, toJson]

theorem print_json_inj {s s' : Summary} (h : s'.print .json = s.print .json) : s' = s := by
  obtain ⟨t, htext, hobject⟩ := s.exists_object_print_json
  obtain ⟨t', htext', hobject'⟩ := s'.exists_object_print_json
  have htexts : t' ++ ['\n'] = t ++ ['\n'] := by rw [← htext', ← htext, h]
  obtain rfl := List.append_cancel_right htexts
  have hparts := hobject'.unique hobject
  simp only [parts, List.map_cons, List.map_nil, List.cons.injEq, Prod.mk.injEq, true_and,
    and_true] at hparts
  obtain ⟨hfunction, hparameter, hdescription, hdoc, hsize⟩ := hparts
  cases s
  cases s'
  simp only [mk.injEq]
  exact ⟨Json.literal_toList_inj hfunction, Json.literal_toList_inj hparameter,
    Json.literal_toList_inj hdescription, Json.literal_toList_inj hdoc,
    Json.literal_toList_inj hsize⟩

end Entries

/-- The JSON form of a summary has seven lines. Without its last line feed it is an object that has
one reading, in which the five names stand with the literals of the texts. A literal stands for its
text and no other, and in a dump it is decoded to it, so summaries that differ differ in print. -/
theorem print_json_reads (s : Summary) :
    (∃ ls : List String, ls.length = 7 ∧ (∀ l ∈ ls, Printable l.toList) ∧
      s.print .json = String.join (ls.map (· ++ "\n"))) ∧
    (∃ t, (s.print .json).toList = t ++ ['\n'] ∧ WellFormed .value t ∧
      ∀ entries, Object entries t ↔ entries =
        [("function", literal s.function.toList), ("parameter", literal s.parameter.toList),
          ("description", literal s.description.toList),
          ("parameter_doc", literal s.parameterDoc.toList), ("size", literal s.size.toList)]) ∧
    (∀ text read : String, StringLiteral read (literal text.toList) ↔ read = text) ∧
    (∀ (f : Field) (text document : String) (m : Member) (n : Node) (a t b : List Char),
      Member.ofText f text = some m → Spaces a → Spaces b →
      Carries m (literal text.toList) 0 (.node n) t → document.toList = a ++ t ++ b →
      Node.decode document = .ok n ∧ Has n m) ∧
    ∀ s' : Summary, s'.print .json = s.print .json → s' = s := by
  refine ⟨⟨s.jsonLines.map String.ofList, rfl, ?_, ?_⟩, ?_, fun _ _ =>
    Json.stringLiteral_literal_iff, fun _ _ _ _ _ _ _ _ => decode_of_carries, fun _ =>
    print_json_inj⟩
  · intro l hl
    obtain ⟨line, hline, rfl⟩ := List.mem_map.mp hl
    rw [String.toList_ofList]
    exact printable_of_mem_jsonLines hline
  · rw [print_json_eq_join, List.map_map]
    rfl
  · obtain ⟨t, htext, hobject⟩ := s.exists_object_print_json
    refine ⟨t, htext, hobject.wellFormed, fun entries => ?_⟩
    constructor
    · intro h
      exact h.unique hobject
    · rintro rfl
      exact hobject

/-- The literal in the dump has a quotation mark, a backslash, two control characters and a
character beyond the first 65536. -/
theorem print_json_reads_in_dump :
    Node.decode "\x7b\"kind\":\"A\",\"name\":\"\\\"\\\\\\n\\u0001😀\"\x7d" =
      .ok ⟨"A", some "\"\\\n\x01😀", none, none, none, none, none⟩ := by
  have hplain {d : Nat} : Spells d (.value (.kind "A")) "\"A\"".toList :=
    .kind (Json.stringLiteral_literal "A")
  have hkind : Spells 1 (.members [.kind "A"]) "\"kind\":\"A\"".toList :=
    .member Json.spaces_nil (by decide) (Json.stringLiteral_literal "kind") Json.spaces_nil
      Json.spaces_nil hplain Json.spaces_nil
  have hname := Carries.member (m := .label .name (some "\"\\\n\x01😀"))
    (v := literal "\"\\\n\x01😀".toList) (d := 1) Json.spaces_nil (by decide)
    (Json.stringLiteral_literal "name") Json.spaces_nil Json.spaces_nil Json.spaces_nil
  have hnode : Dump.Describes [.kind "A", .label .name (some "\"\\\n\x01😀")]
      ⟨"A", some "\"\\\n\x01😀", none, none, none, none, none⟩ :=
    describes_of_ofMembers? (by decide) rfl
  have hcarries := Carries.object (by decide) (.laterMember hkind hname) (by decide) hnode
  have hreads := print_json_reads ⟨"f", "p", "\n", "\\", "n"⟩
  exact (hreads.2.2.2.1 (.label .name) _ _ _ _ [] _ [] rfl Json.spaces_nil Json.spaces_nil
    hcarries rfl).1

end Summary

end ParamDoc
