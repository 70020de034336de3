import ParamDoc.Text.Word
import ParamDoc.Query

/-!
# Size tags

A size tag names the variable that holds the size of a buffer: the keyword `size:` at the start of
a word, followed at once by an identifier, which goes on as long as there are word characters. Tags
may overlap, as in `size:size:n`; the scan goes on after the tag that it has taken, so it takes
tags without overlaps.
-/

namespace ParamDoc.SizeTag

open Text (isWord)

/-- The identifier of a tag that stands at the start of the text, and what follows the tag. -/
def here? : List Char → Option (List Char × List Char)
  | 's' :: 'i' :: 'z' :: 'e' :: ':' :: rest =>
    if (rest.takeWhile isWord).isEmpty then none
    else some (rest.takeWhile isWord, rest.dropWhile isWord)
  | _ => none

theorem length_lt_of_here? {s name after : List Char} (h : here? s = some (name, after)) :
    after.length < s.length := by
  unfold here? at h
  split at h
  · next rest =>
    split at h
    · simp at h
    · obtain ⟨-, rfl⟩ := Prod.mk.inj (Option.some.inj h)
      have := (List.dropWhile_sublist isWord (l := rest)).length_le
      simp only [List.length_cons]
      omega
  · simp at h

/-- The identifiers of all tags, in order. A tag may not begin right after a word character. -/
def scan (afterWord : Bool) (s : List Char) : List (List Char) :=
  match s with
  | [] => []
  | c :: rest =>
    if afterWord then scan (isWord c) rest
    else
      match _h : here? (c :: rest) with
      | some (name, after) => name :: scan true after
      | none => scan (isWord c) rest
termination_by s.length
decreasing_by
  · simp
  · exact length_lt_of_here? _h
  · simp

def all (text : List Char) : List (List Char) :=
  scan false text

/-- The identifier of the first size tag; the others are reported by their number. -/
def find (text : String) : Query (Option String) :=
  match all text.toList with
  | [] => pure none
  | first :: others => do
    unless others.isEmpty do
      Query.report .extraSizes (.ok (.extraSizes (String.ofList first) others.length))
    return some (String.ofList first)

end ParamDoc.SizeTag
