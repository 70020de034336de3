import ParamDoc.Format
import ParamDoc.Proofs.SizeTag.Splitting
import ParamDoc.Proofs.Summary.FirstFault

/-!
# The size in a summary

The size of a summary is a word, so it is the last line of the text whatever the other parts are.
The text of the first block and the size are found in two ways, by the place of a block and by its
name. They belong together if both ways lead to one block.
-/

namespace ParamDoc

open Text (isWord trimmed)

section LastLine

theorem Text.isWord_feed : isWord '\n' = false := by decide +kernel

/-- A word that has a line feed before and after it is the last line. -/
theorem Text.splitOn_word {word : List Char} (h : ∀ c ∈ word, isWord c = true)
    (others : List Char) :
    (others ++ '\n' :: (word ++ ['\n'])).splitOn '\n' = others.splitOn '\n' ++ [word, []] := by
  have hword : ∀ c ∈ word, (c == '\n') = false := by
    intro c hc
    rw [beq_eq_false_iff_ne]
    rintro rfl
    have hfeed := h _ hc
    rw [isWord_feed] at hfeed
    cases hfeed
  calc
    (others ++ '\n' :: (word ++ ['\n'])).splitOn '\n'
    _ = others.splitOn '\n' ++ (word ++ ['\n']).splitOn '\n' :=
      List.splitOnP_append_cons others _ rfl
    _ = others.splitOn '\n' ++ (word.splitOn '\n' ++ [[]]) :=
      congrArg _ (List.splitOnP_append_cons word [] rfl)
    _ = others.splitOn '\n' ++ [word, []] := by
      rw [List.splitOn, List.splitOn, List.splitOnP_eq_singleton hword]
      rfl

/-- Whatever is printed before it, a size that is a word is the last line. -/
theorem Summary.exists_splitOn_print (s : Summary) (h : ∀ c ∈ s.size.toList, isWord c = true) :
    ∃ before, (s.print .text).toList.splitOn '\n' = before ++ [s.size.toList, []] := by
  have hprint : (s.print .text).toList =
      (s.function ++ "\n" ++ s.parameter ++ "\n" ++ s.description ++ "\n" ++
        s.parameterDoc).toList ++ '\n' :: (s.size.toList ++ ['\n']) := by
    simp [print, toText, parts, String.join]
  rw [hprint]
  exact ⟨_, Text.splitOn_word h _⟩

end LastLine

section Agreement

variable {root f c p b : Node} {s : Summary}

theorem Summary.Describes.exists_leftmost (h : s.Describes root) :
    ∃ text, SizeTag.Leftmost text s.size := by
  obtain ⟨_, _, _, _, _, _, _, t, -, -, -, -, -, -, -, -, -, -, -, hsize⟩ := h
  exact ⟨trimmed t, hsize⟩

/-- If the first block names the first parameter, then it is the one that the size comes from. -/
theorem Summary.Describes.leftmost (h : s.Describes root) (hs : Subject root f c)
    (hp : (f.ofKind .parameter).head? = some p) (hb : (c.ofKind .block).head? = some b)
    (hname : b.param = p.name) : SizeTag.Leftmost s.parameterDoc s.size := by
  obtain ⟨f', c', p', first, named, _, doc, t, hs', hp', hfirst, hnamed, -, hdoc, ht, -, hparameter,
    -, hparameterDoc, hsize⟩ := h
  obtain ⟨rfl, rfl⟩ := hs.unique hs'
  obtain rfl := Option.some.inj (hp.symm.trans hp')
  obtain rfl := Option.some.inj (hb.symm.trans hfirst)
  -- nothing stands before the first block, so it is also the first one that names the parameter
  have hnaming : c'.FirstNaming s.parameter b := by
    obtain ⟨rest, hrest⟩ := List.head?_eq_some_iff.mp hb
    exact ⟨[], rest, hrest, hname.trans hparameter, by simp⟩
  obtain rfl := hnaming.unique hnamed
  obtain rfl := hdoc.unique ht
  rw [hparameterDoc]
  exact hsize

end Agreement

namespace TranslationUnit

/-- The size of a summary is a word, so in print it is the last line, with nothing after its line
feed, whatever the other parts are. If the first block of the comment names the first parameter of
the function, then the size is what the search finds in the text of that block. -/
theorem summary_size {u : TranslationUnit} {shown : Topic → Bool} {s : Summary}
    (h : u.summary.outcome shown = .ok s) :
    s.size ≠ "" ∧ (∀ c ∈ s.size.toList, isWord c = true) ∧
      (∀ other : Summary, other.size = s.size → ∃ before,
        (other.print .text).toList.splitOn '\n' = before ++ [s.size.toList, []]) ∧
      ∀ f c p b, Subject u.node f c → (f.ofKind .parameter).head? = some p →
        (c.ofKind .block).head? = some b → b.param = p.name → ∀ shown' : Topic → Bool,
          (SizeTag.find s.parameterDoc).outcome shown' = .ok (some s.size) := by
  have hdescribes := describes_of_eq_ok h
  obtain ⟨text, hsize⟩ := hdescribes.exists_leftmost
  refine ⟨hsize.ne_empty, hsize.isWord, ?_, ?_⟩
  · intro other hother
    rw [← hother]
    exact other.exists_splitOn_print (hother ▸ hsize.isWord)
  · intro f c p b hs hp hb hname shown'
    exact SizeTag.outcome_find_eq_some_iff.mpr (hdescribes.leftmost hs hp hb hname)

/-- A block with two lines, the second of which has two size tags. -/
def bufferBlock : Node :=
  ⟨"ParamCommandComment", none, none, none, some "dst", none, some [
    paragraphOf " Buffer.\n size:n or size:m "]⟩

def bufferComment : Node :=
  ⟨"FullComment", none, none, none, none, none, some [
    paragraphOf "Copies.", bufferBlock, paragraphOf " Twice. "]⟩

def bufferParameter : Node :=
  ⟨"ParmVarDecl", some "dst", none, none, none, none, none⟩

def bufferFunction : Node :=
  ⟨"FunctionDecl", some "copy", none, none, none, none, some [bufferComment, bufferParameter]⟩

def bufferUnit : TranslationUnit :=
  ⟨⟨"TranslationUnitDecl", none, none, none, none, none, some [bufferFunction]⟩, rfl⟩

theorem summary_size_bufferUnit :
    bufferUnit.summary.outcome (fun _ => true) =
        .ok ⟨"copy", "dst", "Copies.\n\nTwice.", "Buffer.\n size:n or size:m", "n"⟩ ∧
      Subject bufferUnit.node bufferFunction bufferComment ∧
      (SizeTag.find "Buffer.\n size:n or size:m").outcome (fun _ => true) = .ok (some "n") ∧
      ∃ before, ((⟨"\n", "size", "a\r\n", "", "n"⟩ : Summary).print .text).toList.splitOn '\n' =
        before ++ [['n'], []] := by
  have hsummary : bufferUnit.summary.outcome (fun _ => true) =
      .ok ⟨"copy", "dst", "Copies.\n\nTwice.", "Buffer.\n size:n or size:m", "n"⟩ := by
    decide +kernel
  have hsubject : Subject bufferUnit.node bufferFunction bufferComment :=
    ⟨by decide +kernel, by decide +kernel⟩
  obtain ⟨-, -, hline, hagree⟩ := summary_size hsummary
  exact ⟨hsummary, hsubject, hagree _ _ bufferParameter bufferBlock hsubject (by decide +kernel)
    (by decide +kernel) rfl _, hline _ rfl⟩

end TranslationUnit

end ParamDoc
