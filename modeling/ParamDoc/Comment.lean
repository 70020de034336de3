import ParamDoc.Text.Blank
import ParamDoc.View

/-!
# Documentation comments

A comment holds paragraphs of prose and blocks that each document one parameter. Of a paragraph,
and of a block's paragraph, only the first leaf counts.
-/

namespace ParamDoc

inductive Direction where
  | input
  | output
  | both
deriving DecidableEq

namespace Direction

def spelling : Direction → String
  | .input => "in"
  | .output => "out"
  | .both => "in,out"

def ofSpelling (text : String) : Except Flaw Direction :=
  if text = "in" then .ok .input
  else if text = "out" then .ok .output
  else if text = "in,out" then .ok .both
  else .error (.malformed (.unknownDirection text))

end Direction

namespace Block

def name (b : Block) : Except Flaw String :=
  b.node.require .param

def direction (b : Block) : Except Flaw Direction := do
  Direction.ofSpelling (← b.node.require .direction)

/-- What the block says: the first leaf of its first child. -/
def text (b : Block) : Except Flaw String :=
  match b.node.firstChild? with
  | none => .error (.malformed (.noParagraph b.node.param))
  | some paragraph =>
    match paragraph.firstChild? with
    | none => .error (.malformed (.emptyParagraph b.node.param))
    | some leaf => (leaf.require .text).map Text.trimmed

end Block

namespace Comment

def paragraphText (p : Node.Of .paragraph) : Except Flaw String :=
  match p.node.firstChild? with
  | none => .error (.malformed .paragraphWithoutText)
  | some leaf => (leaf.require .text).map Text.trimmed

/-- Puts an empty line between texts. -/
def joinParagraphs (texts : List String) : String :=
  String.ofList (List.intercalate ['\n', '\n'] (texts.map String.toList))

/-- The prose of the comment: its paragraphs other than the blank ones. -/
def text (c : Comment) : Except Flaw String := do
  let texts ← (c.node.childrenOf .paragraph).mapM paragraphText
  return joinParagraphs (texts.filter (· ≠ ""))

def blocks (c : Comment) : List Block :=
  c.node.childrenOf .block

def firstBlock (c : Comment) : Except Flaw Block :=
  match c.blocks with
  | [] => .error (.malformed .noBlocks)
  | b :: _ => .ok b

/-- The first block with the given name. A block without a name that comes before it is a
flaw. -/
def block? (c : Comment) (name : String) : Except Flaw (Option Block) :=
  match c.blocks.find? fun b => b.node.param.all (· = name) with
  | none => .ok none
  | some b => (Block.name b).map fun _ => some b

end Comment

def paragraphOf (text : String) : Node :=
  ⟨"ParagraphComment", none, none, none, none, none, some [
    ⟨"TextComment", none, none, some text, none, none, none⟩]⟩

def commentOf (inner : List Node) : Comment :=
  ⟨⟨"FullComment", none, none, none, none, none, some inner⟩, rfl⟩

end ParamDoc
