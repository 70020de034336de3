import ParamDoc.Dump.Reader
import ParamDoc.Json.Misfit

/-!
# Why a dump is refused

The reader stops at the first character that no dump has there, or at the end of a text that is
not complete. What is reported depends on the state it was in and on the text that follows: a
value of the wrong type is still read, so that it can be shown.
-/

namespace ParamDoc.Dump

open Json (Stop Cause Expected isSpace misfit)

def expected : Field → Expected
  | .inner => .sequence
  | _ => .string

/-- What stays unread when the end of an object is looked for: white space and a closing brace
are taken. -/
def closeObject (text : List Char) : List Char :=
  match text.dropWhile isSpace with
  | '\x7d' :: rest => rest
  | rest => rest

namespace State

/-- The character after a complete node or value in brackets is refused. -/
def afterRefusal (draft : Draft) (text : List Char) : Stop :=
  match draft.shape, text with
  | .object, '\x7d' :: _ => ⟨.missingField Field.kind.key, text, 1⟩
  | .object, _ => ⟨.expectedCommaInObject, text, 1⟩
  | .row [], ',' :: rest =>
    match rest.dropWhile isSpace with
    | ']' :: rest => ⟨.trailingComma, ']' :: rest, 1⟩
    | rest => ⟨.trailingCharacters, rest, 1⟩
  | .row [], _ => ⟨.trailingCharacters, text, 1⟩
  | .row _, _ => ⟨.expectedCommaInList, text, 1⟩

/-- A bracket that would be one too many, or a value that is not a node. -/
def nodeRefusal (text : List Char) : Stop :=
  match text with
  | '[' :: _ | '\x7b' :: _ => ⟨.tooDeep, text, 1⟩
  | _ => misfit .node text

/-- Why the first of these characters is refused. -/
def refusal (s : State) (text : List Char) : Stop :=
  match s with
  | .root => nodeRefusal text
  | .child first _ _ =>
    if !first ∧ text.head? = some ']' then ⟨.trailingComma, text, 1⟩ else nodeRefusal text
  | .key first _ _ =>
    if text.head? = some '\x7d' then
      ⟨if first then .missingField Field.kind.key else .trailingComma, text, 1⟩
    else ⟨.keyNotString, text, 1⟩
  | .keyText l _ _ =>
    match text with
    | '"' :: rest =>
      match l.step '"' with
      | .done name => ⟨.duplicateField (String.ofList name), closeObject rest, 0⟩
      | _ => l.refusal text
    | _ => l.refusal text
  | .colon _ _ _ => ⟨.expectedColon, text, 1⟩
  | .value field draft _ =>
    match draft.shape, text with
    | .row _, ']' :: _ => ⟨if field = .kind then .noFields else .trailingComma, text, 1⟩
    | _, '[' :: _ =>
      if field = .inner then ⟨.tooDeep, text, 1⟩ else misfit (expected field) text
    | _, _ => misfit (expected field) text
  | .word _ _ _ _ => ⟨.expectedWord, text, 1⟩
  | .text l _ _ _ => l.refusal text
  | .skip v members _ =>
    if (text.head?.map v.endsBefore).getD false then afterRefusal ⟨.object, members⟩ text
    else v.refusal text
  | .afterValue draft _ => afterRefusal draft text
  | .afterChild _ _ => ⟨.expectedCommaInList, text, 1⟩
  | .done _ => ⟨.trailingCharacters, text, 1⟩

/-- Why the text may not end here; of a complete node nothing is missing. -/
def atEnd : State → Cause
  | .root => .endInValue
  | .child first _ _ => if first then .endInList else .endInValue
  | .key first _ _ => if first then .endInObject else .endInValue
  | .keyText _ _ _ => .endInString
  | .colon _ _ _ => .endInObject
  | .value field draft _ =>
    match draft.shape with
    | .object => .endInValue
    | .row _ => if field = .kind then .endInList else .endInValue
  | .word _ _ _ _ => .endInValue
  | .text _ _ _ _ => .endInString
  | .skip v _ _ => v.atEnd
  | .afterValue draft _ =>
    match draft.shape with
    | .object => .endInObject
    | .row _ => .endInList
  | .afterChild _ _ => .endInList
  | .done _ => .trailingCharacters

/-- Where and why a text that the reader does not accept stops it. -/
def stop (s : State) : List Char → Stop
  | [] => ⟨s.atEnd, [], 0⟩
  | c :: rest =>
    match s.step? c with
    | some t => t.stop rest
    | none => s.refusal (c :: rest)

end State

end ParamDoc.Dump
