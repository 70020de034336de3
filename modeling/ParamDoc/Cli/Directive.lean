import ParamDoc.Decimal.Spelling
import ParamDoc.Event
import ParamDoc.Pattern.Reader
import ParamDoc.Text.Bytes

/-!
# Directives of a log filter

A directive gives a level, for everything or for some events: those with a target that begins
with a given text, those in a span, or those with given fields.
-/

namespace ParamDoc.Cli

/-- The least important level that is shown; `none` shows nothing. -/
abbrev Threshold : Type := Option Level

def Threshold.shows (t : Threshold) (l : Level) : Bool :=
  match t with
  | none => false
  | some least => l.rank ≤ least.rank

/-- A number in decimal digits, with a plus sign or without. -/
def number? (s : List Char) : Option Nat :=
  let digits := if s.head? = some '+' then s.drop 1 else s
  if digits.isEmpty || !digits.all Char.isDigit then none
  else some (digits.foldl (fun n c => 10 * n + (c.toNat - 48)) 0)

/-- A threshold by its number or its name, whose case does not matter. -/
def threshold? (s : List Char) : Option Threshold :=
  match number? s with
  | some 0 => some none
  | some 1 => some (some .error)
  | some 2 => some (some .warn)
  | some 3 => some (some .info)
  | some 4 => some (some .debug)
  | some 5 => some (some .trace)
  | some _ => none
  | none =>
    match String.ofList (s.map Char.toLower) with
    | "off" => some none
    | "error" => some (some .error)
    | "warn" => some (some .warn)
    | "info" => some (some .info)
    | "debug" => some (some .debug)
    | "trace" => some (some .trace)
    | _ => none

/-- A condition on a field of an event or of a span: that it exists, or that it has a value. -/
structure FieldTest where
  name : String
  hasValue : Bool
deriving DecidableEq

namespace FieldTest

/-- The text is a value of a field: a number, or else a pattern for the text of the field. -/
def isValue (text : List Char) : Bool :=
  Decimal.isNumber text || Pattern.isPattern text

/-- A name, and perhaps a value after an equals sign. A second equals sign and what follows it do
not count. -/
def ofText? (text : List Char) : Option FieldTest :=
  if text.isEmpty then none
  else
    let name := String.ofList (text.takeWhile (· ≠ '='))
    match text.dropWhile (· ≠ '=') with
    | [] => some ⟨name, false⟩
    | _ :: rest => if isValue (rest.takeWhile (· ≠ '=')) then some ⟨name, true⟩ else none

end FieldTest

structure Directive where
  threshold : Threshold
  target : Option String
  /-- The name of the span that an event must be in. -/
  span : Option String
  fields : List FieldTest
deriving DecidableEq

inductive FilterFault where
  | refused
  /-- The reader stops the program: it was made to cut the text within a character. -/
  | crash
deriving DecidableEq

namespace FilterFault

def orRefused {α : Type} : Option α → Except FilterFault α
  | some a => .ok a
  | none => .error .refused

def orCrash {α : Type} : Option α → Except FilterFault α
  | some a => .ok a
  | none => .error .crash

end FilterFault

namespace Directive

open FilterFault

/-- A directive that applies to everything and shows everything. -/
def all : Directive := ⟨some .trace, none, none, []⟩

/-- What part of a directive is being read, and the place where it begins. -/
inductive Part where
  | start
  | target
  | span (start : Nat)
  | field (start : Nat)
  /-- After the fields of a span. -/
  | fields
  /-- After a span. -/
  | afterSpan
deriving DecidableEq

def withTarget (d : Directive) (text : List Char) : Directive :=
  { d with target := some (String.ofList text) }

def withSpan (d : Directive) (text : List Char) : Directive :=
  { d with span := some (String.ofList text) }

def withField (d : Directive) (test : FieldTest) : Directive :=
  { d with fields := d.fields ++ [test] }

/-- Ends a directive with a level; without one it shows everything. -/
def withLevel? (d : Directive) (text : List Char) : Option Directive :=
  if text.isEmpty then some { d with threshold := some .trace }
  else (threshold? text).map fun threshold => { d with threshold }

/-- Ends a directive that is a level for everything or else a target, all of which is shown. -/
def ofLevelOrTarget (text : List Char) : Directive :=
  match threshold? text with
  | some threshold => ⟨threshold, none, none, []⟩
  | none => ⟨some .trace, some (String.ofList text), none, []⟩

/-- Reads a directive. White space around it is left out when it is scanned, but its parts are
cut from the whole text, at the places that were found by the scan: `place` is where the
characters to be scanned begin. In the whole text such a place may be within a character. -/
def readFrom (text : List Char) (d : Directive) (part : Part) (place : Nat) :
    List Char → Except FilterFault Directive
  | [] =>
    match part with
    | .target => .ok (ofLevelOrTarget text)
    | .afterSpan => .ok d
    | _ => .error .refused
  | c :: scan =>
    let next := place + c.utf8Size
    match part with
    | .start =>
      if c = '[' then readFrom text d (.span next) next scan
      else if c = '-' || c = ':' || c = '_' || Text.isAlphanumeric c then
        readFrom text d .target next scan
      else .error .refused
    | .target =>
      if c = '=' then do
        let (target, _) ← orCrash (Text.splitAt? place text)
        let level ← orCrash (Text.dropBytes? next text)
        orRefused ((d.withTarget target).withLevel? level)
      else if c = '[' then do
        let (target, _) ← orCrash (Text.splitAt? place text)
        readFrom text (d.withTarget target) (.span next) next scan
      else readFrom text d .target next scan
    | .span start =>
      if c = ']' then do
        let span ← orCrash (Text.slice? start place text)
        readFrom text (d.withSpan span) .afterSpan next scan
      else if c = '\x7b' then do
        let span ← orCrash (Text.slice? start place text)
        readFrom text (if span.isEmpty then d else d.withSpan span) (.field next) next scan
      else readFrom text d part next scan
    | .field start =>
      if c = '\x7d' then do
        let field ← orCrash (Text.slice? start place text)
        let test ← orRefused (FieldTest.ofText? field)
        readFrom text (d.withField test) .fields next scan
      else readFrom text d part next scan
    | .fields => if c = ']' then readFrom text d .afterSpan next scan else .error .refused
    | .afterSpan =>
      if c = '=' then do
        let level ← orCrash (Text.dropBytes? next text)
        orRefused (d.withLevel? level)
      else .error .refused

def read (text : List Char) : Except FilterFault Directive :=
  readFrom text all .start 0 (Text.trim text)

/-- Events are not in any span, and their fields are tested for being there only. -/
def applies (d : Directive) (t : Topic) : Bool :=
  d.span.isNone && d.fields.all (fun test => !test.hasValue && t.fieldNames.contains test.name) &&
    d.target.all (fun target => target.toList.isPrefixOf t.target.toList)

/-- Compares what two directives are about: a longer target is more specific, then more fields;
other differences only serve to order them. -/
def compareScope (a b : Directive) : Ordering :=
  (compare (a.target.map String.utf8ByteSize) (b.target.map String.utf8ByteSize)).then <|
    (compare a.fields.length b.fields.length).then <|
      (compare a.target b.target).then <|
        compare (a.fields.map FieldTest.name) (b.fields.map FieldTest.name)

/-- The most specific directive; of two with the same scope the later one. -/
def mostSpecific? : List Directive → Option Directive
  | [] => none
  | d :: rest =>
    match mostSpecific? rest with
    | none => some d
    | some e => if d.compareScope e = .gt then some d else some e

end Directive

end ParamDoc.Cli
