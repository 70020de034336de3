import ParamDoc.Cli.Directive

/-!
# Log filters

A filter is a list of directives, separated by commas. Of the directives that apply to an event
the most specific one decides. How the text of a filter is read is up to the log library: a setting
may name any reader, and the one given here stands for the library's own.
-/

namespace ParamDoc.Cli

structure Filter where
  directives : List Directive
deriving DecidableEq

namespace Filter

def ofLevel (l : Level) : Filter :=
  ⟨[⟨some l, none, none, []⟩]⟩

/-- The pieces of a text between commas; `piece` is the piece at hand, latest first. -/
def piecesFrom (piece : List Char) : List Char → List (List Char)
  | [] => [piece.reverse]
  | c :: rest =>
    if c = ',' then piece.reverse :: piecesFrom [] rest else piecesFrom (c :: piece) rest

/-- Reads the filter that a text spells; one without directives shows errors. -/
def read (text : String) : Except FilterFault Filter :=
  match (piecesFrom [] text.toList).filter (!·.isEmpty) with
  | [] => .ok (ofLevel .error)
  | pieces => (pieces.mapM Directive.read).map Filter.mk

def ofVerbosity : Nat → Filter
  | 0 => ofLevel .warn
  | 1 => ofLevel .info
  | 2 => ofLevel .debug
  | _ => ofLevel .trace

/-- The events of the topic are shown. What no directive is about is not. -/
def shows (f : Filter) (t : Topic) : Bool :=
  match Directive.mostSpecific? (f.directives.filter (·.applies t)) with
  | none => false
  | some d => d.threshold.shows t.level

end Filter

/-- What the environment asks the log for, and how the log library reads it. -/
structure LogSetting where
  logFilter : Option String
  readFilter : String → Except FilterFault Filter := Filter.read

namespace LogSetting

/-- The filter that is in force: the one that the environment asks for, and warnings if the
library refuses it; without one the flags decide. There is none if the library crashes. -/
def filter? (s : LogSetting) (verbosity : Nat) : Option Filter :=
  match s.logFilter with
  | none => some (.ofVerbosity verbosity)
  | some text =>
    match s.readFilter text with
    | .ok filter => some filter
    | .error .refused => some (.ofLevel .warn)
    | .error .crash => none

end LogSetting

end ParamDoc.Cli
