/-!
# Modes of a pattern

How a pattern is read depends on two flags, which a group can set for itself or for what follows
in the group it stands in. Other flags say how a pattern matches and not what is one.
-/

namespace ParamDoc.Pattern

structure Mode where
  /-- White space and comments between the parts of a pattern do not count. -/
  verbose : Bool
  /-- The pattern is about characters and not about bytes. -/
  unicode : Bool
deriving DecidableEq

namespace Mode

def initial : Mode := ⟨false, true⟩

def letters : List Char :=
  ['i', 'm', 's', 'U', 'u', 'R', 'x']

/-- Sets the flags up to a dash, and clears those after it. -/
def change (value : Bool) (m : Mode) : List Char → Mode
  | [] => m
  | '-' :: rest => change false m rest
  | 'u' :: rest => change value { m with unicode := value } rest
  | 'x' :: rest => change value { m with verbose := value } rest
  | _ :: rest => change value m rest

end Mode

end ParamDoc.Pattern
