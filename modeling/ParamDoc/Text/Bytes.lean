/-!
# Places in a text, in bytes

Texts are lists of characters, but some places in them are counted in bytes of UTF-8. Not every
such place is one between two characters.
-/

namespace ParamDoc.Text

def byteLength : List Char → Nat
  | [] => 0
  | c :: rest => c.utf8Size + byteLength rest

/-- The text cut after so many bytes, unless that is within a character or beyond the end. -/
def splitAt? : Nat → List Char → Option (List Char × List Char)
  | 0, s => some ([], s)
  | _ + 1, [] => none
  | n + 1, c :: rest =>
    if c.utf8Size ≤ n + 1 then
      (splitAt? (n + 1 - c.utf8Size) rest).map fun (before, after) => (c :: before, after)
    else none

/-- What follows the first so many bytes. -/
def dropBytes? (start : Nat) (s : List Char) : Option (List Char) :=
  (splitAt? start s).map (·.2)

/-- What stands between two places, the second no earlier than the first. -/
def slice? (start stop : Nat) (s : List Char) : Option (List Char) :=
  ((dropBytes? start s).bind (splitAt? (stop - start))).map (·.1)

end ParamDoc.Text
