import ParamDoc.Dump.Refusal
import ParamDoc.Flaw

/-!
# Decoding a dump

A dump is decoded if the reader accepts all of its text; otherwise the fault tells why it stopped
and where.
-/

namespace ParamDoc

/-- The node that a text spells, or why it spells none. -/
def Dump.decode (text : List Char) : Except Json.Fault Node :=
  match State.root.run? text with
  | some (.done n) => .ok n
  | _ => .error ((State.root.stop text).locate text)

/-- The node that a text spells, if it is a dump. -/
def Node.decode (text : String) : Except Flaw Node :=
  match Dump.decode text.toList with
  | .ok n => .ok n
  | .error fault => .error (.undecodable fault)

theorem Node.decode_eq_ok_iff {text : String} {n : Node} :
    decode text = .ok n ↔ Dump.decode text.toList = .ok n := by
  unfold decode
  cases Dump.decode text.toList <;> simp

/-- All flaws of decoding are faults of the text. -/
theorem Node.decode_eq_error_iff {text : String} {flaw : Flaw} :
    decode text = .error flaw ↔
      ∃ fault, flaw = .undecodable fault ∧ Dump.decode text.toList = .error fault := by
  unfold decode
  cases Dump.decode text.toList <;> simp [eq_comm]

end ParamDoc
