import Indicator.Text.Surrogate

/-!
# Pieces

A text of octets is read piece by piece: a few octets stand for some characters, or for none that
is known, and then a mark takes their place. A reader looks at one octet and at all that follow
it, says what they stand for and how many of those that follow it has used, and hands on a state
to the next piece. Octets that end within a piece leave one mark. A reader may also come to a point from where it
cannot go on.
-/

namespace Indicator.Text.Charset

/-- Why a reading does not come to its end. -/
inductive Stuck
  /-- The octets end within a piece of which too many are there. -/
  | longTail
  /-- A character of a set from which none can be taken by itself. -/
  | strayShift
deriving DecidableEq, Repr

def Stuck.message : Stuck → String
  | longTail => "pending buffer overflow"
  | strayShift => "internal codec error"

inductive Piece (σ : Type)
  /-- Characters, read from the octet and `more` of those that follow it. -/
  | chars (text : List Char) (more : Nat) (state : σ)
  /-- Octets that stand for nothing. -/
  | bad (more : Nat) (state : σ)
  /-- The start of a piece that is not there to its end. -/
  | cut
  /-- The reader cannot go on. -/
  | stuck (reason : Stuck)

namespace Piece

/-- The character of an octet by itself. -/
def one {σ : Type} (c : Char) (state : σ) : Piece σ := .chars [c] 0 state

/-- The characters of some octets, if there are any; otherwise the first octet stands for
nothing. -/
def ofText? {σ : Type} (more : Nat) (state : σ) : Option (List Char) → Piece σ
  | some text => .chars text more state
  | none => .bad 0 state

/-- The same for one character. -/
def ofChar? {σ : Type} (more : Nat) (state : σ) (found : Option Char) : Piece σ :=
  ofText? more state (found.map fun c => [c])

/-- The character of a number, `replacement` included, for a piece without a state. -/
def ofCode (code more : Nat) : Piece Unit := .chars [charOfCode code] more ()

end Piece

/-- How many octets of a piece that is not there to its end are kept. -/
def maxTail : Nat := 8

/-- The characters of octets under a reader. -/
def readPieces {σ : Type} (read : σ → UInt8 → List UInt8 → Piece σ) :
    σ → List UInt8 → Except Stuck (List Char)
  | _, [] => .ok []
  | state, b :: rest =>
    match read state b rest with
    | .chars text more state => (readPieces read state (rest.drop more)).map (text ++ ·)
    | .bad more state => (readPieces read state (rest.drop more)).map (replacement :: ·)
    | .cut => if maxTail ≤ rest.length then .error .longTail else .ok [replacement]
    | .stuck reason => .error reason
termination_by _ octets => octets.length
decreasing_by
  all_goals
    simp only [List.length_drop, List.length_cons]
    omega

/-- The characters of octets under a reader that needs no state. -/
def readStateless (read : UInt8 → List UInt8 → Piece Unit) (octets : List UInt8) :
    Except Stuck (List Char) :=
  readPieces (fun _ => read) () octets

end Indicator.Text.Charset
