import Indicator.Text.Charset.Chinese
import Indicator.Text.Charset.Japanese
import Indicator.Text.Charset.Korean

/-!
# Switched sets

Encodings that write several sets in the octets of ASCII and switch between them: by the escape
sequences of ISO 2022, or by a tilde and a brace. Under ISO 2022 there are three places for a set.
Characters come from the first place, from the second one while the text is shifted out, and single
ones from the third after an escape.
-/

namespace Indicator.Text.Charset

/-! ### Sets and places -/

/-- A set that an escape sequence can call up. -/
structure Callable where
  /-- The octet that ends the sequence. -/
  final : UInt8
  /-- Whether a character takes two octets. -/
  wide : Bool
  /-- The characters of one or two octets. -/
  char? : Nat → Nat → Option (List Char)
  /-- How single characters are taken from the third place, if they can be. -/
  single? : Option (UInt8 → Option Char)

/-- A set of one octet. -/
def Callable.narrow (final : Char) (char? : Nat → Option Char) : Callable :=
  ⟨final.toUInt8, false, fun a _ => (char? a).map fun c => [c], none⟩

/-- A set of two octets, each counted from 21. -/
def Callable.paired (final : Char) (cell? : Nat → Nat → Option (List Char)) : Callable :=
  ⟨final.toUInt8, true,
    fun a b => if 0x21 ≤ a ∧ 0x21 ≤ b then cell? (a - 0x21) (b - 0x21) else none, none⟩

def Callable.grid (final : Char) (grid : Grid) : Callable :=
  .paired final fun row column => (grid.cell? row column).map fun c => [c]

/-- A set for the third place only. -/
def Callable.aside (final : Char) (char? : UInt8 → Option Char) : Callable :=
  ⟨final.toUInt8, false, fun _ _ => none, some char?⟩

def ascii : Callable :=
  ⟨'B'.toUInt8, false, fun a _ => some [charOfCode a],
    some fun b => if b < 0x80 then some (charOfCode b.toNat) else none⟩

/-- A manner of switching: the sets that can be called up, whether the third place is used, and
whether octets shift. -/
structure Manner where
  sets : List Callable
  single : Bool
  shifts : Bool

namespace Manner

def roman : Callable :=
  .narrow 'J' fun a => if a = 0x5C then some '¥' else if a = 0x7E then some '‾' else charOfCode a

def katakana : Callable := .narrow 'I' fun a => narrow? (UInt8.ofNat (a + 0x80))

def basicJapanese : Callable := .grid 'B' jis0208
def formerJapanese : Callable := .grid '@' jis0208
def supplement : Callable := .grid 'D' jis0212

/-- The upper half of the Latin set. -/
def latin : Callable :=
  .aside 'A' fun b => if b < 0x80 then some (charOfCode (b.toNat + 0x80)) else none

/-- The Greek letter of an octet above A0. -/
def greekLetter? (n : Nat) : Option Char :=
  if n < 0xA0 then some (charOfCode n)
  else if n = 0xA1 then some '‘'
  else if n = 0xA2 then some '’'
  else if n = 0xAF then some '―'
  else if [0xA0, 0xA3, 0xA6, 0xA7, 0xA8, 0xA9, 0xAB, 0xAC, 0xAD, 0xB0, 0xB1, 0xB2, 0xB3, 0xB7, 0xBB,
      0xBD].contains n then some (charOfCode n)
  else if 0xB4 ≤ n ∧ n ≤ 0xFE ∧ n ≠ 0xD2 then some (charOfCode (n + 0x2D0))
  else none

/-- The upper half of the Greek set. -/
def greek : Callable := .aside 'F' fun b => greekLetter? (b ^^^ 0x80).toNat

def japanese : Manner := ⟨[basicJapanese, roman, formerJapanese], false, false⟩

def japanese1 : Manner := ⟨[basicJapanese, supplement, roman, formerJapanese], false, false⟩

def japanese2 : Manner :=
  ⟨[basicJapanese, supplement, .grid 'C' ks1001, .grid 'A' gb2312, roman, formerJapanese, latin,
    greek], true, false⟩

/-- The first plane of the extended set, with the tilde of ASCII. -/
def firstExtended (final : Char) (edition : Edition) : Callable :=
  .paired final fun row column =>
    if (row, column) = (1, 17) then some ['~'] else firstPlane? edition row column

/-- The second plane, for both editions as the later one has it. -/
def secondExtended : Callable := .grid 'P' jis0213Second

def japanese3 : Manner :=
  ⟨[basicJapanese, firstExtended 'O' .first, secondExtended], false, false⟩

def japanese2004 : Manner :=
  ⟨[basicJapanese, firstExtended 'Q' .second, secondExtended], false, false⟩

def japaneseExtended : Manner :=
  ⟨[basicJapanese, supplement, roman, katakana, formerJapanese], false, false⟩

def korean : Manner := ⟨[.grid 'C' ks1001], false, true⟩

/-- The set of an escape sequence. -/
def find? (manner : Manner) (wide : Bool) (final : UInt8) : Option Callable :=
  (ascii :: manner.sets).find? fun set => set.wide = wide && set.final = final

end Manner

/-- Which set is in each place, and how the next octet is to be taken. -/
structure Switches where
  first : Callable
  second : Callable
  third : Callable
  /-- The second place is read. -/
  shifted : Bool
  /-- An unknown escape sequence is copied. -/
  copying : Bool

def Switches.start : Switches := ⟨ascii, ascii, ascii, false, false⟩

/-! ### Escape sequences -/

/-- The octets that end an escape sequence. -/
def isFinal (b : UInt8) : Bool := (0x41 ≤ b && b ≤ 0x5A) || b = 0x40

/-- The octets that start an escape sequence which calls up a set. -/
def callsSet (b : UInt8) : Bool := "()$.&".toList.any fun c => c.toUInt8 = b

/-- How many octets an escape sequence may have. -/
def maxSequence : Nat := 16

/-- What is known of the end of an escape sequence. -/
inductive SequenceEnd
  | after (length : Nat)
  | missing
  | cut

/-- The end of an escape sequence, from its octet number `i` on. The announcement of a revised set
stands for two octets of a sequence, after which one more is passed over. -/
def sequenceEnd (revised : Bool) (i : Nat) (octets : List UInt8) : SequenceEnd :=
  if maxSequence ≤ i then .missing
  else match octets with
    | [] => .cut
    | b :: rest =>
      if isFinal b then .after (i + 1)
      else if revised && b = 0x26 && rest.head? = some 0x40 then
        sequenceEnd revised (i + 3) (rest.drop 2)
      else sequenceEnd revised (i + 1) rest
termination_by octets.length
decreasing_by
  all_goals
    simp only [List.length_drop, List.length_cons]
    omega

/-- The set that an escape sequence puts into a place, from the octets after the escape and before
the last one. -/
def place? (manner : Manner) (between : List UInt8) (final : UInt8) :
    Option (Switches → Switches) := do
  let toFirst (set : Callable) (s : Switches) : Switches := { s with first := set }
  let toSecond (set : Callable) (s : Switches) : Switches := { s with second := set }
  match between.map fun b => Char.ofNat b.toNat with
  | ['$'] | ['$', '('] => return toFirst (← manner.find? true final)
  | ['('] => return toFirst (← manner.find? false final)
  | [')'] => return toSecond (← manner.find? false final)
  | ['.'] =>
    let set ← manner.find? false final
    if manner.single then return fun s => { s with third := set } else none
  | ['$', ')'] => return toSecond (← manner.find? true final)
  | ['&', '@', '\x1B', '$'] =>
    if final = 0x42 ∧ !manner.shifts then return toFirst (← manner.find? true final) else none
  | _ => none

/-- What an escape and the octets after it stand for. -/
def readEscape (manner : Manner) (s : Switches) (rest : List UInt8) : Piece Switches :=
  match rest with
  | [] => .cut
  | b :: more =>
    if callsSet b then
      match sequenceEnd (!manner.shifts) 1 rest with
      | .cut => .cut
      | .missing => .bad 0 s
      | .after length =>
        let tail := rest.take (length - 1)
        match place? manner tail.dropLast (tail.getLast?.getD 0) with
        | some change => .chars [] (length - 1) (change s)
        | none => .bad (length - 1) s
    else if manner.single ∧ b = 0x4E then
      match more with
      | [] => .cut
      | c :: _ =>
        match s.third.single? with
        | none => .stuck .strayShift
        | some char? =>
          match char? c with
          | some found => .chars [found] 2 s
          | none => .bad 2 s
    else .chars ['\x1B'] 0 { s with copying := true }

/-- What an octet stands for under a manner of switching. -/
def readSwitched (manner : Manner) (s : Switches) (b : UInt8) (rest : List UInt8) :
    Piece Switches :=
  let same : Piece Switches := .one (charOfCode b.toNat) s
  if s.copying then .one (charOfCode b.toNat) { s with copying := !isFinal b }
  else if b = 0x1B then readEscape manner s rest
  else if b = 0x0F ∧ manner.shifts then .chars [] 0 { s with shifted := false }
  else if b = 0x0E ∧ manner.shifts then .chars [] 0 { s with shifted := true }
  else if b = 0x0A then .one '\n' { s with shifted := false }
  else if b < 0x20 then same
  else if 0x80 ≤ b then .bad 0 s
  else
    let set := if s.shifted then s.second else s.first
    if set.wide then
      match rest with
      | [] => .cut
      | c :: _ =>
        match set.char? b.toNat c.toNat with
        | some text => .chars text 1 s
        | none => .bad 1 s
    else match set.char? b.toNat 0 with
      | some text => .chars text 0 s
      | none => .bad 0 s

/-- The characters of octets under a manner of switching. -/
def Manner.read (manner : Manner) (octets : List UInt8) : Except Stuck (List Char) :=
  readPieces (readSwitched manner) .start octets

/-! ### Tildes -/

/-- What an octet stands for where a tilde and a brace switch between ASCII and the basic Chinese
set. -/
def readTilde (chinese : Bool) (b : UInt8) (rest : List UInt8) : Piece Bool :=
  if b = 0x7E then
    match rest with
    | [] => .cut
    | c :: _ =>
      match chinese, Char.ofNat c.toNat with
      | false, '~' => .chars ['~'] 1 false
      | false, '\x7B' => .chars [] 1 true
      | false, '\n' => .chars [] 1 false
      | true, '\x7D' => .chars [] 1 false
      | _, _ => .bad 0 chinese
  else if 0x80 ≤ b then .bad 0 chinese
  else if chinese then
    match rest with
    | [] => .cut
    | c :: _ => .ofChar? 1 true (gb2312.from? 0x21 b.toNat c.toNat)
  else .one (charOfCode b.toNat) false

def readHz (octets : List UInt8) : Except Stuck (List Char) := readPieces readTilde false octets

end Indicator.Text.Charset
