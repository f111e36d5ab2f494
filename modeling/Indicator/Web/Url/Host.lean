import Indicator.Web.DomainName
import Indicator.Web.Url.Encoding

/-!
# Hosts

A host is a name or an address of the network layer. A text that looks like four numbers must be
an address of four octets, and one in brackets an address of eight groups, of which a run of zeros
may be left out. A name is in lower case, and in ASCII.
-/

namespace Indicator.Web

/-- The parts of a list between the elements that are equal to `mark`. -/
def splitAt (mark : Char) : List Char → List (List Char)
  | [] => [[]]
  | c :: rest =>
    if c = mark then [] :: splitAt mark rest
    else match splitAt mark rest with
      | [] => [[c]]
      | part :: more => (c :: part) :: more

namespace Host

/-! ### Addresses of four octets -/

/-- How far a text is read as numbers with one character between neighbours: for each number,
whether it may start here and whether it may end here. -/
abbrev NumberStates := List (Bool × Bool)

/-- The states after one more character, `before` telling whether the number before those of the
list may have ended in front of it. -/
def stepNumbers (c : Char) (before : Bool) : NumberStates → NumberStates
  | [] => []
  | (starts, ends) :: rest => (before, c.isDigit && (starts || ends)) :: stepNumbers c ends rest

/-- Whether a text can be read as four numbers with any character between neighbours. -/
def looksLikeFour (host : List Char) : Bool :=
  let start : NumberStates := [(true, false), (false, false), (false, false), (false, false)]
  ((host.foldl (fun states c => stepNumbers c false states) start).getLast?.map Prod.snd).getD false

/-- A number from 0 to 255 without zeros before it. -/
def isOctet (text : List Char) : Bool :=
  !text.isEmpty && text.all Char.isDigit && text.length ≤ 3 &&
    text.foldl (fun n c => 10 * n + (c.toNat - 48)) 0 ≤ 255 &&
    (text.length = 1 || text.head? ≠ some '0')

/-- An address of four octets. -/
def isFour (host : List Char) : Bool :=
  let parts := splitAt '.' host
  parts.length = 4 && parts.all isOctet

/-! ### Addresses of eight groups -/

/-- A group of up to four hexadecimal digits. -/
def isGroup (text : List Char) : Bool :=
  !text.isEmpty && text.length ≤ 4 && text.all fun c => (Text.hexValue? c).isSome

/-- The groups of an address, where the last two may be written as four octets. -/
def groupsOf? (text : List Char) : Option (List (List Char)) :=
  let parts := splitAt ':' text
  match parts.getLast? with
  | none => none
  | some final =>
    if parts.length < 3 then none
    else if final.contains '.' then
      if isFour final then some (parts.dropLast ++ [['0'], ['0']]) else none
    else some parts

/-- Whether groups are an address. An empty one stands for the zeros that are left out; one at
either end must stand beside it. -/
def areGroups (parts : List (List Char)) : Bool :=
  let inner := (parts.drop 1).dropLast
  match (inner.filter List.isEmpty).length with
  | 0 => parts.length = 8 && parts.all isGroup
  | 1 =>
    let before := parts.takeWhile (!·.isEmpty)
    let high := if (parts.head?.map List.isEmpty).getD true then [] else before
    let low := (parts.reverse.takeWhile (!·.isEmpty))
    let opens := !(parts.head?.map List.isEmpty).getD true || parts.take 2 = [[], []]
    let closes := !(parts.getLast?.map List.isEmpty).getD true || parts.reverse.take 2 = [[], []]
    parts.length ≤ 9 && opens && closes && high.length + low.length < 8 && high.all isGroup &&
      low.all isGroup
  | _ => false

/-- An address of eight groups, with the name of a zone after a percent sign. -/
def isEight (text : List Char) : Bool :=
  let address := text.takeWhile (· ≠ '%')
  let zone := text.drop address.length
  !text.contains '/' && zone ≠ ['%'] && !(zone.drop 1).contains '%' &&
    ((groupsOf? address).map areGroups).getD false

end Host

end Indicator.Web
