import Indicator.Warehouse.Reply

/-!
# Texts in UTF-16

How octets are read that a header declares to be in UTF-16.

* `Charset.decode_utf16`: **the octets are read after their byte order mark.**
* `Body.textOf_utf16`: so is a body under such a header, and without a mark it is no text.
-/

namespace Indicator.Text.Charset

/-! ### The name of the set -/

section

variable {text mark : String} {start i : String.Pos.Raw} {parts : List String}

theorem splitOnAux_skip (hmore : i.atEnd text = false)
    (hother : (i.get text == (0 : String.Pos.Raw).get mark) = false) :
    text.splitOnAux mark start i 0 parts = text.splitOnAux mark start (i.next text) 0 parts := by
  rw [String.splitOnAux, if_neg (by simp [hmore]), if_neg (by simp [hother])]
  rfl

theorem splitOnAux_mark (hmore : i.atEnd text = false)
    (hmark : (i.get text == (0 : String.Pos.Raw).get mark) = true)
    (hwhole : ((0 : String.Pos.Raw).next mark).atEnd mark = true) :
    text.splitOnAux mark start i 0 parts =
      text.splitOnAux mark (i.next text) (i.next text) 0 (start.extract text
        ((i.next text).unoffsetBy ((0 : String.Pos.Raw).next mark)) :: parts) := by
  rw [String.splitOnAux, if_neg (by simp [hmore]), if_pos hmark]
  exact if_pos hwhole

theorem splitOnAux_end (hend : i.atEnd text = true) :
    text.splitOnAux mark start i 0 parts = (start.extract text i :: parts).reverse := by
  rw [String.splitOnAux, if_pos hend]

end

theorem normalName_utf16 : normalName "utf-16" = "utf_16" := by
  have hspaced : String.ofList ("utf-16".toList.map fun c =>
      if c.isAlphanum || c = '.' then c.toLower else ' ') = "utf 16" := by decide +kernel
  have hsplit : "utf 16".splitOn " " = ["utf", "16"] := by
    rw [String.splitOn, if_neg (by decide)]
    simp (disch := decide +kernel) only [splitOnAux_skip, splitOnAux_mark, splitOnAux_end]
    decide +kernel
  rw [normalName, hspaced, hsplit]
  decide +kernel

/-! ### Octets after a mark -/

/-- **Octets in UTF-16 are read after their mark**, if there are any. -/
theorem decode_utf16 {octets : List UInt8} (hsome : octets ≠ []) :
    decode "utf-16" octets = (readMarked16 octets).mapError .unmarked := by
  have hread : ((find? "utf-16").getD utf8).read octets =
      (readMarked16 octets).mapError .unmarked := by
    unfold find?
    rw [normalName_utf16]
    rfl
  unfold decode
  rw [hread, if_neg (by simpa using hsome)]
  rfl

end Indicator.Text.Charset

namespace Indicator.Warehouse

/-- The headers of a text in UTF-16. -/
def utf16Headers : Web.Headers := [("content-type", "text/plain; charset=UTF-16")]

/-- A body under these headers. -/
theorem Body.textOf_utf16 {octets : List UInt8} (hsome : octets ≠ []) :
    textOf utf16Headers octets = ((Text.Charset.readMarked16 octets).map String.ofList).mapError
      fun bits => .unreadable (.unmarked bits) := by
  have hname : charset utf16Headers = .ok "utf-16" := by rfl
  unfold textOf
  rw [if_neg (by simpa using hsome), hname]
  show ((Text.Charset.decode "utf-16" octets).mapError Fault.unreadable >>= fun read =>
    pure (String.ofList read)) = _
  rw [Text.Charset.decode_utf16 hsome]
  cases Text.Charset.readMarked16 octets with
  | ok read => rfl
  | error bits => rfl

end Indicator.Warehouse
