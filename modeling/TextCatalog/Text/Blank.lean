import TextCatalog.Text.Spans

/-!
# TextCatalog.Text.Blank

The `White_Space` property, and what is cut at blanks.

* `isBlank` — the property.
* `trim` — a text without the blanks at its ends.
* `words` — the maximal runs of characters that are not blank.
-/

namespace TextCatalog
namespace Text

def blankSpans : Spans := ⟨[
  (0x9, 0xd), (0x20, 0x20), (0x85, 0x85), (0xa0, 0xa0), (0x1680, 0x1680), (0x2000, 0x200a),
  (0x2028, 0x2029), (0x202f, 0x202f), (0x205f, 0x205f), (0x3000, 0x3000)], by decide +kernel⟩

def isBlank (c : Char) : Bool := blankSpans.covers c.toNat

def trimStart (s : List Char) : List Char := s.dropWhile isBlank

def trimEnd (s : List Char) : List Char := (s.reverse.dropWhile isBlank).reverse

def trim (s : List Char) : List Char := trimEnd (trimStart s)

def words : List Char → List (List Char)
  | [] => []
  | c :: cs =>
    if isBlank c then words cs
    else
      match cs with
      | [] => [[c]]
      | d :: _ =>
        if isBlank d then [c] :: words cs
        else
          match words cs with
          | [] => [[c]]
          | w :: ws => (c :: w) :: ws

theorem isBlank_space : isBlank ' ' = true := by decide

theorem isBlank_comma : isBlank ',' = false := by decide

end Text
end TextCatalog
