/-
# Menu.Text — the strings a menu entry is made of

`ui/widgets/menu.cpp` reads a `QAction`'s text as a `QString`, a sequence of UTF-16 code
units. `Menu::processAction` splits it at the first two tab characters (`QString::split`,
which keeps empty parts) into the entry's label and its shortcut hint, and `ParseMenuItem`
turns the label's ampersand accelerators into underline entities:

* `&&` is one literal ampersand;
* `&c` for any other unit `c` keeps `c` and underlines it (one unit, at its offset in the
  result);
* a trailing lone `&` is dropped.

This module is the faithful translation of those two functions; `Menu.Layout` uses them.
-/

namespace Kotatogram.Ui

set_option autoImplicit false

/-- A `QChar`: one UTF-16 code unit. -/
abbrev QChar := UInt16

/-- A `QString`: its UTF-16 code units, in order. -/
abbrev QString := List QChar

/-- The code unit of `'&'`. -/
def ampersand : QChar := 38

/-- The code unit of `'\t'`. -/
def tab : QChar := 9

/-- `QString::split(sep)` with its default `KeepEmptyParts`: the parts between separators,
so that a string with `k` separators has `k + 1` parts, and the empty string has one. -/
def split (sep : QChar) : QString → List QString
  | [] => [[]]
  | ch :: rest =>
      match split sep rest with
      | [] => [[ch]]
      | part :: parts => if ch = sep then [] :: part :: parts else (ch :: part) :: parts

/-- The kinds of `EntityInText` a menu label carries. -/
inductive EntityType where
  | underline
  deriving Repr, DecidableEq

/-- `EntityInText { type, offset, length }`. -/
structure EntityInText where
  type : EntityType
  offset : Int
  length : Int
  deriving Repr, DecidableEq

/-- `TextWithEntities`: a text and its entities, in the order they were appended. -/
structure TextWithEntities where
  text : QString := []
  entities : List EntityInText := []
  deriving Repr, DecidableEq

namespace TextWithEntities

/-- `result.text.append(ch)`. -/
def push (t : TextWithEntities) (ch : QChar) : TextWithEntities :=
  { t with text := t.text ++ [ch] }

/-- `result.entities.append(EntityInText{ Underline, result.text.size(), 1 })`. -/
def underlineNext (t : TextWithEntities) : TextWithEntities :=
  { t with entities := t.entities ++ [⟨.underline, t.text.length, 1⟩] }

@[simp] theorem push_text (t : TextWithEntities) (ch : QChar) :
    (t.push ch).text = t.text ++ [ch] := rfl

@[simp] theorem push_entities (t : TextWithEntities) (ch : QChar) :
    (t.push ch).entities = t.entities := rfl

@[simp] theorem underlineNext_text (t : TextWithEntities) : t.underlineNext.text = t.text := rfl

@[simp] theorem underlineNext_entities (t : TextWithEntities) :
    t.underlineNext.entities = t.entities ++ [⟨.underline, t.text.length, 1⟩] := rfl

end TextWithEntities

/-- The `for (const auto ch : text)` loop of `ParseMenuItem`, from the state
`(afterAmpersand, result)` it has reached before `rest`. -/
def parseMenuItemLoop : Bool → TextWithEntities → QString → TextWithEntities
  | _, result, [] => result
  | afterAmpersand, result, ch :: rest =>
      if afterAmpersand then
        if ch = ampersand then parseMenuItemLoop false (result.push ch) rest
        else parseMenuItemLoop false (result.underlineNext.push ch) rest
      else if ch = ampersand then parseMenuItemLoop true result rest
      else parseMenuItemLoop false (result.push ch) rest

/-- `ParseMenuItem(text)`. -/
def parseMenuItem (text : QString) : TextWithEntities :=
  parseMenuItemLoop false {} text

end Kotatogram.Ui
