import CountedBox.Containers
import CountedBox.Text.Escaped
import CountedBox.Text.Utf8

namespace CountedBox

/-- The digits of a number in base two, as many as asked for. -/
def binaryDigits : Nat → Nat → List Char
  | 0, _ => []
  | count + 1, n => binaryDigits count (n / 2) ++ [if n % 2 = 1 then '1' else '0']

/-- Items between brackets, separated by a comma and a space. -/
def bracketed (opening closing : String) (items : List String) : String :=
  opening ++ ", ".intercalate items ++ closing

namespace Value

/-- The written form of a value, with `render` for its elements. -/
def renderBy (render : Ref → Except Stop String) : Value → Except Stop String
  | null => .ok "null"
  | bool b => .ok (if b then "true" else "false")
  | byte b => .ok (String.ofList (binaryDigits 8 b.toNat) ++ "b")
  | char c => .ok ("'" ++ String.ofList (Text.escapeChar c) ++ "'")
  | int i => .ok (toString i)
  | string bytes => .ok ("\"" ++ Text.escape (Text.lossy bytes) ++ "\"")
  | list items => return bracketed "[" "]" (← items.mapM render)
  | set items => return bracketed "\x7b" "\x7d" (← items.mapM render)
  | tuple items => return bracketed "(" ")" (← items.mapM render)
  | record fields =>
    return bracketed "\x7b" "\x7d" (← fields.toList.mapM fun field => do
      return field.1 ++ ": " ++ (← render field.2))

end Value

namespace Heap

/-- The written form of a box, followed at most `bound` levels down. -/
def renderWithin (h : Heap) : Nat → Ref → Except Stop String
  | 0, _ => breakOff .tooDeep
  | bound + 1, r => do (← h.view r).renderBy (h.renderWithin bound)

/-- The written form of a box; texts are quoted. -/
def render (h : Heap) (r : Ref) : Except Stop String := h.renderWithin h.depth r

/-- The written form of a box by itself: a text stands as it is. -/
def renderTop (h : Heap) (r : Ref) : Except Stop String := do
  match ← h.view r with
  | .string bytes => return Text.lossy bytes
  | v => v.renderBy (h.renderWithin h.boxes.size)

end Heap

end CountedBox
