/-! The developer's view of a value: the name of its kind with the parts behind it, on one line
or spread over several. A record may keep parts to itself; two dots stand for those. -/
namespace Wallpaper.Text

inductive Outline where
  | plain (text : String)
  /-- A named value with parts in parentheses. -/
  | tuple (name : String) (parts : List Outline)
  | list (items : List Outline)
  /-- A named value with named parts; not all of them are shown unless it is complete. -/
  | record (name : String) (fields : List (String × Outline)) (complete : Bool)

namespace Outline

def ofNat (n : Nat) : Outline := plain (toString n)

def ofBool (b : Bool) : Outline := plain (toString b)

/- A field is a name and a value, so both forms below recurse through lists of outlines and
through lists of fields. -/
mutual

def inline : Outline → String
  | plain text => text
  | tuple name parts => name ++ "(" ++ ", ".intercalate (inlineItems parts) ++ ")"
  | list items => "[" ++ ", ".intercalate (inlineItems items) ++ "]"
  | record name fields complete =>
    let shown := inlineFields fields ++ if complete then [] else [".."]
    name ++ " \x7b " ++ ", ".intercalate shown ++ " \x7d"

def inlineItems : List Outline → List String
  | [] => []
  | item :: rest => item.inline :: inlineItems rest

def inlineFields : List (String × Outline) → List String
  | [] => []
  | (name, value) :: rest => (name ++ ": " ++ value.inline) :: inlineFields rest

end

/-- Puts each part on a line of its own, between the opening and the closing text, one step
deeper than the given indentation. -/
def block (indent opening : String) (lines : List String) (closing : String) : String :=
  opening ++ "\n" ++ String.join (lines.map (indent ++ "    " ++ · ++ "\n")) ++ indent ++ closing

mutual

/-- Each part on a line of its own; a part within a part is indented further. -/
def expanded (indent : String) : Outline → String
  | plain text => text
  | tuple name parts => block indent (name ++ "(") (expandedItems (indent ++ "    ") parts) ")"
  | list [] => "[]"
  | list items => block indent "[" (expandedItems (indent ++ "    ") items) "]"
  | record name fields complete =>
    block indent (name ++ " \x7b")
      (expandedFields (indent ++ "    ") fields ++ if complete then [] else [".."]) "\x7d"

def expandedItems (indent : String) : List Outline → List String
  | [] => []
  | item :: rest => (item.expanded indent ++ ",") :: expandedItems indent rest

def expandedFields (indent : String) : List (String × Outline) → List String
  | [] => []
  | (name, value) :: rest =>
    (name ++ ": " ++ value.expanded indent ++ ",") :: expandedFields indent rest

end

end Outline

end Wallpaper.Text
