import SourceOutline.Graph.Snapshot
import SourceOutline.Text.Hex

set_option autoImplicit false

/-! # Graphs as JSON

A graph is written as a JSON object with its nodes and its edges. The text is pure ASCII: characters
beyond it are written by their UTF-16 units. It stands on one line, or one item a line with a
number of spaces for each level. -/

namespace SourceOutline

/-- JSON values, as far as graphs need them. -/
inductive Json where
  | null
  | number (n : Int)
  | text (s : String)
  | array (items : List Json)
  | object (fields : List (String × Json))

/-! ## Strings -/

/-- A UTF-16 unit as an escape sequence. -/
def escapeUnit (n : Nat) : List Char :=
  '\\' :: 'u' :: hexDigits 4 n

/-- A character inside a JSON string. -/
def escapeJson (c : Char) : List Char :=
  if c = '"' then ['\\', '"']
  else if c = '\\' then ['\\', '\\']
  else if c = '\n' then ['\\', 'n']
  else if c = '\r' then ['\\', 'r']
  else if c = '\t' then ['\\', 't']
  else if c = '\x08' then ['\\', 'b']
  else if c = '\x0c' then ['\\', 'f']
  else if ' ' ≤ c && c ≤ '~' then [c]
  else if c.toNat < 0x10000 then escapeUnit c.toNat
  else
    let n := c.toNat - 0x10000
    escapeUnit (0xD800 + n / 0x400) ++ escapeUnit (0xDC00 + n % 0x400)

/-- A JSON string with its quotes. -/
def jsonString (s : String) : List Char :=
  '"' :: s.toList.flatMap escapeJson ++ ['"']

/-! ## Layout -/

/-- Where a new item starts: on the same line, or on a line of its own that is indented by the
    given number of spaces a level. -/
abbrev JsonLayout := Option Nat

/-- The break in front of the first item at a level, and after the last one. -/
def JsonLayout.lineBreak (layout : JsonLayout) (level : Nat) : List Char :=
  match layout with
  | none => []
  | some width => '\n' :: List.replicate (width * level) ' '

/-- What stands between two items at a level. -/
def JsonLayout.separator (layout : JsonLayout) (level : Nat) : List Char :=
  match layout with
  | none => [',', ' ']
  | some _ => ',' :: layout.lineBreak level

mutual

/-- The text of a value that stands at the given level. -/
def Json.render (layout : JsonLayout) (level : Nat) : Json → List Char
  | .null => "null".toList
  | .number n => (toString n).toList
  | .text s => jsonString s
  | .array [] => ['[', ']']
  | .array (item :: rest) =>
    '[' :: layout.lineBreak (level + 1) ++ item.render layout (level + 1)
      ++ Json.renderItems layout (level + 1) rest ++ layout.lineBreak level ++ [']']
  | .object [] => ['\x7b', '\x7d']
  | .object (field :: rest) =>
    '\x7b' :: layout.lineBreak (level + 1) ++ Json.renderField layout (level + 1) field
      ++ Json.renderFields layout (level + 1) rest ++ layout.lineBreak level ++ ['\x7d']

/-- The items after the first one. -/
def Json.renderItems (layout : JsonLayout) (level : Nat) : List Json → List Char
  | [] => []
  | item :: rest =>
    layout.separator level ++ item.render layout level ++ Json.renderItems layout level rest

/-- A field of an object. -/
def Json.renderField (layout : JsonLayout) (level : Nat) : String × Json → List Char
  | (key, value) => jsonString key ++ [':', ' '] ++ value.render layout level

/-- The fields after the first one. -/
def Json.renderFields (layout : JsonLayout) (level : Nat) : List (String × Json) → List Char
  | [] => []
  | field :: rest =>
    layout.separator level ++ Json.renderField layout level field
      ++ Json.renderFields layout level rest

end

/-! ## Graphs -/

/-- A node as a JSON object; an end line or snippet that is not there is left out. -/
def Node.toJson (node : Node) : Json :=
  .object <|
    [("id", .text node.id), ("label", .text node.label), ("kind", .text node.kind),
     ("sourcePath", .text node.sourcePath), ("startLine", .number node.startLine),
     ("parentId", (node.parentId.map Json.text).getD .null)]
    ++ (node.endLine.map fun n => ("endLine", Json.number n)).toList
    ++ (node.snippet.map fun s => ("snippet", Json.text s)).toList

/-- An edge as a JSON object. -/
def Edge.toJson (edge : Edge) : Json :=
  .object [("source", .text edge.source), ("target", .text edge.target),
    ("relationship", .text edge.relation)]

/-- A snapshot as a JSON object. -/
def Snapshot.toJson (snapshot : Snapshot) : Json :=
  .object [("nodes", .array (snapshot.nodes.map Node.toJson)),
    ("edges", .array (snapshot.edges.map Edge.toJson))]

/-- The layout for an indentation width: none gives one line, and a width below zero counts as
    zero. -/
def JsonLayout.ofIndent (indent : Option Int) : JsonLayout :=
  indent.map Int.toNat

/-- The indentation width of an exported graph. -/
def exportIndent : Option Int := some 2

/-- The JSON text of a snapshot. -/
def Snapshot.renderJson (snapshot : Snapshot) (indent : Option Int) : String :=
  String.ofList (snapshot.toJson.render (JsonLayout.ofIndent indent) 0)

end SourceOutline
