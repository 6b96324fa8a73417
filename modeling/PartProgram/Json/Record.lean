/-
  Records as JSON.

  A line becomes an object with its index, the tag of its kind and its raw text, and with the fields
  that belong to its kind: the comment of a comment; the number and, if there is one, the code of a
  numbered line; the parameters of numbered and control lines.
-/
import PartProgram.Json.Basic
import PartProgram.Program

namespace PartProgram

/-- A value, or null. -/
def Value.toJson : Option Value → Json
  | some (.integer n) => .integer n
  | some (.double d) => .double d
  | some (.text t) => .string t
  | none => .null

/-- A parameter: the tag of its kind, its identifier and its value. -/
def Param.toJson (p : Param) : Json :=
  .object [("type".toText, .string p.kind.tag.toText), ("identifier".toText, .string p.identifier),
    ("value".toText, Value.toJson p.value)]

/-- An integer, or null. -/
def Json.ofInt? : Option Int → Json
  | some n => .integer n
  | none => .null

/-- A text, or null. -/
def Json.ofText? : Option Text → Json
  | some t => .string t
  | none => .null

/-- A line, with the fields of its kind. -/
def Line.toJson (line : Line) : Json :=
  .object <|
    [("index".toText, .integer line.index), ("type".toText, .string line.kind.tag.toText),
      ("raw".toText, .string line.raw)] ++
    (if line.kind = .comment then [("comment".toText, Json.ofText? line.comment)] else []) ++
    (if line.kind.isCode then
      ("n".toText, Json.ofInt? line.n) ::
        (match line.code with
          | some code => [("code".toText, Json.integer code)]
          | none => [])
      else []) ++
    (if line.kind.isCode || line.kind.isControl then
      [("parameters".toText, .array (line.parameters.map Param.toJson))] else [])

/-- A program, as the array of its lines. -/
def Program.toJson (p : Program) : Json := .array (p.lines.map Line.toJson)

end PartProgram
