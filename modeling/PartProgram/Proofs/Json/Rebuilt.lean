/-
  Records back from JSON.

  1. **Program** — `Line.toJson` writes the fields that belong to the kind of a line and leaves out
     all others; of a parameter it writes one value, the one that counts for its kind.

  2. **Second side** — `Line.ofJson?` reads a record off the members of an object, each by its key.
     The kind is found by its tag; a member that is not there is an absent field; the value of a
     parameter goes into the field of its own type.  The raw text is copied and never looked into.

  3. **What is kept** — `line.shown` is the record with nothing but what `toJson` writes of it.  Reading
     back gives exactly that, for EVERY record (`Line.ofJson?_toJson`).  So a record survives exactly
     if it holds nothing else, which is not true of arbitrary records.
-/
import PartProgram.Json.Record

namespace PartProgram

/-! ## Reading JSON -/

namespace Json

/-- The member of an object with the given key. -/
def member? (key : String) : Json → Option Json
  | object members => members.lookup key.toText
  | _ => none

/-- The integer that a value is. -/
def integer? : Json → Option Int
  | integer n => some n
  | _ => none

/-- The double that a value is. -/
def double? : Json → Option Double
  | double d => some d
  | _ => none

/-- The text that a value is. -/
def text? : Json → Option Text
  | string t => some t
  | _ => none

/-- The items that a value has. -/
def items? : Json → Option (List Json)
  | array items => some items
  | _ => none

end Json

/-- The parameter of an object. -/
def Param.ofJson? (j : Json) : Option Param := do
  let tag ← (j.member? "type").bind Json.text?
  let kind ← (ParamKind.ofTag tag).toOption
  let identifier ← (j.member? "identifier").bind Json.text?
  let value ← j.member? "value"
  return { kind, identifier, intValue := value.integer?, doubleValue := value.double?,
           textValue := value.text? }

/-- The line of an object. -/
def Line.ofJson? (j : Json) : Option Line := do
  let index ← (j.member? "index").bind Json.integer?
  let tag ← (j.member? "type").bind Json.text?
  let kind ← (LineKind.ofTag tag).toOption
  let raw ← (j.member? "raw").bind Json.text?
  let parameters ← (((j.member? "parameters").bind Json.items?).getD []).mapM Param.ofJson?
  return { index, kind, raw, n := (j.member? "n").bind Json.integer?,
           code := (j.member? "code").bind Json.integer?, parameters,
           comment := (j.member? "comment").bind Json.text? }

/-! ## What is kept of a record -/

/-- The parameter with no value but the one that counts for its kind. -/
def Param.shown (p : Param) : Param :=
  match p.kind with
  | .double => { kind := p.kind, identifier := p.identifier, doubleValue := p.doubleValue }
  | .text => { kind := p.kind, identifier := p.identifier, textValue := p.textValue }
  | _ => { kind := p.kind, identifier := p.identifier, intValue := p.intValue }

/-- The line with no fields but those that belong to its kind. -/
def Line.shown (line : Line) : Line :=
  { line with
    n := if line.kind.isCode then line.n else none
    code := if line.kind.isCode then line.code else none
    parameters :=
      if line.kind.isCode || line.kind.isControl then line.parameters.map Param.shown else []
    comment := if line.kind = .comment then line.comment else none }

/-! ## Parameters -/

theorem ParamKind.ofTag_tag (kind : ParamKind) : ofTag kind.tag.toText = .ok kind := by
  cases kind <;> rfl

/-- **A parameter is read back** as far as it is written. -/
theorem Param.ofJson?_toJson (p : Param) : Param.ofJson? p.toJson = some p.shown := by
  have hkind : (ParamKind.ofTag p.kind.tag.toText).toOption = some p.kind := by
    rw [ParamKind.ofTag_tag]
    rfl
  show ((ParamKind.ofTag p.kind.tag.toText).toOption >>= fun kind =>
    some { kind, identifier := p.identifier, intValue := (Value.toJson p.value).integer?,
           doubleValue := (Value.toJson p.value).double?,
           textValue := (Value.toJson p.value).text? }) = some p.shown
  rw [hkind]
  obtain ⟨kind, identifier, intValue, doubleValue, textValue⟩ := p
  cases kind with
  | double => cases doubleValue <;> rfl
  | text => cases textValue <;> rfl
  | code => cases intValue <;> rfl
  | integer => cases intValue <;> rfl
  | unknown => cases intValue <;> rfl

theorem mapM_ofJson?_toJson (ps : List Param) :
    (ps.map Param.toJson).mapM Param.ofJson? = some (ps.map Param.shown) := by
  induction ps with
  | nil => rfl
  | cons p ps ih =>
    rw [List.map_cons, List.mapM_cons, Param.ofJson?_toJson, ih]
    rfl

/-! ## Lines -/

theorem LineKind.ofTag_tag (kind : LineKind) : ofTag kind.tag.toText = .ok kind := by
  cases kind <;> rfl

namespace Line

variable (line : Line)

/-! Each field that is not always written is read back by itself: it depends on the kind whether its
key is there. -/

theorem n_toJson : (line.toJson.member? "n").bind Json.integer? = line.shown.n := by
  obtain ⟨index, kind, raw, n, code, parameters, comment⟩ := line
  cases kind <;> cases n <;> rfl

theorem code_toJson : (line.toJson.member? "code").bind Json.integer? = line.shown.code := by
  obtain ⟨index, kind, raw, n, code, parameters, comment⟩ := line
  cases kind <;> cases code <;> rfl

theorem comment_toJson : (line.toJson.member? "comment").bind Json.text? = line.shown.comment := by
  obtain ⟨index, kind, raw, n, code, parameters, comment⟩ := line
  cases kind <;> cases code <;> cases comment <;> rfl

theorem parameters_toJson :
    (((line.toJson.member? "parameters").bind Json.items?).getD []).mapM Param.ofJson? =
      some line.shown.parameters := by
  have hitems : ((line.toJson.member? "parameters").bind Json.items?).getD [] =
      if line.kind.isCode || line.kind.isControl then line.parameters.map Param.toJson else [] := by
    obtain ⟨index, kind, raw, n, code, parameters, comment⟩ := line
    cases kind <;> cases code <;> rfl
  rw [hitems, Line.shown]
  by_cases hkind : (line.kind.isCode || line.kind.isControl) = true
  · rw [if_pos hkind, if_pos hkind]
    exact mapM_ofJson?_toJson line.parameters
  · rw [if_neg hkind, if_neg hkind]
    rfl

/-- **A line is read back** as far as it is written. -/
theorem ofJson?_toJson : Line.ofJson? line.toJson = some line.shown := by
  unfold Line.ofJson?
  rw [parameters_toJson, n_toJson, code_toJson, comment_toJson]
  show ((LineKind.ofTag line.kind.tag.toText).toOption >>= fun kind => _) = _
  rw [LineKind.ofTag_tag]
  rfl

end Line

/-- Not every record is read back: a blank line has no place for a number. -/
example : Line.ofJson? (Line.toJson { index := 0, kind := .blank, n := some 1 }) =
    some { index := 0, kind := .blank } := rfl

end PartProgram
