/-
  The standard table, closed over itself.

  `Dialect.builders` lets the entries of a table call each other up to a depth of a thousand.  The
  entries of the standard dialect call at most four deep, so the bound is never met, and the table in
  use satisfies the equation that one expects of it: every entry is the standard function, given the
  table itself (`Builders.standard_eq`).

  1. **Which entries an entry consults** — the congruence lemmas: two tables that agree on the
     consulted entries give the same function.
  2. **Depth does not matter** — by these, level by level: the parameter builders consult nothing,
     `parameters` consults them, the line builders consult `parameters`, `classify` consults those.
-/
import PartProgram.Dialect.Standard

namespace PartProgram

/-! ## Which entries an entry consults -/

namespace Standard

variable {b b' : Builders}

theorem param_congr (hcode : b.codeParam = b'.codeParam) (hvalue : b.valueParam = b'.valueParam) :
    param b = param b' := by
  funext token
  unfold param
  rw [hcode, hvalue]

theorem parameters_congr (hcode : b.codeParam = b'.codeParam)
    (hvalue : b.valueParam = b'.valueParam) : parameters b = parameters b' := by
  funext tokens start stop
  rw [parameters, parameters, param_congr hcode hvalue]

theorem codeLine_congr (h : b.parameters = b'.parameters) : codeLine b = codeLine b' := by
  funext raw tokens index
  unfold codeLine
  rw [h]

theorem controlLine_congr (h : b.parameters = b'.parameters) : controlLine b = controlLine b' := by
  funext raw tokens index
  unfold controlLine
  rw [h]

theorem classify_congr (hblank : b.blank = b'.blank) (hcomment : b.comment = b'.comment)
    (hcode : b.codeLine = b'.codeLine) (hcontrol : b.controlLine = b'.controlLine)
    (htext : b.textLine = b'.textLine) : classify b = classify b' := by
  funext raw index
  unfold classify classifyTokens
  rw [hblank, hcomment, hcode, hcontrol, htext]

end Standard

/-! ## Depth does not matter -/

namespace Dialect

/-- The standard table over `b` depends on `b` only through `classify`, the two line builders with
    parameters, and `parameters`; the other entries consult nothing. -/
theorem standard_instantiate_congr {b b' : Builders}
    (hclassify : Standard.classify b = Standard.classify b')
    (hcode : Standard.codeLine b = Standard.codeLine b')
    (hcontrol : Standard.controlLine b = Standard.controlLine b')
    (hparameters : Standard.parameters b = Standard.parameters b') :
    standard.instantiate b = standard.instantiate b' := by
  unfold instantiate standard
  rw [Builders.mk.injEq]
  exact ⟨hclassify, rfl, rfl, hcode, hcontrol, rfl, hparameters, rfl, rfl⟩

theorem standard_parameters_depth (m n : Nat) :
    Standard.parameters (standard.buildersTo (m + 1)) =
      Standard.parameters (standard.buildersTo (n + 1)) :=
  Standard.parameters_congr rfl rfl

theorem standard_codeLine_depth (m n : Nat) :
    Standard.codeLine (standard.buildersTo (m + 2)) =
      Standard.codeLine (standard.buildersTo (n + 2)) :=
  Standard.codeLine_congr (standard_parameters_depth m n)

theorem standard_controlLine_depth (m n : Nat) :
    Standard.controlLine (standard.buildersTo (m + 2)) =
      Standard.controlLine (standard.buildersTo (n + 2)) :=
  Standard.controlLine_congr (standard_parameters_depth m n)

theorem standard_classify_depth (m n : Nat) :
    Standard.classify (standard.buildersTo (m + 3)) =
      Standard.classify (standard.buildersTo (n + 3)) :=
  Standard.classify_congr rfl rfl (standard_codeLine_depth m n) (standard_controlLine_depth m n) rfl

/-- From a depth of four on, the standard table is the same at every depth. -/
theorem standard_buildersTo_depth (m n : Nat) :
    standard.buildersTo (m + 4) = standard.buildersTo (n + 4) :=
  standard_instantiate_congr (standard_classify_depth m n) (standard_codeLine_depth (m + 1) (n + 1))
    (standard_controlLine_depth (m + 1) (n + 1)) (standard_parameters_depth (m + 2) (n + 2))

end Dialect

/-! ## The table in use -/

/-- The standard table, in use. -/
abbrev Builders.standard : Builders := Dialect.standard.builders

namespace Builders

/-- **The standard table is closed**: its entries are the standard ones, given the table itself. -/
theorem standard_eq : standard = Dialect.standard.instantiate standard :=
  Dialect.standard_buildersTo_depth 996 997

theorem standard_classify : standard.classify = Standard.classify standard :=
  congrArg Builders.classify standard_eq

theorem standard_codeLine : standard.codeLine = Standard.codeLine standard :=
  congrArg Builders.codeLine standard_eq

theorem standard_controlLine : standard.controlLine = Standard.controlLine standard :=
  congrArg Builders.controlLine standard_eq

theorem standard_parameters : standard.parameters = Standard.parameters standard :=
  congrArg Builders.parameters standard_eq

theorem standard_codeParam : standard.codeParam = Standard.codeParam standard :=
  congrArg Builders.codeParam standard_eq

theorem standard_valueParam : standard.valueParam = Standard.valueParam standard :=
  congrArg Builders.valueParam standard_eq

theorem standard_blank : standard.blank = Standard.blank standard :=
  congrArg Builders.blank standard_eq

theorem standard_comment : standard.comment = Standard.comment standard :=
  congrArg Builders.comment standard_eq

theorem standard_textLine : standard.textLine = Standard.textLine standard :=
  congrArg Builders.textLine standard_eq

end Builders

end PartProgram
