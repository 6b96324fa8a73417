/-
  The texts in a record are excerpts of its line.

  1. **Program** — of a line a reader keeps the comment, the identifiers of the parameters and the values
     that are no numbers (`line.excerpts`).

  2. **Result (`infix_of_parse`)** — each of these stands in the line as it is, from its first character to
     its last: a comment is the end of its line, tokens are cut out of it, and a token is cut at its equals
     sign.  So a record has no text in it that its line has not, and no two characters stand side by side in
     it that do not do so in the line.
-/
import PartProgram.Proofs.Dialect.Parameters
import PartProgram.Proofs.LineGrammar
import PartProgram.Proofs.Reading

namespace PartProgram

/-- The texts in a parameter. -/
def Param.excerpts (p : Param) : List Text := p.identifier :: p.textValue.toList

/-- The texts in a record, but for the line itself. -/
def Line.excerpts (line : Line) : List Text :=
  line.comment.toList ++ line.parameters.flatMap Param.excerpts

/-- A value that is shown as a text is one of the texts. -/
theorem Param.mem_excerpts_of_value {p : Param} {t : Text} (h : p.value = some (.text t)) :
    t ∈ p.excerpts := by
  unfold Param.value at h
  split at h
  · obtain ⟨_, _, heq⟩ := Option.map_eq_some_iff.mp h
    exact nomatch heq
  · obtain ⟨t', ht', heq⟩ := Option.map_eq_some_iff.mp h
    obtain rfl := Value.text.inj heq
    exact List.mem_cons_of_mem _ (Option.mem_toList.mpr ht')
  · obtain ⟨_, _, heq⟩ := Option.map_eq_some_iff.mp h
    exact nomatch heq

theorem Text.Spaced.infix_of_mem {t : Text} {ws : List Text} (h : Spaced t ws) :
    ∀ w ∈ ws, w <:+: t := by
  induction h with
  | blanks _ => exact fun w hw => absurd hw List.not_mem_nil
  | @word gap w rest ws _ _ _ _ ih =>
    intro w' hw'
    rcases List.mem_cons.mp hw' with rfl | hw'
    · exact (List.prefix_append _ rest).isInfix.trans (List.suffix_append gap _).isInfix
    · exact (ih w' hw').trans ((List.suffix_append w rest).trans (List.suffix_append gap _)).isInfix

theorem ParamGrammar.infix_of_mem {token : Text} {p : Param} (h : ParamGrammar token p) :
    ∀ s ∈ p.excerpts, s <:+: token := by
  intro s hs
  cases h with
  | integer _ _ | double _ _ =>
    obtain rfl := List.mem_singleton.mp hs
    exact (List.prefix_append _ _).isInfix
  | text _ _ _ =>
    rcases List.mem_cons.mp hs with rfl | hs
    · exact (List.prefix_append _ _).isInfix
    · obtain rfl := List.mem_singleton.mp hs
      exact ((List.suffix_cons _ _).trans (List.suffix_append _ _)).isInfix
  | code _ _ _ | bareCode _ _ _ | unknown _ _ =>
    obtain rfl := List.mem_singleton.mp hs
    exact List.infix_refl _

theorem Grammar.infix_of_mem {raw : Text} {form : Form} {tokens : List Text}
    (h : Grammar raw form tokens) : ∀ token ∈ tokens, token <:+: raw := by
  intro token hmem
  cases h with
  | blank _ | comment _ _ | text _ _ => exact absurd hmem List.not_mem_nil
  | gCode h _ _ | mCode h _ _ =>
    exact h.infix_of_mem token (List.mem_cons_of_mem _ (List.mem_cons_of_mem _ hmem))
  | otherCode h _ _ | control h => exact h.infix_of_mem token (List.mem_cons_of_mem _ hmem)

/-- **The texts in a record stand in its line.** -/
theorem infix_of_build {strict : Bool} {raw : Text} {index : Int} {line : Line}
    (h : ((Reader.mk .standard strict).build raw index).result = .ok line) :
    line.raw = raw ∧ ∀ s ∈ line.excerpts, s <:+: raw := by
  rcases exists_form_of_build h with ⟨form, tokens, ps, hform, hps, rfl⟩ | ⟨_, rfl⟩
  · have hparams : ∀ s ∈ ps.flatMap Param.excerpts, s <:+: raw := by
      intro s hs
      obtain ⟨p, hp, hs⟩ := List.mem_flatMap.mp hs
      obtain ⟨token, hmem, htoken⟩ := Attempt.exists_of_mem_result_mapM hps hp
      exact ((Standard.param_eq_ok_iff.mp htoken).infix_of_mem s hs).trans
        (hform.infix_of_mem token hmem)
    refine ⟨by cases form <;> rfl, ?_⟩
    cases hform with
    | blank _ | text _ _ => exact fun s hs => absurd hs List.not_mem_nil
    | @comment gap rest _ heq =>
      intro s hs
      obtain rfl := List.mem_singleton.mp hs
      exact heq ▸ (List.suffix_append gap _).isInfix
    | gCode _ _ _ | mCode _ _ _ | otherCode _ _ _ | control _ => exact hparams
  · exact ⟨rfl, fun s hs => absurd hs List.not_mem_nil⟩

section

variable {strict : Bool} {source : Source} {p : Program}

theorem raw_mem_of_parse (h : ((Reader.mk .standard strict).parse source).result = .ok p) :
    ∀ line ∈ p.lines, line.raw ∈ source.rawLines := by
  intro line hmem
  obtain ⟨_, raw, hraw, hline⟩ :=
    Reader.exists_build_of_mem (Reader.result_parse_eq_ok_iff.mp h).1 hmem
  rw [(infix_of_build hline).1]
  exact List.mem_of_getElem? hraw

theorem infix_of_parse (h : ((Reader.mk .standard strict).parse source).result = .ok p) :
    ∀ line ∈ p.lines, ∀ s ∈ line.excerpts, s <:+: line.raw := by
  intro line hmem
  obtain ⟨_, _, _, hline⟩ :=
    Reader.exists_build_of_mem (Reader.result_parse_eq_ok_iff.mp h).1 hmem
  obtain ⟨heq, hpart⟩ := infix_of_build hline
  rwa [heq]

end

end PartProgram
