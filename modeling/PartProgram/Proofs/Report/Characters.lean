/-
  The characters of a report.

  1. **Program** — `Report.of` shows a program as rows, as JSON or as counts.

  2. **Specification** — `Text.Ascii t`: printable ASCII and line feeds.

  3. **JSON and counts are ASCII (`Json.ascii_renderAt`, `Program.ascii_summary`)** — whatever stands in the
     program: what is not ASCII is escaped in JSON, and counts have only names and numbers in them.

  4. **Rows (`Line.forall_mem_row`)** — a row shows the comment, the line itself or the parameters as they
     are.  So it has the characters of the line, and of its own only ASCII.

  5. So whoever can show ASCII and the characters of a text can show every report on it
     (`Program.forall_mem_pieces`).
-/
import PartProgram.Proofs.Excerpts
import PartProgram.Proofs.Json.Grammar
import PartProgram.Proofs.Report.Whole
import PartProgram.Proofs.Text.Columns

namespace PartProgram

/-- A printable character of ASCII, or a line feed. -/
def CodePoint.IsAscii (c : CodePoint) : Prop := c = '\n' ∨ 0x20 ≤ c.toNat ∧ c.toNat ≤ 0x7e

instance (c : CodePoint) : Decidable c.IsAscii := instDecidableOr

namespace Text

/-- Printable ASCII and line feeds. -/
def Ascii (t : Text) : Prop := ∀ c ∈ t, c.IsAscii

instance (t : Text) : Decidable (Ascii t) := List.decidableBAll _ t

theorem Ascii.append {t t' : Text} (h : Ascii t) (h' : Ascii t') : Ascii (t ++ t') :=
  List.forall_mem_append.mpr ⟨h, h'⟩

theorem Ascii.cons {c : CodePoint} {t : Text} (hc : c.IsAscii) (h : Ascii t) : Ascii (c :: t) :=
  List.forall_mem_cons.mpr ⟨hc, h⟩

theorem ascii_replicate {c : CodePoint} (hc : c.IsAscii) (n : Nat) : Ascii (List.replicate n c) := by
  intro d hd
  obtain rfl := List.eq_of_mem_replicate hd
  exact hc

theorem ascii_of_isDigit {t : Text} (h : ∀ c ∈ t, Numeral.IsDigit c) : Ascii t := by
  intro c hc
  obtain ⟨hlow, hhigh⟩ := h c hc
  exact Or.inr ⟨Nat.le_trans (by decide) hlow, Nat.le_trans hhigh (by decide)⟩

theorem ascii_ofNat (n : Nat) : Ascii (ofNat n) :=
  ascii_of_isDigit fun _ => Numeral.isDigit_of_mem_ofNat

theorem ascii_ofInt (v : Int) : Ascii (ofInt v) := by
  cases v with
  | ofNat n => exact ascii_ofNat n
  | negSucc n => exact .cons (by decide) (ascii_ofNat _)

end Text

open Text (Ascii ascii_replicate ascii_ofNat ascii_ofInt)

/-! ## Doubles -/

theorem Double.ascii_plain {digits : Text} (h : Ascii digits) (power : Int) :
    Ascii (plain digits power) := by
  have hzeros : ∀ n, Ascii (List.replicate n ('0' : CodePoint)) := ascii_replicate (by decide)
  unfold plain
  dsimp only
  split
  · exact (h.append (hzeros _)).append (by decide)
  · have hpadded := (hzeros ((-power).toNat + 1 - digits.length)).append h
    exact Ascii.append (fun c hc => hpadded c (List.mem_of_mem_take hc))
      (.cons (by decide) fun c hc => hpadded c (List.mem_of_mem_drop hc))

theorem Double.ascii_scientific {digits : Text} (h : Ascii digits) (width : Nat) (order : Int) :
    Ascii (scientific width digits order) := by
  have hfraction : Ascii (if digits.length ≤ 1 then [] else '.' :: digits.drop 1) := by
    split
    · exact List.forall_mem_nil _
    · exact .cons (by decide) fun c hc => h c (List.mem_of_mem_drop hc)
  have hsign : CodePoint.IsAscii (if order < 0 then '-' else '+') := by split <;> decide
  unfold scientific
  dsimp only
  refine Ascii.append (Ascii.append (fun c hc => h c (List.mem_of_mem_take hc)) hfraction) ?_
  exact .cons (by decide) (.cons hsign ((ascii_replicate (by decide) _).append (ascii_ofNat _)))

/-- A double is written in ASCII, if infinity is. -/
theorem Double.ascii_render {style : Style} (hinfinity : Ascii style.infinity) (d : Double) :
    Ascii (d.render style) := by
  have hsign : ∀ {negative : Bool} {t : Text}, Ascii t → Ascii (if negative then '-' :: t else t) := by
    intro negative t ht
    split
    · exact .cons (by decide) ht
    · exact ht
  cases d with
  | infinite negative => exact hsign hinfinity
  | finite negative mantissa exponent =>
    unfold render
    dsimp only
    generalize (if mantissa = 0 then (0, 0) else shortest mantissa exponent) = decimal
    refine hsign ?_
    split
    · exact ascii_plain (ascii_ofNat _) _
    · exact ascii_scientific (ascii_ofNat _) _ _

/-! ## JSON -/

namespace Json

theorem ascii_escapedUnit {n : Nat} (h : n < 0x10000) : Ascii (escapedUnit n) := by
  have hdigit : ∀ m < 16, Ascii [.char (Nat.digitChar m)] := by decide
  have hlast : ∀ m : Nat, m % 16 < 16 := fun m => Nat.mod_lt m (by decide)
  have hmark : Ascii ['\\', 'u'] := by decide
  rw [escapedUnit, Text.ofNatHex_four h]
  exact hmark.append ((hdigit _ (by omega)).append ((hdigit _ (hlast _)).append
    ((hdigit _ (hlast _)).append (hdigit _ (hlast _)))))

theorem ascii_escapedChar (c : CodePoint) : Ascii (escapedChar c) := by
  have hbound := c.toNat_lt
  unfold escapedChar
  split
  · next h => rcases h with rfl | rfl <;> decide
  iterate 5
    split
    · decide
  split
  · next h =>
    intro d hd
    obtain rfl := List.mem_singleton.mp hd
    exact Or.inr h
  split
  · next h => exact ascii_escapedUnit h
  · exact (ascii_escapedUnit (by omega)).append (ascii_escapedUnit (by omega))

theorem ascii_renderString (t : Text) : Ascii (renderString t) := by
  have hchars : Ascii (t.flatMap escapedChar) := by
    intro c hc
    obtain ⟨d, _, hd⟩ := List.mem_flatMap.mp hc
    exact ascii_escapedChar d c hd
  exact .cons (by decide) (hchars.append (by decide))

theorem ascii_newLine (level : Nat) : Ascii (newLine level) :=
  .cons (by decide) (ascii_replicate (by decide) _)

theorem ascii_renderItems {items : List Json} (h : ∀ j ∈ items, ∀ level, Ascii (j.renderAt level))
    (level : Nat) : Ascii (renderItems level items) := by
  induction items with
  | nil => rw [renderItems]; exact List.forall_mem_nil _
  | cons item items ih =>
    obtain ⟨hitem, hitems⟩ := List.forall_mem_cons.mp h
    rw [renderItems]
    exact (Ascii.cons (by decide) (ascii_newLine _)).append (hitem _) |>.append (ih hitems)

theorem ascii_renderMembers {members : List (Text × Json)}
    (h : ∀ member ∈ members, ∀ level, Ascii (member.2.renderAt level)) (level : Nat) :
    Ascii (renderMembers level members) := by
  induction members with
  | nil => rw [renderMembers]; exact List.forall_mem_nil _
  | cons member members ih =>
    obtain ⟨key, value⟩ := member
    obtain ⟨hvalue, hmembers⟩ := List.forall_mem_cons.mp h
    have hcolon : Ascii ": ".toText := by decide
    rw [renderMembers]
    exact (((Ascii.cons (by decide) (ascii_newLine _)).append (ascii_renderString key)).append
      hcolon).append (hvalue _) |>.append (ih hmembers)

/-- **JSON is ASCII**, whatever is in the value. -/
theorem ascii_renderAt (j : Json) : ∀ level, Ascii (j.renderAt level) := by
  induction j using inductionOn with
  | hnull => exact fun _ => by rw [renderAt]; decide
  | hinteger n => exact fun _ => by rw [renderAt]; exact ascii_ofInt n
  | hdouble d => exact fun _ => by rw [renderAt]; exact d.ascii_render (by decide)
  | hstring t => exact fun _ => by rw [renderAt]; exact ascii_renderString t
  | harray items ih =>
    intro level
    cases items with
    | nil => rw [renderAt]; decide
    | cons first items =>
      obtain ⟨hfirst, hitems⟩ := List.forall_mem_cons.mp ih
      rw [renderAt]
      exact (((Ascii.cons (by decide) (ascii_newLine _)).append (hfirst _)).append
        (ascii_renderItems hitems level)).append (ascii_newLine _) |>.append (by decide)
  | hobject members ih =>
    intro level
    cases members with
    | nil => rw [renderAt]; decide
    | cons member members =>
      obtain ⟨key, first⟩ := member
      obtain ⟨hfirst, hmembers⟩ := List.forall_mem_cons.mp ih
      have hcolon : Ascii ": ".toText := by decide
      rw [renderAt]
      exact (((((Ascii.cons (by decide) (ascii_newLine _)).append (ascii_renderString key)).append
        hcolon).append (hfirst _)).append (ascii_renderMembers hmembers level)).append
        (ascii_newLine _) |>.append (by decide)

end Json

/-! ## Counts -/

section

variable {P : CodePoint → Prop}

theorem Text.forall_mem_joined {separator : CodePoint} {parts : List Text} (hseparator : P separator)
    (h : ∀ part ∈ parts, ∀ c ∈ part, P c) : ∀ c ∈ joined [separator] parts, P c := by
  induction parts with
  | nil => exact List.forall_mem_nil _
  | cons part parts ih =>
    obtain ⟨hpart, hparts⟩ := List.forall_mem_cons.mp h
    cases parts with
    | nil => rwa [joined_singleton]
    | cons part' parts =>
      rw [joined_cons_cons, List.forall_mem_append, List.forall_mem_cons]
      exact ⟨hpart, hseparator, ih hparts⟩

end

theorem Text.ascii_padRight {t : Text} (h : Ascii t) (width : Nat) : Ascii (padRight width t) :=
  h.append (ascii_replicate (by decide) _)

theorem Text.ascii_padLeft {t : Text} (h : Ascii t) (width : Nat) : Ascii (padLeft width t) :=
  Ascii.append (ascii_replicate (by decide) _) h

theorem LineKind.ascii_name (kind : LineKind) : Ascii kind.name.toText := by
  cases kind <;> decide

theorem Program.ascii_countRow {label : String} (h : Ascii label.toText) (count : Nat) :
    Ascii (countRow label count) :=
  (Text.ascii_padRight h kindWidth).append (.cons (by decide) (ascii_ofNat count))

theorem Program.ascii_summary (p : Program) : Ascii p.summary := by
  refine Text.forall_mem_joined (by decide) fun row hrow => ?_
  rcases List.mem_append.mp hrow with hrow | hrow
  · obtain ⟨⟨kind, count⟩, _, rfl⟩ := List.mem_map.mp hrow
    exact ascii_countRow kind.ascii_name count
  · obtain rfl := List.mem_singleton.mp hrow
    exact ascii_countRow (by decide) p.size

/-! ## Rows -/

section

variable {P : CodePoint → Prop} (hascii : ∀ c : CodePoint, c.IsAscii → P c)

include hascii

theorem Value.forall_mem_written {value : Value} (h : ∀ t, value = .text t → ∀ c ∈ t, P c) :
    ∀ c ∈ value.written, P c := by
  cases value with
  | integer n => exact fun c hc => hascii c (ascii_ofInt n c hc)
  | double d => exact fun c hc => hascii c (d.ascii_render (by decide) c hc)
  | text t => exact h t rfl

theorem Param.forall_mem_written {p : Param} (h : ∀ s ∈ p.excerpts, ∀ c ∈ s, P c) :
    ∀ c ∈ p.written, P c := by
  have hidentifier := h p.identifier List.mem_cons_self
  have hvalue : ∀ c ∈ p.value.elim absent Value.written, P c := by
    cases hvalue : p.value with
    | none => exact fun c hc => hascii c ((by decide : Ascii absent) c hc)
    | some value =>
      refine Value.forall_mem_written hascii fun t ht => h t (mem_excerpts_of_value ?_)
      rw [hvalue, ht]
  have hwhole : ∀ c ∈ p.identifier ++ ('=' : CodePoint) :: p.value.elim absent Value.written, P c :=
    List.forall_mem_append.mpr ⟨hidentifier, List.forall_mem_cons.mpr ⟨hascii _ (by decide), hvalue⟩⟩
  unfold Param.written
  split
  · exact hidentifier
  · exact hidentifier
  · exact hwhole

/-- **The row of a record** has the characters of its texts, and ASCII. -/
theorem Line.forall_mem_row {line : Line} (hraw : ∀ c ∈ line.raw, P c)
    (h : ∀ s ∈ line.excerpts, ∀ c ∈ s, P c) : ∀ c ∈ line.row, P c := by
  have hof : ∀ {t : Text}, Ascii t → ∀ c ∈ t, P c := fun ht c hc => hascii c (ht c hc)
  have hcut : ∀ {t : Text}, (∀ c ∈ t, P c) → ∀ c ∈ t.trimRight, P c := by
    intro t ht c hc
    obtain ⟨gap, _, heq⟩ := Text.exists_trimRight_append t
    exact ht c (heq ▸ List.mem_append_left gap hc)
  have hspace : ∀ {t : Text}, (∀ c ∈ t, P c) → ∀ c ∈ (' ' : CodePoint) :: t, P c :=
    fun ht => List.forall_mem_cons.mpr ⟨hascii _ (by decide), ht⟩
  obtain ⟨hcomment, hparams⟩ := List.forall_mem_append.mp h
  have hhead : ∀ c ∈ line.rowHead, P c :=
    hof ((Text.ascii_padLeft (ascii_ofInt _) _).append
      (.cons (by decide) (Text.ascii_padRight line.kind.ascii_name _)))
  have hps : ∀ c ∈ line.parameterText, P c := by
    refine Text.forall_mem_joined (hascii _ (by decide)) fun part hpart => ?_
    obtain ⟨p, hp, rfl⟩ := List.mem_map.mp hpart
    exact Param.forall_mem_written hascii fun s hs => hparams s (List.mem_flatMap.mpr ⟨p, hp, hs⟩)
  unfold Line.row
  split
  · refine List.forall_mem_append.mpr ⟨hhead, hspace ?_⟩
    cases hfound : line.comment with
    | none => exact hof (by decide)
    | some found => exact hcomment found (Option.mem_toList.mpr hfound)
  split
  · exact List.forall_mem_append.mpr ⟨hhead, hspace hraw⟩
  split
  · dsimp only
    have hnumber : Ascii (line.n.elim absent Text.ofInt) := by
      cases line.n with
      | none => decide
      | some n => exact ascii_ofInt n
    refine hcut (List.forall_mem_append.mpr ⟨List.forall_mem_append.mpr ⟨List.forall_mem_append.mpr
      ⟨List.forall_mem_append.mpr ⟨hhead, hof (by decide)⟩, hof hnumber⟩, hof ?_⟩, hspace hps⟩)
    split
    · exact Ascii.append (by decide) (ascii_ofInt _)
    · exact List.forall_mem_nil _
  split
  · exact hcut (List.forall_mem_append.mpr ⟨hhead, hspace hps⟩)
  · exact hcut hhead

end

/-! ## Reports -/

/-- The lines of a text have its characters. -/
theorem Text.mem_of_mem_lines {t raw : Text} (h : raw ∈ t.lines) : ∀ c ∈ raw, c ∈ t := by
  have hall : ∀ {t : Text} {items : List Text}, Lined t items →
      ∀ item ∈ items, ∀ c ∈ item.chomp, c ∈ t := by
    intro t items hlined
    induction hlined with
    | nil => exact List.forall_mem_nil _
    | last _ hbody => exact List.forall_mem_singleton.mpr fun c hc => chomp_of_unbroken hbody ▸ hc
    | line hbody hend _ _ ih =>
      refine List.forall_mem_cons.mpr ⟨fun c hc => ?_, fun item hitem c hc => ?_⟩
      · rw [chomp_line hbody hend] at hc
        exact List.mem_append_left _ hc
      · exact List.mem_append_right _ (List.mem_append_right _ (ih item hitem c hc))
  have hlined := lined_ownLines t
  rw [hlined.lines_eq] at h
  obtain ⟨item, hitem, rfl⟩ := List.mem_map.mp h
  exact hall hlined item hitem

/-- **A report on a text has only ASCII in it, and rows the characters of the text.** -/
theorem Program.forall_mem_pieces {strict : Bool} {t : Text} {p : Program} {style : ReportStyle}
    {P : CodePoint → Prop} (h : ((Reader.mk .standard strict).parse (.text t)).result = .ok p)
    (hascii : ∀ c : CodePoint, c.IsAscii → P c) (ht : style = .rows → ∀ c ∈ t, P c) :
    ∀ piece ∈ p.pieces style, ∀ c ∈ piece, P c := by
  have hfeed : ∀ {body : Text}, (∀ c ∈ body, P c) → ∀ c ∈ body ++ (['\n'] : Text), P c := fun hbody =>
    List.forall_mem_append.mpr ⟨hbody, List.forall_mem_singleton.mpr (hascii _ (by decide))⟩
  cases style with
  | rows =>
    intro piece hpiece
    obtain ⟨line, hline, rfl⟩ := List.mem_map.mp hpiece
    have hraw : ∀ c ∈ line.raw, P c := fun c hc =>
      ht rfl c (Text.mem_of_mem_lines (raw_mem_of_parse h line hline) c hc)
    exact hfeed (Line.forall_mem_row hascii hraw fun s hs c hc =>
      hraw c ((infix_of_parse h line hline s hs).subset hc))
  | json =>
    refine List.forall_mem_singleton.mpr (hfeed fun c hc => hascii c ?_)
    exact p.toJson.ascii_renderAt 0 c hc
  | summary =>
    refine List.forall_mem_singleton.mpr (hfeed fun c hc => hascii c ?_)
    exact p.ascii_summary c hc

end PartProgram
