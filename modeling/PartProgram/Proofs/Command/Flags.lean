/-
  Which options the arguments ask for.

  1. **Program** — `Options.ofArguments` first tells what each argument is (`Argument.of`), then does from
     left to right what they ask for (`Draft.take`).

  2. **Specification** — `Asks arguments spelling`: one of the arguments in front of the first two hyphens
     is the spelling, in full or shortened.  Nothing is said of the order, of the other arguments or of how
     often it is there.

  3. **Drafts (`has_take`)** — one argument switches on what it names and leaves the other modes alone
     (`has_switch`); so a draft ends with the modes that it began with and those that were named.

  4. **Arguments (`switches_of_iff`)** — by the branches of `Argument.of`.  No two long spellings begin with
     the same letter, so that one letter is enough; and a mode has no short spelling, so it is never joined
     to others.
-/
import Mathlib.Data.List.TakeWhile
import PartProgram.Command.Options

namespace PartProgram

namespace Flag

/-- The options that say how a program is read and shown. -/
def isMode : Flag → Bool
  | json | summary | permissive => true
  | _ => false

theorem mem_spelled_of_ofSpelling? {t : Text} {flag : Flag} (h : ofSpelling? t = some flag) :
    (t, flag) ∈ spelled := by
  obtain ⟨⟨key, found⟩, hfind, rfl⟩ := Option.map_eq_some_iff.mp h
  obtain rfl : key = t := by simpa using List.find?_some hfind
  exact List.mem_of_find?_eq_some hfind

/-- Modes are spelled with two hyphens and without an equals sign. -/
theorem spelling_of_isMode {s : Text} {mode : Flag} (h : (s, mode) ∈ spelled)
    (hmode : mode.isMode = true) : Argument.hyphens <+: s ∧ 3 ≤ s.length ∧ ('=' : CodePoint) ∉ s := by
  have hall : ∀ entry ∈ spelled, entry.2.isMode = true →
      Argument.hyphens <+: entry.1 ∧ 3 ≤ entry.1.length ∧ ('=' : CodePoint) ∉ entry.1 := by decide
  exact hall _ h hmode

/-- A mode is spelled in one way. -/
theorem spelling_unique {s s' : Text} {mode : Flag} (h : (s, mode) ∈ spelled)
    (h' : (s', mode) ∈ spelled) (hmode : mode.isMode = true) : s = s' := by
  have hall : ∀ entry ∈ spelled, ∀ other ∈ spelled, entry.2.isMode = true → entry.2 = other.2 →
      entry.1 = other.1 := by decide
  exact hall _ h _ h' hmode rfl

/-- No spelling is the beginning of another one, if there is a letter in it. -/
theorem eq_of_spelling_prefix {s s' : Text} {flag mode : Flag} (h : (s, flag) ∈ spelled)
    (h' : (s', mode) ∈ spelled) (hlong : 3 ≤ s.length) (hpre : s <+: s') : flag = mode := by
  have hall : ∀ entry ∈ spelled, ∀ other ∈ spelled, 3 ≤ entry.1.length → entry.1 <+: other.1 →
      entry.2 = other.2 := by decide
  exact hall _ h _ h' hlong hpre

end Flag

/-- What comes second succeeds only if what comes first does. -/
theorem Options.exists_of_bind {α β : Type} {x : Except Stop α} {f : α → Except Stop β} {b : β}
    (h : x >>= f = .ok b) : ∃ a, x = .ok a ∧ f a = .ok b := by
  cases x with
  | error stop => exact nomatch h
  | ok a => exact ⟨a, rfl, h⟩

/-- A complaint is no success. -/
theorem Options.complaint_ne_ok {α : Type} {flag : Flag} {message : Text} {a : α} :
    complaint flag message ≠ .ok a := fun h => nomatch h

namespace Options.Draft

variable {d d' : Draft} {flag mode : Flag}

/-- `d.Has mode` — the mode has been asked for. -/
def Has (d : Draft) : Flag → Prop
  | .json => d.style = .json
  | .summary => d.style = .summary
  | .permissive => d.permissive = true
  | _ => False

theorem has_congr (hstyle : d.style = d'.style) (hpermissive : d.permissive = d'.permissive) :
    d.Has mode ↔ d'.Has mode := by
  cases mode <;> simp only [Has, hstyle, hpermissive]

/-- **An option switches on its own mode and no other.** -/
theorem has_switch (h : d.switch flag = .ok d') (hmode : mode.isMode = true) :
    d'.Has mode ↔ d.Has mode ∨ flag = mode := by
  have hchoose : ∀ {style rivalStyle : ReportStyle} {rival : Flag},
      d.choose flag style rival rivalStyle = .ok d' →
        d.style ≠ rivalStyle ∧ d' = { d with style } := by
    intro style rivalStyle rival h
    unfold choose at h
    split at h
    · exact nomatch h
    · next hne => exact ⟨hne, (Except.ok.inj h).symm⟩
  cases flag with
  | help => exact nomatch h
  | json =>
    obtain ⟨hne, rfl⟩ := hchoose h
    cases mode <;> simp_all [Has, Flag.isMode]
  | summary =>
    obtain ⟨hne, rfl⟩ := hchoose h
    cases mode <;> simp_all [Has, Flag.isMode]
  | permissive | verbose | quiet | encoding | logLevel =>
    obtain rfl := Except.ok.inj h
    cases mode <;> simp_all [Has, Flag.isMode]

theorem has_switchAll {flags : List Flag} (h : d.switchAll flags = .ok d')
    (hmode : mode.isMode = true) : d'.Has mode ↔ d.Has mode ∨ mode ∈ flags := by
  induction flags generalizing d with
  | nil =>
    obtain rfl := Except.ok.inj h
    simp
  | cons flag flags ih =>
    obtain ⟨next, hnext, hrest⟩ := exists_of_bind h
    rw [ih hrest, has_switch hnext hmode, List.mem_cons, or_assoc, eq_comm]

/-- A value is for options that are no modes. -/
theorem has_assign {value : Text} (h : d.assign flag value = .ok d') :
    d'.Has mode ↔ d.Has mode := by
  cases flag with
  | encoding =>
    obtain rfl := Except.ok.inj h
    exact has_congr rfl rfl
  | logLevel =>
    unfold assign at h
    dsimp only at h
    generalize (if value = Argument.hyphens then none else some value) = given at h
    split at h
    · obtain rfl := Except.ok.inj h
      exact has_congr rfl rfl
    · exact absurd h complaint_ne_ok
  | help | json | summary | permissive | verbose | quiet =>
    obtain rfl := Except.ok.inj h
    exact Iff.rfl

/-- No mode is among the options that are joined to another one. -/
theorem mem_joinedFlags {value : Text} {flags : List Flag} (h : joinedFlags flag value = .ok flags)
    (hmode : mode.isMode = true) : mode ∈ flags ↔ flag = mode := by
  induction value generalizing flag flags with
  | nil =>
    obtain rfl := Except.ok.inj h
    rw [List.mem_singleton, eq_comm]
  | cons letter value ih =>
    unfold joinedFlags at h
    split at h
    next next hnext =>
      obtain ⟨others, hothers, hflags⟩ := exists_of_bind h
      obtain rfl := Except.ok.inj hflags
      -- a short spelling is none of a mode
      have hne : next ≠ mode := by
        rintro rfl
        have hlong := (Flag.spelling_of_isMode (Flag.mem_spelled_of_ofSpelling? hnext) hmode).2.1
        exact absurd hlong (by simp)
      rw [List.mem_cons, ih hothers, eq_comm, or_iff_left hne]
    next => exact nomatch h

end Options.Draft

namespace Argument

/-- `Switches mode a` — the argument is the option of the mode, with nothing attached to it. -/
def Switches (mode : Flag) : Argument → Prop
  | option flag short attached => flag = mode ∧ (short = true ∨ attached = none)
  | operand _ | separator | unknown _ => False

/-- `Named mode arguments` — one of the arguments switches on the mode. -/
def Named (mode : Flag) (arguments : List Argument) : Prop := ∃ a ∈ arguments, Switches mode a

@[simp]
theorem named_nil (mode : Flag) : ¬ Named mode [] := by
  rintro ⟨_, hmem, _⟩
  exact absurd hmem List.not_mem_nil

@[simp]
theorem named_cons (mode : Flag) (a : Argument) (arguments : List Argument) :
    Named mode (a :: arguments) ↔ Switches mode a ∨ Named mode arguments := by
  simp [Named]

end Argument

open Argument (Switches Named)

/-- **A draft has the modes that it began with and those that were named.** -/
theorem Options.Draft.has_take {d d' : Draft} {mode : Flag} {arguments : List Argument}
    (h : d.take arguments = .ok d') (hmode : mode.isMode = true) :
    d'.Has mode ↔ d.Has mode ∨ Named mode arguments := by
  have hvalue : ∀ {flag : Flag}, flag.takesValue = true → flag ≠ mode := by
    rintro flag htakes rfl
    cases flag <;> simp_all [Flag.takesValue, Flag.isMode]
  fun_induction take d arguments with
  | case1 d =>
    obtain rfl := Except.ok.inj h
    simp
  | case2 d t rest _ ih | case3 d t rest _ ih | case4 d t rest _ ih | case5 d t rest _ ih
  | case9 d t rest ih =>
    exact (ih h).trans (or_congr (has_congr rfl rfl) (by simp [Switches]))
  | case6 d t rest _ _ ih | case7 d t rest _ _ ih | case8 d rest _ ih =>
    exact (ih h).trans (or_congr (has_congr rfl rfl) (by simp [Switches]))
  | case10 d flag short value rest htakes ih | case14 d flag short value rest htakes ih =>
    obtain ⟨next, hnext, hrest⟩ := exists_of_bind h
    refine (ih next hrest).trans ?_
    rw [has_assign hnext]
    simp [hvalue htakes, Switches]
  | case11 d flag short value rest _ ih | case13 d flag short rest _ _ ih =>
    obtain ⟨next, hnext, hrest⟩ := exists_of_bind h
    refine (ih next hrest).trans ?_
    rw [has_switch hnext hmode]
    simp [Switches, or_assoc]
  | case12 d flag short rest _ _ => exact absurd h complaint_ne_ok
  | case15 d flag short value rest _ hshort ih =>
    obtain ⟨flags, hflags, hthen⟩ := exists_of_bind h
    obtain ⟨next, hnext, hrest⟩ := exists_of_bind hthen
    refine (ih next hrest).trans ?_
    rw [has_switchAll hnext hmode, mem_joinedFlags hflags hmode]
    have hjoined : short = true := (Bool.and_eq_true_iff.mp hshort).1
    simp [Switches, or_assoc, hjoined]
  | case16 d flag short value rest _ _ => exact absurd h complaint_ne_ok

/-! ## Arguments -/

namespace Argument

variable {t s : Text} {mode : Flag}

/-- A text without an equals sign is all name. -/
theorem name_eq_self (h : ('=' : CodePoint) ∉ t) : (t.cut '=').1 = t := by
  show t.takeWhile (· != ('=' : CodePoint)) = t
  rw [List.takeWhile_eq_self_iff]
  intro c hc
  rw [bne_iff_ne]
  rintro rfl
  exact h hc

theorem name_prefix (t : Text) : (t.cut '=').1 <+: t := List.takeWhile_prefix _

/-- Nothing is attached to a text exactly if there is no equals sign in it. -/
theorem attached_eq_none_iff :
    (if t.contains '=' then some (t.cut '=').2 else none) = none ↔ ('=' : CodePoint) ∉ t := by
  split <;> simp_all

/-- What is no option switches on nothing. -/
theorem not_switches_ofHyphened : ¬ Switches mode (ofHyphened t) := by
  unfold ofHyphened
  split <;> exact id

/-- A spelling that is shortened to two hyphens and a letter, or to more than that, is found. -/
theorem switches_of_prefix {a : Argument} (h : Argument.of t = .ok a) (hs : (s, mode) ∈ Flag.spelled)
    (hmode : mode.isMode = true) (hlong : 3 ≤ t.length) (hpre : t <+: s) : Switches mode a := by
  obtain ⟨hhyphens, _, hequals⟩ := Flag.spelling_of_isMode hs hmode
  have hno : ('=' : CodePoint) ∉ t := fun hmem => hequals (hpre.subset hmem)
  have hdouble : hyphens <+: t := List.prefix_of_prefix_length_le hhyphens hpre (by simp [hyphens]; omega)
  have hhead : ¬ t.head? ≠ some ('-' : CodePoint) := by
    obtain ⟨rest, rfl⟩ := hdouble
    exact not_not_intro rfl
  unfold Argument.of at h
  rw [if_neg hhead] at h
  split at h
  next flag hflag =>
    obtain rfl := Except.ok.inj h
    exact ⟨Flag.eq_of_spelling_prefix (Flag.mem_spelled_of_ofSpelling? hflag) hs hlong hpre, Or.inr rfl⟩
  next hnone =>
    rw [if_neg (by omega)] at h
    dsimp only at h
    rw [attached_eq_none_iff.mpr hno, name_eq_self hno, hnone, List.isPrefixOf_iff_prefix.mpr hdouble] at h
    dsimp only at h
    have hmem : (s, mode) ∈ Flag.spelled.filter (t.isPrefixOf ·.1) :=
      List.mem_filter.mpr ⟨hs, List.isPrefixOf_iff_prefix.mpr hpre⟩
    split at h
    next heq => rw [heq] at hmem; exact absurd hmem List.not_mem_nil
    next heq =>
      rw [heq] at hmem
      obtain rfl := Except.ok.inj h
      exact ⟨(Prod.mk.inj (List.mem_singleton.mp hmem)).2.symm, Or.inr rfl⟩
    next => exact nomatch h

/-- And nothing else is. -/
theorem prefix_of_switches {a : Argument} (h : Argument.of t = .ok a) (ht : t ≠ hyphens)
    (hs : (s, mode) ∈ Flag.spelled) (hmode : mode.isMode = true) (hswitches : Switches mode a) :
    3 ≤ t.length ∧ t <+: s := by
  obtain ⟨hhyphens, hlong, _⟩ := Flag.spelling_of_isMode hs hmode
  have hfound : ∀ {t' : Text}, Flag.ofSpelling? t' = some mode → t' = s := fun h =>
    Flag.spelling_unique (Flag.mem_spelled_of_ofSpelling? h) hs hmode
  unfold Argument.of at h
  split at h
  next =>
    obtain rfl := Except.ok.inj h
    exact hswitches.elim
  next =>
  split at h
  next flag hflag =>
    obtain rfl := Except.ok.inj h
    obtain ⟨rfl, _⟩ := hswitches
    obtain rfl := hfound hflag
    exact ⟨hlong, List.prefix_refl _⟩
  next hnone =>
  split at h
  next =>
    obtain rfl := Except.ok.inj h
    exact hswitches.elim
  next =>
  dsimp only at h
  split at h
  next flag hflag =>
    -- a mode with something attached to it, although nothing may be
    obtain rfl := Except.ok.inj h
    obtain ⟨rfl, hplain⟩ := hswitches
    have hname := hfound hflag
    have hprefix : hyphens <+: t := hhyphens.trans (hname ▸ name_prefix t)
    rw [List.isPrefixOf_iff_prefix.mpr hprefix] at hplain
    have hno := attached_eq_none_iff.mp (hplain.resolve_left (by decide))
    rw [name_eq_self hno, hnone] at hflag
    exact nomatch hflag
  next _ hdouble =>
    split at h
    next =>
      obtain rfl := Except.ok.inj h
      exact absurd hswitches not_switches_ofHyphened
    next s' flag hfilter =>
      obtain rfl := Except.ok.inj h
      obtain ⟨rfl, hplain⟩ := hswitches
      have hno := attached_eq_none_iff.mp (hplain.resolve_left (by decide))
      rw [name_eq_self hno] at hfilter
      obtain ⟨hmem, hpre⟩ := List.mem_filter.mp (hfilter ▸ List.mem_singleton_self (s', flag))
      obtain rfl := Flag.spelling_unique hmem hs hmode
      refine ⟨?_, List.isPrefixOf_iff_prefix.mp hpre⟩
      obtain ⟨rest, rfl⟩ := List.isPrefixOf_iff_prefix.mp hdouble
      cases rest with
      | nil => exact absurd rfl ht
      | cons c rest => simp [hyphens]
    next => exact nomatch h
  next =>
    split at h
    next flag hflag =>
      obtain rfl := Except.ok.inj h
      obtain ⟨rfl, _⟩ := hswitches
      have hshort := hfound hflag ▸ hlong
      rw [List.length_take] at hshort
      omega
    next =>
      obtain rfl := Except.ok.inj h
      exact absurd hswitches not_switches_ofHyphened

/-- **An argument switches on a mode exactly if it is its spelling**, in full or shortened. -/
theorem switches_of_iff {a : Argument} (h : Argument.of t = .ok a) (ht : t ≠ hyphens)
    (hs : (s, mode) ∈ Flag.spelled) (hmode : mode.isMode = true) :
    Switches mode a ↔ 3 ≤ t.length ∧ t <+: s :=
  ⟨prefix_of_switches h ht hs hmode, fun ⟨hlong, hpre⟩ => switches_of_prefix h hs hmode hlong hpre⟩

theorem named_ofAll_iff {ts : List Text} {arguments : List Argument} (h : ofAll ts = .ok arguments)
    (hs : (s, mode) ∈ Flag.spelled) (hmode : mode.isMode = true) :
    Named mode arguments ↔ ∃ t ∈ ts.takeWhile (· ≠ hyphens), 3 ≤ t.length ∧ t <+: s := by
  induction ts generalizing arguments with
  | nil =>
    obtain rfl := Except.ok.inj h
    simp
  | cons t ts ih =>
    unfold ofAll at h
    split at h
    next heq =>
      obtain rfl := Except.ok.inj h
      have hoperands : ¬ Named mode (ts.map .operand) := by
        rintro ⟨a, ha, hswitches⟩
        obtain ⟨_, _, rfl⟩ := List.mem_map.mp ha
        exact hswitches
      simp [heq, hoperands, Switches]
    next hne =>
      obtain ⟨a, ha, hthen⟩ := Options.exists_of_bind h
      obtain ⟨others, hothers, hall⟩ := Options.exists_of_bind hthen
      obtain rfl := Except.ok.inj hall
      rw [named_cons, switches_of_iff ha hne hs hmode, ih hothers,
        List.takeWhile_cons_of_pos (by simpa using hne)]
      simp

end Argument

/-! ## Options -/

/-- `Asks arguments spelling` — before any two hyphens there is an argument that is the spelling of an
    option, in full or shortened to no less than its first letter. -/
def Options.Asks (arguments : List Text) (spelling : String) : Prop :=
  ∃ t ∈ arguments.takeWhile (· ≠ Argument.hyphens), 3 ≤ t.length ∧ t <+: spelling.toText

instance (arguments : List Text) (spelling : String) : Decidable (Options.Asks arguments spelling) :=
  List.decidableBEx _ _

/-- **The options are those that the arguments ask for.** -/
theorem Options.asks_of_ofArguments {settings : Settings} {arguments : List Text} {options : Options}
    (h : ofArguments settings arguments = .ok options) :
    (options.permissive = true ↔ Asks arguments "--permissive") ∧
      (options.style = .json ↔ Asks arguments "--json") ∧
      (options.style = .summary ↔ Asks arguments "--summary") := by
  obtain ⟨named, hnamed, hthen⟩ := exists_of_bind h
  obtain ⟨draft, hdraft, hfinish⟩ := exists_of_bind hthen
  have hhas : ∀ (mode : Flag) {spelling : String}, (spelling.toText, mode) ∈ Flag.spelled →
      mode.isMode = true → (draft.Has mode ↔ Asks arguments spelling) := by
    intro mode spelling hs hmode
    rw [Draft.has_take hdraft hmode, Argument.named_ofAll_iff hnamed hs hmode]
    refine or_iff_right ?_
    cases mode <;> simp_all [Draft.Has, Flag.isMode]
  have hkept : options.permissive = draft.permissive ∧ options.style = draft.style := by
    unfold Draft.finish at hfinish
    split at hfinish
    next => exact nomatch hfinish
    next =>
      split at hfinish
      next =>
        obtain rfl := Except.ok.inj hfinish
        exact ⟨rfl, rfl⟩
      next => exact nomatch hfinish
  rw [hkept.1, hkept.2]
  exact ⟨hhas .permissive (by decide) rfl, hhas .json (by decide) rfl, hhas .summary (by decide) rfl⟩

end PartProgram
