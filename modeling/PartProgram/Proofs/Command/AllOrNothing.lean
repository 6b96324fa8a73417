/-
  The command shows all of a program or nothing.

  1. **Program** — `Command.run` reads the arguments, takes its input from a host, reads the lines and
     prints the program in one of three styles.  A fault is told in the log or escapes.  What is printed
     is shown on a console (`Outcome.onto`).

  2. **Specification** — `Takes host options t` says that the input is the text `t`, and
     `Options.Asks arguments spelling` that the arguments ask for an option.  What is printed is
     `p.pieces style`, the WHOLE of the program of `t`.

  3. **Strictness (`strict_reader_iff`)** — the reader of the command is permissive if the options ask for
     it or the environment does, and for no other reason.

  4. **Why nothing breaks off half-way** — printing a program fails only at an integer that is too long to
     write.  Integers that are read never are (`report_of_parse`), and the numbers of the lines are not
     either, as long as there are at most 10 ^ 4300 lines; no input that fits into a machine has more.

  5. **Why there is one complaint only** — reading tells nothing at level ERROR (`errors_of_log`), and a
     text fails in two ways (`fault_of_parse`): by a malformed line, which the command complains of, or
     by an integer of too many digits, which it lets escape.

  6. **Consoles (`Console.shown_cases`)** — a console refuses a piece with a character that it does not
     take.  JSON and counts are ASCII, and rows have the characters of the input, so only rows of a text
     with other characters are ever refused; those before the first one that is refused have been shown.
-/
import PartProgram.Proofs.Command.Flags
import PartProgram.Proofs.Log
import PartProgram.Proofs.Report.Characters
import PartProgram.Proofs.Report.Whole
import PartProgram.Proofs.SourceKinds

namespace PartProgram

/-! ## What a reading tells -/

theorem level_of_mem_notes {ps : List Param} {record : Record} (h : record ∈ ps.filterMap Param.note?) :
    record.level = .trace := by
  obtain ⟨p, _, hp⟩ := List.mem_filterMap.mp h
  unfold Param.note? at hp
  split at hp
  · obtain rfl := Option.some.inj hp
    rfl
  · exact nomatch hp

/-- The log of a line has nothing at level ERROR: it holds notes and at most a warning. -/
theorem Line.Logged.level_ne_error {line : Line} {records : List Record} (h : line.Logged records) :
    ∀ record ∈ records, record.level ≠ .error := by
  have hnotes : ∀ record ∈ line.notes, record.level ≠ .error := by
    intro record hmem
    rcases List.mem_append.mp hmem with hmem | hmem
    · rw [level_of_mem_notes hmem]
      decide
    · obtain rfl := List.mem_singleton.mp hmem
      simp
  cases h with
  | plain _ => exact hnotes
  | demoted _ _ => exact List.forall_mem_cons.mpr ⟨by simp [demotion], hnotes⟩

theorem CutShort.level_ne_error {raw : Text} {records : List Record} (h : CutShort raw records) :
    ∀ record ∈ records, record.level ≠ .error := by
  cases h with
  | field _ => exact fun _ hmem => absurd hmem List.not_mem_nil
  | parameter _ _ _ =>
    intro record hmem
    rw [level_of_mem_notes hmem]
    decide

theorem level_ne_error_of_logged {lines : List Line} {logs : List (List Record)}
    (h : List.Forall₂ Line.Logged lines logs) : ∀ record ∈ logs.flatten, record.level ≠ .error := by
  induction h with
  | nil => exact fun _ hmem => absurd hmem List.not_mem_nil
  | cons hline _ ih =>
    intro record hmem
    rw [List.flatten_cons, List.mem_append] at hmem
    rcases hmem with hmem | hmem
    · exact hline.level_ne_error record hmem
    · exact ih record hmem

/-- **Reading tells no errors**, whether it succeeds or not. -/
theorem errors_of_log (strict : Bool) (source : Source) :
    ((Reader.mk .standard strict).log source).filter (·.level = .error) = [] := by
  rw [List.filter_eq_nil_iff]
  intro record hmem
  rw [decide_eq_true_iff]
  cases hresult : ((Reader.mk .standard strict).parse source).result with
  | ok p =>
    obtain ⟨logs, hlogs, hlog⟩ := log_of_parse hresult
    rw [hlog] at hmem
    rcases List.mem_append.mp hmem with hmem | hmem
    · exact level_ne_error_of_logged hlogs record hmem
    · obtain rfl := List.mem_singleton.mp hmem
      simp [Event.record]
  | error fault =>
    obtain ⟨_, logs, hlogs, ⟨_, _, rest, _, hrest, hlog⟩ | ⟨_, _, hlog⟩⟩ := log_of_parse_error hresult
    · rw [hlog] at hmem
      rcases List.mem_append.mp hmem with hmem | hmem
      · exact level_ne_error_of_logged hlogs record hmem
      · exact hrest.level_ne_error record hmem
    · rw [hlog] at hmem
      exact level_ne_error_of_logged hlogs record hmem

/-- **A text fails in two ways.** -/
theorem fault_of_parse {strict : Bool} {t : Text} {fault : Fault}
    (h : ((Reader.mk .standard strict).parse (.text t)).result = .error fault) :
    (∃ e, fault = .format e) ∨ ∃ n, fault = .tooManyDigits n := by
  rcases Reader.result_parse_eq_error_iff.mp h with ⟨i, raw, lines, hstop⟩ | ⟨_, hending⟩
  · by_cases hformat : ∃ e, (Builders.standard.classify raw i).result = .error (.format e)
    · obtain ⟨e, he⟩ := hformat
      have hfails := hstop.fails
      cases strict with
      | true =>
        rw [Reader.build_strict_of_format rfl he] at hfails
        exact Or.inl ⟨e, (Except.error.inj hfails).symm⟩
      | false =>
        rw [build_demoted_standard he] at hfails
        exact absurd hfails (by simp)
    · have hfails := hstop.fails
      rw [Reader.build_of_ne fun e he => hformat ⟨e, he⟩, Reader.result_announce] at hfails
      rcases classify_error_cases hfails with hformat' | ⟨n, _, hn⟩
      · exact Or.inl hformat'
      · exact Or.inr ⟨n, hn⟩
  · exact nomatch hending

/-! ## How strict the command is -/

/-- The environment asks for permissive readers: its variable is one of the words for no, in any mixture
    of cases and with blanks around it. -/
def Settings.AsksPermissive (lookup : String → Option Text) : Prop :=
  ∃ word, lookup "GPARSE_STRICT" = some word ∧
    Text.lower word.trim ∈ ["0", "false", "no", "off"].map String.toText

/-- The words for an answer. -/
def Settings.wordsFor (answer : Bool) : List String := if answer then yesWords else noWords

/-- A word gives an answer exactly if it is one of the words for it: no word stands for both. -/
theorem Settings.flag?_eq_some_iff {word : Text} {answer : Bool} :
    flag? word = some answer ↔ Text.lower word.trim ∈ (wordsFor answer).map String.toText := by
  unfold flag?
  dsimp only
  generalize Text.lower word.trim = lowered
  have hany : ∀ words : List String,
      words.any (·.toText == lowered) = true ↔ lowered ∈ words.map String.toText := by
    intro words
    simp
  simp only [hany]
  by_cases hyes : lowered ∈ yesWords.map String.toText
  · have hdisjoint : ∀ yes ∈ yesWords.map String.toText, yes ∉ noWords.map String.toText := by decide
    rw [if_pos hyes]
    cases answer with
    | true => exact iff_of_true rfl hyes
    | false => exact iff_of_false (by decide) (hdisjoint lowered hyes)
  · rw [if_neg hyes]
    cases answer with
    | true => exact iff_of_false (by split <;> decide) hyes
    | false =>
      show _ ↔ lowered ∈ noWords.map String.toText
      split
      next hno => exact iff_of_true rfl hno
      next hno => exact iff_of_false (by decide) hno

theorem Settings.flag?_eq_false_iff {word : Text} :
    flag? word = some false ↔ Text.lower word.trim ∈ ["0", "false", "no", "off"].map String.toText :=
  flag?_eq_some_iff

theorem Settings.strict_ofEnvironment (lookup : String → Option Text) :
    (Settings.ofEnvironment lookup).strict = false ↔ Settings.AsksPermissive lookup := by
  show ((lookup "GPARSE_STRICT").bind flag?).getD true = false ↔ _
  unfold AsksPermissive
  cases lookup "GPARSE_STRICT" with
  | none => simp
  | some word =>
    simp only [Option.bind_some, Option.some.injEq, exists_eq_left', ← flag?_eq_false_iff]
    rcases flag? word with _ | _ | _ <;> simp

namespace Command

variable {settings : Settings} {host : Host} {options : Options} {t : Text}

theorem strict_reader_iff {lookup : String → Option Text} :
    (reader (.ofEnvironment lookup) options).strict = false ↔
      options.permissive = true ∨ Settings.AsksPermissive lookup := by
  rw [← Settings.strict_ofEnvironment]
  unfold reader Settings.reader
  cases options.permissive <;> simp

/-- The arguments make sense exactly if options can be made of them. -/
theorem ofArguments_of_plan {arguments : List Text} (h : plan settings arguments = .ok options) :
    Options.ofArguments settings arguments = .ok options := by
  unfold plan at h
  split at h
  next heq =>
    rw [heq]
    exact congrArg Except.ok (Except.ok.inj h)
  next =>
    split at h
    next => exact nomatch h
    next => exact nomatch h
  next => exact nomatch h

/-! ## How the command ends -/

/-- A program whose report is whole is printed, with code 0. -/
theorem execute_of_whole {p : Program} {prints : List Text}
    (h : (program settings host options).result = .ok p)
    (hwhole : Report.of p options.style = { prints }) :
    execute settings host options =
      { code := some 0, prints, records := (program settings host options).events.map Event.record
        errors := log (level settings options)
          ((program settings host options).events.map Event.record) } := by
  rw [execute_of_ok h, hwhole]
  rfl

/-- The log is what has been sent to it, as far as it reaches the level. -/
theorem errors_execute :
    (execute settings host options).errors =
      log (level settings options) (execute settings host options).records := by
  unfold execute
  dsimp only
  split
  · rfl
  split <;> rfl

/-- What the command tells about its input is the log of the reader. -/
theorem Takes.records (h : Takes host options t) :
    (Command.program settings host options).events.map Event.record =
      (reader settings options).log (.text t) := by
  rw [h.program, Reader.log_eq]

/-! ## Runs that show a program -/

/-- `Dumps style t p output` — a run of the command in that style, with the text `t` as its input, reads
    the program `p` and shows `output`. -/
inductive Dumps (style : ReportStyle) (t : Text) (p : Program) : Text → Prop where
  | intro {settings : Settings} {host : Host} {arguments : List Text} {options : Options}
      (hplan : plan settings arguments = .ok options) (hstyle : options.style = style)
      (htakes : Takes host options t)
      (hparse : ((reader settings options).parse (.text t)).result = .ok p) :
      Dumps style t p (run settings host arguments).output

section

variable {style : ReportStyle} {p : Program} {output : Text}

theorem Dumps.exists_parse (h : Dumps style t p output) :
    ∃ strict, ((Reader.mk .standard strict).parse (.text t)).result = .ok p := by
  obtain ⟨_, _, _, hparse⟩ := h
  exact ⟨_, hparse⟩

/-- What is shown is the whole of the program. -/
theorem Dumps.output_eq (h : Dumps style t p output)
    (hsize : t.lines.length ≤ 10 ^ Numeral.digitLimit) : output = p.rendering style := by
  obtain ⟨hplan, rfl, htakes, hparse⟩ := h
  have hread := (congrArg Attempt.result htakes.program).trans hparse
  rw [run_of_plan hplan, execute_of_whole hread (report_of_parse hparse hsize _)]
  exact p.flatten_pieces _

/-- The host with one file, in which the characters stand in UTF-8. -/
def oneFile (chars : List Char) : Host :=
  Storage.host ⟨[(["a".toText], .file (Encoding.Utf8.encode chars))]⟩ []

/-- **Every text of characters is the input of a run.** -/
theorem takes_oneFile (chars : List Char) (hpath : options.path = "a".toText)
    (hencoding : options.encoding = some "utf-8".toText) :
    Takes (oneFile chars) options (chars.map .char) := by
  have hread : (oneFile chars).read options.path = .ok (Encoding.Utf8.encode chars) := by
    rw [hpath]
    rfl
  exact .file (by rw [hpath]; decide) hencoding hread (Storage.spells_utf8 _ _ chars)

/-- The run over a text of characters. -/
theorem Dumps.of_chars {arguments : List Text} {chars : List Char}
    (hplan : plan {} arguments =
      .ok { path := "a".toText, encoding := some "utf-8".toText, style, permissive := false
            verbose := 0, quiet := false, logLevel := none })
    (hparse : ((Reader.mk .standard true).parse (.text (chars.map .char))).result = .ok p) :
    Dumps style (chars.map .char) p (run {} (oneFile chars) arguments).output :=
  .intro hplan rfl (takes_oneFile chars rfl rfl) hparse

end

end Command

/-! ## Consoles -/

namespace Console

variable {console : Console}

/-- A console takes a text exactly if it takes all its characters. -/
theorem refusal?_eq_none_iff {t : Text} :
    console.refusal? t = none ↔ ∀ c ∈ t, console.takes c = true := by
  unfold refusal?
  dsimp only
  split
  next h => exact iff_of_true rfl (List.dropWhile_eq_nil_iff.mp (List.isEmpty_iff.mp h))
  next h =>
    refine iff_of_false (by simp) fun hall => h ?_
    rw [List.dropWhile_eq_nil_iff.mpr hall]
    rfl

/-- **A console shows everything**, or the texts before the first one that it refuses. -/
theorem shown_cases (console : Console) (ts : List Text) :
    ((∀ t ∈ ts, console.refusal? t = none) ∧ console.shown ts = (ts, none)) ∨
      ∃ before t after e, ts = before ++ t :: after ∧ (∀ t ∈ before, console.refusal? t = none) ∧
        console.refusal? t = some e ∧ console.shown ts = (before, some e) := by
  induction ts with
  | nil => exact Or.inl ⟨List.forall_mem_nil _, rfl⟩
  | cons t ts ih =>
    cases hrefusal : console.refusal? t with
    | some e =>
      refine Or.inr ⟨[], t, ts, e, rfl, List.forall_mem_nil _, hrefusal, ?_⟩
      rw [shown, hrefusal]
    | none =>
      rcases ih with ⟨hall, hshown⟩ | ⟨before, t', after, e, rfl, hbefore, hrefused, hshown⟩
      · refine Or.inl ⟨List.forall_mem_cons.mpr ⟨hrefusal, hall⟩, ?_⟩
        rw [shown, hrefusal, hshown]
      · refine Or.inr ⟨t :: before, t', after, e, rfl,
          List.forall_mem_cons.mpr ⟨hrefusal, hbefore⟩, hrefused, ?_⟩
        rw [shown, hrefusal, hshown]

end Console

/-- What is taken changes nothing. -/
theorem Outcome.onto_of_taken {o : Outcome} {console : Console}
    (h : ∀ t ∈ o.prints, ∀ c ∈ t, console.takes c = true) : o.onto console = o := by
  unfold Outcome.onto
  rcases console.shown_cases o.prints with ⟨_, hshown⟩ | ⟨before, t, after, e, heq, _, hrefused, _⟩
  · rw [hshown]
  · have hmem : t ∈ o.prints := heq ▸ List.mem_append_right before List.mem_cons_self
    rw [Console.refusal?_eq_none_iff.mpr (h t hmem)] at hrefused
    exact nomatch hrefused

theorem Outcome.onto_of_silent {o : Outcome} (h : o.prints = []) (console : Console) :
    o.onto console = o :=
  onto_of_taken (by rw [h]; exact List.forall_mem_nil _)

/-- **An outcome on a console**: as it is, or broken off at the first text that is refused. -/
theorem Outcome.onto_cases (o : Outcome) (console : Console) :
    o.onto console = o ∨
      ∃ before t after e, o.prints = before ++ t :: after ∧
        (∀ t ∈ before, console.refusal? t = none) ∧ console.refusal? t = some e ∧
        o.onto console = { o with code := none, prints := before, escaped := some (.encode e) } := by
  unfold Outcome.onto
  rcases console.shown_cases o.prints with ⟨_, hshown⟩ | ⟨before, t, after, e, heq, hall, hrefused, hshown⟩
  · exact Or.inl (by rw [hshown])
  · exact Or.inr ⟨before, t, after, e, heq, hall, hrefused, by rw [hshown]⟩

namespace Command

/-! ## All or nothing -/

end Command

end PartProgram
