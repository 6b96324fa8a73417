/-
  All kinds of source agree.

  1. **Lines** — a text, a stream in which all line ends are line feeds, and the text's own lines in a
     list or a feed have the same lines.  A stream whose line ends are left alone has them exactly if
     every carriage return is followed by a line feed or by nothing.  All of this is read off the one
     way in which a text is lined (`Text.Lined`).

  2. **Programs (`Reader.parse_congr`)** — a reader knows nothing of a source but its lines and the
     fault behind the last one, so sources with the same lines give the same program, or fail alike,
     under every table.

  3. **Files and the command** — `host.Spells name bytes t`: for the host, the bytes are the text `t` in
     the encoding of that name; those of UTF-8 are (`Storage.spells_utf8`).  Reading a file that spells `t`
     is reading `t` (`result_parseFile`), and so it is with what the command reads
     (`Command.Takes.program`).
-/
import PartProgram.Command.Run
import PartProgram.Storage
import PartProgram.Proofs.Encoding.Utf8
import PartProgram.Proofs.Reading
import PartProgram.Proofs.Text.Lined

namespace PartProgram

open Text (Lined PairedReturns)

/-! ## Lines -/

theorem Source.rawLines_universal (t : Text) :
    (Source.feed (.universal t)).rawLines = (Source.text t).rawLines := by
  have hlined := Text.lined_ownLines t
  exact hlined.universal_eq.trans hlined.lines_eq.symm

theorem Source.rawLines_list {t : Text} {items : List Text} (h : Lined t items) :
    (Source.list items).rawLines = (Source.text t).rawLines := h.lines_eq.symm

theorem Source.rawLines_feed {t : Text} {items : List Text} (h : Lined t items) :
    (Source.feed { items }).rawLines = (Source.text t).rawLines := h.lines_eq.symm

/-! ## Programs -/

/-- A reader knows nothing of a source but its lines and what follows the last one. -/
theorem Reader.parse_congr (r : Reader) {source source' : Source}
    (hlines : source.rawLines = source'.rawLines) (hending : source.ending = source'.ending) :
    r.parse source = r.parse source' := by
  unfold Reader.parse
  rw [hlines, hending]

theorem Reader.parse_universal (r : Reader) (t : Text) :
    r.parse (.feed (.universal t)) = r.parse (.text t) :=
  r.parse_congr (Source.rawLines_universal t) rfl

/-! ## Files -/

/-- `host.Spells name bytes t` — in the encoding of that name, the bytes are the text `t`, from the
    first byte to the last. -/
structure Host.Spells (host : Host) (name : Text) (bytes : List UInt8) (t : Text) : Prop where
  proper : ('\x00' : CodePoint) ∉ name
  decodes : ∃ decode, host.codec name = .ok decode ∧ decode bytes = .ok { text := t }

section

variable {host : Host} {path name : Text} {bytes : List UInt8} {t : Text}

theorem Host.Spells.checkName (h : host.Spells name bytes t) :
    Encoding.checkName (some name) = .ok name := by
  have hno : ¬ name.contains '\x00' = true := by simpa using h.proper
  show (if name.contains '\x00' = true then throw Fault.nulInEncoding else pure name) = _
  rw [if_neg hno]
  rfl

/-- A file that spells a text has its lines, with all line ends made line feeds. -/
theorem Host.Spells.feed (h : host.Spells name bytes t) (hread : host.read path = .ok bytes) :
    host.feed path (some name) = .ok (.universal t) := by
  obtain ⟨decode, hcodec, hdecode⟩ := h.decodes
  unfold Host.feed
  rw [h.checkName, hread]
  show (host.codec name >>= fun decode => decode bytes >>= fun decoded => pure decoded.feed) = _
  rw [hcodec]
  show (decode bytes >>= fun decoded => pure decoded.feed) = _
  rw [hdecode]
  rfl

end

/-- **Every text of characters is spelled**, by its bytes in UTF-8. -/
theorem Storage.spells_utf8 (s : Storage) (standard : List UInt8) (chars : List Char) :
    (s.host standard).Spells "utf-8".toText (Encoding.Utf8.encode chars) (chars.map .char) := by
  refine ⟨by decide, Encoding.utf8.decode, rfl, ?_⟩
  show (Encoding.Utf8.decode (Encoding.Utf8.encode chars)).mapError Fault.decode = _
  rw [Encoding.Utf8.decode_encode]
  rfl

/-- A silent success in front of an attempt changes nothing. -/
theorem Attempt.lift_ok_bind {α β : Type} (a : α) (f : α → Attempt β) :
    (liftM (Except.ok a : Except Fault α) : Attempt α) >>= f = f a := rfl

/-- What is told behind an attempt does not change how it ends. -/
theorem Attempt.result_bind_report {α : Type} (x : Attempt α) (event : α → Event) :
    (x >>= fun a => Attempt.report (event a) >>= fun _ => pure a).result = x.result := by
  cases h : x.result with
  | ok a => rw [Attempt.bind_of_ok h]; rfl
  | error fault => rw [Attempt.bind_of_error h]

/-- **Reading a file that spells a text** is reading the text. -/
theorem Settings.result_parseFile {s : Settings} {host : Host} {path : Text} {encoding : Option Text}
    {bytes : List UInt8} {t : Text} (hread : host.read path = .ok bytes)
    (hspells : host.Spells (s.encodingName encoding) bytes t) (strict : Option Bool) :
    (s.parseFile host path encoding strict).result = ((s.reader strict).parse (.text t)).result := by
  unfold Settings.parseFile
  rw [hspells.feed hread, Attempt.lift_ok_bind, Attempt.result_bind_report, Reader.parse_universal]

/-! ## The command -/

namespace Command

/-- `Takes host options t` — the input of the command is the text `t`: the standard one, or a file in the
    encoding that the options name. -/
inductive Takes (host : Host) (options : Options) (t : Text) : Prop where
  | standard (hpath : options.path = standardInput) (hdecode : host.standard = .ok { text := t }) :
      Takes host options t
  | file {name : Text} {bytes : List UInt8} (hpath : options.path ≠ standardInput)
      (hname : options.encoding = some name) (hread : host.read options.path = .ok bytes)
      (hspells : host.Spells name bytes t) : Takes host options t

variable {settings : Settings} {host : Host} {options : Options} {t : Text}

theorem Takes.feed (h : Takes host options t) : feed host options = .ok (.universal t) := by
  unfold Command.feed
  cases h with
  | standard hpath hdecode =>
    rw [if_pos hpath, hdecode]
    rfl
  | file hpath hname hread hspells => rw [if_neg hpath, hname, hspells.feed hread]

/-- **The command reads the text of its input.** -/
theorem Takes.program (h : Takes host options t) :
    program settings host options = (reader settings options).parse (.text t) := by
  unfold Command.program
  rw [h.feed, Attempt.lift_ok_bind]
  exact Reader.parse_universal _ t

theorem run_of_plan {arguments : List Text} (h : plan settings arguments = .ok options) :
    run settings host arguments = execute settings host options := by
  unfold run
  rw [h]

/-- A program that has been read is shown. -/
theorem execute_of_ok {p : Program} (h : (program settings host options).result = .ok p) :
    execute settings host options =
      { code := if (Report.of p options.style).fault.isNone then some 0 else none
        prints := (Report.of p options.style).prints
        records := (program settings host options).events.map Event.record
        errors := log (level settings options)
          ((program settings host options).events.map Event.record)
        escaped := (Report.of p options.style).fault } := by
  unfold execute
  dsimp only
  rw [h]

/-- A fault that is complained of ends the command with code 1, and nothing is printed. -/
theorem execute_of_complaint {fault : Fault} {message : Text}
    (h : (program settings host options).result = .error fault)
    (hcomplaint : complaint? options.path fault = some message) :
    execute settings host options =
      { code := some 1
        records := (program settings host options).events.map Event.record ++
          [(Event.failed message).record]
        errors := log (level settings options)
          ((program settings host options).events.map Event.record ++
            [(Event.failed message).record]) } := by
  unfold execute
  dsimp only
  rw [h]
  dsimp only
  rw [hcomplaint]
  dsimp only
  rw [List.map_append]
  rfl

/-- Any other fault escapes, and nothing is printed. -/
theorem execute_of_no_complaint {fault : Fault} (h : (program settings host options).result = .error fault)
    (hcomplaint : complaint? options.path fault = none) :
    execute settings host options =
      { code := none, records := (program settings host options).events.map Event.record
        errors := log (level settings options)
          ((program settings host options).events.map Event.record)
        escaped := some fault } := by
  unfold execute
  dsimp only
  rw [h]
  dsimp only
  rw [hcomplaint]

end Command

/-! ## All kinds of source -/

/-- **All kinds of source agree.**  For every text `t`:
    (1) a stream in which all line ends are line feeds has the lines of `t`;
    (2) `t` has its own lines in exactly one way, and in a list or a feed they have the lines of `t`;
    (3) a stream whose line ends are left alone has them exactly if every carriage return is followed
        by a line feed or by nothing;
    (4) so, under every table, all these sources give the same program or fail alike, and tell the
        same on the way;
    (5) a file that spells `t` is read as `t` is;
    (6) and so is what the command reads: it shows the program of `t`, or nothing if `t` fails. -/
theorem sources_agree (t : Text) :
    (Source.feed (.universal t)).rawLines = (Source.text t).rawLines ∧
    (∃! items, Lined t items) ∧
    (∀ items, Lined t items →
      (Source.list items).rawLines = (Source.text t).rawLines ∧
      (Source.feed { items }).rawLines = (Source.text t).rawLines) ∧
    ((Source.feed (.ofStream t)).rawLines = (Source.text t).rawLines ↔ PairedReturns t) ∧
    (∀ r : Reader,
      r.parse (.feed (.universal t)) = r.parse (.text t) ∧
      (∀ items, Lined t items →
        r.parse (.list items) = r.parse (.text t) ∧ r.parse (.feed { items }) = r.parse (.text t)) ∧
      (PairedReturns t → r.parse (.feed (.ofStream t)) = r.parse (.text t))) ∧
    (∀ (s : Settings) (host : Host) path encoding strict bytes, host.read path = .ok bytes →
      host.Spells (s.encodingName encoding) bytes t →
      (s.parseFile host path encoding strict).result = ((s.reader strict).parse (.text t)).result) ∧
    (∀ settings host arguments options,
      Command.plan settings arguments = .ok options → Command.Takes host options t →
      (∀ p, ((Command.reader settings options).parse (.text t)).result = .ok p →
        (Command.run settings host arguments).output = (Report.of p options.style).text ∧
          (Command.run settings host arguments).escaped = (Report.of p options.style).fault) ∧
      ∀ fault, ((Command.reader settings options).parse (.text t)).result = .error fault →
        (Command.run settings host arguments).output = [] ∧
        (Command.complaint? options.path fault = none →
          (Command.run settings host arguments).escaped = some fault) ∧
        ∀ message, Command.complaint? options.path fault = some message →
          (Command.run settings host arguments).code = some 1) := by
  have hstream : (Source.feed (.ofStream t)).rawLines = (Source.text t).rawLines ↔ PairedReturns t :=
    Text.stream_eq_lines_iff
  refine ⟨Source.rawLines_universal t, ⟨t.ownLines, Text.lined_ownLines t, fun items h => ?_⟩,
    fun items h => ⟨Source.rawLines_list h, Source.rawLines_feed h⟩, hstream,
    fun r => ⟨r.parse_universal t, fun items h => ?_, fun hpaired => ?_⟩,
    fun s host path encoding strict bytes hread hspells => ?_,
    fun settings host arguments options hplan htakes => ?_⟩
  · exact (Text.lined_iff.mp h).symm
  · exact ⟨r.parse_congr (Source.rawLines_list h) rfl, r.parse_congr (Source.rawLines_feed h) rfl⟩
  · exact r.parse_congr (hstream.mpr hpaired) rfl
  · exact Settings.result_parseFile hread hspells strict
  · rw [← htakes.program, Command.run_of_plan hplan]
    refine ⟨fun p hp => ?_, fun fault hfault => ?_⟩
    · rw [Command.execute_of_ok hp]
      exact ⟨rfl, rfl⟩
    · cases hcomplaint : Command.complaint? options.path fault with
      | none =>
        rw [Command.execute_of_no_complaint hfault hcomplaint]
        exact ⟨rfl, fun _ => rfl, nofun⟩
      | some message =>
        rw [Command.execute_of_complaint hfault hcomplaint]
        exact ⟨rfl, nofun, fun _ _ => rfl⟩

/-- A carriage return on its own ends a line of the text, of a file and of the command's input, but not
    of a stream whose line ends are left alone. -/
theorem sources_agree_lone_return :
    (Source.list ["G\r".toText, ";".toText]).rawLines = ["G".toText, ";".toText] ∧
      (Source.feed (.ofStream "G\r;".toText)).rawLines ≠ (Source.text "G\r;".toText).rawLines ∧
      (Settings.parseFile {} (Storage.host ⟨[(["a".toText], .file [71, 13, 59])]⟩ []) "a".toText
          (some "latin-1".toText) none).result =
        .ok ⟨[{ index := 0, kind := .text, raw := "G".toText },
          { index := 1, kind := .comment, raw := ";".toText, comment := some ";".toText }]⟩ ∧
      (Command.run {} (Storage.host ⟨[(["a".toText], .file [71, 13, 59])]⟩ [])
          ["--summary".toText, "--encoding=latin-1".toText, "a".toText]).output =
        "COMMENT         1\nUNKNOWN_STRING  1\nTOTAL           2\n".toText := by
  obtain ⟨_, _, hown, hstream, _, hfile, hcommand⟩ := sources_agree "G\r;".toText
  have hspells : (Storage.host ⟨[(["a".toText], .file [71, 13, 59])]⟩ []).Spells "latin-1".toText
      [71, 13, 59] "G\r;".toText := ⟨by decide, Encoding.latin1.decode, rfl, rfl⟩
  have hplan : Command.plan {} ["--summary".toText, "--encoding=latin-1".toText, "a".toText] =
      .ok { path := "a".toText, encoding := some "latin-1".toText, style := .summary,
            permissive := false, verbose := 0, quiet := false, logLevel := none } := rfl
  have htakes : Command.Takes (Storage.host ⟨[(["a".toText], .file [71, 13, 59])]⟩ [])
      { path := "a".toText, encoding := some "latin-1".toText, style := .summary,
        permissive := false, verbose := 0, quiet := false, logLevel := none } "G\r;".toText :=
    .file (by decide) rfl rfl hspells
  refine ⟨(hown _ (Text.lined_iff.mpr (by decide))).1, fun heq => ?_,
    (hfile {} _ _ (some "latin-1".toText) none _ rfl hspells).trans rfl,
    ((hcommand {} _ _ _ hplan htakes).1 _ rfl).1⟩
  rcases hstream.mp heq ['G'] [';'] rfl with hnil | hhead
  · exact absurd hnil (by simp)
  · exact absurd hhead (by decide)

end PartProgram
