/-
  Asking for more and for less.

  1. **Program** — `Settings.level` goes through a cascade: a name, forced tracing, the count of requests to
     be more verbose, the wish to be quiet, the environment.  The first that has something to say decides.

  2. **Specification** — two runs compared: with ONE MORE request the level is no higher, so that no record
     is lost; with the wish to be QUIET it is no lower, so that no record is gained.

  3. **Where it fails (`LeftOpen`)** — a request, and the wish to be quiet, name a level of their own, and
     take the place of the environment's.  If nothing else decides, and the environment asks for more than
     the first request does, or for less than a quiet command, then this raises or lowers the level
     against its purpose.  These are the only cases.

  4. **One step at a time** — from the first request on, each further one goes down the levels
     (`rank_requested_succ_le`); it is the step from none to one that leaves the environment.
-/
import PartProgram.Command.Run

namespace PartProgram

/-! ## Levels by name -/

theorem Level.ofName?_eq_some_iff {t : Text} {level : Level} :
    ofName? t = some level ↔ t = level.name.toText := by
  constructor
  · intro h
    have hname := List.find?_some h
    exact (eq_of_beq hname).symm
  · rintro rfl
    cases level <;> decide

theorem Level.rank_trace_le (level : Level) : rank .trace ≤ level.rank := by
  cases level <;> decide

namespace Settings

/-- `NamesLevel name` — there is a name, and in upper case it is that of a level. -/
def NamesLevel (name : Option Text) : Prop :=
  ∃ t ∈ name, ∃ level : Level, Text.upper t = level.name.toText

/-- A named level is taken; without one, the cascade goes on. -/
theorem level_eq (s : Settings) (name : Option Text) (verbose : Int) (quiet : Bool) :
    (s.level name verbose quiet).2 =
      (name.bind fun t => Level.ofName? (Text.upper t)).getD (s.unnamedLevel verbose quiet) := by
  rcases name with _ | _ | ⟨c, t⟩
  · rfl
  · rfl
  · rw [Settings.level, Option.bind_some]
    · cases Level.ofName? (Text.upper (c :: t)) <;> rfl
    · exact List.cons_ne_nil c t

theorem level_of_namesLevel {name : Option Text} (h : NamesLevel name) (s : Settings) :
    ∃ level, ∀ verbose quiet, (s.level name verbose quiet).2 = level := by
  obtain ⟨t, rfl, level, ht⟩ := h
  refine ⟨level, fun verbose quiet => ?_⟩
  rw [level_eq, Option.bind_some, Level.ofName?_eq_some_iff.mpr ht]
  rfl

theorem level_of_not_namesLevel {name : Option Text} (h : ¬ NamesLevel name) (s : Settings) (verbose : Int)
    (quiet : Bool) : (s.level name verbose quiet).2 = s.unnamedLevel verbose quiet := by
  have hnone : (name.bind fun t => Level.ofName? (Text.upper t)) = none := by
    apply Option.eq_none_iff_forall_ne_some.mpr
    intro level hlevel
    obtain ⟨t, ht, hname⟩ := Option.bind_eq_some_iff.mp hlevel
    exact h ⟨t, ht, level, Level.ofName?_eq_some_iff.mp hname⟩
  rw [level_eq, hnone]
  rfl

/-! ## The cascade -/

/-- The level of the first request to be more verbose, of the second, and of all others. -/
def requested : Nat → Level
  | 0 => .info
  | 1 => .debug
  | _ => .trace

theorem rank_requested_succ_le (n : Nat) : (requested (n + 1)).rank ≤ (requested n).rank := by
  match n with
  | 0 => decide
  | 1 => decide
  | n + 2 => exact Nat.le_refl _

/-- The level that the environment leaves if nothing else decides. -/
def ownLevel (s : Settings) : Level := (Level.ofName? s.logLevel).getD .warning

theorem unnamedLevel_zero (s : Settings) (quiet : Bool) :
    s.unnamedLevel (0 : Nat) quiet =
      if s.traceAll && !quiet then .trace else if quiet then .error else s.ownLevel := rfl

theorem unnamedLevel_succ (s : Settings) (verbose : Nat) (quiet : Bool) :
    s.unnamedLevel (verbose + 1 : Nat) quiet =
      if s.traceAll && !quiet then .trace else requested verbose := by
  match verbose with
  | 0 => rfl
  | 1 => rfl
  | n + 2 =>
    unfold unnamedLevel
    rw [if_pos (show (3 : Int) ≤ (n + 2 + 1 : Nat) by omega)]
    rfl

/-- One more request, without a name.  It is the first one that takes the place of the environment. -/
theorem rank_unnamedLevel_verbose_iff (s : Settings) (verbose : Nat) (quiet : Bool) :
    (s.unnamedLevel (verbose + 1 : Nat) quiet).rank ≤ (s.unnamedLevel verbose quiet).rank ↔
      ¬ (s.traceAll = false ∧ verbose = 0 ∧ quiet = false ∧
        (s.ownLevel = .trace ∨ s.ownLevel = .debug)) := by
  rw [unnamedLevel_succ]
  cases verbose with
  | zero =>
    rw [unnamedLevel_zero]
    cases quiet with
    | true =>
      have hle : Level.rank .info ≤ Level.rank .error := by decide
      refine iff_of_true ?_ fun h => absurd h.2.2.1 (by decide)
      cases s.traceAll <;> exact hle
    | false =>
      cases s.traceAll with
      | true => exact iff_of_true (Nat.le_refl _) fun h => absurd h.1 (by decide)
      | false =>
        show Level.rank .info ≤ s.ownLevel.rank ↔ _
        cases s.ownLevel <;> decide
  | succ n =>
    rw [unnamedLevel_succ]
    refine iff_of_true ?_ fun h => absurd h.2.1 (Nat.succ_ne_zero n)
    split
    · exact Nat.le_refl _
    · exact rank_requested_succ_le n

/-- The wish to be quiet, without a name.  It counts only if nothing asks for more. -/
theorem rank_unnamedLevel_quiet_iff (s : Settings) (verbose : Nat) :
    (s.unnamedLevel verbose false).rank ≤ (s.unnamedLevel verbose true).rank ↔
      ¬ (s.traceAll = false ∧ verbose = 0 ∧ s.ownLevel = .critical) := by
  cases verbose with
  | zero =>
    rw [unnamedLevel_zero, unnamedLevel_zero]
    cases s.traceAll with
    | true => exact iff_of_true (Level.rank_trace_le .error) fun h => absurd h.1 (by decide)
    | false =>
      show s.ownLevel.rank ≤ Level.rank .error ↔ _
      cases s.ownLevel <;> decide
  | succ n =>
    rw [unnamedLevel_succ, unnamedLevel_succ]
    refine iff_of_true ?_ fun h => absurd h.2.1 (Nat.succ_ne_zero n)
    cases s.traceAll with
    | true => exact Level.rank_trace_le (requested n)
    | false => exact Nat.le_refl _

/-! ## The environment -/

section

variable (lookup : String → Option Text)

/-- `AsksFor lookup level` — the environment names the level, in any mixture of cases and with blanks
    around it. -/
def AsksFor (level : Level) : Prop :=
  ∃ t ∈ lookup "GPARSE_LOG_LEVEL", Text.upper t.trim = level.name.toText

/-- `ForcesTrace lookup` — the environment answers yes to tracing. -/
def ForcesTrace : Prop := (lookup "GPARSE_TRACE").bind flag? = some true

theorem traceAll_iff : (ofEnvironment lookup).traceAll = true ↔ ForcesTrace lookup := by
  show ((lookup "GPARSE_TRACE").bind flag?).getD false = true ↔ _
  unfold ForcesTrace
  rcases (lookup "GPARSE_TRACE").bind flag? with _ | _ | _ <;> simp

/-- But for warnings, which are also what is left without a name, the environment's level is one that it
    asks for. -/
theorem ownLevel_eq_iff {level : Level} (h : level ≠ .warning) :
    (ofEnvironment lookup).ownLevel = level ↔ AsksFor lookup level := by
  unfold ownLevel AsksFor
  show (Level.ofName? (Text.upper (Text.trim ((lookup "GPARSE_LOG_LEVEL").getD _)))).getD .warning = _ ↔ _
  cases lookup "GPARSE_LOG_LEVEL" with
  | none =>
    have hdefault : Level.ofName? (Text.upper (Text.trim "WARNING".toText)) = some .warning := by decide +kernel
    refine iff_of_false ?_ (by simp)
    intro heq
    exact h (heq.symm.trans (congrArg (Option.getD · .warning) hdefault))
  | some t =>
    simp only [Option.getD_some, Option.mem_some_iff, exists_eq_left']
    rw [← Level.ofName?_eq_some_iff]
    cases Level.ofName? (Text.upper t.trim) with
    | none => exact iff_of_false (Ne.symm h) nofun
    | some level' => simp

/-- The level of a command in the environment. -/
def chosenLevel (name : Option Text) (verbose : Nat) (quiet : Bool) : Level :=
  ((ofEnvironment lookup).level name verbose quiet).2

/-- `LeftOpen lookup name verbose` — no level is named, tracing is not forced and nothing asks for more: it
    is left to the wish to be quiet, and to the level of the environment. -/
structure LeftOpen (name : Option Text) (verbose : Nat) : Prop where
  unnamed : ¬ NamesLevel name
  untraced : ¬ ForcesTrace lookup
  unasked : verbose = 0

variable {lookup} {name : Option Text} {verbose : Nat} {quiet : Bool}

theorem leftOpen_iff : LeftOpen lookup name verbose ↔
    ¬ NamesLevel name ∧ (ofEnvironment lookup).traceAll = false ∧ verbose = 0 := by
  rw [← Bool.not_eq_true, traceAll_iff]
  constructor
  · rintro ⟨hname, huntraced, hunasked⟩
    exact ⟨hname, huntraced, hunasked⟩
  · rintro ⟨hname, huntraced, hunasked⟩
    exact ⟨hname, huntraced, hunasked⟩

/-- A name decides two runs alike.  So their levels are in order unless they are not without a name. -/
theorem rank_chosenLevel_iff {verbose' : Nat} {quiet' : Bool} {fails : Prop}
    (h : ((ofEnvironment lookup).unnamedLevel verbose quiet).rank ≤
      ((ofEnvironment lookup).unnamedLevel verbose' quiet').rank ↔ ¬ fails) :
    (chosenLevel lookup name verbose quiet).rank ≤ (chosenLevel lookup name verbose' quiet').rank ↔
      ¬ (¬ NamesLevel name ∧ fails) := by
  unfold chosenLevel
  by_cases hname : NamesLevel name
  · obtain ⟨level, hlevel⟩ := level_of_namesLevel hname (ofEnvironment lookup)
    rw [hlevel, hlevel]
    exact iff_of_true (Nat.le_refl _) fun hfails => hfails.1 hname
  · rw [level_of_not_namesLevel hname, level_of_not_namesLevel hname, h, and_iff_right hname]

/-- **One more request** raises the level in one case only. -/
theorem rank_verbose_iff :
    (chosenLevel lookup name (verbose + 1) quiet).rank ≤ (chosenLevel lookup name verbose quiet).rank ↔
      ¬ (LeftOpen lookup name verbose ∧ quiet = false ∧
        (AsksFor lookup .trace ∨ AsksFor lookup .debug)) := by
  rw [rank_chosenLevel_iff (rank_unnamedLevel_verbose_iff (ofEnvironment lookup) verbose quiet), leftOpen_iff,
    ownLevel_eq_iff lookup (by decide), ownLevel_eq_iff lookup (by decide), and_assoc, and_assoc]

/-- **The wish to be quiet** lowers the level in one case only. -/
theorem rank_quiet_iff :
    (chosenLevel lookup name verbose false).rank ≤ (chosenLevel lookup name verbose true).rank ↔
      ¬ (LeftOpen lookup name verbose ∧ AsksFor lookup .critical) := by
  rw [rank_chosenLevel_iff (rank_unnamedLevel_quiet_iff (ofEnvironment lookup) verbose), leftOpen_iff,
    ownLevel_eq_iff lookup (by decide), and_assoc, and_assoc]

end

/-- A level is no higher than another one exactly if it keeps every record that the other keeps. -/
theorem reaches_iff {level level' : Level} :
    (∀ r : Record, r.reaches level'.rank = true → r.reaches level.rank = true) ↔
      level.rank ≤ level'.rank := by
  constructor
  · intro h
    have hreaches := h { level := level', log := [], message := [] } (decide_eq_true (Int.le_refl _))
    exact Int.ofNat_le.mp (of_decide_eq_true hreaches)
  · intro h r hr
    have hreaches : (level'.rank : Int) ≤ r.level.rank := of_decide_eq_true hr
    exact decide_eq_true (by omega)

/-- **Asking for more and for less.**  For every environment, every name of a level or none, every count of
    requests to be more verbose, whether quiet or not:
    (1) one more request leaves the level where it is or lowers it, so that every record which was kept is
        kept, unless it is the first one, nothing else decides, and the environment asks for `TRACE` or
        `DEBUG`: the first request stands for `INFO` and takes the place of these;
    (2) the wish to be quiet leaves the level where it is or raises it, so that every record which is kept
        was kept, unless nothing else decides and the environment asks for `CRITICAL`: to be quiet stands
        for `ERROR`, and takes the place of this. -/
theorem verbosity_monotone (lookup : String → Option Text) (name : Option Text) (verbose : Nat)
    (quiet : Bool) :
    (((chosenLevel lookup name (verbose + 1) quiet).rank ≤ (chosenLevel lookup name verbose quiet).rank ↔
        ¬ (LeftOpen lookup name verbose ∧ quiet = false ∧
          (AsksFor lookup .trace ∨ AsksFor lookup .debug))) ∧
      ((∀ r : Record, r.reaches (chosenLevel lookup name verbose quiet).rank = true →
          r.reaches (chosenLevel lookup name (verbose + 1) quiet).rank = true) ↔
        ¬ (LeftOpen lookup name verbose ∧ quiet = false ∧
          (AsksFor lookup .trace ∨ AsksFor lookup .debug)))) ∧
    ((chosenLevel lookup name verbose false).rank ≤ (chosenLevel lookup name verbose true).rank ↔
        ¬ (LeftOpen lookup name verbose ∧ AsksFor lookup .critical)) ∧
      ((∀ r : Record, r.reaches (chosenLevel lookup name verbose true).rank = true →
          r.reaches (chosenLevel lookup name verbose false).rank = true) ↔
        ¬ (LeftOpen lookup name verbose ∧ AsksFor lookup .critical)) :=
  ⟨⟨rank_verbose_iff, reaches_iff.trans rank_verbose_iff⟩, rank_quiet_iff,
    reaches_iff.trans rank_quiet_iff⟩

/-- An environment that sets the log level, and nothing else. -/
def onlyLevel (level : String) (key : String) : Option Text :=
  if key = "GPARSE_LOG_LEVEL" then some level.toText else none

/-- With warnings in the environment, a request shows more and the wish to be quiet shows less. -/
theorem verbosity_monotone_warnings :
    (chosenLevel (onlyLevel " Warning ") none 1 false).rank ≤
        (chosenLevel (onlyLevel " Warning ") none 0 false).rank ∧
      (chosenLevel (onlyLevel " Warning ") none 0 false).rank ≤
        (chosenLevel (onlyLevel " Warning ") none 0 true).rank := by
  have hno : ∀ level : Level, level ≠ .warning → ¬ AsksFor (onlyLevel " Warning ") level := by
    rintro level hne ⟨t, ht, hname⟩
    obtain rfl : " Warning ".toText = t := Option.some.inj ht
    have hwarning : Level.ofName? (Text.upper (Text.trim " Warning ".toText)) = some .warning := by
      decide +kernel
    have hlevel := Level.ofName?_eq_some_iff.mpr hname
    exact hne (Option.some.inj (hlevel.symm.trans hwarning))
  obtain ⟨⟨hverbose, _⟩, hquiet, _⟩ := verbosity_monotone (onlyLevel " Warning ") none 0 false
  refine ⟨hverbose.mpr ?_, hquiet.mpr ?_⟩
  · rintro ⟨_, _, htrace | hdebug⟩
    · exact hno .trace (by decide) htrace
    · exact hno .debug (by decide) hdebug
  · rintro ⟨_, hcritical⟩
    exact hno .critical (by decide) hcritical

/-- The level of the environment gives way: one request raises `TRACE` to `INFO`, and the wish to be quiet
    lowers `CRITICAL` to `ERROR`. -/
theorem verbosity_replaces_environment :
    ¬ (chosenLevel (onlyLevel "TRACE") none (0 + 1) false).rank ≤
        (chosenLevel (onlyLevel "TRACE") none 0 false).rank ∧
      ¬ (chosenLevel (onlyLevel "CRITICAL") none 0 false).rank ≤
        (chosenLevel (onlyLevel "CRITICAL") none 0 true).rank := by
  decide +kernel

end Settings

end PartProgram
