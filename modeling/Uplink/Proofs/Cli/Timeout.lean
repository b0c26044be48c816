import Uplink.Cli.Parse
import Uplink.Proofs.Number.Seconds

/-!
# What is taken as a timeout

A timeout is refused if it is not finite or negative, and that is asked before it is made a duration.
So between the longest duration and the largest finite number there are numbers that are neither
refused nor taken: for them the program breaks down. Nothing else on a command line does that. Every
other fault is one that is reported, so it is enough to follow which marks a breakdown can stem from.

## Main definitions

- `FailsBy`: what is tried breaks the program down only by a timeout among some marks.

## Main results

- `Draft.readTimeout_outcome`: which texts are taken, which are refused, and which break the program
  down.
- `Draft.timeout_breaks_down`: there are texts of the last kind.
- `CommandLine.exists_overflow_of_breakdown`: a command line breaks the program down only by a
  timeout that overflows.
-/

namespace Uplink.Cli

open Decimal (Spells)
open Seconds (Fits Overflows Approximates)

namespace Draft

/-- Only a number that overflows breaks the program down. -/
theorem overflows_of_breakdown {text reason : String}
    (breaks : readTimeout text = .error (.breakdown reason)) :
    ∃ x, Spells x text.toList ∧ Overflows x := by
  have reading := Seconds.reads text
  unfold readTimeout at breaks
  generalize Seconds.read text = outcome at reading breaks
  cases reading with
  | fits | neither => cases breaks
  | overflows spells excess => exact ⟨_, spells, excess⟩

/-- A text is taken as a timeout exactly if it spells a number that fits, and then the timeout is a
duration that is that number but for rounding. It breaks the program down exactly if it spells a
number that overflows. Every other text is refused, with a message that quotes it. -/
theorem readTimeout_outcome (text : String) :
    ((∃ d, readTimeout text = .ok d) ↔ ∃ x, Spells x text.toList ∧ Fits x) ∧
    (∀ d, readTimeout text = .ok d →
      ∃ x, Spells x text.toList ∧ Fits x ∧ Approximates d x.magnitude) ∧
    ((∃ reason, readTimeout text = .error (.breakdown reason)) ↔
      ∃ x, Spells x text.toList ∧ Overflows x) ∧
    ((∀ x, Spells x text.toList → ¬ Fits x ∧ ¬ Overflows x) →
      readTimeout text =
        .error (.invalidValue Flag.timeout.label text s!"invalid number of seconds: {text}")) := by
  have reading := Seconds.reads text
  unfold readTimeout
  generalize Seconds.read text = outcome at reading
  cases reading with
  | @fits x d spells fits near =>
    refine ⟨iff_of_true ⟨d, rfl⟩ ⟨x, spells, fits⟩, fun d' same => ?_,
      iff_of_false nofun ?_, fun refused => absurd fits (refused x spells).1⟩
    · obtain rfl := Except.ok.inj same
      exact ⟨x, spells, fits, near⟩
    · rintro ⟨y, spells', excess⟩
      obtain rfl := spells.unique spells'
      exact excess.not_fits fits
  | @overflows x spells excess =>
    refine ⟨iff_of_false nofun ?_, nofun, iff_of_true ⟨_, rfl⟩ ⟨x, spells, excess⟩,
      fun refused => absurd excess (refused x spells).2⟩
    rintro ⟨y, spells', fits⟩
    obtain rfl := spells.unique spells'
    exact excess.not_fits fits
  | neither refused =>
    refine ⟨iff_of_false nofun ?_, nofun, iff_of_false nofun ?_, fun _ => rfl⟩
    · rintro ⟨x, spells, fits⟩
      exact (refused x spells).1 fits
    · rintro ⟨x, spells, excess⟩
      exact (refused x spells).2 excess

/-- One and a half seconds are taken; infinitely many are refused. -/
theorem readTimeout_outcome_half :
    readTimeout "1.5" = .ok ⟨1500000000⟩ ∧
    (∃ x, Spells x "1.5".toList ∧ Fits x ∧ Approximates ⟨1500000000⟩ x.magnitude) ∧
    (∀ x, Spells x "inf".toList → ¬ Fits x ∧ ¬ Overflows x) ∧
    readTimeout "inf" =
      .error (.invalidValue "--timeout <TIMEOUT>" "inf" "invalid number of seconds: inf") := by
  have taken : readTimeout "1.5" = .ok ⟨1500000000⟩ := by decide +kernel
  have refused : ∀ x, Spells x "inf".toList → ¬ Fits x ∧ ¬ Overflows x := by
    intro x spells
    have unread : Decimal.read? "inf".toList = none := by decide
    rw [Decimal.read?_eq_some_iff.mpr spells] at unread
    cases unread
  obtain ⟨-, number, -, -⟩ := readTimeout_outcome "1.5"
  obtain ⟨-, -, -, refuses⟩ := readTimeout_outcome "inf"
  exact ⟨taken, number _ taken, refused, refuses refused⟩

/-- Not every text is taken or refused: ten to the power of twenty seconds are finite, but no
duration. -/
theorem timeout_breaks_down : ¬ ∀ text reason, readTimeout text ≠ .error (.breakdown reason) := by
  intro never
  have breaks : readTimeout "1e20" = .error (.breakdown Seconds.ReadError.tooLong.message) := by
    decide +kernel
  exact never _ _ breaks

end Draft

/-! ## Whole command lines -/

/-- A fault breaks the program down only on account of a timeout among some marks. -/
def Blames (marks : List Mark) (e : UsageError) : Prop :=
  ∀ reason, e = .breakdown reason →
    ∃ v, .option .timeout (some v) ∈ marks ∧ Draft.readTimeout v = .error e

/-- What is tried has such faults only. -/
def FailsBy {A : Type} (marks : List Mark) (tried : Except UsageError A) : Prop :=
  ∀ e, tried = .error e → Blames marks e

section

variable {A B : Type} {marks more : List Mark} {e : UsageError} {tried : Except UsageError A}
  {c : Subcommand} {d : Draft} {f : Flag}

theorem Blames.mono (blames : Blames marks e) (among : marks ⊆ more) : Blames more e := by
  intro reason breaks
  obtain ⟨v, mem, fails⟩ := blames reason breaks
  exact ⟨v, among mem, fails⟩

theorem failsBy_ok (a : A) : FailsBy marks (.ok a) := nofun

theorem failsBy_error (blames : Blames marks e) : FailsBy marks (.error e : Except UsageError A) := by
  intro e' same
  obtain rfl := Except.error.inj same
  exact blames

/-- Of two steps the first one fails, or the second one. -/
theorem error_of_bind {next : A → Except UsageError B} (fails : (tried >>= next) = .error e) :
    tried = .error e ∨ ∃ a, tried = .ok a ∧ next a = .error e := by
  cases tried with
  | error e' =>
    obtain rfl : e' = e := Except.error.inj fails
    exact .inl rfl
  | ok a => exact .inr ⟨a, rfl, fails⟩

theorem FailsBy.bind {next : A → Except UsageError B} (first : FailsBy marks tried)
    (second : ∀ a, FailsBy marks (next a)) : FailsBy marks (tried >>= next) := by
  intro e fails
  obtain here | ⟨a, -, there⟩ := error_of_bind fails
  · exact first e here
  · exact second a e there

/-- What fails by none of its marks does not break the program down. -/
theorem FailsBy.not_breakdown {reason : String} (fails : FailsBy marks tried)
    (free : ∀ v, .option .timeout (some v) ∉ marks) : tried ≠ .error (.breakdown reason) := by
  intro breaks
  obtain ⟨v, mem, -⟩ := fails _ breaks reason rfl
  exact free v mem

namespace Draft

theorem failsBy_once : FailsBy marks (d.once f) := by
  unfold once
  split
  · exact failsBy_error nofun
  · exact failsBy_ok _

theorem failsBy_labelled {label v : String} (read : Except String A) :
    FailsBy marks (labelled label v read) := by
  cases read with
  | ok a => exact failsBy_ok a
  | error reason => exact failsBy_error nofun

/-- Of the values only a timeout can break the program down. -/
theorem failsBy_takeValue (v : String) : FailsBy [.option f (some v)] (d.takeValue f v) := by
  cases f with
  | staticAddress => exact failsBy_once.bind fun _ => failsBy_ok _
  | server => exact (failsBy_labelled _).bind fun _ => failsBy_ok _
  | gateway | minYear | interfaceKind =>
    exact failsBy_once.bind fun _ => (failsBy_labelled _).bind fun _ => failsBy_ok _
  | timeout =>
    refine failsBy_once.bind fun _ => FailsBy.bind ?_ fun _ => failsBy_ok _
    intro e fails reason breaks
    exact ⟨v, List.mem_singleton_self _, fails⟩
  | help | verbose | requireClock | events | apply => exact failsBy_ok _

theorem failsBy_takeFlag : FailsBy marks (d.takeFlag f) := by
  cases f with
  | verbose => exact failsBy_ok _
  | requireClock | events | apply => exact failsBy_once.bind fun _ => failsBy_ok _
  | help | staticAddress | gateway | server | minYear | timeout | interfaceKind =>
    exact failsBy_error nofun

theorem failsBy_take (m : Mark) : FailsBy [m] (d.take c m) := by
  cases m with
  | option f value =>
    cases value with
    | some v => exact failsBy_takeValue v
    | none => exact failsBy_takeFlag
  | operand v =>
    cases c with
    | encode => exact (failsBy_labelled _).bind fun _ => failsBy_ok _
    | interfaces | wait | decode => exact failsBy_ok _

theorem failsBy_takeAll : FailsBy marks (marks.foldlM (Draft.take c) d) := by
  induction marks generalizing d with
  | nil => exact failsBy_ok d
  | cons m marks ih =>
    rw [List.foldlM_cons]
    refine FailsBy.bind (fun e fails => ?_) fun a e fails => ?_
    · exact (failsBy_take m e fails).mono (List.cons_subset_cons m (List.nil_subset _))
    · exact (ih e fails).mono (List.subset_cons_self _ _)

theorem failsBy_finish : FailsBy marks (d.finish c) := by
  unfold Draft.finish
  cases c with
  | interfaces => exact failsBy_ok _
  | wait =>
    dsimp only
    split
    · exact failsBy_error nofun
    · exact failsBy_ok _
  | encode | decode =>
    dsimp only
    split
    · exact failsBy_ok _
    · exact failsBy_error nofun

/-- Where arguments end early, the mark that was held can still break the program down. -/
theorem blames_halt {s : Stop} (harmless : Blames [] s.error) :
    Blames s.held.toList (d.halt c s) := by
  unfold halt
  split
  next mark held =>
    rw [held]
    split
    next reason taken => exact failsBy_take mark _ taken
    next => exact harmless.mono (List.nil_subset _)
  next held =>
    rw [held]
    exact harmless

end Draft

namespace Marks

/-- The marks that are taken, with one that is held where the arguments end early. -/
def given (m : Marks) : List Mark := m.marks ++ (m.stop.bind Stop.held).toList

/-- Letters stand for options without a value. -/
theorem exists_of_mem_ofLetters {flags : List Flag} {cs : List Char} {m : Mark}
    (mem : m ∈ (ofLetters flags cs).1) : ∃ f, m = .option f none := by
  induction cs with
  | nil => cases mem
  | cons c cs ih =>
    unfold ofLetters at mem
    split at mem
    · cases mem
    next f _ =>
      obtain rfl | later := List.mem_cons.mp mem
      · exact ⟨f, rfl⟩
      · exact ih later

/-- Marks do not end early because of a breakdown. -/
def IsHarmless (m : Marks) : Prop := ∀ s, m.stop = some s → Blames [] s.error

theorem isHarmless_stop {ms : List Mark} {held : Option Mark} (harmless : Blames [] e) :
    IsHarmless ⟨ms, some ⟨e, held⟩⟩ := by
  rintro s ⟨⟩
  exact harmless

theorem isHarmless_readFrom (arguments : List String) (held : Option Mark)
    (awaits : Option Flag) (operands : Nat) (divided : Bool) :
    IsHarmless (readFrom c held awaits operands divided arguments) := by
  induction arguments generalizing held awaits operands divided with
  | nil => exact nofun
  | cons s rest ih =>
    unfold readFrom
    dsimp only
    have word : IsHarmless
        (if operands = 0 ∧ c.operand?.isSome then
          (readFrom c (some (.operand s)) none 1 divided rest).after held.toList
        else ⟨[], some ⟨.unknownArgument, held⟩⟩) := by
      split
      · exact ih _ _ _ _
      · exact isHarmless_stop nofun
    split
    next => exact word
    next =>
      split
      next => exact ih _ _ _ _
      next =>
        split
        · exact isHarmless_stop nofun
        · split
          · exact ih _ _ _ _
          · exact isHarmless_stop nofun
        · split
          · exact ih _ _ _ _
          · exact ih _ _ _ _
      next =>
        split
        · exact isHarmless_stop nofun
        · exact isHarmless_stop nofun
        · exact ih _ _ _ _
      next =>
        split
        · exact ih _ _ _ _
        · exact word

end Marks

namespace CommandLine

variable {arguments : List String}

theorem failsBy_readSubcommand (outer : Nat) (c : Subcommand) (arguments : List String) :
    FailsBy (Marks.read c arguments).given (readSubcommand outer c arguments) := by
  have harmless : (Marks.read c arguments).IsHarmless :=
    Marks.isHarmless_readFrom arguments none none 0 false
  unfold readSubcommand
  dsimp only
  generalize Marks.read c arguments = m at harmless
  refine FailsBy.bind (fun e fails => ?_) fun d => ?_
  · exact (Draft.failsBy_takeAll e fails).mono (List.subset_append_left _ _)
  · cases stop : m.stop with
    | some s =>
      refine failsBy_error ((Draft.blames_halt (harmless s stop)).mono ?_)
      rw [Marks.given, stop]
      exact List.subset_append_right _ _
    | none => exact Draft.failsBy_finish.bind fun _ => failsBy_ok _

theorem readHelp_ne_breakdown (names : List String) (reason : String) :
    readHelp names ≠ .breakdown reason := by
  unfold readHelp
  split
  · exact nofun
  · split
    · exact nofun
    · exact nofun
  · exact nofun

/-- A timeout of a subcommand among some arguments breaks the program down. -/
def Breaks (arguments : List String) (reason : String) : Prop :=
  ∃ name rest c v, name :: rest <:+ arguments ∧ Subcommand.ofName? name = some c ∧
    .option .timeout (some v) ∈ (Marks.read c rest).given ∧
    Draft.readTimeout v = .error (.breakdown reason)

theorem Breaks.cons {reason : String} (breaks : Breaks arguments reason) (s : String) :
    Breaks (s :: arguments) reason := by
  obtain ⟨name, rest, c, v, behind, found⟩ := breaks
  exact ⟨name, rest, c, v, behind.trans (List.suffix_cons s arguments), found⟩

theorem breaks_of_readFrom {reason : String} (verbosity : Nat) (divided : Bool)
    (fails : readFrom verbosity divided arguments = .error (.breakdown reason)) :
    Breaks arguments reason := by
  induction arguments generalizing verbosity divided with
  | nil =>
    unfold readFrom at fails
    split at fails <;> cases fails
  | cons s rest ih =>
    unfold readFrom at fails
    split at fails
    · split at fails <;> cases fails
    split at fails
    · exact absurd (Except.error.inj fails) (readHelp_ne_breakdown rest reason)
    split at fails
    next c named =>
      obtain ⟨v, mem, breakdown⟩ := failsBy_readSubcommand verbosity c rest _ fails reason rfl
      exact ⟨s, rest, c, v, List.suffix_rfl, named, mem, breakdown⟩
    next => exact (ih _ _ fails).cons s
    next =>
      split at fails
      · cases fails
      · cases fails
      · obtain now | ⟨d, -, later⟩ := error_of_bind fails
        · exact absurd now (Draft.failsBy_takeFlag.not_breakdown fun _ => List.not_mem_nil)
        · exact (ih _ _ later).cons s
    next cs =>
      obtain now | ⟨d, -, later⟩ := error_of_bind fails
      · refine absurd now (Draft.failsBy_takeAll.not_breakdown fun v mem => ?_)
        obtain ⟨f, same⟩ := Marks.exists_of_mem_ofLetters mem
        cases same
      · split at later
        · exact (ih _ _ later).cons s
        · cases later
    next => cases fails

/-- Reading a command line breaks the program down only by a timeout that is given to a subcommand
and overflows. -/
theorem exists_overflow_of_breakdown {reason : String}
    (breaks : parse arguments = .error (.breakdown reason)) :
    ∃ name rest c v x, name :: rest <:+ arguments ∧ Subcommand.ofName? name = some c ∧
      .option .timeout (some v) ∈ (Marks.read c rest).given ∧
      Spells x v.toList ∧ Overflows x := by
  obtain ⟨name, rest, c, v, behind, named, mem, fails⟩ := breaks_of_readFrom 0 false breaks
  obtain ⟨x, spells, excess⟩ := Draft.overflows_of_breakdown fails
  exact ⟨name, rest, c, v, x, behind, named, mem, spells, excess⟩

end CommandLine

end

end Uplink.Cli
