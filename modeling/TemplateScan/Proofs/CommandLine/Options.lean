import Mathlib.Data.List.Induction
import Mathlib.Data.Nat.Digits.Defs
import TemplateScan.CommandLine.Options

/-! # Arguments as a whole

Arguments are read one after the other, and the first that offends decides. This file says what they
come to without an order of reading: which lists of arguments are well formed (`WellFormed`), what the
options of such a list are (`Options.Describes`), and what any other list is rejected for
(`Rejected`). Every list is one or the other (`wellFormed_or_rejected`); what the reader does with it
follows from what it knows behind some of the arguments (`OptionsReader.Reads`).
-/

namespace TemplateScan

/-! ### Numbers of workers -/

section JobCount

variable {text digits : List Char} {count : Nat}

/-- The number that decimal digits stand for. -/
def decimalValue (digits : List Char) : Nat :=
  Nat.ofDigits 10 (digits.reverse.map (·.toNat - '0'.toNat))

/-- A text that asks for so many workers: decimal digits, with one plus sign in front of them or
none, of a positive value that fits into 64 bits. -/
structure IsJobCount (text : List Char) (count : Nat) : Prop where
  spelled : ∃ digits, (text = digits ∨ text = '+' :: digits) ∧ digits ≠ [] ∧
    (∀ digit ∈ digits, '0' ≤ digit ∧ digit ≤ '9') ∧ count = decimalValue digits
  positive : 1 ≤ count
  fits : count ≤ 2 ^ 64 - 1

theorem digitsValue_eq (digits : List Char) : digitsValue digits = decimalValue digits := by
  rw [digitsValue, decimalValue, Nat.ofDigits_eq_foldr, List.foldr_map, List.foldr_reverse]
  simp only [Nat.cast_id, Nat.add_comm]

theorem isDigit_iff {c : Char} : c.isDigit = true ↔ '0' ≤ c ∧ c ≤ '9' := by
  rw [Char.isDigit, Bool.and_eq_true, decide_eq_true_iff, decide_eq_true_iff]
  rfl

theorem unsignedDigits?_eq_some_iff :
    unsignedDigits? text = some digits ↔ (text = digits ∨ text = '+' :: digits) ∧ digits ≠ [] ∧
      ∀ digit ∈ digits, '0' ≤ digit ∧ digit ≤ '9' := by
  -- a sign is no digit, so only one of the two readings of a text is left
  have unsigned : ∀ c, '0' ≤ c ∧ c ≤ '9' → c ≠ '+' := by
    rintro c between rfl
    exact absurd between (by decide)
  simp only [unsignedDigits?, Option.ite_none_right_eq_some, List.all_eq_true, isDigit_iff,
    Option.some.injEq]
  split
  · next rest =>
      constructor
      · rintro ⟨spelled, rfl⟩
        exact ⟨.inr rfl, spelled⟩
      · rintro ⟨rfl | same, nonempty, all⟩
        · exact absurd rfl (unsigned '+' (all '+' List.mem_cons_self))
        · obtain ⟨_, rfl⟩ := List.cons.inj same
          exact ⟨⟨nonempty, all⟩, rfl⟩
  · next unmarked =>
      constructor
      · rintro ⟨spelled, rfl⟩
        exact ⟨.inl rfl, spelled⟩
      · rintro ⟨rfl | rfl, spelled⟩
        · exact ⟨spelled, rfl⟩
        · exact absurd rfl (unmarked digits)

theorem jobCount?_eq_some_iff : jobCount? text = some count ↔ IsJobCount text count := by
  rw [jobCount?, Option.filter_eq_some_iff, unsigned?, Option.filter_eq_some_iff,
    Option.map_eq_some_iff]
  constructor
  · rintro ⟨⟨⟨digits, found, rfl⟩, fits⟩, positive⟩
    obtain ⟨sign, nonempty, all⟩ := unsignedDigits?_eq_some_iff.mp found
    exact ⟨⟨digits, sign, nonempty, all, digitsValue_eq digits⟩, of_decide_eq_true positive,
      of_decide_eq_true fits⟩
  · rintro ⟨⟨digits, sign, nonempty, all, rfl⟩, positive, fits⟩
    exact ⟨⟨⟨digits, unsignedDigits?_eq_some_iff.mpr ⟨sign, nonempty, all⟩, digitsValue_eq digits⟩,
      decide_eq_true fits⟩, decide_eq_true positive⟩

end JobCount

/-! ### Single arguments -/

variable {command : Command} {before after rest arguments : List String} {argument value : String}
  {kind : TokenKind} {error : UsageError} {reader : OptionsReader}

/-- What starts with a dash is a flag, and anything else a path. -/
def IsFlag (argument : String) : Prop :=
  argument.toList.head? = some '-'

instance (argument : String) : Decidable (IsFlag argument) :=
  inferInstanceAs (Decidable (argument.toList.head? = some '-'))

/-- What the spelling of an argument means. -/
inductive Argument.Means (argument : String) : Argument → Prop where
  | restrict (kind : TokenKind) : restrictionFlag kind = argument → Means argument (.restrict kind)
  | jobs (value : String) : "--jobs=" ++ value = argument → Means argument (.jobs value)
  | verbose : "--verbose" = argument ∨ "-v" = argument → Means argument .verbose
  | unknown : IsFlag argument → (∀ kind, restrictionFlag kind ≠ argument) →
      (∀ value, "--jobs=" ++ value ≠ argument) → ¬ ("--verbose" = argument ∨ "-v" = argument) →
      Means argument .unknown
  | path : ¬ IsFlag argument → Means argument .path

namespace Argument

theorem isPrefixOf_jobsFlag_iff :
    jobsFlag.isPrefixOf argument.toList = true ↔ ∃ value, "--jobs=" ++ value = argument := by
  rw [List.isPrefixOf_iff_prefix]
  constructor
  · rintro ⟨value, parts⟩
    refine ⟨String.ofList value, ?_⟩
    rw [← @String.ofList_toList argument, ← parts, String.ofList_append]
    rfl
  · rintro ⟨value, rfl⟩
    rw [String.toList_append]
    exact List.prefix_append _ _

theorem drop_jobsFlag (value : String) :
    String.ofList (("--jobs=" ++ value).toList.drop jobsFlag.length) = value := by
  rw [String.toList_append]
  exact (congrArg String.ofList List.drop_left).trans String.ofList_toList

theorem jobs_ne {flag : String} (unmarked : jobsFlag.isPrefixOf flag.toList = false)
    (value : String) : "--jobs=" ++ value ≠ flag := by
  intro same
  rw [isPrefixOf_jobsFlag_iff.mpr ⟨value, same⟩] at unmarked
  cases unmarked

theorem isFlag_jobs (value : String) : IsFlag ("--jobs=" ++ value) := by
  rw [IsFlag, String.toList_append]
  rfl

theorem means_ofString (argument : String) : Means argument (ofString argument) := by
  rw [ofString]
  split
  · next same => exact .restrict .content same.symm
  split
  · next same => exact .restrict .comment same.symm
  split
  · next marked =>
      obtain ⟨value, rfl⟩ := isPrefixOf_jobsFlag_iff.mp marked
      rw [drop_jobsFlag]
      exact .jobs value rfl
  split
  · next same => exact .verbose (same.imp Eq.symm Eq.symm)
  split
  · next content comment unmarked quiet flag =>
      refine .unknown flag ?_ ?_ ?_
      · intro kind same
        cases kind with
        | content => exact content same.symm
        | comment => exact comment same.symm
      · intro value same
        exact unmarked (isPrefixOf_jobsFlag_iff.mpr ⟨value, same⟩)
      · exact fun same => quiet (same.imp Eq.symm Eq.symm)
  · next path => exact .path path

theorem ofString_of_means {meaning : Argument} (means : Means argument meaning) :
    ofString argument = meaning := by
  cases means with
  | restrict kind same =>
      subst same
      cases kind <;> rfl
  | jobs value same =>
      subst same
      rw [ofString, if_neg (jobs_ne rfl value), if_neg (jobs_ne rfl value),
        if_pos (isPrefixOf_jobsFlag_iff.mpr ⟨value, rfl⟩), drop_jobsFlag]
  | verbose same => rcases same with rfl | rfl <;> rfl
  | unknown flag unrestricted unmarked quiet =>
      rw [ofString, if_neg (unrestricted .content).symm, if_neg (unrestricted .comment).symm,
        if_neg (fun marked => (isPrefixOf_jobsFlag_iff.mp marked).elim unmarked),
        if_neg (fun same => quiet (same.imp Eq.symm Eq.symm))]
      exact if_pos flag
  | path unflagged =>
      -- every other meaning is one of a flag
      have means := means_ofString argument
      generalize ofString argument = meaning at means
      cases means with
      | restrict kind same =>
          subst same
          cases kind <;> exact absurd rfl unflagged
      | jobs value same =>
          subst same
          exact absurd (isFlag_jobs value) unflagged
      | verbose same => rcases same with rfl | rfl <;> exact absurd rfl unflagged
      | unknown flag => exact absurd flag unflagged
      | path => rfl

theorem ofString_eq_iff {meaning : Argument} :
    ofString argument = meaning ↔ Means argument meaning :=
  ⟨fun same => same ▸ means_ofString argument, ofString_of_means⟩

theorem restrictionFlag_eq_iff :
    restrictionFlag kind = argument ↔ ofString argument = .restrict kind := by
  rw [ofString_eq_iff]
  exact ⟨.restrict kind, fun | .restrict _ same => same⟩

theorem jobs_eq_iff : "--jobs=" ++ value = argument ↔ ofString argument = .jobs value := by
  rw [ofString_eq_iff]
  exact ⟨.jobs value, fun | .jobs _ same => same⟩

theorem verbose_eq_iff :
    "--verbose" = argument ∨ "-v" = argument ↔ ofString argument = .verbose := by
  rw [ofString_eq_iff]
  exact ⟨.verbose, fun | .verbose same => same⟩

theorem not_isFlag_iff : ¬ IsFlag argument ↔ ofString argument = .path := by
  rw [ofString_eq_iff]
  exact ⟨.path, fun | .path unflagged => unflagged⟩

end Argument

/-! ### What is asked for -/

/-- The number of workers that arguments ask for is that of the last of them that asks for one. -/
inductive JobsAsked (arguments : List String) : Option Nat → Prop where
  | never : (∀ value, "--jobs=" ++ value ∉ arguments) → JobsAsked arguments none
  | last (before after : List String) (value : String) (count : Nat) :
      arguments = before ++ ("--jobs=" ++ value) :: after → IsJobCount value.toList count →
      (∀ other, "--jobs=" ++ other ∉ after) → JobsAsked arguments (some count)

/-- The options that arguments ask for, wherever among the paths the flags stand. -/
structure Options.Describes (arguments : List String) (options : Options) : Prop where
  paths : options.paths = arguments.filter (¬ IsFlag ·)
  jobs : JobsAsked arguments options.jobs
  verbose : options.verbose = true ↔ "--verbose" ∈ arguments ∨ "-v" ∈ arguments
  restricted : ∀ kind, restrictionFlag kind ∈ arguments → options.offered = .only kind
  unrestricted : (∀ kind, restrictionFlag kind ∉ arguments) → options.offered = .everything

/-- What an argument is rejected for behind some others. -/
inductive Offends (before : List String) (argument : String) : UsageError → Prop where
  | unknown : Argument.Means argument .unknown → Offends before argument (.unknownOption argument)
  | jobs (value : String) : "--jobs=" ++ value = argument →
      (∀ count, ¬ IsJobCount value.toList count) → Offends before argument (.invalidJobs value)
  | conflict (first second : TokenKind) : first ≠ second → restrictionFlag first ∈ before →
      restrictionFlag second = argument →
      Offends before argument (.conflictingFlags (restrictionFlag first) (restrictionFlag second))

/-- No argument offends. -/
def Clean (arguments : List String) : Prop :=
  ∀ before argument after error, arguments = before ++ argument :: after →
    ¬ Offends before argument error

/-- The flags that do not offend by themselves. -/
inductive IsOption (argument : String) : Prop where
  | restrict (kind : TokenKind) : argument = restrictionFlag kind → IsOption argument
  | verbose : argument = "--verbose" ∨ argument = "-v" → IsOption argument
  | jobs (value : String) (count : Nat) : argument = "--jobs=" ++ value →
      IsJobCount value.toList count → IsOption argument

/-- Arguments behind a command that can be followed. -/
structure WellFormed (command : Command) (arguments : List String) : Prop where
  flags : ∀ argument ∈ arguments, IsFlag argument → IsOption argument
  compatible : ¬ (restrictionFlag .content ∈ arguments ∧ restrictionFlag .comment ∈ arguments)
  placed : ∀ kind, restrictionFlag kind ∈ arguments → command = .tokens
  input : ∃ argument ∈ arguments, ¬ IsFlag argument

/-- What arguments are rejected for: the leftmost one that offends, and only if there is none,
something about them all. -/
inductive Rejected : List String → UsageError → Prop where
  | missingCommand : Rejected [] .missingCommand
  | unknownCommand (name : String) (arguments : List String) :
      (∀ command : Command, name ≠ command.name) →
      Rejected (name :: arguments) (.unknownCommand name)
  | offence (command : Command) (before after : List String) (argument : String)
      (error : UsageError) : Clean before → Offends before argument error →
      Rejected (command.name :: (before ++ argument :: after)) error
  | misplaced (command : Command) (arguments : List String) (kind : TokenKind) :
      Clean arguments → restrictionFlag kind ∈ arguments → command ≠ .tokens →
      Rejected (command.name :: arguments) (.misplacedFlag (restrictionFlag kind))
  | noInput (command : Command) (arguments : List String) : Clean arguments →
      (∀ kind, restrictionFlag kind ∈ arguments → command = .tokens) →
      (∀ argument ∈ arguments, IsFlag argument) → Rejected (command.name :: arguments) .noInput

/-! ### One argument more -/

theorem restrictionFlag_mem_snoc : restrictionFlag kind ∈ before ++ [argument] ↔
    restrictionFlag kind ∈ before ∨ Argument.ofString argument = .restrict kind := by
  rw [List.mem_append, List.mem_singleton, Argument.restrictionFlag_eq_iff]

theorem verbose_mem_snoc :
    "--verbose" ∈ before ++ [argument] ∨ "-v" ∈ before ++ [argument] ↔
      ("--verbose" ∈ before ∨ "-v" ∈ before) ∨ Argument.ofString argument = .verbose := by
  rw [List.mem_append, List.mem_append, List.mem_singleton, List.mem_singleton,
    ← Argument.verbose_eq_iff, or_or_or_comm]

theorem paths_snoc : (before ++ [argument]).filter (¬ IsFlag ·) = before.filter (¬ IsFlag ·) ++
    if Argument.ofString argument = .path then [argument] else [] := by
  rw [List.filter_append, List.filter_cons, List.filter_nil]
  simp only [Argument.not_isFlag_iff, decide_eq_true_iff]

theorem JobsAsked.snoc {jobs : Option Nat} (asked : JobsAsked before jobs)
    (other : ∀ value, Argument.ofString argument ≠ .jobs value) :
    JobsAsked (before ++ [argument]) jobs := by
  have absent : ∀ {front : List String}, (∀ value, "--jobs=" ++ value ∉ front) →
      ∀ value, "--jobs=" ++ value ∉ front ++ [argument] := by
    intro front absent value
    rw [List.mem_append, List.mem_singleton, Argument.jobs_eq_iff]
    exact fun found => found.elim (absent value) (other value)
  cases asked with
  | never never => exact .never (absent never)
  | last front after value count parts counted last =>
      refine .last front (after ++ [argument]) value count ?_ counted (absent last)
      rw [parts, List.append_assoc]
      rfl

theorem clean_nil : Clean [] := by
  intro before argument after error parts
  simp at parts

theorem clean_snoc_iff : Clean (before ++ [argument]) ↔
    Clean before ∧ ∀ error, ¬ Offends before argument error := by
  constructor
  · intro clean
    refine ⟨?_, fun error => clean before argument [] error rfl⟩
    rintro front other after error rfl
    apply clean front other (after ++ [argument]) error
    rw [List.append_assoc]
    rfl
  · rintro ⟨clean, last⟩ front other after error parts
    rcases List.eq_nil_or_concat after with rfl | ⟨middle, final, rfl⟩
    · obtain ⟨rfl, rfl⟩ := List.append_singleton_inj.mp parts
      exact last error
    · rw [List.concat_eq_append, ← List.cons_append, ← List.append_assoc] at parts
      obtain ⟨rfl, _⟩ := List.append_singleton_inj.mp parts
      exact clean front other middle error rfl

/-! ### What the reader knows -/

namespace OptionsReader

/-- What is known about some arguments behind a command once they have been read. -/
structure Reads (command : Command) (before : List String) (reader : OptionsReader) : Prop where
  command : reader.options.command = command
  paths : reader.options.paths = before.filter (¬ IsFlag ·)
  jobs : JobsAsked before reader.options.jobs
  verbose : reader.options.verbose = true ↔ "--verbose" ∈ before ∨ "-v" ∈ before
  restriction : ∀ kind, reader.restriction = some kind ↔ restrictionFlag kind ∈ before
  offered : reader.options.offered = reader.restriction.elim .everything .only

theorem reads_nil (command : Command) : Reads command [] { options := { command := command } } where
  command := rfl
  paths := rfl
  jobs := .never fun _ => List.not_mem_nil
  verbose := by simp
  restriction := by simp
  offered := rfl

theorem Reads.describes (reads : reader.Reads command before) :
    reader.options.Describes before where
  paths := reads.paths
  jobs := reads.jobs
  verbose := reads.verbose
  restricted kind found := by rw [reads.offered, (reads.restriction kind).mpr found, Option.elim_some]
  unrestricted absent := by
    cases held : reader.restriction with
    | none => rw [reads.offered, held, Option.elim_none]
    | some kind => exact absurd ((reads.restriction kind).mp held) (absent kind)

theorem take_of_offends (reads : reader.Reads command before)
    (offence : Offends before argument error) : reader.take argument = .error error := by
  cases offence with
  | unknown means => rw [take, Argument.ofString_of_means means]
  | jobs value same invalid =>
      have uncounted : jobCount? value.toList = none := by
        apply Option.eq_none_iff_forall_ne_some.mpr
        intro count counted
        exact invalid count (jobCount?_eq_some_iff.mp counted)
      rw [take, Argument.jobs_eq_iff.mp same]
      simp only [uncounted]
  | conflict first second different earlier same =>
      rw [take, Argument.restrictionFlag_eq_iff.mp same]
      simp only [(reads.restriction first).mpr earlier, if_neg different]

/-- What a reader must have done with an argument to know about it, too. -/
theorem Reads.snoc {next : OptionsReader} (reads : reader.Reads command before)
    (followed : next.options.command = reader.options.command)
    (paths : next.options.paths = reader.options.paths ++
      if Argument.ofString argument = .path then [argument] else [])
    (jobs : JobsAsked (before ++ [argument]) next.options.jobs)
    (verbose : next.options.verbose = true ↔
      reader.options.verbose = true ∨ Argument.ofString argument = .verbose)
    (restriction : ∀ kind, next.restriction = some kind ↔
      reader.restriction = some kind ∨ Argument.ofString argument = .restrict kind)
    (offered : next.options.offered = next.restriction.elim .everything .only) :
    next.Reads command (before ++ [argument]) where
  command := followed.trans reads.command
  paths := by rw [paths, reads.paths, paths_snoc]
  jobs := jobs
  verbose := by rw [verbose, reads.verbose, verbose_mem_snoc]
  restriction kind := by rw [restriction, reads.restriction, restrictionFlag_mem_snoc]
  offered := offered

/-- A flag that restricts the offered kinds is taken where no other has done so before. -/
theorem exists_take_restrict (reads : reader.Reads command before)
    (meaning : Argument.ofString argument = .restrict kind)
    (alone : ∀ previous, restrictionFlag previous ∈ before → previous = kind) :
    ∃ next, reader.take argument = .ok next ∧ next.Reads command (before ++ [argument]) := by
  have jobs : JobsAsked (before ++ [argument]) reader.options.jobs :=
    reads.jobs.snoc (by simp [meaning])
  rw [take, meaning]
  cases held : reader.restriction with
  | none =>
      exact ⟨_, rfl, reads.snoc rfl (by simp [meaning]) jobs (by simp [meaning])
        (by simp [held, meaning]) rfl⟩
  | some previous =>
      obtain rfl := alone previous ((reads.restriction previous).mp held)
      exact ⟨reader, if_pos rfl, reads.snoc rfl (by simp [meaning]) jobs (by simp [meaning])
        (by simp [held, meaning]) reads.offered⟩

theorem exists_take_jobs (reads : reader.Reads command before) {count : Nat}
    (meaning : Argument.ofString argument = .jobs value) (valid : IsJobCount value.toList count) :
    ∃ next, reader.take argument = .ok next ∧ next.Reads command (before ++ [argument]) := by
  have last : JobsAsked (before ++ [argument]) (some count) :=
    .last before [] value count (by rw [Argument.jobs_eq_iff.mpr meaning]) valid
      fun _ => List.not_mem_nil
  refine ⟨{ reader with options := { reader.options with jobs := some count } }, ?_,
    reads.snoc rfl (by simp [meaning]) last (by simp [meaning]) (by simp [meaning]) reads.offered⟩
  rw [take, meaning]
  simp only [jobCount?_eq_some_iff.mpr valid]

theorem exists_take (reads : reader.Reads command before)
    (harmless : ∀ error, ¬ Offends before argument error) :
    ∃ next, reader.take argument = .ok next ∧ next.Reads command (before ++ [argument]) := by
  cases meaning : Argument.ofString argument with
  | restrict kind =>
      apply exists_take_restrict reads meaning
      intro previous earlier
      apply Classical.byContradiction
      intro different
      exact harmless _ (.conflict previous kind different earlier
        (Argument.restrictionFlag_eq_iff.mpr meaning))
  | jobs value =>
      by_cases valid : ∃ count, IsJobCount value.toList count
      · obtain ⟨count, valid⟩ := valid
        exact exists_take_jobs reads meaning valid
      · exact absurd (.jobs value (Argument.jobs_eq_iff.mpr meaning) (not_exists.mp valid))
          (harmless (.invalidJobs value))
  | verbose =>
      rw [take, meaning]
      exact ⟨_, rfl, reads.snoc rfl (by simp [meaning]) (reads.jobs.snoc (by simp [meaning]))
        (by simp [meaning]) (by simp [meaning]) reads.offered⟩
  | unknown =>
      have means := Argument.ofString_eq_iff.mp meaning
      exact absurd (.unknown means) (harmless (.unknownOption argument))
  | path =>
      rw [take, meaning]
      exact ⟨_, rfl, reads.snoc rfl (by simp [meaning]) (reads.jobs.snoc (by simp [meaning]))
        (by simp [meaning]) (by simp [meaning]) reads.offered⟩

theorem foldlM_take_split {start : OptionsReader} (run : before.foldlM take start = .ok reader) :
    (before ++ argument :: after).foldlM take start =
      (do let next ← reader.take argument; after.foldlM take next) := by
  rw [List.foldlM_append, run]
  rfl

theorem exists_foldlM_take (command : Command) (clean : Clean arguments) :
    ∃ reader : OptionsReader, reader.Reads command arguments ∧
      arguments.foldlM take { options := { command := command } } = .ok reader := by
  induction arguments using List.reverseRecOn with
  | nil => exact ⟨_, reads_nil command, rfl⟩
  | append_singleton before argument ih =>
      obtain ⟨clean, harmless⟩ := clean_snoc_iff.mp clean
      obtain ⟨reader, reads, run⟩ := ih clean
      obtain ⟨next, taken, reads⟩ := exists_take reads harmless
      refine ⟨next, reads, ?_⟩
      rw [foldlM_take_split run, taken]
      rfl

theorem foldlM_take_of_offends (clean : Clean before) (offence : Offends before argument error) :
    (before ++ argument :: after).foldlM take { options := { command := command } } =
      .error error := by
  obtain ⟨reader, reads, run⟩ := exists_foldlM_take command clean
  rw [foldlM_take_split run, take_of_offends reads offence]
  rfl

end OptionsReader

/-! ### All arguments -/

theorem exists_leftmost_offence (unclean : ¬ Clean arguments) :
    ∃ before argument after error, arguments = before ++ argument :: after ∧ Clean before ∧
      Offends before argument error := by
  induction arguments using List.reverseRecOn with
  | nil => exact absurd clean_nil unclean
  | append_singleton front last ih =>
      by_cases clean : Clean front
      · rw [clean_snoc_iff, not_and, not_forall] at unclean
        obtain ⟨error, offence⟩ := unclean clean
        exact ⟨front, last, [], error, rfl, clean, Classical.not_not.mp offence⟩
      · obtain ⟨before, argument, after, error, rfl, clean, offence⟩ := ih clean
        refine ⟨before, argument, after ++ [last], error, ?_, clean, offence⟩
        rw [List.append_assoc]
        rfl

theorem isOption_of_not_offends (harmless : ∀ error, ¬ Offends before argument error)
    (flag : IsFlag argument) : IsOption argument := by
  have means := Argument.means_ofString argument
  generalize Argument.ofString argument = meaning at means
  cases means with
  | restrict kind same => exact .restrict kind same.symm
  | jobs value same =>
      by_cases valid : ∃ count, IsJobCount value.toList count
      · obtain ⟨count, valid⟩ := valid
        exact .jobs value count same.symm valid
      · exact absurd (.jobs value same (not_exists.mp valid)) (harmless (.invalidJobs value))
  | verbose same => exact .verbose (same.imp Eq.symm Eq.symm)
  | unknown _ unrestricted unmarked quiet =>
      exact absurd (.unknown (.unknown flag unrestricted unmarked quiet)) (harmless _)
  | path unflagged => exact absurd flag unflagged

theorem IsOption.known (option : IsOption argument) : ¬ Argument.Means argument .unknown := by
  intro means
  cases means with
  | unknown _ unrestricted unmarked quiet =>
      cases option with
      | restrict kind same => exact unrestricted kind same.symm
      | verbose same => exact quiet (same.imp Eq.symm Eq.symm)
      | jobs value _ same => exact unmarked value same.symm

theorem IsOption.counted (option : IsOption argument) (same : "--jobs=" ++ value = argument) :
    ∃ count, IsJobCount value.toList count := by
  have meaning := Argument.jobs_eq_iff.mp same
  cases option with
  | restrict kind same =>
      rw [Argument.restrictionFlag_eq_iff.mp same.symm] at meaning
      cases meaning
  | verbose same =>
      rw [Argument.verbose_eq_iff.mp (same.imp Eq.symm Eq.symm)] at meaning
      cases meaning
  | jobs other count same valid =>
      rw [Argument.jobs_eq_iff.mp same.symm] at meaning
      cases meaning
      exact ⟨count, valid⟩

theorem not_offends_iff : (∀ error, ¬ Offends before argument error) ↔
    (IsFlag argument → IsOption argument) ∧
      ∀ first second, restrictionFlag first ∈ before → restrictionFlag second = argument →
        first = second := by
  constructor
  · intro harmless
    refine ⟨isOption_of_not_offends harmless, ?_⟩
    intro first second earlier same
    apply Classical.byContradiction
    intro different
    exact harmless _ (.conflict first second different earlier same)
  · rintro ⟨option, alone⟩ error offence
    cases offence with
    | unknown means =>
        cases means with
        | unknown flag unrestricted unmarked quiet =>
            exact (option flag).known (.unknown flag unrestricted unmarked quiet)
    | jobs value same invalid =>
        obtain ⟨count, valid⟩ := (option (same ▸ Argument.isFlag_jobs value)).counted same
        exact invalid count valid
    | conflict first second different earlier same => exact different (alone first second earlier same)

theorem restrictionFlag_inj {first second : TokenKind} (one : restrictionFlag first = argument)
    (other : restrictionFlag second = argument) : first = second := by
  rw [Argument.restrictionFlag_eq_iff] at one other
  exact Argument.restrict.inj (one.symm.trans other)

/-- Whether any argument offends does not depend on their order. -/
theorem clean_iff : Clean arguments ↔
    (∀ argument ∈ arguments, IsFlag argument → IsOption argument) ∧
      ∀ first second, restrictionFlag first ∈ arguments → restrictionFlag second ∈ arguments →
        first = second := by
  induction arguments using List.reverseRecOn with
  | nil => simp [clean_nil]
  | append_singleton before argument ih =>
      rw [clean_snoc_iff, ih, not_offends_iff, List.forall_mem_append, List.forall_mem_singleton]
      simp only [List.mem_append, List.mem_singleton]
      constructor
      · rintro ⟨⟨flags, alone⟩, flag, last⟩
        refine ⟨⟨flags, flag⟩, ?_⟩
        rintro first second (one | one) (other | other)
        · exact alone first second one other
        · exact last first second one other
        · exact (last second first other one).symm
        · exact restrictionFlag_inj one other
      · rintro ⟨⟨flags, flag⟩, alone⟩
        exact ⟨⟨flags, fun first second one other => alone first second (.inl one) (.inl other)⟩,
          flag, fun first second one other => alone first second (.inl one) (.inr other)⟩

theorem compatible_iff :
    ¬ (restrictionFlag .content ∈ arguments ∧ restrictionFlag .comment ∈ arguments) ↔
      ∀ first second, restrictionFlag first ∈ arguments → restrictionFlag second ∈ arguments →
        first = second := by
  constructor
  · intro compatible first second one other
    cases first <;> cases second
    · rfl
    · exact absurd ⟨one, other⟩ compatible
    · exact absurd ⟨other, one⟩ compatible
    · rfl
  · rintro alone ⟨one, other⟩
    cases alone .content .comment one other

theorem WellFormed.clean (formed : WellFormed command arguments) : Clean arguments :=
  clean_iff.mpr ⟨formed.flags, compatible_iff.mp formed.compatible⟩

theorem wellFormed_or_rejected (arguments : List String) :
    (∃ command rest, arguments = command.name :: rest ∧ WellFormed command rest) ∨
      ∃ error, Rejected arguments error := by
  cases arguments with
  | nil => exact .inr ⟨_, .missingCommand⟩
  | cons name rest =>
      by_cases known : ∃ command : Command, name = command.name
      · obtain ⟨command, rfl⟩ := known
        by_cases clean : Clean rest
        · by_cases placed : ∀ kind, restrictionFlag kind ∈ rest → command = .tokens
          · by_cases input : ∃ argument ∈ rest, ¬ IsFlag argument
            · obtain ⟨flags, alone⟩ := clean_iff.mp clean
              exact .inl ⟨command, rest, rfl, flags, compatible_iff.mpr alone, placed, input⟩
            · simp only [not_exists, not_and, Classical.not_not] at input
              exact .inr ⟨_, .noInput command rest clean placed input⟩
          · simp only [not_forall] at placed
            obtain ⟨kind, found, other⟩ := placed
            exact .inr ⟨_, .misplaced command rest kind clean found other⟩
        · obtain ⟨before, argument, after, error, rfl, clean, offence⟩ :=
            exists_leftmost_offence clean
          exact .inr ⟨error, .offence command before after argument error clean offence⟩
      · exact .inr ⟨_, .unknownCommand name rest (not_exists.mp known)⟩

namespace OptionsReader

theorem finish_of_misplaced (reads : reader.Reads command arguments)
    (found : restrictionFlag kind ∈ arguments) (other : command ≠ .tokens) :
    reader.finish = .error (.misplacedFlag (restrictionFlag kind)) := by
  have misplaced : reader.misplaced? = some kind := by
    rw [misplaced?, reads.command, if_neg other, (reads.restriction kind).mpr found]
  rw [finish, misplaced]

theorem finish_of_placed (reads : reader.Reads command arguments)
    (placed : ∀ kind, restrictionFlag kind ∈ arguments → command = .tokens) :
    reader.finish =
      if arguments.filter (¬ IsFlag ·) = [] then .error .noInput else .ok reader.options := by
  have unrestricted : reader.misplaced? = none := by
    rw [misplaced?, reads.command]
    split
    · rfl
    · next other =>
        apply Option.eq_none_iff_forall_ne_some.mpr
        intro kind held
        exact other (placed kind ((reads.restriction kind).mp held))
  rw [finish, unrestricted, reads.paths]

end OptionsReader

namespace Options

theorem parse_cons (command : Command) (rest : List String) :
    parse (command.name :: rest) =
      rest.foldlM OptionsReader.take { options := { command := command } } >>=
        OptionsReader.finish := by
  have named : Command.ofName? command.name = some command := by cases command <;> rfl
  rw [parse, named]

theorem parse_of_wellFormed (formed : WellFormed command rest) :
    ∃ options, parse (command.name :: rest) = .ok options ∧ options.command = command ∧
      options.Describes rest := by
  obtain ⟨reader, reads, run⟩ := OptionsReader.exists_foldlM_take command formed.clean
  refine ⟨reader.options, ?_, reads.command, reads.describes⟩
  have listed : rest.filter (¬ IsFlag ·) ≠ [] := by
    obtain ⟨argument, found, unflagged⟩ := formed.input
    exact List.ne_nil_of_mem (List.mem_filter.mpr ⟨found, decide_eq_true unflagged⟩)
  rw [parse_cons, run]
  exact (OptionsReader.finish_of_placed reads formed.placed).trans (if_neg listed)

theorem parse_of_rejected (rejected : Rejected arguments error) :
    parse arguments = .error error := by
  cases rejected with
  | missingCommand => rfl
  | unknownCommand name rest unknown =>
      have unnamed : Command.ofName? name = none := by
        rw [Command.ofName?]
        exact (if_neg (unknown .tokens)).trans (if_neg (unknown .segments))
      rw [parse, unnamed]
  | offence command before after argument error clean offence =>
      rw [parse_cons, OptionsReader.foldlM_take_of_offends clean offence]
      rfl
  | misplaced command rest kind clean found other =>
      obtain ⟨reader, reads, run⟩ := OptionsReader.exists_foldlM_take command clean
      rw [parse_cons, run]
      exact OptionsReader.finish_of_misplaced reads found other
  | noInput command rest clean placed flags =>
      obtain ⟨reader, reads, run⟩ := OptionsReader.exists_foldlM_take command clean
      have unlisted : rest.filter (¬ IsFlag ·) = [] := by
        apply List.filter_eq_nil_iff.mpr
        intro argument found
        simpa using flags argument found
      rw [parse_cons, run]
      exact (OptionsReader.finish_of_placed reads placed).trans (if_pos unlisted)

theorem exists_wellFormed_of_parse {options : Options} (parsed : parse arguments = .ok options) :
    ∃ command rest, arguments = command.name :: rest ∧ WellFormed command rest := by
  apply (wellFormed_or_rejected arguments).resolve_right
  rintro ⟨reason, rejected⟩
  rw [parse_of_rejected rejected] at parsed
  cases parsed

/-- What arguments come to. -/
structure Parsing (arguments : List String) : Prop where
  accepted : (∃ options, parse arguments = .ok options) ↔
    ∃ command rest, arguments = command.name :: rest ∧ WellFormed command rest
  described : ∀ options, parse arguments = .ok options →
    ∃ rest, arguments = options.command.name :: rest ∧ options.Describes rest
  rejected : ∀ error, parse arguments = .error error ↔ Rejected arguments error

/-- **Arguments are read as they are described.** Those that are well formed are accepted, with the
options that they describe; any others are rejected for the first reason there is. -/
theorem parsing (arguments : List String) : Parsing arguments where
  accepted := by
    constructor
    · rintro ⟨options, parsed⟩
      exact exists_wellFormed_of_parse parsed
    · rintro ⟨command, rest, rfl, formed⟩
      obtain ⟨options, parsed, _⟩ := parse_of_wellFormed formed
      exact ⟨options, parsed⟩
  described options parsed := by
    obtain ⟨command, rest, rfl, formed⟩ := exists_wellFormed_of_parse parsed
    obtain ⟨described, accepted, rfl, describes⟩ := parse_of_wellFormed formed
    rw [accepted] at parsed
    cases parsed
    exact ⟨rest, rfl, describes⟩
  rejected error := by
    refine ⟨?_, parse_of_rejected⟩
    intro failed
    rcases wellFormed_or_rejected arguments with ⟨command, rest, rfl, formed⟩ | ⟨reason, rejected⟩
    · obtain ⟨options, accepted, _⟩ := parse_of_wellFormed formed
      rw [accepted] at failed
      cases failed
    · rw [parse_of_rejected rejected] at failed
      cases failed
      exact rejected

end Options

end TemplateScan
