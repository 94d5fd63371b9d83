import Mathlib.Data.List.Induction
import Mathlib.Tactic.Choose
import TemplateScan.CommandLine.Invocation
import TemplateScan.Proofs.CommandLine.Options
import TemplateScan.Proofs.Log.Filter
import TemplateScan.Proofs.Report.Segments
import TemplateScan.Proofs.TokenStream

/-! # Results in the order of the files

Workers may finish in any order, but what they put into a slot is what the file of that slot comes to
(`Batch.fillSlots_eq`), so the slots hold the same results as if the files were processed one after
the other. What a file comes to depends on its path and on what is read there (`Batch.Tells`), and it
is never a fault. An invocation prints these results in the order of the files
(`Invocation.exists_reports`).
-/

namespace TemplateScan

namespace Batch

variable {paths : List String} {work : String → Checked FileResult}

/-! ### Slots -/

/-- The slots of the files that are finished hold what these come to, in whatever order they were
filled; the others are empty. -/
theorem fillSlots_eq (work : String → Checked FileResult) (paths : List String)
    (finished : List Nat) :
    fillSlots work paths finished =
      paths.mapIdx fun number path => if number ∈ finished then some (work path) else none := by
  induction finished using List.reverseRecOn with
  | nil =>
      apply List.ext_getElem?
      intro number
      rw [fillSlots, List.foldl_nil, List.getElem?_map, List.getElem?_mapIdx]
      simp only [List.not_mem_nil, if_false]
  | append_singleton finished last ih =>
      have step : fillSlots work paths (finished ++ [last]) =
          (fillSlots work paths finished).set last (paths[last]?.map work) := by
        rw [fillSlots, List.foldl_append]
        rfl
      rw [step, ih]
      apply List.ext_getElem?
      intro number
      rw [List.getElem?_set, List.getElem?_mapIdx, List.getElem?_mapIdx]
      by_cases here : last = number
      · subst here
        by_cases inside : last < paths.length
        · simp [inside]
        · simp [inside]
      · simp [here, Ne.symm here]

theorem fillSlots_of_all {finished : List Nat} (all : ∀ number < paths.length, number ∈ finished) :
    fillSlots work paths finished = paths.map fun path => some (work path) := by
  rw [fillSlots_eq]
  apply List.ext_getElem
  · simp
  · intro number inside _
    simp only [List.length_mapIdx] at inside
    simp [all number inside]

/-- Collecting slots that are empty or hold what their own files come to. -/
theorem collect_eq {slot : Nat → String → Option (Checked FileResult)}
    (own : ∀ number path, slot number path = none ∨ slot number path = some (work path)) :
    (((paths.mapIdx slot).zip paths).mapM fun (slot, path) => slot.getD (work path)) =
      paths.mapM work := by
  induction paths generalizing slot with
  | nil => rfl
  | cons path paths ih =>
      rw [List.mapIdx_cons, List.zip_cons_cons, List.mapM_cons, List.mapM_cons,
        ih fun number => own (number + 1)]
      rcases own 0 path with empty | filled
      · rw [empty]
        rfl
      · rw [filled]
        rfl

theorem runParallel_eq (options : Options) (read : FileReader) (finished : List Nat) :
    runParallel options read finished = runSequential options read := by
  rw [runParallel, fillSlots_eq]
  apply collect_eq
  intro number path
  split
  · exact .inr rfl
  · exact .inl rfl

theorem run_eq (options : Options) (read : FileReader) (finished : List Nat) :
    run options read finished = runSequential options read := by
  rw [run]
  split
  · exact runParallel_eq options read finished
  · rfl

/-! ### Single files -/

/-- What a file comes to, by what is read at its path. -/
inductive Tells (command : Command) (offered : Offered) (path : String) :
    Except ReadError Source → Except Failure String → Prop where
  | unread (cause : ReadError) :
      Tells command offered path (.error cause) (.error (.read path cause))
  | tokens (source : Source) (tokens : List Token) : command = .tokens →
      source.tokens offered = .ok tokens →
      Tells command offered path (.ok source) (.ok (Report.tokenListing path tokens))
  | segments (source : Source) (template : Template) (listing : String) : command = .segments →
      source.segment = .ok (.ok template) →
      Report.segmentListing path source template = .ok listing →
      Tells command offered path (.ok source) (.ok listing)
  /-- The place of the failure is where the span of the error starts. -/
  | broken (source : Source) (error : TemplateError) : command = .segments →
      source.segment = .ok (.error error) →
      Tells command offered path (.ok source)
        (.error (.template path (source.position error.span.start) error))

theorem exists_listTokens (path : String) (source : Source) (offered : Offered) :
    ∃ result, listTokens path source offered = .ok result ∧
      Tells .tokens offered path (.ok source) result.outcome := by
  obtain ⟨stream, run, _⟩ :=
    @TokenStream.run_eq_tokens source {} source.chars offered source.leavesAt_zero
  have streamed : source.tokenStream offered = .ok stream := run
  refine ⟨⟨.ok (Report.tokenListing path stream.tokens.toList),
    stream.events.toList.map LogEntry.event⟩, ?_, .tokens source _ rfl ?_⟩
  · rw [listTokens, streamed]
    rfl
  · rw [Source.tokens, streamed]
    rfl

theorem exists_segmentListing (path : String) {source : Source} {template : Template}
    (segmented : source.segment = .ok (.ok template)) :
    ∃ listing, Report.segmentListing path source template = .ok listing := by
  obtain ⟨told, stated⟩ := Report.exists_entries segmented
  rw [Report.segmentListing, (Report.lines_of_entries stated).1]
  exact ⟨_, rfl⟩

theorem exists_listSegments (path : String) (source : Source) (offered : Offered) :
    ∃ result, listSegments path source = .ok result ∧
      Tells .segments offered path (.ok source) result.outcome := by
  obtain ⟨events, segmentation⟩ := source.segmentation_eq_outline
  have segmented := source.segment_eq_outline
  rw [listSegments, segmentation]
  cases outcome : (Outline.segments 0 source.chars).map Template.mk with
  | error error =>
      rw [outcome] at segmented
      exact ⟨_, rfl, .broken source error rfl segmented⟩
  | ok template =>
      rw [outcome] at segmented
      obtain ⟨listing, listed⟩ := exists_segmentListing path segmented
      refine ⟨⟨.ok listing, LogEntry.bracket source.size events⟩, ?_,
        .segments source template listing rfl segmented listed⟩
      have reported : Report.ofOutcome path source (.ok template) = .ok (.ok listing) := by
        rw [Report.ofOutcome, listed]
        rfl
      change (do return FileResult.mk (← Report.ofOutcome path source (.ok template)) _) = _
      rw [reported]
      rfl

/-- What is read at other paths does not matter, and neither do the other options. -/
theorem exists_process (command : Command) (offered : Offered) (path : String)
    (input : Except ReadError Source) :
    ∃ result : FileResult, Tells command offered path input result.outcome ∧
      ∀ options read, options.command = command → options.offered = offered →
        read path = input → process options read path = .ok result := by
  cases input with
  | error cause =>
      refine ⟨{ outcome := .error (.read path cause) }, .unread cause, ?_⟩
      intro options read _ _ unread
      rw [process, unread]
  | ok source =>
      cases command with
      | tokens =>
          obtain ⟨result, listed, tells⟩ := exists_listTokens path source offered
          refine ⟨result, tells, ?_⟩
          rintro options read asked rfl found
          rw [process, found]
          simp only [asked, listed]
      | segments =>
          obtain ⟨result, listed, tells⟩ := exists_listSegments path source offered
          refine ⟨result, tells, ?_⟩
          intro options read asked _ found
          rw [process, found]
          simp only [asked, listed]

/-- What the files come to, in the order of their paths. -/
def inOrder (result : Command → Offered → String → Except ReadError Source → FileResult)
    (options : Options) (read : FileReader) : List FileResult :=
  options.paths.map fun path => result options.command options.offered path (read path)

end Batch

/-! ### What is printed -/

/-- The listing of a file that has not failed. -/
def FileResult.report? (result : FileResult) : Option String :=
  result.outcome.toOption

/-- The failure of a file that has failed. -/
def FileResult.failure? (result : FileResult) : Option Failure :=
  match result.outcome with
  | .ok _ => none
  | .error failure => some failure

namespace Invocation

variable {arguments : List String} {options : Options}

/-- An exit that shows some results, behind a log. -/
structure Prints (results : List FileResult) (log : String) (status : ExitStatus) : Prop where
  stdout : status.stdout = String.join (results.filterMap FileResult.report?)
  stderr : status.stderr = log ++ String.join ((results.filterMap FileResult.failure?).map
    fun failure => "error: " ++ failure.message ++ "\n")
  binary : status.code = 0 ∨ status.code = 1
  code : status.code = 1 ↔ ∃ result ∈ results, ∃ failure, result.outcome = .error failure

theorem join_listings (results : List FileResult) :
    String.join (results.map listing) = String.join (results.filterMap FileResult.report?) := by
  induction results with
  | nil => rfl
  | cons result results ih =>
      rw [List.map_cons, String.join_cons, ih, List.filterMap_cons, listing, FileResult.report?]
      cases result.outcome with
      | ok report => rw [Except.toOption, String.join_cons]
      | error failure => exact String.empty_append

theorem join_complaints (results : List FileResult) :
    String.join (results.map complaint) = String.join ((results.filterMap FileResult.failure?).map
      fun failure => "error: " ++ failure.message ++ "\n") := by
  induction results with
  | nil => rfl
  | cons result results ih =>
      rw [List.map_cons, String.join_cons, ih, List.filterMap_cons, complaint, FileResult.failure?]
      cases result.outcome with
      | ok report => exact String.empty_append
      | error failure => rw [List.map_cons, String.join_cons]; rfl

theorem any_failed_iff (results : List FileResult) :
    results.any failed = true ↔ ∃ result ∈ results, ∃ failure, result.outcome = .error failure := by
  rw [List.any_eq_true]
  apply exists_congr
  intro result
  rw [failed]
  cases result.outcome with
  | ok report => simp
  | error failure => simp

theorem asksForUsage_of_parse (parsed : Options.parse arguments = .ok options) :
    asksForUsage arguments = false := by
  obtain ⟨command, rest, rfl, _⟩ := Options.exists_wellFormed_of_parse parsed
  cases command <;> rfl

theorem exists_logText (environment : Environment) (time : String) (options : Options)
    (results : List FileResult)
    (unindented : ∀ text, environment.filter.or environment.fallbackFilter = some text →
      ∀ rule ∈ LogFilter.ruleTexts text, Unindented rule) :
    ∃ log, logText environment time options results = .ok log := by
  have readable : ∀ text, environment.filterText? options.verbose = some text →
      ∃ filter complaints, LogFilter.ofText text = .ok (filter, complaints) := by
    intro text chosen
    apply LogFilter.exists_ofText
    rw [Environment.filterText?, Option.or_eq_some_iff] at chosen
    rcases chosen with given | ⟨_, verbose⟩
    · exact unindented text given
    · obtain ⟨_, same⟩ := Option.ite_none_right_eq_some.mp verbose
      cases same
      exact unindented_verboseFilter
  rw [logText]
  split
  · exact ⟨"", rfl⟩
  · next text chosen =>
      obtain ⟨filter, complaints, read⟩ := readable text chosen
      rw [read]
      exact ⟨_, rfl⟩

theorem prints (results : List FileResult) (log : String) :
    Prints results log
      { code := if results.any failed then 1 else 0
        stdout := String.join (results.map listing)
        stderr := log ++ String.join (results.map complaint) } where
  stdout := join_listings results
  stderr := congrArg (log ++ ·) (join_complaints results)
  binary := by
    split
    · exact .inr rfl
    · exact .inl rfl
  code := by
    rw [← any_failed_iff]
    split
    · next some => exact iff_of_true rfl some
    · next none => exact iff_of_false Nat.zero_ne_one none

theorem exists_run {environment : Environment} {read : FileReader} {time log : String}
    {results : List FileResult} (parsed : Options.parse arguments = .ok options)
    (processed : ∀ finished, Batch.run options read finished = .ok results)
    (logged : logText environment time options results = .ok log) :
    ∃ status, run arguments environment read time = .ok status ∧ Prints results log status := by
  refine ⟨_, ?_, prints results log⟩
  rw [run, asksForUsage_of_parse parsed, if_neg Bool.false_ne_true, parsed]
  simp only [execute, processed]
  change (do let log ← logText environment time options results; _) = _
  rw [logged]
  rfl

/-- What files come to and what is printed about them, where `result` is what a file comes to by the
command, the offered kinds, its path and what is read there. -/
structure Reports (result : Command → Offered → String → Except ReadError Source → FileResult) :
    Prop where
  told : ∀ command offered path input,
    Batch.Tells command offered path input (result command offered path input).outcome
  sequential : ∀ options read,
    Batch.runSequential options read = .ok (Batch.inOrder result options read)
  parallel : ∀ options read finished,
    Batch.runParallel options read finished = .ok (Batch.inOrder result options read)
  run : ∀ options read finished,
    Batch.run options read finished = .ok (Batch.inOrder result options read)
  /-- Once every file is finished, in whatever order, the slots hold the results and nothing is left
  to do. -/
  slots : ∀ options read finished, (∀ number < options.paths.length, number ∈ finished) →
    Batch.fillSlots (Batch.process options read) options.paths finished =
      (Batch.inOrder result options read).map fun result => some (.ok result)
  printed : ∀ arguments options environment read time log,
    Options.parse arguments = .ok options →
    logText environment time options (Batch.inOrder result options read) = .ok log →
    ∃ status, Invocation.run arguments environment read time = .ok status ∧
      Prints (Batch.inOrder result options read) log status
  /-- There is a log unless a rule of a filter that is given starts with a blank. -/
  logged : ∀ environment time options results,
    (∀ text, environment.filter.or environment.fallbackFilter = some text →
      ∀ rule ∈ LogFilter.ruleTexts text, Unindented rule) →
    ∃ log, logText environment time options results = .ok log
  silent : ∀ environment time options results, environment.filterText? options.verbose = none →
    logText environment time options results = .ok ""

end Invocation

end TemplateScan
