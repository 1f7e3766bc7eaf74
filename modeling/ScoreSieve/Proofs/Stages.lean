import ScoreSieve.CommandLine.Run
import ScoreSieve.Proofs.Rows
import ScoreSieve.Proofs.Session

namespace ScoreSieve

theorem Entry.score_eq_error_iff {position : Nat} {entry : Entry} {error : ScoreError} :
    entry.score position = .error error ↔
      ∃ cause, entry.mods.read = .error cause ∧ error = .invalidMods position cause := by
  unfold Entry.score
  split
  next read => simp [read]
  next cause read => simp [read, eq_comm]

theorem Entry.exists_score_iff {position : Nat} {entry : Entry} :
    (∃ score, entry.score position = .ok score) ↔ ∃ mods, entry.mods.read = .ok mods := by
  unfold Entry.score
  split
  next mods read => simp [read]
  next cause read => simp [read]

/-- The first run of modifiers that cannot be read is the one that is reported. -/
theorem Entry.scores_eq_error_iff {position : Nat} {entries : List Entry} {error : ScoreError} :
    Entry.scores position entries = .error error ↔
      ∃ offset cause, FailsFirst (·.mods.read) entries offset cause ∧
        error = .invalidMods (position + offset) cause := by
  induction entries generalizing position with
  | nil => simp [Entry.scores, not_failsFirst_nil]
  | cons entry rest ih =>
    rw [Entry.scores, bind_eq_error_iff]
    constructor
    · rintro (first | ⟨score, first, others⟩)
      · obtain ⟨cause, refused, rfl⟩ := Entry.score_eq_error_iff.mp first
        exact ⟨0, cause, .here refused, rfl⟩
      · rcases bind_eq_error_iff.mp others with later | ⟨_, _, none⟩
        · obtain ⟨mods, read⟩ := Entry.exists_score_iff.mp ⟨score, first⟩
          obtain ⟨offset, cause, fails, rfl⟩ := ih.mp later
          exact ⟨offset + 1, cause, .later read fails, by rw [Nat.add_right_comm, Nat.add_assoc]⟩
        · cases none
    · rintro ⟨_, cause, refused | ⟨read, fails⟩, rfl⟩
      · exact .inl (Entry.score_eq_error_iff.mpr ⟨cause, refused, rfl⟩)
      · obtain ⟨score, first⟩ := Entry.exists_score_iff.mpr ⟨_, read⟩
        refine .inr ⟨score, first, bind_eq_error_iff.mpr (.inl (ih.mpr ⟨_, cause, fails, ?_⟩))⟩
        rw [Nat.add_right_comm, Nat.add_assoc]

/-- A score file is refused if it is no list of entries, or else at the first entry whose modifiers
cannot be read. -/
theorem Score.parseWith_eq_error_iff {reader : List Char → Option Json} {text : List Char}
    {error : ScoreError} :
    Score.parseWith reader text = .error error ↔
      ((reader text).bind Entry.listOfJson? = none ∧ error = .malformed) ∨
      ∃ entries position cause, (reader text).bind Entry.listOfJson? = some entries ∧
        FailsFirst (·.mods.read) entries position cause ∧ error = .invalidMods position cause := by
  unfold Score.parseWith
  cases reader text with
  | none => simp [eq_comm]
  | some json =>
    simp only [Option.bind_some]
    unfold Score.listOfJson
    cases Entry.listOfJson? json with
    | none => simp [eq_comm]
    | some entries => simp [Entry.scores_eq_error_iff]

namespace CommandLine

variable {host : Host} {path : String}

/-- How the score file at a path fails, and what is told of it: it cannot be read, it is no list of
entries, or it has a run of modifiers that cannot be read, the first of which is reported. -/
inductive ScoresFail (host : Host) (path : String) : String → Prop
  | unreadable {source} : host.read path = .error source →
      ScoresFail host path
        ("Failed to read score file '" ++ path ++ "': " ++ source.message ++ ": " ++ source.message)
  | malformed {text} : host.read path = .ok text →
      (host.readJson text.toList).bind Entry.listOfJson? = none →
      ScoresFail host path
        ("Failed to parse score file '" ++ path ++ "': " ++ host.tellScores text)
  | invalidMods {text entries position cause} : host.read path = .ok text →
      (host.readJson text.toList).bind Entry.listOfJson? = some entries →
      FailsFirst (·.mods.read) entries position cause →
      ScoresFail host path ("Invalid mods on score #" ++ toString position ++ ": " ++
        cause.message ++ ": " ++ cause.message)

/-- How the profile at a path fails, and what is told of it: it cannot be read, or it is no
profile. -/
inductive ProfileFails (host : Host) (path : String) : String → Prop
  | unreadable {source} : host.read path = .error source →
      ProfileFails host path
        ("Failed to read config file '" ++ path ++ "': " ++ source.message ++ ": " ++
          source.message)
  | malformed {text error} : host.read path = .ok text →
      Profile.parseWith host.readToml text.toList = .error error →
      ProfileFails host path ("Failed to parse config file '" ++ path ++ "': " ++
        host.tellProfile text error ++ ": " ++ host.tellProfile text error)

theorem Failure.message_context (doing : String) (failure : Failure) :
    (context doing failure).message = doing ++ ": " ++ failure.message := by
  have some : failure.chain ≠ [] := by cases failure <;> simp [chain]
  rw [message, chain, String.intercalate_cons_of_ne_nil some, message]

/-- Holds of a fault that is told as it stands, and that no refusal can be found in. -/
def Fault.Tells (fault : Fault) (report : String) : Prop :=
  (Failure.bare fault).refusal? = none ∧ (Failure.bare fault).message = report

/-- A fault that is not wrapped is reported by its own text and ends with exit code one. -/
theorem Fault.Tells.report_eq {fault : Fault} {report : String} (tells : fault.Tells report) :
    (Failure.bare fault).exitCode = 1 ∧ (Failure.bare fault).report = report := by
  obtain ⟨none, rfl⟩ := tells
  simp only [Failure.exitCode, Failure.report, none]
  exact ⟨rfl, trivial⟩

/-- A context goes in front of the text of a fault and leaves the exit code as it is. -/
theorem Fault.Tells.report_context_eq {fault : Fault} {report : String} (tells : fault.Tells report)
    (doing : String) :
    (Failure.context doing (.bare fault)).exitCode = 1 ∧
      (Failure.context doing (.bare fault)).report = doing ++ ": " ++ report := by
  obtain ⟨none, rfl⟩ := tells
  simp only [Failure.exitCode, Failure.report, Failure.refusal?, none, Failure.message_context]
  exact ⟨rfl, trivial⟩

/-- Each of the ways in which scores can fail is a fault of the host, with the report that it is
said to have. -/
theorem ScoresFail.exists_fault {report : String} (fails : ScoresFail host path report) :
    ∃ fault, host.loadScores path = .error fault ∧ fault.Tells report := by
  rcases fails with missed | ⟨found, none⟩ | ⟨found, some, fails⟩
  · exact ⟨_, bind_eq_error_iff.mpr (.inl (mapError_eq_error_iff.mpr ⟨_, missed, rfl⟩)), rfl, rfl⟩
  · have refused := Score.parseWith_eq_error_iff.mpr (.inl ⟨none, rfl⟩)
    exact ⟨_, bind_eq_error_iff.mpr (.inr ⟨_, mapError_eq_ok_iff.mpr found,
      mapError_eq_error_iff.mpr ⟨_, refused, rfl⟩⟩), rfl, rfl⟩
  · have refused := Score.parseWith_eq_error_iff.mpr (.inr ⟨_, _, _, some, fails, rfl⟩)
    exact ⟨_, bind_eq_error_iff.mpr (.inr ⟨_, mapError_eq_ok_iff.mpr found,
      mapError_eq_error_iff.mpr ⟨_, refused, rfl⟩⟩), rfl, rfl⟩

/-- Scores that cannot be loaded fail in one of these ways. -/
theorem exists_scoresFail {fault : Fault} (failed : host.loadScores path = .error fault) :
    ∃ report, ScoresFail host path report := by
  rcases bind_eq_error_iff.mp failed with unreadable | ⟨text, found, failed⟩
  · obtain ⟨source, missed, _⟩ := mapError_eq_error_iff.mp unreadable
    exact ⟨_, .unreadable missed⟩
  · have found := mapError_eq_ok_iff.mp found
    obtain ⟨error, refused, _⟩ := mapError_eq_error_iff.mp failed
    rcases Score.parseWith_eq_error_iff.mp refused with
      ⟨none, _⟩ | ⟨entries, position, cause, some, fails, _⟩
    · exact ⟨_, .malformed found none⟩
    · exact ⟨_, .invalidMods found some fails⟩

theorem ProfileFails.exists_fault {report : String} (fails : ProfileFails host path report) :
    ∃ fault, host.loadProfile path = .error fault ∧ fault.Tells report := by
  rcases fails with missed | ⟨found, refused⟩
  · exact ⟨_, bind_eq_error_iff.mpr (.inl (mapError_eq_error_iff.mpr ⟨_, missed, rfl⟩)), rfl, rfl⟩
  · exact ⟨_, bind_eq_error_iff.mpr (.inr ⟨_, mapError_eq_ok_iff.mpr found,
      mapError_eq_error_iff.mpr ⟨_, refused, rfl⟩⟩), rfl, rfl⟩

theorem exists_profileFails {fault : Fault} (failed : host.loadProfile path = .error fault) :
    ∃ report, ProfileFails host path report := by
  rcases bind_eq_error_iff.mp failed with unreadable | ⟨text, found, malformed⟩
  · obtain ⟨source, missed, _⟩ := mapError_eq_error_iff.mp unreadable
    exact ⟨_, .unreadable missed⟩
  · obtain ⟨error, refused, _⟩ := mapError_eq_error_iff.mp malformed
    exact ⟨_, .malformed (mapError_eq_ok_iff.mp found) refused⟩

theorem Host.loadProfile_eq_ok_iff {profile : Profile} :
    host.loadProfile path = .ok profile ↔ ∃ text, host.read path = .ok text ∧
      Profile.parseWith host.readToml text.toList = .ok profile := by
  simp only [loadProfile, bind_eq_ok_iff, mapError_eq_ok_iff]

/-- A candidate that is judged was read from its text, and its verdict is that of the filter. -/
theorem judgeText_eq_ok_iff {filter : Filter} {text : String} {verdict : Verdict} :
    judgeText filter text = .ok verdict ↔
      parseCandidate text.toList = .ok verdict.candidate ∧
        verdict.accepted = filter.accepts verdict.candidate := by
  rcases verdict with ⟨candidate, accepted⟩
  unfold judgeText
  cases parseCandidate text.toList with
  | error error => simp
  | ok read =>
    simp only [Except.ok.injEq, Filter.judge, Verdict.mk.injEq]
    constructor
    · rintro ⟨rfl, rfl⟩
      exact ⟨rfl, rfl⟩
    · rintro ⟨rfl, rfl⟩
      exact ⟨rfl, rfl⟩

/-- A candidate is refused by a failure that names its text and keeps the refusal as its cause. -/
theorem judgeText_eq_error_iff {filter : Filter} {text : String} {failure : Failure} :
    judgeText filter text = .error failure ↔
      ∃ cause, parseCandidate text.toList = .error cause ∧
        failure =
          .context ("Invalid candidate mods '" ++ text ++ "'") (.bare (.refused cause)) := by
  unfold judgeText
  cases parseCandidate text.toList with
  | error error => simp [eq_comm]
  | ok read => simp

theorem exists_judgeText_iff {filter : Filter} {text : String} :
    (∃ verdict, judgeText filter text = .ok verdict) ↔
      ∃ candidate, parseCandidate text.toList = .ok candidate := by
  unfold judgeText
  cases parseCandidate text.toList with
  | error error => simp
  | ok read => simp

/-- The first bad candidate is the one that is reported. -/
theorem failsFirst_judgeText_iff {filter : Filter} {candidates : List String} {position : Nat}
    {failure : Failure} :
    FailsFirst (judgeText filter) candidates position failure ↔
      ∃ text cause, candidates[position]? = some text ∧
        FailsFirst (fun text : String => parseCandidate text.toList) candidates position cause ∧
        failure =
          .context ("Invalid candidate mods '" ++ text ++ "'") (.bare (.refused cause)) := by
  simp only [failsFirst_iff, judgeText_eq_error_iff, exists_judgeText_iff]
  constructor
  · rintro ⟨text, found, ⟨cause, refused, same⟩, earlier⟩
    exact ⟨text, cause, found, ⟨text, found, refused, earlier⟩, same⟩
  · rintro ⟨text, cause, found, ⟨other, sameText, refused, earlier⟩, same⟩
    rw [found] at sameText
    cases sameText
    exact ⟨text, found, ⟨cause, refused, same⟩, earlier⟩

namespace Invocation

/-- Holds of the profile that is loaded: the one in the file that is named, or the base profile if
none is. -/
inductive Loads (invocation : Invocation) (host : Host) : Profile → Prop
  | base : invocation.config = none → Loads invocation host Profile.base
  | file {path text profile} : invocation.config = some path → host.read path = .ok text →
      Profile.parseWith host.readToml text.toList = .ok profile → Loads invocation host profile

/-- How a run fails: its exit code and the report on what ended it. Each stage is reached only if
the ones before it have passed, and of the candidates the first bad one counts. -/
inductive FailsWith (invocation : Invocation) (host : Host) : Nat → String → Prop
  | profile {path report} : invocation.config = some path → ProfileFails host path report →
      FailsWith invocation host 1 ("Failed to load config: " ++ report)
  | expression {profile cause} : invocation.Loads host profile →
      Expression.parse invocation.task.expression.toList = .error cause →
      FailsWith invocation host 2 ("argument not recognized: " ++ cause.message)
  | candidate {profile expression candidates written position cause} :
      invocation.Loads host profile → invocation.task = .test expression candidates →
      Expression.parse expression.toList = .ok written →
      FailsFirst (fun text : String => parseCandidate text.toList) candidates position cause →
      FailsWith invocation host 2 ("argument not recognized: " ++ cause.message)
  | scores {profile expression path limit written report} :
      invocation.Loads host profile → invocation.task = .select expression path limit →
      Expression.parse expression.toList = .ok written → ScoresFail host path report →
      FailsWith invocation host 1 report

/-- What a run that succeeds prints: the report on the filter, on the candidates or on the selected
scores. -/
inductive Prints (invocation : Invocation) (host : Host) : String → Prop
  | check {profile text written} :
      invocation.Loads host profile → invocation.task = .check text →
      Expression.parse text.toList = .ok written →
      Prints invocation host (invocation.shown
        (Report.checkText (invocation.color.paints host.terminal)
          (profile.adapt written invocation.applyRules))
        (Report.checkJson (profile.adapt written invocation.applyRules)))
  | test {profile text candidates written verdicts} :
      invocation.Loads host profile → invocation.task = .test text candidates →
      Expression.parse text.toList = .ok written →
      List.Forall₂ (fun candidate verdict =>
        judgeText (profile.adapt written invocation.applyRules).filter candidate = .ok verdict)
        candidates verdicts →
      Prints invocation host (invocation.shown
        (Report.matchText (invocation.color.paints host.terminal) verdicts)
        (Report.matchJson (profile.adapt written invocation.applyRules) verdicts))
  | select {profile text path limit written scores selection} :
      invocation.Loads host profile → invocation.task = .select text path limit →
      Expression.parse text.toList = .ok written → host.loadScores path = .ok scores →
      selection =
        ⟨(profile.adapt written invocation.applyRules).filter.select scores limit, scores.length⟩ →
      Prints invocation host (invocation.shown
        (Report.scoresText (invocation.color.paints host.terminal) selection)
        (Report.scoresJson (profile.adapt written invocation.applyRules) selection))

variable {invocation : Invocation}

theorem loadProfile_of_base (unnamed : invocation.config = none) :
    invocation.loadProfile host = .ok Profile.base := by
  simp only [loadProfile, unnamed]

theorem loadProfile_of_file (named : invocation.config = some path) :
    invocation.loadProfile host = (host.loadProfile path).mapError fun fault =>
      .context "Failed to load config" (.bare fault) := by
  simp only [loadProfile, named]

theorem loadProfile_eq_ok_iff {profile : Profile} :
    invocation.loadProfile host = .ok profile ↔ invocation.Loads host profile := by
  constructor
  · intro loaded
    cases named : invocation.config with
    | none =>
      rw [loadProfile_of_base named] at loaded
      cases loaded
      exact .base named
    | some path =>
      rw [loadProfile_of_file named, mapError_eq_ok_iff, Host.loadProfile_eq_ok_iff] at loaded
      obtain ⟨text, found, parsed⟩ := loaded
      exact .file named found parsed
  · rintro (unnamed | ⟨named, found, parsed⟩)
    · exact loadProfile_of_base unnamed
    · rw [loadProfile_of_file named, mapError_eq_ok_iff, Host.loadProfile_eq_ok_iff]
      exact ⟨_, found, parsed⟩

/-- Loading a profile fails only for a file that was named. The fault of that file is wrapped in
what was being done. -/
theorem loadProfile_eq_error_iff {failure : Failure} :
    invocation.loadProfile host = .error failure ↔
      ∃ path fault, invocation.config = some path ∧ host.loadProfile path = .error fault ∧
        failure = .context "Failed to load config" (.bare fault) := by
  constructor
  · intro failed
    cases named : invocation.config with
    | none =>
      rw [loadProfile_of_base named] at failed
      cases failed
    | some path =>
      rw [loadProfile_of_file named] at failed
      obtain ⟨fault, missed, rfl⟩ := mapError_eq_error_iff.mp failed
      exact ⟨path, fault, rfl, missed, rfl⟩
  · rintro ⟨path, fault, named, missed, rfl⟩
    rw [loadProfile_of_file named]
    exact mapError_eq_error_iff.mpr ⟨fault, missed, rfl⟩

/-- An accepted expression gives the adapted one, and whatever warnings it takes, nothing is
printed. -/
theorem ends_buildFilter {profile : Profile} {text : String} {written : Expression}
    (accepted : Expression.parse text.toList = .ok written) :
    (invocation.buildFilter profile text).Ends
      (.ok (profile.adapt written invocation.applyRules)) "" := by
  rw [buildFilter, accepted]
  refine (Session.ends_lift (.ok written)).bind ?_
  split
  next => exact (Session.ends_forM_warn _ _).bind (Session.ends_pure _)
  next => exact Session.ends_pure _

/-- A refused expression fails without a context of its own. -/
theorem ends_buildFilter_of_error {profile : Profile} {text : String} {cause : ParseError}
    (refused : Expression.parse text.toList = .error cause) :
    (invocation.buildFilter profile text).Ends (.error (.bare (.refused cause))) "" := by
  rw [buildFilter, refused]
  exact (Session.ends_lift _).bind_error

theorem ends_loadProfile {profile : Profile} (loads : invocation.Loads host profile) :
    Session.Ends (liftM (invocation.loadProfile host)) (.ok profile) "" :=
  loadProfile_eq_ok_iff.mpr loads ▸ Session.ends_lift _

/-- A run that fails has written nothing but warnings. -/
theorem FailsWith.exists_failure {code : Nat} {report : String}
    (fails : invocation.FailsWith host code report) :
    ∃ failure : Failure, (invocation.perform host).Ends (.error failure) "" ∧
      failure.exitCode = code ∧ failure.report = report := by
  unfold perform
  rcases fails with ⟨named, failed⟩ | ⟨loads, refused⟩ | ⟨loads, task, accepted, first⟩ |
    ⟨loads, task, accepted, failed⟩
  · obtain ⟨fault, missed, tells⟩ := failed.exists_fault
    rw [loadProfile_eq_error_iff.mpr ⟨_, fault, named, missed, rfl⟩]
    exact ⟨_, (Session.ends_lift _).bind_error, tells.report_context_eq _⟩
  · refine ⟨.bare (.refused _), (ends_loadProfile loads).bind ?_, rfl, rfl⟩
    cases task : invocation.task
    all_goals
      rw [task] at refused
      exact (ends_buildFilter_of_error refused).bind_error
  · obtain ⟨text, found, _⟩ := failsFirst_iff.mp first
    refine ⟨.context ("Invalid candidate mods '" ++ text ++ "'") (.bare (.refused _)),
      (ends_loadProfile loads).bind ?_, rfl, rfl⟩
    rw [task]
    refine (ends_buildFilter accepted).bind ?_
    rw [mapM_eq_error_iff.mpr ⟨_, failsFirst_judgeText_iff.mpr ⟨_, _, found, first, rfl⟩⟩]
    exact (Session.ends_lift _).bind_error
  · obtain ⟨fault, missed, tells⟩ := failed.exists_fault
    refine ⟨_, (ends_loadProfile loads).bind ?_, tells.report_eq⟩
    rw [task]
    refine (ends_buildFilter accepted).bind ?_
    rw [missed]
    exact (Session.ends_lift _).bind_error

/-- Where all stages succeed, the session ends well and prints what it is said to print. -/
theorem ends_of_prints {output : String} (prints : invocation.Prints host output) :
    (invocation.perform host).Ends (.ok ()) output := by
  unfold perform
  rcases prints with ⟨loads, task, accepted⟩ | ⟨loads, task, accepted, judged⟩ |
    ⟨loads, task, accepted, scores, rfl⟩
  · refine (ends_loadProfile loads).bind ?_
    rw [task]
    exact (ends_buildFilter accepted).bind (Session.ends_print _)
  · refine (ends_loadProfile loads).bind ?_
    rw [task]
    refine (ends_buildFilter accepted).bind ?_
    rw [mapM_eq_ok_iff.mpr judged]
    exact (Session.ends_lift _).bind (Session.ends_print _)
  · refine (ends_loadProfile loads).bind ?_
    rw [task]
    refine (ends_buildFilter accepted).bind ?_
    rw [scores]
    exact (Session.ends_lift _).bind (Session.ends_print _)

/-- Every invocation fails at some stage or prints something. -/
theorem failsWith_or_prints (invocation : Invocation) (host : Host) :
    (∃ code report, invocation.FailsWith host code report) ∨
      ∃ output, invocation.Prints host output := by
  cases loaded : invocation.loadProfile host with
  | error failure =>
    obtain ⟨path, fault, named, missed, rfl⟩ := loadProfile_eq_error_iff.mp loaded
    obtain ⟨report, fails⟩ := exists_profileFails missed
    exact .inl ⟨_, _, .profile named fails⟩
  | ok profile =>
    have loads := loadProfile_eq_ok_iff.mp loaded
    cases accepted : Expression.parse invocation.task.expression.toList with
    | error cause => exact .inl ⟨_, _, .expression loads accepted⟩
    | ok written =>
      cases task : invocation.task with
      | check text =>
        rw [task] at accepted
        exact .inr ⟨_, .check loads task accepted⟩
      | test text candidates =>
        rw [task] at accepted
        cases judged :
            candidates.mapM (judgeText (profile.adapt written invocation.applyRules).filter) with
        | error failure =>
          obtain ⟨position, fails⟩ := mapM_eq_error_iff.mp judged
          obtain ⟨text, cause, _, first, rfl⟩ := failsFirst_judgeText_iff.mp fails
          exact .inl ⟨_, _, .candidate loads task accepted first⟩
        | ok verdicts => exact .inr ⟨_, .test loads task accepted (mapM_eq_ok_iff.mp judged)⟩
      | select text path limit =>
        rw [task] at accepted
        cases read : host.loadScores path with
        | error fault =>
          obtain ⟨report, fails⟩ := exists_scoresFail read
          exact .inl ⟨_, _, .scores loads task accepted fails⟩
        | ok scores => exact .inr ⟨_, .select loads task accepted read rfl⟩

/-- A failing run has the code and the report of its stage, and prints nothing. -/
theorem outcome_of_failsWith {code : Nat} {report : String}
    (fails : invocation.FailsWith host code report) :
    ∃ warnings : List String, (invocation.perform host).outcome =
      ⟨code, "", warnings.map .warning ++ [.error report]⟩ := by
  obtain ⟨failure, ends, rfl, rfl⟩ := fails.exists_failure
  exact Session.outcome_of_error ends

theorem outcome_of_prints {output : String} (prints : invocation.Prints host output) :
    ∃ warnings : List String,
      (invocation.perform host).outcome = ⟨0, output, warnings.map .warning⟩ :=
  Session.outcome_of_ok (ends_of_prints prints)

/-- A run that fails leaves the code and the report of its failure. -/
theorem ends_with_report {code : Nat} {report : String}
    (fails : invocation.FailsWith host code report) :
    (invocation.perform host).outcome.exitCode = code ∧
      (invocation.perform host).outcome.diagnostics.getLast? = some (.error report) := by
  obtain ⟨warnings, whole⟩ := outcome_of_failsWith fails
  rw [whole]
  exact ⟨rfl, List.getLast?_concat⟩

/-- A positive exit code tells that some stage failed with this very code. -/
theorem exitCode_eq_iff {code : Nat} (positive : code ≠ 0) :
    (invocation.perform host).outcome.exitCode = code ↔
      ∃ report, invocation.FailsWith host code report := by
  constructor
  · rintro rfl
    rcases failsWith_or_prints invocation host with ⟨code, report, fails⟩ | ⟨output, prints⟩
    · rw [(ends_with_report fails).1]
      exact ⟨report, fails⟩
    · obtain ⟨warnings, whole⟩ := outcome_of_prints prints
      rw [whole] at positive
      exact absurd rfl positive
  · rintro ⟨report, fails⟩
    exact (ends_with_report fails).1

/-- There are two ways to fail: with one, or with two for a refusal of what was written on the
command line. -/
theorem FailsWith.code_mem {code : Nat} {report : String}
    (fails : invocation.FailsWith host code report) : code ∈ [1, 2] := by
  cases fails <;> decide

/-- A run that fails has put nothing out. -/
theorem silent_of_exitCode_ne_zero (positive : (invocation.perform host).outcome.exitCode ≠ 0) :
    (invocation.perform host).outcome.exitCode ∈ [1, 2] ∧
      (invocation.perform host).outcome.output = "" := by
  obtain ⟨report, fails⟩ := (exitCode_eq_iff positive).mp rfl
  obtain ⟨warnings, whole⟩ := outcome_of_failsWith fails
  rw [whole] at fails ⊢
  exact ⟨fails.code_mem, rfl⟩

theorem not_loads_of_profileFails {report : String} (named : invocation.config = some path)
    (fails : ProfileFails host path report) (profile : Profile) :
    ¬ invocation.Loads host profile := by
  intro loads
  obtain ⟨fault, missed, _⟩ := fails.exists_fault
  have failed := loadProfile_eq_error_iff.mpr ⟨path, fault, named, missed, rfl⟩
  rw [loadProfile_eq_ok_iff.mpr loads] at failed
  cases failed

def RejectsExpression (invocation : Invocation) : Prop :=
  ∃ cause, Expression.parse invocation.task.expression.toList = .error cause

def RejectsCandidate (invocation : Invocation) : Prop :=
  ∃ text candidates, invocation.task = .test text candidates ∧
    ∃ candidate ∈ candidates, ∃ cause, parseCandidate candidate.toList = .error cause

/-- Holds if the run is about a score file that cannot be used. -/
def RejectsScores (invocation : Invocation) (host : Host) : Prop :=
  ∃ text path limit report, invocation.task = .select text path limit ∧
    ScoresFail host path report

/-- Exit code two is for an expression or a candidate that is refused, once the profile is
loaded. -/
theorem exists_failsWith_two_iff :
    (∃ report, invocation.FailsWith host 2 report) ↔
      (∃ profile, invocation.Loads host profile) ∧
        (invocation.RejectsExpression ∨ invocation.RejectsCandidate) := by
  constructor
  · rintro ⟨_, _ | ⟨loads, refused⟩ | ⟨loads, task, accepted, first⟩⟩
    · exact ⟨⟨_, loads⟩, .inl ⟨_, refused⟩⟩
    · exact ⟨⟨_, loads⟩, .inr ⟨_, _, task, exists_failsFirst_iff.mp ⟨_, _, first⟩⟩⟩
  · rintro ⟨⟨profile, loads⟩, rejected⟩
    cases ended : Expression.parse invocation.task.expression.toList with
    | error cause => exact ⟨_, .expression loads ended⟩
    | ok written =>
      rcases rejected with ⟨cause, refused⟩ | ⟨text, candidates, task, some⟩
      · rw [refused] at ended
        cases ended
      · obtain ⟨position, cause, first⟩ := exists_failsFirst_iff.mpr some
        rw [task] at ended
        exact ⟨_, .candidate loads task ended first⟩

/-- Exit code one is for a profile that fails, and for scores that fail once the expression is
accepted. -/
theorem exists_failsWith_one_iff :
    (∃ report, invocation.FailsWith host 1 report) ↔
      (¬ ∃ profile, invocation.Loads host profile) ∨
        ((∃ written, Expression.parse invocation.task.expression.toList = .ok written) ∧
          invocation.RejectsScores host) := by
  constructor
  · rintro ⟨_, ⟨named, fails⟩ | _ | _ | ⟨loads, task, accepted, fails⟩⟩
    · exact .inl (not_exists.mpr (not_loads_of_profileFails named fails))
    · refine .inr ⟨?_, _, _, _, _, task, fails⟩
      rw [task]
      exact ⟨_, accepted⟩
  · intro failed
    cases loaded : invocation.loadProfile host with
    | error failure =>
      obtain ⟨path, fault, named, missed, _⟩ := loadProfile_eq_error_iff.mp loaded
      obtain ⟨report, fails⟩ := exists_profileFails missed
      exact ⟨_, .profile named fails⟩
    | ok profile =>
      have loads := loadProfile_eq_ok_iff.mp loaded
      rcases failed with none | ⟨⟨written, accepted⟩, text, path, limit, report, task, fails⟩
      · exact absurd ⟨profile, loads⟩ none
      · rw [task] at accepted
        exact ⟨_, .scores loads task accepted fails⟩

/-- What an invocation prints of its verdicts shows all of them, in either format. -/
theorem showsVerdicts_shown (invocation : Invocation) (coloured : Bool) {verdicts : List Verdict}
    (codes : ∀ verdict ∈ verdicts, ∀ mod ∈ verdict.candidate, mod.IsCode)
    (expression : Expression) :
    ShowsVerdicts coloured verdicts invocation.format
      (invocation.shown (Report.matchText coloured verdicts)
        (Report.matchJson expression verdicts)) := by
  unfold shown
  cases invocation.format with
  | text => exact showsVerdicts_matchText coloured codes
  | json => exact showsVerdicts_matchJson coloured expression verdicts

/-- What is put out for candidates is a row for each of them, with the verdict on it. -/
theorem output_of_test {text : String} {candidates : List String}
    (task : invocation.task = .test text candidates)
    (passed : (invocation.perform host).outcome.exitCode = 0) :
    ∃ profile written verdicts, invocation.Loads host profile ∧
      Expression.parse text.toList = .ok written ∧
      List.Forall₂ (fun (candidate : String) (verdict : Verdict) =>
        parseCandidate candidate.toList = .ok verdict.candidate ∧
          verdict.accepted =
            (profile.adapt written invocation.applyRules).filter.accepts verdict.candidate)
        candidates verdicts ∧
      ShowsVerdicts (invocation.color.paints host.terminal) verdicts invocation.format
        (invocation.perform host).outcome.output := by
  rcases failsWith_or_prints invocation host with ⟨code, report, fails⟩ | ⟨output, prints⟩
  · have failed := fails.code_mem
    rw [← (ends_with_report fails).1, passed] at failed
    exact absurd failed (by decide)
  obtain ⟨warnings, whole⟩ := outcome_of_prints prints
  rw [whole]
  rcases prints with ⟨_, other, _⟩ | @⟨_, _, _, _, verdicts, loads, same, accepted, judged⟩ |
    ⟨_, other, _⟩
  · cases task.symm.trans other
  · cases task.symm.trans same
    simp only [judgeText_eq_ok_iff] at judged
    refine ⟨_, _, _, loads, accepted, judged, ?_⟩
    have codes : ∀ verdict ∈ verdicts, ∀ mod ∈ verdict.candidate, mod.IsCode := by
      intro verdict member
      obtain ⟨candidate, _, read, _⟩ := exists_of_forall₂ judged member
      exact isCode_of_parseCandidate read
    exact showsVerdicts_shown invocation _ codes _
  · cases task.symm.trans other

end Invocation

/-- The first failing stage decides how a run ends. The run leaves the report of that stage and puts
nothing out, with exit code 2 if an expression or a candidate is refused and 1 if a profile or a
score file is. Where no stage fails the exit code is 0, and a run about candidates shows a row for
each of them, with the verdict of the filter on it. -/
theorem first_failing_stage_decides {environment : Option String} {args : List String}
    {invocation : Invocation} (accepted : Invocation.parse environment args = .ok invocation)
    (host : Host) :
    ∃ outcome, run environment host args = .ok outcome ∧
      (∀ code report, invocation.FailsWith host code report →
        outcome.exitCode = code ∧ outcome.diagnostics.getLast? = some (.error report)) ∧
      (outcome.exitCode = 2 ↔ (∃ profile, invocation.Loads host profile) ∧
        (invocation.RejectsExpression ∨ invocation.RejectsCandidate)) ∧
      (outcome.exitCode = 1 ↔ (¬ ∃ profile, invocation.Loads host profile) ∨
        ((∃ written, Expression.parse invocation.task.expression.toList = .ok written) ∧
          invocation.RejectsScores host)) ∧
      (outcome.exitCode ≠ 0 → outcome.exitCode ∈ [1, 2] ∧ outcome.output = "") ∧
      (outcome.exitCode = 0 → ∀ text candidates, invocation.task = .test text candidates →
        ∃ profile written verdicts, invocation.Loads host profile ∧
          Expression.parse text.toList = .ok written ∧
          List.Forall₂ (fun (candidate : String) (verdict : Verdict) =>
            parseCandidate candidate.toList = .ok verdict.candidate ∧
              verdict.accepted =
                (profile.adapt written invocation.applyRules).filter.accepts verdict.candidate)
            candidates verdicts ∧
          ShowsVerdicts (invocation.color.paints host.terminal) verdicts invocation.format
            outcome.output) :=
  ⟨(invocation.perform host).outcome, by rw [run, accepted]; rfl,
    fun _ _ fails => Invocation.ends_with_report fails,
    (Invocation.exitCode_eq_iff (by decide)).trans Invocation.exists_failsWith_two_iff,
    (Invocation.exitCode_eq_iff (by decide)).trans Invocation.exists_failsWith_one_iff,
    Invocation.silent_of_exitCode_ne_zero,
    fun passed _ _ task => Invocation.output_of_test task passed⟩

/-- With a profile that can be loaded and an expression that can be read, the run fails at the
second candidate, and the third one is not reported. -/
theorem first_failing_stage_decides_at_second_candidate :
    let host : Host := {
      read := fun path => if path = "p.toml" then .ok "" else .error .missing
      terminal := false
      tellProfile := fun _ _ => "no profile"
      tellScores := fun _ => "no scores" }
    let args := ["-c", "p.toml", "match", "+hd", "nm", "H", "?"]
    let invocation : Invocation :=
      ⟨some "p.toml", .text, .auto, true, false, .test "+hd" ["nm", "H", "?"]⟩
    let report := "argument not recognized: " ++
      "Invalid modifier code: 'H'. Codes are two letters, e.g. HD or DT"
    Invocation.parse none args = .ok invocation ∧ invocation.FailsWith host 2 report ∧
      ∃ outcome, run none host args = .ok outcome ∧ outcome.exitCode = 2 ∧ outcome.output = "" ∧
        outcome.diagnostics.getLast? = some (.error report) := by
  intro host args invocation report
  have accepted : Invocation.parse none args = .ok invocation := by decide
  have found : host.read "p.toml" = .ok "" := by simp [host]
  have loads : invocation.Loads host Profile.base := .file rfl found (by decide +kernel)
  have written : Expression.parse "+hd".toList =
      .ok ⟨⟨[⟨[Group.ofMods .required [⟨['H', 'D']⟩]], false⟩], false⟩, false⟩ := by decide +kernel
  have first : FailsFirst (fun text : String => parseCandidate text.toList) ["nm", "H", "?"] 1
      (.invalidCode ['H']) :=
    .later (b := []) (by decide) (.here (by decide))
  have fails : invocation.FailsWith host 2 report := .candidate loads rfl written first
  obtain ⟨outcome, ran, ends, _, _, silent, _⟩ := first_failing_stage_decides accepted host
  obtain ⟨code, told⟩ := ends 2 report fails
  exact ⟨accepted, fails, outcome, ran, code, (silent (by simp [code])).2, told⟩

example :
    (run none ⟨fun _ => .error .missing, false, Toml.ofText?, fun _ _ => "", Json.ofText?,
      fun _ => ""⟩ ["match", "+hd", "nm", "hd"]).map Outcome.exitCode = .ok 0 := by
  decide +kernel

end CommandLine

end ScoreSieve
