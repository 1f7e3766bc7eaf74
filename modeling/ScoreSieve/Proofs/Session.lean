import ScoreSieve.CommandLine.Session

namespace ScoreSieve.CommandLine.Session

variable {α β : Type} {session : Session α} {next : α → Session β} {a : α} {failure : Failure}
  {result : Except Failure β} {console later : Console} {output : String}

/-- A session whose first part succeeds goes on with the second part, on the console as the first
one left it. -/
theorem on_bind_of_ok (ended : session.on console = (.ok a, later)) :
    (session >>= next).on console = (next a).on later := by
  have run : StateT.run (ExceptT.run session) console = (.ok a, later) := ended
  simp only [on, ExceptT.run_bind, StateT.run_bind]
  rw [run]
  rfl

/-- A failure ends the session. The console stays as it is, with the warnings that were given
before. -/
theorem on_bind_of_error (ended : session.on console = (.error failure, later)) :
    (session >>= next).on console = (.error failure, later) := by
  have run : StateT.run (ExceptT.run session) console = (.error failure, later) := ended
  simp only [on, ExceptT.run_bind, StateT.run_bind]
  rw [run]
  rfl

/-- Holds if a session ends with this result and this output on every console, behind whatever was
written before, and adds nothing but warnings to it. -/
def Ends (session : Session α) (result : Except Failure α) (output : String) : Prop :=
  ∀ console, ∃ warnings : List String, session.on console =
    (result, ⟨console.output ++ output, console.diagnostics ++ warnings.map .warning⟩)

theorem ends_lift (result : Except Failure α) : Ends (liftM result : Session α) result "" :=
  fun console => ⟨[], by rw [String.append_empty, List.map_nil, List.append_nil]; rfl⟩

theorem ends_pure (a : α) : Ends (pure a) (.ok a) "" :=
  ends_lift (.ok a)

theorem ends_warn (message : String) : Ends (warn message) (.ok ()) "" :=
  fun console => ⟨[message], by rw [String.append_empty]; rfl⟩

theorem ends_print (text : String) : Ends (print text) (.ok ()) text :=
  fun console => ⟨[], by rw [List.map_nil, List.append_nil]; rfl⟩

/-- If the first part of a session prints nothing, the session ends and prints as its second part
does. -/
theorem Ends.bind (first : session.Ends (.ok a) "") (second : (next a).Ends result output) :
    (session >>= next).Ends result output := by
  intro console
  obtain ⟨warnings, ended⟩ := first console
  obtain ⟨more, whole⟩ :=
    second ⟨console.output ++ "", console.diagnostics ++ warnings.map .warning⟩
  refine ⟨warnings ++ more, ?_⟩
  rw [on_bind_of_ok ended, whole, String.append_empty, List.map_append, List.append_assoc]

/-- What would follow a failure is never run and prints nothing. -/
theorem Ends.bind_error (failed : session.Ends (.error failure) output) :
    (session >>= next).Ends (.error failure) output := by
  intro console
  obtain ⟨warnings, ended⟩ := failed console
  exact ⟨warnings, on_bind_of_error ended⟩

/-- Any number of warnings leave the output empty. -/
theorem ends_forM_warn {γ : Type} (message : γ → String) (l : List γ) :
    Ends (l.forM fun c => warn (message c)) (.ok ()) "" := by
  induction l with
  | nil => exact ends_pure ()
  | cons c l ih => exact (ends_warn (message c)).bind ih

/-- A session that succeeds has exit code zero, and nothing but warnings among its diagnostics. -/
theorem outcome_of_ok {session : Session Unit} (ends : session.Ends (.ok ()) output) :
    ∃ warnings : List String, session.outcome = ⟨0, output, warnings.map .warning⟩ := by
  obtain ⟨warnings, ended⟩ := ends {}
  refine ⟨warnings, ?_⟩
  rw [outcome, ended]
  simp

/-- The last diagnostic of a session that fails is the report of the failure, behind the
warnings. -/
theorem outcome_of_error {session : Session Unit} (ends : session.Ends (.error failure) output) :
    ∃ warnings : List String, session.outcome =
      ⟨failure.exitCode, output, warnings.map .warning ++ [.error failure.report]⟩ := by
  obtain ⟨warnings, ended⟩ := ends {}
  refine ⟨warnings, ?_⟩
  rw [outcome, ended]
  simp

end ScoreSieve.CommandLine.Session
