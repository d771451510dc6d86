/-
  AdmissionControl.Proofs.Session.Independence

  The steps of a session do not get in each other's way.

  All steps share one directory and one list of access checks.  A run over a directory goes the same
  way whatever was checked before, and only adds to the list (`run_directory_append`).  So a step
  gives what it gives over an empty list (`answer_step`), and leaves the directory as it would there
  (`directory_step`); only changes alter it, and a change that fails does not.

  Along a session, by induction over the steps, each of them is answered as it is by itself over the
  directory that the changes before it make (`Directory.after`).
-/

import AdmissionControl.Proofs.Answers
import AdmissionControl.Session
import Mathlib.Data.List.Infix

namespace AdmissionControl

/-! ## One consultation -/

/-- What was checked before a run over a directory has no influence on it, and stays in front of the
checks that it adds. -/
theorem Consultation.run_directory_append (directory : Directory) (c : Consultation α)
    (earlier checks : List AccessCheck) :
    c.run directory.handler (earlier ++ checks) =
      { c.run directory.handler checks with
        state := earlier ++ (c.run directory.handler checks).state } := by
  induction c generalizing checks with
  | done result => rfl
  | log record rest ih =>
    show ((rest.run directory.handler (earlier ++ checks)).after [record]) = _
    rw [ih checks]
    rfl
  | ask query next ih =>
    simp only [run, Directory.handler_eq]
    cases directory.answers query with
    | error failure => simp only [List.append_assoc]
    | ok reply =>
      -- The check of this question, if there is one, goes on in the list.
      have hrest := ih reply (checks ++ (directory.recorded? query).toList)
      rw [← List.append_assoc] at hrest
      show ((next reply).run directory.handler _).after [] = _
      rw [hrest]
      rfl

/-! ## One step -/

/-- What a step is answered with.  How many access checks there were so far is no part of it. -/
def StepReport.answer (report : StepReport) :
    Except Failure (Option SessionAnswer) × List LogRecord :=
  (report.result, report.log)

/-- Whether a step is a change of the directory, and not a question or a review. -/
def SessionStep.isChange : SessionStep → Bool
  | .change _ => true
  | .request _ => false

namespace Session

/-- A step by itself: over a directory, with no access checks before it. -/
def stepAlone (directory : Directory) (step : SessionStep) : StepReport × Session :=
  Session.step ⟨directory, []⟩ step

variable (session : Session) (step : SessionStep)

/-- A step of a session is the step by itself, with the earlier access checks in front. -/
theorem checks_step : (session.step step).2.checks =
    session.checks ++ (stepAlone session.directory step).2.checks := by
  cases step with
  | request request =>
    have hrun := request.consult.run_directory_append session.directory session.checks []
    rw [List.append_nil] at hrun
    show (request.consult.run session.directory.handler session.checks).state = _
    rw [hrun]
    rfl
  | change change =>
    simp only [stepAlone, Session.step]
    cases change.apply session.directory <;> exact (List.append_nil _).symm

theorem answer_step : (session.step step).1.answer =
    (stepAlone session.directory step).1.answer := by
  cases step with
  | request request =>
    have hrun := request.consult.run_directory_append session.directory session.checks []
    rw [List.append_nil] at hrun
    show ((request.consult.run session.directory.handler session.checks).result.map some,
      (request.consult.run session.directory.handler session.checks).log) = _
    rw [hrun]
    rfl
  | change change =>
    simp only [stepAlone, Session.step]
    cases change.apply session.directory <;> rfl

theorem directory_step : (session.step step).2.directory =
    (stepAlone session.directory step).2.directory := by
  cases step with
  | request request => rfl
  | change change =>
    simp only [stepAlone, Session.step]
    cases change.apply session.directory <;> rfl

end Session

/-! ## Sessions -/

/-- The directory that the changes among some steps make, without the other steps. -/
def Directory.after (directory : Directory) (steps : List SessionStep) : Directory :=
  (Session.run ⟨directory, []⟩ (steps.filter SessionStep.isChange)).2.directory

namespace Session

variable (session : Session) (step : SessionStep) (rest : List SessionStep)

theorem run_cons : session.run (step :: rest) =
    ((session.step step).1 :: ((session.step step).2.run rest).1,
      ((session.step step).2.run rest).2) := rfl

theorem run_append (first second : List SessionStep) :
    (session.run (first ++ second)).1 =
      (session.run first).1 ++ ((session.run first).2.run second).1 := by
  induction first generalizing session with
  | nil => rfl
  | cons step rest ih =>
    rw [List.cons_append, run_cons, run_cons, ih, List.cons_append]

theorem length_run (steps : List SessionStep) : (session.run steps).1.length = steps.length := by
  induction steps generalizing session with
  | nil => rfl
  | cons step rest ih => rw [run_cons, List.length_cons, List.length_cons, ih]

end Session

/-- The first of some steps alters the directory as it does by itself. -/
theorem Directory.after_cons (directory : Directory) (step : SessionStep)
    (rest : List SessionStep) :
    directory.after (step :: rest) =
      (Session.stepAlone directory step).2.directory.after rest := by
  cases step with
  | request request => rfl
  | change change =>
    have hchecks : (Session.stepAlone directory (.change change)).2.checks = [] := by
      simp only [Session.stepAlone, Session.step]
      cases change.apply directory <;> rfl
    show ((Session.stepAlone directory (.change change)).2.run _).2.directory = _
    rw [Directory.after, ← hchecks]

namespace Session

variable (session : Session) (step : SessionStep)

/-- The steps of a session by themselves, each over the directory that the changes before it
make. -/
def alone (directory : Directory) (steps : List SessionStep) : List (StepReport × Session) :=
  (steps.inits.zip steps).map fun place => stepAlone (directory.after place.1) place.2

theorem alone_cons (directory : Directory) (step : SessionStep) (rest : List SessionStep) :
    alone directory (step :: rest) =
      stepAlone directory step :: alone (stepAlone directory step).2.directory rest := by
  have hfirst : directory.after [] = directory := rfl
  -- What stands before a later step begins with the first one.
  simp only [alone, List.inits_cons, List.zip_cons_cons, List.map_cons, hfirst,
    List.zip_map_left, List.map_map]
  refine congrArg _ (List.map_congr_left fun place _ => ?_)
  show stepAlone (directory.after (step :: place.1)) place.2 = _
  rw [Directory.after_cons]

variable (steps : List SessionStep)

theorem answers_run : (session.run steps).1.map StepReport.answer =
    (alone session.directory steps).map fun ran => ran.1.answer := by
  induction steps generalizing session with
  | nil => rfl
  | cons step rest ih =>
    rw [run_cons, alone_cons, List.map_cons, List.map_cons, ih, answer_step, directory_step]

theorem checks_run : (session.run steps).2.checks =
    session.checks ++ (alone session.directory steps).flatMap fun ran => ran.2.checks := by
  induction steps generalizing session with
  | nil => exact (List.append_nil _).symm
  | cons step rest ih =>
    rw [run_cons, alone_cons, List.flatMap_cons, ih, checks_step, directory_step,
      List.append_assoc]

theorem directory_run : (session.run steps).2.directory = session.directory.after steps := by
  induction steps generalizing session with
  | nil => rfl
  | cons step rest ih => rw [run_cons, ih, directory_step, Directory.after_cons]

/-- What stands behind some steps is answered as by itself, over the directory that their changes
make. -/
theorem answer_run_behind (before rest : List SessionStep) :
    ((session.run (before ++ step :: rest)).1.map StepReport.answer)[before.length]? =
      some (stepAlone (session.directory.after before) step).1.answer := by
  rw [run_append, List.map_append, List.getElem?_append_right (by simp [length_run]),
    List.length_map, length_run, Nat.sub_self, run_cons, List.map_cons, List.getElem?_cons_zero,
    answer_step, directory_run]

/-- Each step of a session is answered as it is by itself over the directory that the changes before
it make, and the access checks of the session are those that its steps make by themselves, one after
the other; also of steps that fail midway.  So two sessions over the same directory give a step the
same answer if the same changes stand before it, however many other steps there are between these
and in whatever order. -/
theorem steps_answered_independently :
    (session.run steps).1.map StepReport.answer =
      (alone session.directory steps).map (fun ran => ran.1.answer) ∧
    (session.run steps).2.checks =
      session.checks ++ (alone session.directory steps).flatMap (fun ran => ran.2.checks) ∧
    (session.run steps).2.directory = session.directory.after steps ∧
    ∀ (before rest before' rest' : List SessionStep) (checks : List AccessCheck),
      before.filter SessionStep.isChange = before'.filter SessionStep.isChange →
      ∃ answer,
        ((session.run (before ++ step :: rest)).1.map StepReport.answer)[before.length]? =
          some answer ∧
        ((Session.run ⟨session.directory, checks⟩ (before' ++ step :: rest')).1.map
          StepReport.answer)[before'.length]? = some answer := by
  refine ⟨answers_run session steps, checks_run session steps, directory_run session steps, ?_⟩
  intro before rest before' rest' checks hchanges
  have hsame : session.directory.after before = session.directory.after before' := by
    rw [Directory.after, Directory.after, hchanges]
  have hother :=
    answer_run_behind ⟨session.directory, checks⟩ step before' rest'
  exact ⟨_, answer_run_behind session step before rest, by rw [hother, hsame]⟩

/-- A directory whose users are out of order. -/
def userlessDirectory : Directory where
  outage := { users := true }

/-- A review of the creation of a cluster in a workspace.  It names a creator. -/
def enteringReview : Json := .obj [("request", .obj [
  ("operation", .str "CREATE"), ("resource", .obj [("resource", .str "clusters")]),
  ("object", .obj [
    ("metadata", .obj [("annotations", .obj [(ClusterRules.creatorId, .str "u-1")])]),
    ("spec", .obj [("fleetWorkspaceName", .str "fleet-default")])])])]

/-- Over that directory the review fails behind its access check.  Before the change or behind it,
once or twice, it does not show in what is read afterwards. -/
theorem setting_read_past_failing_reviews :
    let failing : SessionStep := .request (.review enteringReview "")
    let put : SessionStep := .change (.putSetting "banner" (.str "on"))
    let read : SessionStep := .request (.setting "banner")
    let session : Session := ⟨userlessDirectory, []⟩
    (stepAlone userlessDirectory failing).1.result.isOk = false ∧
    [failing, put].filter SessionStep.isChange =
      [put, failing, failing].filter SessionStep.isChange ∧
    ∃ answer,
      ((session.run ([failing, put] ++ read :: [])).1.map StepReport.answer)[2]? = some answer ∧
      ((session.run ([put, failing, failing] ++ read :: [])).1.map StepReport.answer)[3]? =
        some answer ∧
      answer.1 = .ok (some (.setting ⟨"banner", "on"⟩)) ∧
      (session.run ([put, failing, failing] ++ read :: [])).2.checks.length = 2 := by
  intro failing put read session
  have hchanges : [failing, put].filter SessionStep.isChange =
      [put, failing, failing].filter SessionStep.isChange := rfl
  obtain ⟨-, hchecks, -, -⟩ :=
    steps_answered_independently session read ([put, failing, failing] ++ read :: [])
  obtain ⟨-, -, -, hanswers⟩ := steps_answered_independently session read []
  -- The same changes in both, so the setting is read alike.
  obtain ⟨answer, hfirst, hsecond⟩ :=
    hanswers [failing, put] [] [put, failing, failing] [] [] hchanges
  refine ⟨by decide +kernel, hchanges, answer, hfirst, hsecond, ?_, ?_⟩
  · -- What is read is the value that the change before it put there.
    have halone := (answer_run_behind session read [failing, put] []).symm.trans hfirst
    rw [← Option.some.inj halone]
    show (((SessionRequest.setting "banner").consult.run
      (session.directory.after [failing, put]).handler []).result.map some) = _
    rw [Consultation.result_run (Directory.handler_gives _)]
    rfl
  · rw [hchecks]
    decide +kernel

end Session

end AdmissionControl
