/-
  AdmissionControl.Proofs.Review.Outage

  Reviews over a directory of which some parts are out of order.

  A part that is out of order fails each question to it.  The run then goes as over the directory in
  order up to the first such question and ends there with its failure; without one the two runs are
  the same (`result_run_outage`, `run_eq_of_unhit`).  This holds of every consultation.

  A review adds that its failures over a directory in order come from the review alone
  (`failsOnly_review`), so a failed collaborator is told from them, and from every decision.
-/

import AdmissionControl.Proofs.Review.Failing

namespace AdmissionControl

/-! ## Questions to parts that are out of order -/

/-- Whether a question goes to a part that is out of order. -/
def Outage.hits (outage : Outage) : Query → Bool
  | .user _ => outage.users
  | .setting _ => outage.settings
  | .access _ => outage.authorizer

namespace Directory

/-- The directory with every part in order. -/
def repaired (directory : Directory) : Directory := { directory with outage := {} }

variable {directory : Directory} {query : Query}

theorem answers_of_hit (h : directory.outage.hits query = true) :
    directory.answers query = .error query.unavailable := by
  cases query <;> exact if_pos h

theorem answers_of_unhit (h : directory.outage.hits query = false) :
    directory.answers query = directory.repaired.answers query := by
  have hmiss := Bool.eq_false_iff.mp h
  cases query <;> exact if_neg hmiss

theorem handler_of_unhit (h : directory.outage.hits query = false) (checks : List AccessCheck) :
    directory.handler query checks = directory.repaired.handler query checks := by
  have hrecorded : directory.recorded? query = directory.repaired.recorded? query := by
    cases query with
    | access check => exact if_neg (Bool.eq_false_iff.mp h)
    | _ => rfl
  rw [handler_eq, handler_eq, answers_of_unhit h, hrecorded]

end Directory

/-! ## Two runs of a consultation -/

namespace Consultation

variable (directory : Directory) (c : Consultation α)

/-- The first question to a part that is out of order is the same, whether the answers before it
are looked up in the directory as it is or in order. -/
theorem find?_asked_outage :
    (c.asked directory.answers).find? directory.outage.hits =
      (c.asked directory.repaired.answers).find? directory.outage.hits := by
  induction c with
  | done result => rfl
  | log record rest ih => exact ih
  | ask query next ih =>
    simp only [asked]
    -- At the first question of the outage the two part; up to there they are answered alike.
    cases hquery : directory.outage.hits query with
    | true => rw [List.find?_cons_of_pos hquery, List.find?_cons_of_pos hquery]
    | false =>
      have hmiss := Bool.eq_false_iff.mp hquery
      rw [List.find?_cons_of_neg hmiss, List.find?_cons_of_neg hmiss,
        Directory.answers_of_unhit hquery]
      cases directory.repaired.answers query with
      | ok reply => exact ih reply
      | error failure => rfl

/-- A run ends with the failure of the first question to a part that is out of order; without such
a question it ends as if all were in order. -/
theorem result_run_outage (checks : List AccessCheck) :
    (c.run directory.handler checks).result =
      match (c.asked directory.repaired.answers).find? directory.outage.hits with
      | some query => .error query.unavailable
      | none => (c.run directory.repaired.handler checks).result := by
  rw [result_run directory.handler_gives, result_run directory.repaired.handler_gives]
  -- Up to the first such question both directories answer alike.
  induction c with
  | done result => rfl
  | log record rest ih => exact ih
  | ask query next ih =>
    simp only [asked, result]
    cases hquery : directory.outage.hits query with
    | true => rw [List.find?_cons_of_pos hquery, Directory.answers_of_hit hquery]
    | false =>
      rw [List.find?_cons_of_neg (Bool.eq_false_iff.mp hquery), Directory.answers_of_unhit hquery]
      cases directory.repaired.answers query with
      | ok reply => exact ih reply
      | error failure => rfl

variable {directory c}

/-- Without a question to a part that is out of order the whole run is the same: its result, its
log, and what is recorded. -/
theorem run_eq_of_unhit
    (h : ∀ query ∈ c.asked directory.repaired.answers, directory.outage.hits query = false)
    (checks : List AccessCheck) :
    c.run directory.handler checks = c.run directory.repaired.handler checks := by
  refine (run_eq_of_visits fun visit hvisit => ?_).symm
  have hasked : visit.1 ∈ c.asked directory.repaired.answers := by
    rw [← map_fst_visits directory.repaired.handler_gives c checks]
    exact List.mem_map_of_mem hvisit
  exact (Directory.handler_of_unhit (h visit.1 hasked) visit.2).symm

end Consultation

/-! ## Failed collaborators and decisions -/

/-- A result is the failure of a collaborator. -/
def FailsByCollaborator (result : Except Failure α) : Prop :=
  ∃ failure, result = .error failure ∧ failure.isCollaborator = true

/-- Collaborators that answer fail no question. -/
theorem Collaborators.answers_ne_error (collaborators : Collaborators) (query : Query)
    (failure : Failure) : collaborators.answers query ≠ .error failure := by
  cases query <;> exact nofun

/-- So a review fails by itself over them. -/
theorem not_failsByCollaborator_review (collaborators : Collaborators) (admissionReview : Json)
    (resource : Text) :
    ¬ FailsByCollaborator ((review admissionReview resource).result collaborators.answers) := by
  rintro ⟨failure, hresult, hcollaborator⟩
  rcases (failsOnly_review admissionReview resource).of_result collaborators.answers_ne_error
    hresult with hrequest | ⟨rfl, -⟩
  · rw [hrequest.isCollaborator] at hcollaborator
    cases hcollaborator
  · cases hcollaborator

section

variable {directory : Directory} {c : Consultation α} {checks : List AccessCheck}

theorem Consultation.exists_hit_iff :
    (∃ query ∈ c.asked directory.answers, directory.outage.hits query = true) ↔
      ∃ query ∈ c.asked directory.repaired.answers, directory.outage.hits query = true := by
  rw [← List.find?_isSome, ← List.find?_isSome, find?_asked_outage]

theorem Consultation.run_eq_of_not_exists_hit
    (h : ¬ ∃ query ∈ c.asked directory.repaired.answers, directory.outage.hits query = true) :
    c.run directory.handler checks = c.run directory.repaired.handler checks := by
  refine run_eq_of_unhit (fun query hquery => ?_) checks
  rw [Bool.eq_false_iff]
  exact fun hhit => h ⟨query, hquery, hhit⟩

/-- Where no collaborator fails in order, one fails out of order exactly if it is asked. -/
theorem Consultation.failsByCollaborator_iff
    (hworking : ¬ FailsByCollaborator (c.run directory.repaired.handler checks).result) :
    FailsByCollaborator (c.run directory.handler checks).result ↔
      ∃ query ∈ c.asked directory.repaired.answers, directory.outage.hits query = true := by
  constructor
  · intro hfails
    by_contra hnone
    rw [run_eq_of_not_exists_hit hnone] at hfails
    exact hworking hfails
  · intro hhit
    obtain ⟨query, hquery⟩ := Option.isSome_iff_exists.mp (List.find?_isSome.mpr hhit)
    have hresult := result_run_outage directory c checks
    rw [hquery] at hresult
    exact ⟨query.unavailable, hresult, by cases query <;> rfl⟩

end

/-- A review over a directory of which some parts are out of order either ends with the failure of a
collaborator, or its whole run is that over the directory in order; the former exactly when it asks
one of these parts, over either directory.  No response rests on a question that failed. -/
theorem failed_collaborators_change_no_verdict (admissionReview : Json) (resource : Text)
    (directory : Directory) (checks : List AccessCheck) :
    let consultation := review admissionReview resource
    let failing := consultation.run directory.handler checks
    let working := consultation.run directory.repaired.handler checks
    (FailsByCollaborator failing.result ∨ failing = working) ∧
    ¬ FailsByCollaborator working.result ∧
    (FailsByCollaborator failing.result ↔
      ∃ query ∈ consultation.asked directory.answers, directory.outage.hits query = true) ∧
    (FailsByCollaborator failing.result ↔
      ∃ query ∈ consultation.asked directory.repaired.answers,
        directory.outage.hits query = true) ∧
    ∀ response, failing.result = .ok response → working.result = .ok response := by
  intro consultation failing working
  -- Collaborators in order never fail, so a failure of theirs is due to the outage.
  have hworking : ¬ FailsByCollaborator working.result := by
    have hgives : directory.repaired.handler.Gives directory.repaired.collaborators.answers :=
      Directory.gives_collaborators rfl
    rw [Consultation.result_run hgives]
    exact not_failsByCollaborator_review _ admissionReview resource
  have hiff := Consultation.failsByCollaborator_iff hworking
  have heither : FailsByCollaborator failing.result ∨ failing = working := by
    by_cases hfails : FailsByCollaborator failing.result
    · exact .inl hfails
    · exact .inr (Consultation.run_eq_of_not_exists_hit fun hhit => hfails (hiff.mpr hhit))
  refine ⟨heither, hworking, hiff.trans Consultation.exists_hit_iff.symm, hiff,
    fun response hresponse => ?_⟩
  -- A response is no failure, so the runs are equal.
  rcases heither with ⟨failure, hfailure, -⟩ | hequal
  · rw [hfailure] at hresponse
    cases hresponse
  · rw [← hequal]
    exact hresponse

/-- A directory of which no part is in order. -/
def brokenDirectory : Directory where
  outage := { users := true, settings := true, authorizer := true }

/-- A review of the deletion of a cluster, about which nobody is asked. -/
def deletionReview : Json := .obj [("request", .obj [
  ("uid", .str "1"), ("operation", .str "DELETE"), ("oldObject", .obj [])])]

/-- A review of the creation of a cluster, in which the users are asked for its creator. -/
def creatorReview : Json := .obj [("request", .obj [
  ("uid", .str "1"), ("operation", .str "CREATE"),
  ("object", .obj [("metadata", .obj [("annotations", .obj [
    ("field.cattle.io/creatorId", .str "u-1")])])])])]

theorem brokenDirectory_fails_only_if_asked :
    (let failing := (review deletionReview "clusters").run brokenDirectory.handler []
      let working := (review deletionReview "clusters").run brokenDirectory.repaired.handler []
      failing.result = .ok (Decision.respond (.allow []) "1") ∧
        working.result = .ok (Decision.respond (.allow []) "1") ∧ failing = working) ∧
    FailsByCollaborator ((review creatorReview "clusters").run brokenDirectory.handler []).result ∧
    ¬ FailsByCollaborator
      ((review creatorReview "clusters").run brokenDirectory.repaired.handler []).result := by
  refine ⟨?deletion, ?creation⟩
  case deletion =>
    intro failing working
    have hallowed : failing.result = .ok (Decision.respond (.allow []) "1") := rfl
    obtain ⟨heither, -, -, -, hresponse⟩ :=
      failed_collaborators_change_no_verdict deletionReview "clusters" brokenDirectory []
    refine ⟨hallowed, hresponse _ hallowed, heither.resolve_left ?_⟩
    rintro ⟨failure, hfailure, -⟩
    cases hallowed.symm.trans hfailure
  case creation =>
    obtain ⟨-, hworking, -, hasked, -⟩ :=
      failed_collaborators_change_no_verdict creatorReview "clusters" brokenDirectory []
    -- The users are asked for the creator, and they are out of order.
    exact ⟨hasked.mpr ⟨.user "u-1", List.mem_singleton_self _, rfl⟩, hworking⟩

end AdmissionControl
