/-
  AdmissionControl.Proofs.Cluster.Run

  Runs of requests for one cluster.

  What is stored of a cluster is the object as it was admitted last.  An attempt comes with an
  object of its own and with the directory as it is at that time; over nothing it is a creation,
  and over a stored object an update of that object.  An admitted attempt replaces what is stored,
  and a denied or failed one leaves it (`store`).

  An admitted attempt shows a cluster on which every rule passes (`admitted_step`); what a run
  preserves is derived from this alone, by `run_preserves`.
-/

import AdmissionControl.Proofs.Evaluation
import Mathlib.Data.List.Basic

namespace AdmissionControl

namespace ClusterRun

/-! ## Attempts -/

/-- What is stored of a cluster: nothing, or the object that was admitted last. -/
abbrev Stored := Option (List (Text × Json))

/-- A request for the cluster, and the directory at the time of the request. -/
structure Attempt where
  request : AdmissionRequest
  directory : Directory

/-- The request over what is stored: a creation over nothing, and otherwise an update. -/
def Attempt.over (attempt : Attempt) : Stored → AdmissionRequest
  | none => { attempt.request with operation := .create }
  | some object => { attempt.request with operation := .update, oldObject := some object }

/-- The evaluation of the rules on an attempt; its state lists the access checks that were
answered. -/
def Attempt.review (attempt : Attempt) (stored : Stored) : Outcome (List AccessCheck) Decision :=
  (decideRequest .cluster (attempt.over stored)).run attempt.directory.handler []

/-- Whether an attempt is admitted. -/
def Attempt.admitted (attempt : Attempt) (stored : Stored) : Bool :=
  match (attempt.review stored).result with
  | .ok decision => decision.allowed
  | .error _ => false

/-- What is stored after an attempt. -/
def store (stored : Stored) (attempt : Attempt) : Stored :=
  if attempt.admitted stored then attempt.request.object else stored

/-- What is stored after some attempts. -/
def run (stored : Stored) (attempts : List Attempt) : Stored := attempts.foldl store stored

/-- What is stored decodes to a cluster, or is nothing. -/
def Shows (stored : Stored) (shown : Option Cluster) : Prop :=
  decodeObject "Cluster" Cluster.decode stored = .ok shown

variable {stored : Stored} {attempt : Attempt} {before : Option Cluster}

@[simp] theorem run_nil : run stored [] = stored := rfl

@[simp] theorem run_cons (attempts : List Attempt) :
    run stored (attempt :: attempts) = run (store stored attempt) attempts := rfl

theorem run_append (earlier later : List Attempt) :
    run stored (earlier ++ later) = run (run stored earlier) later :=
  List.foldl_append

theorem store_of_admitted (h : attempt.admitted stored = true) :
    store stored attempt = attempt.request.object := if_pos h

theorem store_of_not_admitted (h : ¬ attempt.admitted stored = true) :
    store stored attempt = stored := if_neg h

theorem shows_none : Shows none none := rfl

/-- What is stored shows one cluster at most. -/
theorem Shows.unique {first second : Option Cluster} (h : Shows stored first)
    (h' : Shows stored second) : first = second := by
  rw [Shows, h] at h'
  exact Except.ok.inj h'

@[simp] theorem over_userInfo : (attempt.over stored).userInfo = attempt.request.userInfo := by
  cases stored <;> rfl

theorem hasRules_over : hasRules (attempt.over stored).operation = true := by
  cases stored <;> rfl

/-! ## Admitted attempts -/

/-- The objects that an attempt carries are what was stored, and the object that it brings. -/
theorem shows_of_carried {new : Option Cluster} {old : Option Cluster}
    (hbefore : Shows stored before)
    (h : Carried "Cluster" Cluster.decode (attempt.over stored) old new) :
    old = before ∧ ∃ cluster, new = some cluster ∧ Shows attempt.request.object (some cluster) := by
  -- What is stored settles the operation, and only one case carries what goes with it.
  cases stored with
  | none =>
    cases h with
    | create _ hnew => exact ⟨shows_none.unique hbefore, _, rfl, hnew⟩
    | update hop _ _ => cases hop
    | delete hop _ => cases hop
  | some object =>
    cases h with
    | create hop _ => cases hop
    | update _ hold hnew => exact ⟨Shows.unique hold hbefore, _, rfl, hnew⟩
    | delete hop _ => cases hop

theorem admitted_iff : attempt.admitted stored = true ↔
    ∃ decision, (decideRequest .cluster (attempt.over stored)).result
      attempt.directory.answers = .ok decision ∧ decision.allowed = true := by
  rw [Attempt.admitted, Attempt.review,
    Consultation.result_run attempt.directory.handler_gives]
  cases (decideRequest .cluster (attempt.over stored)).result attempt.directory.answers with
  | error failure => simp
  | ok decision => simp

/-- What an admitted attempt stores shows a cluster, and every rule passes on it and on what was
stored before. -/
theorem admitted_step (hbefore : Shows stored before) (hadmitted : attempt.admitted stored = true) :
    ∃ new, Shows (store stored attempt) (some new) ∧
      Carried "Cluster" Cluster.decode (attempt.over stored) before (some new) ∧
      ∀ rule ∈ ClusterRules.all, (rule.check ⟨(attempt.over stored).operation, before, some new,
        attempt.request.userInfo⟩).Passes attempt.directory.answers := by
  obtain ⟨old, new, hcarried, hpasses⟩ :=
    (decideBy_allowed_iff attempt.directory.answers ClusterRules.all hasRules_over).mp
      (admitted_iff.mp hadmitted)
  obtain ⟨rfl, cluster, rfl, hnew⟩ := shows_of_carried hbefore hcarried
  rw [over_userInfo] at hpasses
  rw [store_of_admitted hadmitted]
  exact ⟨cluster, hnew, hcarried, hpasses⟩

/-- What every admitted attempt keeps of what is stored, every run keeps. -/
theorem run_preserves (P : Stored → Prop)
    (hstep : ∀ stored attempt, P stored → attempt.admitted stored = true →
      P (store stored attempt)) (attempts : List Attempt) (hstored : P stored) :
    P (run stored attempts) := by
  induction attempts generalizing stored with
  | nil => exact hstored
  | cons attempt attempts ih =>
    rw [run_cons]
    by_cases hadmitted : attempt.admitted stored = true
    · exact ih (hstep stored attempt hstored hadmitted)
    · rw [store_of_not_admitted hadmitted]
      exact ih hstored

/-- Whatever the attempts, what a run over nothing stores shows a cluster, or is nothing. -/
theorem exists_shows (attempts : List Attempt) : ∃ shown, Shows (run none attempts) shown := by
  refine run_preserves (fun stored => ∃ shown, Shows stored shown) ?_ attempts
    ⟨none, shows_none⟩
  -- An object that does not decode is never admitted, so it is not stored.
  rintro stored attempt ⟨shown, hshown⟩ hadmitted
  obtain ⟨new, hnew, -⟩ := admitted_step hshown hadmitted
  exact ⟨some new, hnew⟩

end ClusterRun

end AdmissionControl
