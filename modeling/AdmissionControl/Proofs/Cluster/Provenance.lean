/-
  AdmissionControl.Proofs.Cluster.Provenance

  What a run keeps of the creator that a cluster was created with.

  The rules for creations alone look up the creator, and the rules for updates alone compare the
  old cluster with the new one.  So the facts about the creator hold of the first cluster of a run
  (`creatorKnown_of_creation`), and of every later one because it descends from the first
  (`Descends`): it says no more about its creator than the first one said.
-/

import AdmissionControl.Proofs.Cluster.Obligations
import AdmissionControl.Proofs.Cluster.Run

namespace AdmissionControl

namespace ClusterRun

open ClusterRules

/-! ## Descent -/

/-- A cluster says of its creator what an earlier one said, or less, and the same of whether the
creator becomes owner. -/
structure Descends (earlier later : Cluster) : Prop where
  creator : Kept earlier later creatorId
  principal : Kept earlier later creatorPrincipalName
  rbac : later.written noCreatorRbac = earlier.written noCreatorRbac

theorem Descends.refl (cluster : Cluster) : Descends cluster cluster :=
  ⟨fun _ h => h, fun _ h => h, rfl⟩

theorem Descends.trans {first second third : Cluster} (h : Descends first second)
    (h' : Descends second third) : Descends first third where
  creator value hvalue := h.creator value (h'.creator value hvalue)
  principal value hvalue := h.principal value (h'.principal value hvalue)
  rbac := h'.rbac.trans h.rbac

/-! ## Steps -/

variable {stored : Stored} {attempt : Attempt} {old : Cluster}

/-- An admitted update stores a cluster that descends from the one before. -/
theorem descends_of_update (hold : Shows stored (some old))
    (hadmitted : attempt.admitted stored = true) :
    ∃ new, Shows (store stored attempt) (some new) ∧ Descends old new := by
  obtain ⟨new, hnew, hcarried, hpasses⟩ := admitted_step hold hadmitted
  cases hcarried with
  | update hop _ _ =>
    simp only [hop, ClusterRules.all, List.forall_mem_cons] at hpasses
    obtain ⟨-, -, hannotations, -, hrbac, -⟩ := hpasses
    obtain ⟨hcreator, hprincipal⟩ :=
      (enforces_creatorAnnotationsImmutable.passes_iff _).mp hannotations
    exact ⟨new, hnew, hcreator, hprincipal,
      (enforces_noCreatorRbacImmutable.passes_iff _).mp hrbac⟩

/-- An admitted creation stores a cluster whose creator was known, and does not both name a
creator and keep it from becoming owner. -/
theorem creatorKnown_of_creation (hadmitted : attempt.admitted none = true) :
    ∃ new, Shows (store none attempt) (some new) ∧
      CreatorKnown attempt.directory.collaborators.user? new ∧ ¬ OwnerlessCreator new := by
  obtain ⟨new, hnew, hcarried, hpasses⟩ := admitted_step shows_none hadmitted
  cases hcarried with
  | create hop _ =>
    simp only [hop, ClusterRules.all, List.forall_mem_cons] at hpasses
    obtain ⟨-, -, -, hreference, -, hrbac, -⟩ := hpasses
    refine ⟨new, hnew, ?_, (enforces_noCreatorRbacWithCreator.passes_iff _).mp hrbac⟩
    cases hanswer : attempt.directory.answers (.user (new.written creatorId)) with
    | ok found =>
      have hlookup : attempt.directory.answers (.user (new.written creatorId)) =
          .ok (attempt.directory.collaborators.user? (new.written creatorId)) := by
        rw [hanswer, ← Directory.answers_user_eq_ok hanswer]
        rfl
      exact ((enforces_creatorReference hlookup).passes_iff _).mp hreference
    | error failure =>
      -- The users could not be asked, so there was nobody to ask for.
      exact .inl (creator_unnamed_of_failure hanswer hreference)

/-! ## Runs -/

/-- Over a stored cluster, every run stores a cluster that descends from it. -/
theorem descends_of_run (attempts : List Attempt) {first : Cluster}
    (hfirst : Shows stored (some first)) :
    ∃ last, Shows (run stored attempts) (some last) ∧ Descends first last := by
  refine run_preserves (fun stored => ∃ last, Shows stored (some last) ∧ Descends first last) ?_
    attempts ⟨first, hfirst, .refl first⟩
  rintro stored attempt ⟨old, hold, hdescends⟩ hadmitted
  obtain ⟨new, hnew, hstep⟩ := descends_of_update hold hadmitted
  exact ⟨new, hnew, hdescends.trans hstep⟩

/-- What a cluster says of its creator goes back to the first cluster of its run, which was created
when there were these users. -/
structure Provenance (users : Entries User) (first current : Cluster) : Prop where
  creator : current.annotationValue? creatorId = none ∨
    current.annotationValue? creatorId = first.annotationValue? creatorId
  principal : current.annotationValue? creatorPrincipalName = none ∨
    current.annotationValue? creatorPrincipalName = first.annotationValue? creatorPrincipalName
  rbac : current.written noCreatorRbac = first.written noCreatorRbac
  exclusive : ¬ OwnerlessCreator current
  /-- The creator was a user. -/
  existed : ∀ name, current.annotationValue? creatorId = some name → name ≠ "" →
    ∃ user, users.lookup name = some user
  /-- The principal was one of the user that the first cluster names. -/
  held : ∀ id, current.annotationValue? creatorPrincipalName = some id → id ≠ "" →
    ∃ name user, first.annotationValue? creatorId = some name ∧
      users.lookup name = some user ∧ id ∈ user.principalIds

theorem provenance_of_descends {directory : Directory} {first last : Cluster}
    (hknown : CreatorKnown directory.collaborators.user? first)
    (hexclusive : ¬ OwnerlessCreator first) (h : Descends first last) :
    Provenance directory.users first last where
  creator := h.creator.eq_none_or_eq
  principal := h.principal.eq_none_or_eq
  rbac := h.rbac
  exclusive := by
    -- Both annotations would go back to the first cluster, which does not carry them together.
    rintro ⟨hrbac, hcreator⟩
    obtain ⟨name, hname⟩ := Option.ne_none_iff_exists'.mp hcreator
    have hwritten := Cluster.written_of_annotationValue? hrbac
    rw [h.rbac] at hwritten
    refine hexclusive ⟨Cluster.annotationValue?_of_written hwritten (by decide), ?_⟩
    rw [h.creator name hname]
    exact Option.some_ne_none name
  existed := by
    intro name hname hnonempty
    have hwritten := Cluster.written_of_annotationValue? (h.creator name hname)
    rcases hknown with ⟨hempty, -⟩ | ⟨-, user, huser, -⟩
    · exact absurd (hwritten.symm.trans hempty) hnonempty
    · rw [hwritten] at huser
      exact ⟨user, huser⟩
  held := by
    intro id hid hnonempty
    have hwritten := Cluster.written_of_annotationValue? (h.principal id hid)
    rcases hknown with ⟨-, hempty⟩ | ⟨hnamed, user, huser, hheld⟩
    · exact absurd (hwritten.symm.trans hempty) hnonempty
    · rw [hwritten] at hheld
      exact ⟨_, user, Cluster.annotationValue?_of_written rfl hnamed, huser,
        hheld.resolve_left hnonempty⟩

/-- Every run over an admitted creation keeps the provenance of the first cluster: each cluster
that it stores says of the creator what the first one said, or less, and what was left out once
does not come back. -/
theorem creator_provenance_preserved (creation : Attempt) (earlier later : List Attempt)
    (hadmitted : creation.admitted none = true) :
    ∃ first middle last, Shows (run none [creation]) (some first) ∧
      Shows (run none (creation :: earlier)) (some middle) ∧
      Shows (run none (creation :: (earlier ++ later))) (some last) ∧
      Provenance creation.directory.users first middle ∧
      Provenance creation.directory.users first last ∧
      (middle.annotationValue? creatorId = none → last.annotationValue? creatorId = none) ∧
      (middle.annotationValue? creatorPrincipalName = none →
        last.annotationValue? creatorPrincipalName = none) := by
  obtain ⟨first, hfirst, hknown, hexclusive⟩ := creatorKnown_of_creation hadmitted
  obtain ⟨middle, hmiddle, hearlier⟩ := descends_of_run earlier hfirst
  obtain ⟨last, hlast, hlater⟩ := descends_of_run later hmiddle
  rw [← run_append] at hlast
  exact ⟨first, middle, last, hfirst, hmiddle, hlast,
    provenance_of_descends hknown hexclusive hearlier,
    provenance_of_descends hknown hexclusive (hearlier.trans hlater),
    hlater.creator.eq_none, hlater.principal.eq_none⟩

/-- The imported cluster is created. -/
def importing : Attempt := ⟨creationBy "alice" importedCluster, guardedDirectory⟩

/-- The imported cluster without the principal of its creator. -/
def forgetfulCluster : Cluster := { importedCluster with
  metadata := { annotations := [(creatorId, "u-alice"), (versionManagement, "system-default")] } }

/-- The principal is left out, when there are no users any more. -/
def forgetting : Attempt := ⟨creationBy "bob" forgetfulCluster, {}⟩

theorem forgotten_principal_stays_absent :
    importing.admitted none = true ∧
    ∃ last, Shows (run none [importing, forgetting, importing]) (some last) ∧
      Provenance guardedDirectory.users importedCluster last ∧
      last.annotationValue? creatorPrincipalName = none := by
  have hcreated : importing.admitted none = true := by decide +kernel
  have hforgot : forgetting.admitted importing.request.object = true := by
    decide +kernel
  -- What is stored behind each step is evaluated; the last step goes by the theorem.
  have hfirst : Shows (run none [importing]) (some importedCluster) := by
    rw [run_cons, run_nil, store_of_admitted hcreated]
    rfl
  have hmiddle : Shows (run none [importing, forgetting])
      (some forgetfulCluster) := by
    rw [run_cons, run_cons, run_nil, store_of_admitted hcreated, store_of_admitted hforgot]
    rfl
  obtain ⟨first, middle, last, hfirst', hmiddle', hlast, -, hprovenance, -, habsent⟩ :=
    creator_provenance_preserved importing [forgetting] [importing] hcreated
  obtain rfl : importedCluster = first := Option.some.inj (hfirst.unique hfirst')
  obtain rfl : forgetfulCluster = middle := Option.some.inj (hmiddle.unique hmiddle')
  exact ⟨hcreated, last, hlast, hprovenance, habsent (by decide +kernel)⟩

end ClusterRun

end AdmissionControl
