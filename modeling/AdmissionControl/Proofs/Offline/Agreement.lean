/-
  AdmissionControl.Proofs.Offline.Agreement

  Where the evaluation from files and the service agree.

  Both read the same review, from the text of a file and from the bytes of a body, and both run it
  over the same directory.  What differs is what they make of the result: one prints the response as
  JSON in ASCII and ends with a status, the other sends it as UTF-8 under a status of its own.  And
  each reads to a depth of its own.

  The printed text reads back as the response (`Json.Plain.ofText_text`), so the two show the same
  value.  They do so unless a text of the response holds half of a surrogate pair, which can be
  printed but not sent.  And a text that is not nested too deep for one of them reads for it as for
  any other reader (`Json.ofText_eq_of_depths`), so they fail alike unless the text is nested too
  deep, which ends the evaluation like a denial and breaks the service off.
  `agrees_with_service_iff` says that these are the only exceptions.
-/

import AdmissionControl.Proofs.Json.Depth
import AdmissionControl.Proofs.Json.Reading
import AdmissionControl.Proofs.Json.Written
import AdmissionControl.Proofs.Offline.Status
import AdmissionControl.Proofs.Review.Dispatch
import AdmissionControl.Proofs.Review.Envelope
import AdmissionControl.Proofs.Text.Encoding

namespace AdmissionControl

/-! ## Responses as JSON -/

/-- An object whose members may be left out is plain, if the values of those that are given are. -/
theorem Json.Plain.objOfSome {depth : Nat} {members : List (Text × Option Json)}
    (hnames : (members.map Prod.fst).Nodup)
    (h : ∀ member ∈ members, ∀ j, member.2 = some j → Json.Plain depth j) :
    Json.Plain (depth + 1) (Json.objOfSome members) := by
  refine .obj ?_ fun member hmem => ?_
  · -- The members that are there keep their names and their order.
    have hsublist : List.Sublist ((members.filterMap fun entry => entry.2.map (entry.1, ·)).map
        Prod.fst) (members.map Prod.fst) := by
      clear hnames h
      induction members with
      | nil => exact .slnil
      | cons entry rest ih =>
        obtain ⟨name, value⟩ := entry
        cases value with
        | none => exact ih.cons _
        | some j => exact ih.cons_cons _
    exact hsublist.nodup hnames
  · obtain ⟨entry, hentry, hvalue⟩ := List.mem_filterMap.mp hmem
    obtain ⟨j, hj, rfl⟩ := Option.map_eq_some_iff.mp hvalue
    exact h entry hentry j hj

/-- An array of texts is plain. -/
theorem Json.Plain.texts {depth : Nat} (texts : List Text) :
    Json.Plain (depth + 1) (.arr (texts.map .str)) := by
  refine .arr fun item hitem => ?_
  obtain ⟨text, -, rfl⟩ := List.mem_map.mp hitem
  exact .str text

/-- The status of a denial is plain, with the code of its reason. -/
theorem DenialStatus.plain_toJson {status : DenialStatus}
    (hcode : status.code = status.reason.code) : Json.Plain 1 status.toJson := by
  have hdigits : (Nat.toDigits 10 (status.code : Int).natAbs).length ≤
      Json.greatestDigitCount := by
    rw [hcode]
    cases status.reason <;> decide
  have hnames : [("status" : Text), "code", "reason", "message"].Nodup := by decide
  refine .obj hnames ?_
  simp only [List.forall_mem_cons, List.not_mem_nil, false_imp_iff, implies_true, and_true]
  exact ⟨.str _, .int hdigits, .str _, .str _⟩

/-- The response that carries a decision is plain: what it may leave out is. -/
theorem Decision.plain_responseJson (decision : Decision) (uid : Text) :
    Json.Plain 2 (decision.respond uid).responseJson := by
  have hnames : [("uid" : Text), "allowed", "status", "warnings"].Nodup := by decide
  refine .objOfSome hnames ?_
  simp only [List.forall_mem_cons, List.not_mem_nil, false_imp_iff, implies_true, and_true]
  -- The status holds the deepest value, one level below the response.
  refine ⟨?uid, ?allowed, ?status, ?warnings⟩
  case uid =>
    rintro _ ⟨⟩
    exact .str uid
  case allowed =>
    rintro _ ⟨⟩
    exact .bool decision.allowed
  case status =>
    intro j hj
    obtain ⟨status, hsome, rfl⟩ := Option.map_eq_some_iff.mp hj
    rw [Decision.respond] at hsome
    split at hsome
    · cases hsome
    · obtain rfl := Option.some.inj hsome
      exact DenialStatus.plain_toJson rfl
  case warnings =>
    intro j hj
    split at hj
    · cases hj
    · obtain rfl := Option.some.inj hj
      exact .texts _

/-- A decision is sent as plain JSON. -/
theorem Decision.plain_respond (decision : Decision) (uid : Text) :
    Json.Plain 3 (decision.respond uid).toJson := by
  have hnames : [("apiVersion" : Text), "kind", "response"].Nodup := by decide
  refine .obj hnames ?_
  simp only [List.forall_mem_cons, List.not_mem_nil, false_imp_iff, implies_true, and_true]
  exact ⟨.str _, .str _, decision.plain_responseJson uid⟩

/-- What is printed of a response that can be sent reads back as the review that carries it. -/
theorem ofText_printed {handler : Handler σ} {state : σ} {admissionReview : Json} {resource : Text}
    {response : ReviewResponse}
    (hrun : ((review admissionReview resource).run handler state).result = .ok response)
    (hsent : response.toJson.isEncodable = true) {depth : Nat} (hdepth : 3 ≤ depth) :
    Json.ofText depth (OfflineResult.ofResponse response).printed = .ok response.toJson := by
  obtain ⟨request, decision, -, -, rfl⟩ := exists_decision_of_review hrun
  have hplain := decision.plain_respond request.uid
  have hblanks : ∀ c ∈ "\n".toList, Json.isSeparator c = true := by
    rintro c hc
    obtain rfl : c = '\n' := List.mem_singleton.mp hc
    rfl
  exact hplain.ofText_text hsent hdepth .ascii hblanks

/-! ## What both are given -/

/-- Users with their principals, as the value of a file. -/
def usersJson (users : Entries (List Text)) : Json :=
  .obj (users.map fun entry => (entry.1, .arr (entry.2.map .str)))

/-- Settings, as the value of a file. -/
def settingsJson (settings : Entries Text) : Json :=
  .obj (settings.map fun entry => (entry.1, .str entry.2))

/-- The directory of some users and settings. -/
def Directory.ofMaps (users : Entries (List Text)) (settings : Entries Text)
    (authorized : Bool) : Directory where
  users := users.map fun entry => (entry.1, ⟨entry.1, entry.2⟩)
  settings := settings.map fun entry => (entry.1, ⟨entry.1, entry.2⟩)
  authorized := authorized

theorem plain_usersJson {users : Entries (List Text)} (hnames : (users.map Prod.fst).Nodup) :
    Json.Plain 2 (usersJson users) := by
  refine .obj ?_ fun member hmem => ?_
  · rw [List.map_map]
    exact hnames
  · obtain ⟨entry, -, rfl⟩ := List.mem_map.mp hmem
    exact .texts entry.2

theorem plain_settingsJson {settings : Entries Text} (hnames : (settings.map Prod.fst).Nodup) :
    Json.Plain 1 (settingsJson settings) := by
  refine .obj ?_ fun member hmem => ?_
  · rw [List.map_map]
    exact hnames
  · obtain ⟨entry, -, rfl⟩ := List.mem_map.mp hmem
    exact .str entry.2

/-- A file with the text of a plain value holds that value. -/
theorem OfflineInput.holds_text {height depth : Nat} {j : Json} (hplain : Json.Plain height j)
    (hsent : j.isEncodable = true) (hdepth : height ≤ depth) (style : Json.Style) :
    Holds depth (some (j.text style)) j := by
  have hread : Json.ofText depth (.ofString (j.text style ++ "")) = .ok j :=
    hplain.ofText_text hsent hdepth style nofun
  rw [String.append_empty] at hread
  exact OfflineInput.read_eq_ok.mpr hread

theorem mapM_map_eq_ok {α β γ : Type} {f : β → Except Failure γ} {entry : α → β} {value : α → γ}
    (h : ∀ a, f (entry a) = .ok (value a)) (items : List α) :
    (items.map entry).mapM f = .ok (items.map value) := by
  induction items with
  | nil => rfl
  | cons a rest ih =>
    rw [List.map_cons, List.mapM_cons, h, ih]
    rfl

theorem usersOf_usersJson (users : Entries (List Text)) :
    Directory.usersOf (usersJson users) =
      .ok (users.map fun entry => (entry.1, ⟨entry.1, entry.2⟩)) := by
  have hentry (entry : Text × List Text) :
      Directory.userEntry (entry.1, .arr (entry.2.map .str)) =
        .ok (entry.1, ⟨entry.1, entry.2⟩) := by
    have hparts : User.decodeParts (.str entry.1) (.arr (entry.2.map .str)) =
        .value ⟨entry.1, entry.2⟩ := User.decodeParts_eq_value.mpr ⟨rfl, rfl⟩
    show (Directory.userOf entry.1 (.arr (entry.2.map .str))).map (entry.1, ·) = _
    rw [Directory.userOf, hparts]
    rfl
  show Directory.entriesOf (usersJson users) >>= (·.mapM Directory.userEntry) = _
  rw [usersJson, Directory.entriesOf_eq_ok.mpr (.inr rfl)]
  exact mapM_map_eq_ok hentry users

theorem settingsOf_settingsJson (settings : Entries Text) :
    Directory.settingsOf (settingsJson settings) =
      .ok (settings.map fun entry => (entry.1, ⟨entry.1, entry.2⟩)) := by
  have hentry (entry : Text × Text) :
      Directory.settingEntry (entry.1, .str entry.2) = .ok (entry.1, ⟨entry.1, entry.2⟩) := rfl
  show Directory.entriesOf (settingsJson settings) >>= (·.mapM Directory.settingEntry) = _
  rw [settingsJson, Directory.entriesOf_eq_ok.mpr (.inr rfl)]
  exact mapM_map_eq_ok hentry settings

theorem OfflineInput.directory_eq_ofMaps {input : OfflineInput} {users : Entries (List Text)}
    {settings : Entries Text} (husers : Holds input.depth input.users (usersJson users))
    (hsettings : Holds input.depth input.settings (settingsJson settings)) :
    input.directory = .ok (.ofMaps users settings input.authorized) := by
  rw [Holds] at husers hsettings
  rw [directory, husers, hsettings]
  show (do
    let users ← Directory.usersOf (usersJson users)
    let settings ← Directory.settingsOf (settingsJson settings)
    return ({ users, settings, authorized := input.authorized } : Directory)) = _
  rw [usersOf_usersJson, settingsOf_settingsJson]
  rfl

/-- The bytes of a text hold the same value as the text. -/
theorem Json.ofBytes_utf8 {cs : List Char} (hmark : cs.head? ≠ some '\ufeff')
    (hzero : '\x00' ∉ cs) (depth : Nat) :
    Json.ofBytes depth (Text.utf8 cs) = Json.ofText depth (.ofChars cs) := by
  rw [Json.ofBytes, Text.decode?_utf8 hmark hzero]

/-! ## What both show -/

/-- A review shows a verdict in its response. -/
def Json.ShowsVerdict (v : Json) (allowed : Bool) : Prop :=
  (v.member? "response").bind (·.member? "allowed") = some (.bool allowed)

/-- An evaluation ends with a status and prints the text of a value, as a reader finds that goes
deep enough. -/
def OfflineInput.Prints (input : OfflineInput) (status : Nat) (v : Json) : Prop :=
  ∃ printed, input.evaluate = .ok ⟨status, printed⟩ ∧
    ∃ depth, Json.ofText depth printed = .ok v

/-- An answer of the service carries a value. -/
def ServiceReply.Carries (reply : ServiceReply) (v : Json) : Prop :=
  reply.status = 200 ∧ reply.content = .json v

/-- An evaluation from files and an answer of the service agree: they show the same values with the
same verdict, and they fail alike. -/
structure OfflineInput.AgreesWith (input : OfflineInput) (reply : ServiceReply) : Prop where
  allowed : ∀ v, input.Prints 0 v ↔ reply.Carries v ∧ v.ShowsVerdict true
  denied : ∀ v, input.Prints 1 v ↔ reply.Carries v ∧ v.ShowsVerdict false
  failed : OfflineResult.programStatus input.evaluate = 2 ↔ reply.status = 500

theorem ReviewResponse.showsVerdict_iff (response : ReviewResponse) (allowed : Bool) :
    response.toJson.ShowsVerdict allowed ↔ response.allowed = allowed := by
  rw [Json.ShowsVerdict, member?_response, Option.bind_some, member?_allowed]
  simp

namespace OfflineInput

variable {input : OfflineInput} {reply : ServiceReply}

theorem agreesWith_of_failure (hevaluate : input.evaluate = .ok ⟨2, ""⟩)
    (hstatus : reply.status = 500) : input.AgreesWith reply := by
  -- The evaluation prints no verdict, and the service carries none.
  have hprints (status : Nat) (hne : status ≠ 2) (v : Json) : ¬ input.Prints status v := by
    rintro ⟨printed, hprinted, -⟩
    rw [hevaluate] at hprinted
    cases hprinted
    exact hne rfl
  have hcarries (v : Json) : ¬ reply.Carries v := by
    rintro ⟨hok, -⟩
    rw [hstatus] at hok
    cases hok
  refine ⟨fun v => ?_, fun v => ?_, ?_⟩
  · exact iff_of_false (hprints 0 (by decide) v) fun h => hcarries v h.1
  · exact iff_of_false (hprints 1 (by decide) v) fun h => hcarries v h.1
  · rw [hevaluate]
    exact iff_of_true rfl hstatus

theorem agreesWith_of_response {response : ReviewResponse}
    (hevaluate : input.evaluate = .ok (OfflineResult.ofResponse response))
    (hprinted : Json.ofText 3 (OfflineResult.ofResponse response).printed = .ok response.toJson)
    (hreply : reply = .ofContent 200 (.json response.toJson)) : input.AgreesWith reply := by
  have hshows (allowed : Bool) (v : Json) : input.Prints (if allowed then 0 else 1) v ↔
      reply.Carries v ∧ v.ShowsVerdict allowed := by
    constructor
    · rintro ⟨printed, hresult, depth, hread⟩
      rw [hevaluate] at hresult
      have hsame := Except.ok.inj hresult
      have hv : response.toJson = v := by
        rw [hsame] at hprinted
        exact Json.eq_of_ofText hprinted hread
      -- The exit status is 0 or 1 by the verdict alone.
      have hverdict : response.allowed = allowed := by
        have hstatus := congrArg OfflineResult.exitStatus hsame
        cases hallowed : response.allowed <;> cases allowed <;>
          simp [OfflineResult.ofResponse, hallowed] at hstatus ⊢
      subst hv
      exact ⟨⟨by rw [hreply]; rfl, by rw [hreply]; rfl⟩,
        (response.showsVerdict_iff allowed).mpr hverdict⟩
    · rintro ⟨⟨-, hcontent⟩, hverdict⟩
      rw [hreply] at hcontent
      obtain rfl : response.toJson = v := ServiceContent.json.inj hcontent
      obtain rfl := (response.showsVerdict_iff allowed).mp hverdict
      exact ⟨_, hevaluate, 3, hprinted⟩
  refine ⟨hshows true, hshows false, ?_⟩
  rw [hevaluate, hreply]
  have hok : (200 : Nat) ≠ 500 := by decide
  -- An answer is no failure in either place.
  refine iff_of_false ?_ hok
  show (if response.allowed then 0 else 1) ≠ 2
  split <;> decide

/-- Where the service fails, an evaluation that does not end with an error disagrees. -/
theorem not_agreesWith_of_failed (hstatus : OfflineResult.programStatus input.evaluate ≠ 2)
    (hreply : reply.status = 500) : ¬ input.AgreesWith reply :=
  fun h => hstatus (h.failed.mpr hreply)

end OfflineInput

/-! ## The same review -/

/-- What the service makes of a text that it was sent, as of its value. -/
def ServiceReply.ofReading (handler : Handler σ) (state : σ) :
    Except JsonError Json → ServiceReply
  | .error cause => .ofJsonError cause
  | .ok admissionReview => .ofResult ((review admissionReview "").run handler state).result

namespace ServiceReply

theorem status_ofJson_error (j : Json) : (ofJson 500 j).status = 500 := by
  rw [ofJson]
  split <;> rfl

theorem status_ofJsonError (cause : JsonError) : (ofJsonError cause).status = 500 := by
  cases cause with
  | tooDeep => rfl
  | _ => exact status_ofJson_error _

theorem status_ofFailure (failure : Failure) : (ofFailure failure).status = 500 := by
  rw [ofFailure]
  split
  · exact status_ofJson_error _
  · rfl

/-- An answer to a text has the status of an error, or carries the response to its review. -/
theorem failed_or_carries (handler : Handler σ) (state : σ) (reading : Except JsonError Json) :
    (ofReading handler state reading).status = 500 ∨
      ∃ v allowed, (ofReading handler state reading).Carries v ∧ v.ShowsVerdict allowed := by
  cases reading with
  | error cause => exact .inl (status_ofJsonError cause)
  | ok admissionReview =>
    rw [ofReading]
    cases ((review admissionReview "").run handler state).result with
    | error failure => exact .inl (status_ofFailure failure)
    | ok response =>
      rw [ofResult, ofResponse, ofJson]
      split
      · exact .inr ⟨_, response.allowed, ⟨rfl, rfl⟩, (response.showsVerdict_iff _).mpr rfl⟩
      · exact .inl rfl

/-- The answer to a text whose review has a response carries it, if it can be sent. -/
theorem ofReading_of_response {handler : Handler σ} {state : σ} {admissionReview : Json}
    {response : ReviewResponse}
    (h : ((review admissionReview "").run handler state).result = .ok response) :
    ofReading handler state (.ok admissionReview) =
      if response.toJson.isEncodable then .ofContent 200 (.json response.toJson) else .broken := by
  rw [ofReading, h, ofResult, ofResponse, ofJson]

end ServiceReply

theorem reply_posted {t : List Char} (hmark : t.head? ≠ some '\ufeff') (hzero : '\x00' ∉ t)
    (depth : Nat) (handler : Handler σ) (state : σ) :
    ((Route.admission none).answer depth handler (Text.utf8 t) state).reply =
      .ofReading handler state (Json.ofText depth (.ofChars t)) := by
  rw [Route.answer, Json.ofBytes_utf8 hmark hzero]
  cases Json.ofText depth (.ofChars t) <;> rfl

namespace OfflineInput

variable {input : OfflineInput} {directory : Directory} {response : ReviewResponse}
  {admissionReview : Json} {cause : JsonError} {reply : ServiceReply}

theorem evaluate_of_error (hdirectory : input.directory = .ok directory)
    (hread : Json.ofText input.depth input.reviewText = .error cause) :
    input.evaluate = OfflineResult.ofFailure (.notJson cause) := by
  have hfailed : read input.depth input.reviewText = .error (.notJson cause) := by rw [read, hread]
  rw [evaluate, result_run, hdirectory]
  show OfflineResult.ofResult (read input.depth input.reviewText >>= _) = _
  rw [hfailed]
  rfl

theorem evaluate_of_ok (hdirectory : input.directory = .ok directory)
    (hread : Json.ofText input.depth input.reviewText = .ok admissionReview) :
    input.evaluate =
      OfflineResult.ofResult ((review admissionReview "").run directory.handler []).result := by
  rw [evaluate, result_run, hdirectory]
  show OfflineResult.ofResult (read input.depth input.reviewText >>= _) = _
  rw [read_eq_ok.mpr hread]
  rfl

theorem answers_of_ok (hdirectory : input.directory = .ok directory)
    (hread : Json.ofText input.depth input.reviewText = .ok admissionReview) :
    input.Answers response ↔
      ((review admissionReview "").run directory.handler []).result = .ok response := by
  rw [answers_iff, result_run, hdirectory]
  show (read input.depth input.reviewText >>= _) = _ ↔ _
  rw [read_eq_ok.mpr hread]
  rfl

theorem not_answers_of_error (hread : Json.ofText input.depth input.reviewText = .error cause) :
    ¬ input.Answers response := by
  rintro ⟨-, admissionReview, -, hok, -⟩
  rw [hread] at hok
  cases hok

/-- An evaluation that ends with a failure which nobody catches agrees with no answer. -/
theorem not_agreesWith_of_escaped {failure : Failure} (hevaluate : input.evaluate = .error failure)
    (handler : Handler σ) (state : σ) (reading : Except JsonError Json) :
    ¬ input.AgreesWith (.ofReading handler state reading) := by
  intro hagrees
  have hprints (status : Nat) (v : Json) : ¬ input.Prints status v := by
    rintro ⟨printed, hprinted, -⟩
    rw [hevaluate] at hprinted
    cases hprinted
  -- Whatever the service answers has a counterpart, which an evaluation that breaks off lacks.
  rcases ServiceReply.failed_or_carries handler state reading with hfailed | ⟨v, allowed, hv⟩
  · have hstatus := hagrees.failed.mpr hfailed
    rw [hevaluate] at hstatus
    cases hstatus
  · cases allowed with
    | true => exact hprints 0 v ((hagrees.allowed v).mpr hv)
    | false => exact hprints 1 v ((hagrees.denied v).mpr hv)

/-- What cannot be read as JSON fails alike, unless it is nested too deep. -/
theorem agreesWith_of_error (hdirectory : input.directory = .ok directory)
    (hread : Json.ofText input.depth input.reviewText = .error cause) (hcause : cause ≠ .tooDeep)
    (hreply : reply.status = 500) : input.AgreesWith reply := by
  have hevaluate := evaluate_of_error hdirectory hread
  cases cause with
  | tooDeep => exact absurd rfl hcause
  | _ => exact agreesWith_of_failure hevaluate hreply

/-- A review that was read agrees with an answer that fails where it does, if each of its responses
is sent by the answer. -/
theorem agreesWith_of_ok {sent : ReviewResponse → Prop}
    (hdirectory : input.directory = .ok directory)
    (hread : Json.ofText input.depth input.reviewText = .ok admissionReview)
    (hfailed : ∀ failure, ((review admissionReview "").run directory.handler []).result =
      .error failure → reply.status = 500)
    (hsent : ∀ response, input.Answers response → sent response →
      response.toJson.isEncodable = true ∧ reply = .ofContent 200 (.json response.toJson))
    (hbroken : ∀ response, input.Answers response → ¬ sent response → reply = .broken) :
    input.AgreesWith reply ↔ ∀ response, input.Answers response → sent response := by
  have hevaluate := evaluate_of_ok hdirectory hread
  cases hresult : ((review admissionReview "").run directory.handler []).result with
  | error failure =>
    have hreported :=
      directory.failsAsCollaborator.isReported (Json.isWritable_of_ofText hread) hresult
    rw [hresult, OfflineResult.ofResult, OfflineResult.ofFailure, hreported] at hevaluate
    -- There is no response to send, and both sides report a failure.
    refine iff_of_true (agreesWith_of_failure hevaluate (hfailed failure hresult)) ?_
    intro response hanswers
    rw [answers_of_ok hdirectory hread, hresult] at hanswers
    cases hanswers
  | ok response =>
    have hanswers : input.Answers response := (answers_of_ok hdirectory hread).mpr hresult
    rw [hresult] at hevaluate
    constructor
    · intro hagrees other hother
      -- There is one response only, and where it is not sent the service fails.
      obtain rfl : other = response := by
        rw [answers_of_ok hdirectory hread, hresult] at hother
        exact (Except.ok.inj hother).symm
      by_contra hunsent
      rw [hbroken other hanswers hunsent] at hagrees
      refine not_agreesWith_of_failed ?_ rfl hagrees
      rw [hevaluate]
      show (if other.allowed then 0 else 1) ≠ 2
      split <;> decide
    · intro hall
      obtain ⟨hencodable, hreply⟩ := hsent response hanswers (hall response hanswers)
      exact agreesWith_of_response hevaluate (ofText_printed hresult hencodable le_rfl) hreply

section

/- The service reads the same text to a depth of its own, and answers over the same directory. -/
variable (hdirectory : input.directory = .ok directory) {depth : Nat}

theorem reply_of_tooDeep {text : Text} (hdeep : TooDeep depth text) :
    ServiceReply.ofReading directory.handler [] (Json.ofText depth text) = .broken := by
  rw [hdeep]
  rfl

include hdirectory

/-- A response is sent, if the text is not too deep for the service and the response can be sent. -/
theorem reply_of_answers (hanswers : input.Answers response)
    (hdeep : ¬ TooDeep depth input.reviewText) :
    ServiceReply.ofReading directory.handler [] (Json.ofText depth input.reviewText) =
      if response.toJson.isEncodable then .ofContent 200 (.json response.toJson) else .broken := by
  obtain ⟨given, admissionReview, hgiven, hread, hresult⟩ := hanswers
  obtain rfl := Except.ok.inj (hdirectory.symm.trans hgiven)
  rw [Json.ofText_eq_of_depths hdeep (by rw [hread]; nofun), hread]
  exact ServiceReply.ofReading_of_response hresult

/-- The service breaks off where a response cannot be sent, or the text is too deep. -/
theorem reply_of_unsent (hanswers : input.Answers response)
    (hunsent : ¬ (response.toJson.isEncodable = true ∧ ¬ TooDeep depth input.reviewText)) :
    ServiceReply.ofReading directory.handler [] (Json.ofText depth input.reviewText) =
      .broken := by
  by_cases hdeep : TooDeep depth input.reviewText
  · exact reply_of_tooDeep hdeep
  · rw [reply_of_answers hdirectory hanswers hdeep, if_neg fun hsent => hunsent ⟨hsent, hdeep⟩]

/-- The evaluation agrees with the answer to its text, unless the text is too deep or its response
is not sent. -/
theorem agreesWith_reading_iff : input.AgreesWith
      (.ofReading directory.handler [] (Json.ofText depth input.reviewText)) ↔
    ¬ TooDeep input.depth input.reviewText ∧ ∀ response, input.Answers response →
      response.toJson.isEncodable = true ∧ ¬ TooDeep depth input.reviewText := by
  cases hread : Json.ofText input.depth input.reviewText with
  | error cause =>
    -- Too deep for the evaluation, which breaks off where the service still answers somehow.
    by_cases hcause : cause = .tooDeep
    · subst hcause
      have hescaped := evaluate_of_error hdirectory hread
      exact iff_of_false (not_agreesWith_of_escaped hescaped _ _ _) fun h => h.1 hread
    · have hshallow : ¬ TooDeep input.depth input.reviewText :=
        fun hdeep => hcause (Except.error.inj (hread.symm.trans hdeep))
      refine iff_of_true (agreesWith_of_error hdirectory hread hcause ?_)
        ⟨hshallow, fun response hanswers => absurd hanswers (not_answers_of_error hread)⟩
      -- The service fails on the same text, for its depth or for the same cause.
      by_cases hdeep : TooDeep depth input.reviewText
      · rw [reply_of_tooDeep hdeep]
        rfl
      · rw [Json.ofText_eq_of_depths hdeep hshallow, hread]
        exact ServiceReply.status_ofJsonError cause
  | ok admissionReview =>
    -- Both read the same review, unless the service gives up before.
    have hshallow : ¬ TooDeep input.depth input.reviewText := by
      rw [TooDeep, hread]
      nofun
    rw [and_iff_right hshallow]
    refine agreesWith_of_ok hdirectory hread (fun failure hfailure => ?_)
      (fun response hanswers hsent => ⟨hsent.1, ?_⟩)
      fun response hanswers hunsent => reply_of_unsent hdirectory hanswers hunsent
    · by_cases hdeep : TooDeep depth input.reviewText
      · rw [reply_of_tooDeep hdeep]
        rfl
      · rw [Json.ofText_eq_of_depths hdeep hshallow, hread, ServiceReply.ofReading, hfailure]
        exact ServiceReply.status_ofFailure failure
    · rw [reply_of_answers hdirectory hanswers hsent.2, if_pos hsent.1]

end

end OfflineInput

/-- For every text without byte order mark and zeros, and files that hold maps of users and
settings: the evaluation of the text agrees with the answer of the service to its bytes, over the
directory of the maps, unless the text is nested too deep or its review is answered with a response
in which a text holds half of a surrogate pair.  A text too deep for the evaluation breaks this off,
and one too deep for the service breaks the answer off, to whatever depths the two read.  A response
with such a half is printed, and the answer is broken off. -/
theorem agrees_with_service_iff {t : List Char} (hmark : t.head? ≠ some '\ufeff')
    (hzero : '\x00' ∉ t) {depth : Nat} {usersText settingsText : Option Text}
    {users : Entries (List Text)} {settings : Entries Text}
    (husers : OfflineInput.Holds depth usersText (usersJson users))
    (hsettings : OfflineInput.Holds depth settingsText (settingsJson settings)) (authorized : Bool)
    (serviceDepth : Nat) :
    let input : OfflineInput := ⟨depth, .ofChars t, usersText, settingsText, authorized⟩
    let posted : ServiceRequest := ⟨"POST", (Route.admission none).path, Text.utf8 t⟩
    ∃ served, posted.answer serviceDepth (Directory.ofMaps users settings authorized).handler [] =
        .ok served ∧
      (input.AgreesWith served.reply ↔ ¬ OfflineInput.TooDeep depth (.ofChars t) ∧
        ∀ response, input.Answers response → response.toJson.isEncodable = true ∧
          ¬ OfflineInput.TooDeep serviceDepth (.ofChars t)) ∧
      (OfflineInput.TooDeep depth (.ofChars t) → input.BreaksOff) ∧
      (OfflineInput.TooDeep serviceDepth (.ofChars t) → served.reply = .broken) ∧
      ∀ response, input.Answers response → response.toJson.isEncodable = false →
        input.evaluate = .ok (OfflineResult.ofResponse response) ∧ served.reply = .broken := by
  intro input posted
  -- The maps are read to the directory that the service has.
  have hdirectory : input.directory = .ok (.ofMaps users settings authorized) :=
    OfflineInput.directory_eq_ofMaps husers hsettings
  refine ⟨_, Route.answer_post serviceDepth _ none (Text.utf8 t) [], ?_⟩
  rw [reply_posted hmark hzero]
  refine ⟨OfflineInput.agreesWith_reading_iff hdirectory, fun hdeep => .review hdirectory hdeep,
    OfflineInput.reply_of_tooDeep, fun response hanswers hhalf => ⟨?_, ?_⟩⟩
  · obtain ⟨directory, admissionReview, hgiven, hread, hresult⟩ := hanswers
    rw [OfflineInput.evaluate_of_ok hgiven hread, hresult, OfflineResult.ofResult]
  · refine OfflineInput.reply_of_unsent hdirectory hanswers fun hsent => ?_
    rw [hhalf] at hsent
    cases hsent.1

/-- One user with one principal. -/
def someUsers : Entries (List Text) := [("u-1", ["local://u-1"])]

/-- One setting. -/
def someSettings : Entries Text := [("imported-cluster-version-management", "true")]

theorem connect_review_agrees :
    let t := (connectReview.text .compact).toList
    let usersText : Text := (usersJson someUsers).text .ascii
    let settingsText : Text := (settingsJson someSettings).text .ascii
    let input : OfflineInput := ⟨100, .ofChars t, some usersText, some settingsText, true⟩
    ∃ served, (⟨"POST", "/v1/webhook/validation", Text.utf8 t⟩ : ServiceRequest).answer 90
        (Directory.ofMaps someUsers someSettings true).handler [] = .ok served ∧
      input.AgreesWith served.reply ∧ OfflineResult.programStatus input.evaluate = 0 := by
  intro t usersText settingsText input
  have husers : OfflineInput.Holds 100 usersText (usersJson someUsers) :=
    OfflineInput.holds_text (plain_usersJson (by decide)) (by decide) (by decide) .ascii
  have hsettings : OfflineInput.Holds 100 settingsText (settingsJson someSettings) :=
    OfflineInput.holds_text (plain_settingsJson (by decide)) (by decide) (by decide) .ascii
  have hread : Json.ofText 100 (.ofChars t) = .ok connectReview := rfl
  have hread' : Json.ofText 90 (.ofChars t) = .ok connectReview := rfl
  have hresponse : ((review connectReview "").run
      (Directory.ofMaps someUsers someSettings true).handler []).result.toOption.map
        (·.toJson.isEncodable) = some true := by decide +kernel
  obtain ⟨served, hserved, hagrees, -⟩ := agrees_with_service_iff (t := t) (by decide +kernel)
    (by decide +kernel) husers hsettings true 90
  -- Neither side gives up on the text, and what is answered can be sent.
  refine ⟨served, hserved, hagrees.mpr ⟨?_, fun response hanswers => ⟨?_, ?_⟩⟩, by decide +kernel⟩
  · rw [OfflineInput.TooDeep, hread]
    nofun
  · have hdirectory : input.directory = .ok (.ofMaps someUsers someSettings true) :=
      OfflineInput.directory_eq_ofMaps husers hsettings
    have hresult := (OfflineInput.answers_of_ok hdirectory hread).mp hanswers
    rw [hresult] at hresponse
    exact Option.some.inj hresponse
  · rw [OfflineInput.TooDeep, hread']
    nofun

/-- A review of a request whose identifier is half of a surrogate pair. -/
def halfReview : Json := .obj [("request", .obj [
  ("uid", .str ⟨[.half ⟨0, by decide⟩]⟩), ("operation", .str "CONNECT"),
  ("kind", .obj [("kind", .str "Cluster")])])]

/-- Its text, in which the half is an escape. -/
def halfText : List Char := (halfReview.text .compact).toList

theorem ofText_halfText : Json.ofText 100 (.ofChars halfText) = .ok halfReview := by
  rfl

theorem half_uid_printed_not_sent :
    let input : OfflineInput := ⟨100, .ofChars halfText, none, none, true⟩
    let posted : ServiceRequest := ⟨"POST", "/v1/webhook/validation", Text.utf8 halfText⟩
    halfText.head? ≠ some '\ufeff' ∧ '\x00' ∉ halfText ∧
    OfflineResult.programStatus input.evaluate = 0 ∧
    ∃ served, posted.answer 100 (Directory.ofMaps [] [] true).handler [] = .ok served ∧
      served.reply.status = 500 ∧ ¬ input.AgreesWith served.reply := by
  intro input posted
  have hmark : halfText.head? ≠ some '\ufeff' := by decide +kernel
  have hzero : '\x00' ∉ halfText := by decide +kernel
  have hallowed : OfflineResult.programStatus input.evaluate = 0 := by decide +kernel
  have hbroken : (ServiceReply.ofReading (Directory.ofMaps [] [] true).handler []
      (.ok halfReview)).status = 500 := by decide +kernel
  refine ⟨hmark, hzero, hallowed, _, Route.answer_post 100 _ none (Text.utf8 halfText) [], ?_⟩
  rw [reply_posted hmark hzero, ofText_halfText]
  refine ⟨hbroken, OfflineInput.not_agreesWith_of_failed ?_ hbroken⟩
  rw [hallowed]
  decide

end AdmissionControl
