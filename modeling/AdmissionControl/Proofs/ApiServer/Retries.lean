/-
  AdmissionControl.Proofs.ApiServer.Retries

  How often a request is sent, and which reply it ends on.

  Counted are the faults at the front of the replies after which a request is sent again
  (`faultsAhead`).  A request gets past as many of them as it has retries, one try for each, and
  one more try gets the reply behind them (`Exchange.send_eq`).  So it ends on the first reply
  that is no such fault, or else on that to its last try (`Exchange.Decides`).
-/

import AdmissionControl.ApiServer.Client

namespace AdmissionControl.ApiServer

/-! ## Faults before a reply -/

/-- A fault after which a request is sent again. -/
def Reply.IsTransient (reply : Reply) : Prop :=
  ∃ fault reason, reply = .fault fault reason ∧ fault.isTransient = true

theorem Reply.not_isTransient_response {status : Nat} {body : ReplyBody} :
    ¬ (Reply.response status body).IsTransient := by
  rintro ⟨fault, reason, hreply, -⟩
  cases hreply

theorem Reply.isTransient_fault_iff {fault : Fault} {reason : Text} :
    (Reply.fault fault reason).IsTransient ↔ fault.isTransient = true := by
  constructor
  · rintro ⟨_, _, hfault, htransient⟩
    cases hfault
    exact htransient
  · exact fun htransient => ⟨fault, reason, rfl, htransient⟩

instance : DecidablePred Reply.IsTransient
  | .fault _ _ => decidable_of_iff _ Reply.isTransient_fault_iff.symm
  | .response _ _ => isFalse Reply.not_isTransient_response

/-- How many replies there are in front of the first that is no transient fault. -/
def faultsAhead : List Reply → Nat
  | [] => 0
  | reply :: rest => if reply.IsTransient then faultsAhead rest + 1 else 0

/-- The reply to the try after so many others.  Past the end of the script nothing is known. -/
def Exchange.replyAt (exchange : Exchange) (n : Nat) : Reply :=
  exchange.replies.getD n Exchange.exhausted

variable {exchange : Exchange} {request : Request} {retries : Nat}

theorem faultsAhead_eq_zero (h : ¬ (exchange.replyAt 0).IsTransient) :
    faultsAhead exchange.replies = 0 := by
  obtain ⟨replies, sent⟩ := exchange
  cases replies with
  | nil => rfl
  | cons reply rest => exact if_neg h

/-- A transient fault in front is a reply of the script, not its end. -/
theorem Exchange.exists_cons (h : (exchange.replyAt 0).IsTransient) :
    ∃ reply rest, exchange.replies = reply :: rest ∧ reply.IsTransient := by
  obtain ⟨replies, sent⟩ := exchange
  cases replies with
  | nil => exact absurd h Reply.not_isTransient_response
  | cons reply rest => exact ⟨reply, rest, rfl, h⟩

theorem Exchange.isTransient_replyAt {n : Nat} (h : n < faultsAhead exchange.replies) :
    (exchange.replyAt n).IsTransient := by
  obtain ⟨replies, sent⟩ := exchange
  induction replies generalizing n with
  | nil => cases h
  | cons reply rest ih =>
    rw [faultsAhead] at h
    split at h
    · cases n with
      | zero => assumption
      | succ n => exact ih (Nat.lt_of_succ_lt_succ h)
    · cases h

theorem Exchange.not_isTransient_replyAt :
    ¬ (exchange.replyAt (faultsAhead exchange.replies)).IsTransient := by
  obtain ⟨replies, sent⟩ := exchange
  induction replies with
  | nil => exact Reply.not_isTransient_response
  | cons reply rest ih =>
    rw [faultsAhead]
    split
    · exact ih
    · assumption

/-- Behind faults that are passed over, they are all that is counted before a response. -/
theorem faultsAhead_append {status : Nat} {body : ReplyBody} {faults rest : List Reply}
    (h : ∀ fault ∈ faults, fault.IsTransient) :
    faultsAhead (faults ++ .response status body :: rest) = faults.length := by
  induction faults with
  | nil => rfl
  | cons first more ih =>
    rw [List.forall_mem_cons] at h
    rw [List.cons_append, faultsAhead, if_pos h.1, ih h.2, List.length_cons]

/-! ## Sending -/

theorem Exchange.send_succ_of_transient (h : (exchange.replyAt 0).IsTransient) :
    exchange.send request (retries + 1) = (exchange.sendOnce request).2.send request retries := by
  obtain ⟨replies, sent⟩ := exchange
  obtain ⟨_, rest, rfl, fault, reason, rfl, htransient⟩ := exists_cons h
  exact if_pos htransient

theorem Exchange.send_of_not_transient (h : ¬ (exchange.replyAt 0).IsTransient) :
    exchange.send request retries = exchange.sendOnce request := by
  obtain ⟨replies, sent⟩ := exchange
  obtain _ | retries := retries
  · rfl
  obtain _ | ⟨_ | ⟨fault, reason⟩, rest⟩ := replies
  · rfl
  · rfl
  · exact if_neg fun htransient => h (Reply.isTransient_fault_iff.mpr htransient)

theorem Exchange.sendOnce_eq (request : Request) (exchange : Exchange) :
    exchange.sendOnce request =
      (exchange.replyAt 0, ⟨exchange.replies.drop 1, exchange.sent ++ [request]⟩) := by
  obtain ⟨replies, sent⟩ := exchange
  cases replies <;> rfl

/-- A request is sent once for each fault that it gets past and once more, and returned is the
reply behind them.  Each try takes one reply. -/
theorem Exchange.send_eq (request : Request) (retries : Nat) (exchange : Exchange) :
    exchange.send request retries =
      let passed := min retries (faultsAhead exchange.replies)
      (exchange.replyAt passed, ⟨exchange.replies.drop (passed + 1),
        exchange.sent ++ List.replicate (passed + 1) request⟩) := by
  -- Over the retries: a fault takes one of them and leaves the replies behind it to the others.
  induction retries generalizing exchange with
  | zero =>
    rw [Nat.zero_min]
    exact sendOnce_eq request exchange
  | succ retries ih =>
    by_cases htransient : (exchange.replyAt 0).IsTransient
    · rw [send_succ_of_transient htransient, sendOnce_eq, ih]
      obtain ⟨replies, sent⟩ := exchange
      obtain ⟨reply, rest, rfl, hfault⟩ := exists_cons htransient
      have hcount : min (retries + 1) (faultsAhead (reply :: rest)) =
          min retries (faultsAhead rest) + 1 := by
        rw [faultsAhead, if_pos hfault, Nat.add_min_add_right]
      have hsent : ∀ n, sent ++ [request] ++ List.replicate n request =
          sent ++ List.replicate (n + 1) request := by
        intro n
        rw [List.append_assoc, List.singleton_append, List.replicate_succ]
      simp only [hcount, List.drop_succ_cons, List.drop_zero, hsent]
      rfl
    · rw [send_of_not_transient htransient, faultsAhead_eq_zero htransient, Nat.min_zero]
      exact sendOnce_eq request exchange

/-- Faults are passed over as long as there are tries left, and each takes one more. -/
theorem Exchange.send_of_transient {status : Nat} {body : ReplyBody} {faults rest : List Reply}
    (request : Request) (hfaults : ∀ fault ∈ faults, fault.IsTransient)
    (hretries : faults.length ≤ retries) (sent : List Request) :
    Exchange.send request retries ⟨faults ++ .response status body :: rest, sent⟩ =
      (.response status body, ⟨rest, sent ++ List.replicate (faults.length + 1) request⟩) := by
  rw [send_eq, faultsAhead_append hfaults, Nat.min_eq_right hretries]
  simp [replyAt, List.drop_append]

/-- A request is sent once, and again as often as there are retries at most. -/
theorem Exchange.sent_send (request : Request) (retries : Nat) (exchange : Exchange) :
    ∃ more ≤ retries, (exchange.send request retries).2.sent =
      exchange.sent ++ request :: List.replicate more request := by
  rw [send_eq]
  exact ⟨_, Nat.min_le_left _ _, rfl⟩

/-! ## The reply on which a request ends -/

/-- A request with so many retries ends on a reply: before it come transient faults alone, and it is
none itself or comes to the last try. -/
def Exchange.Decides (exchange : Exchange) (retries : Nat) (reply : Reply) : Prop :=
  ∃ n ≤ retries, exchange.replyAt n = reply ∧
    (∀ k < n, (exchange.replyAt k).IsTransient) ∧ (n = retries ∨ ¬ reply.IsTransient)

theorem Exchange.Decides.unique {first second : Reply} (hfirst : exchange.Decides retries first)
    (hsecond : exchange.Decides retries second) : first = second := by
  obtain ⟨n, hn, rfl, hbefore, hend⟩ := hfirst
  obtain ⟨m, hm, rfl, hbefore', hend'⟩ := hsecond
  -- The earlier of two such replies would be a fault before the other.
  have hnm : ¬ n < m := fun hlt => hend.elim (by omega) fun hnot => hnot (hbefore' n hlt)
  have hmn : ¬ m < n := fun hlt => hend'.elim (by omega) fun hnot => hnot (hbefore m hlt)
  have hsame : n = m := by omega
  rw [hsame]

/-- What is sent ends on the reply that is returned for it. -/
theorem Exchange.decides_send (request : Request) (retries : Nat) (exchange : Exchange) :
    exchange.Decides retries (exchange.send request retries).1 := by
  rw [send_eq]
  refine ⟨_, Nat.min_le_left _ _, rfl, fun k hk => isTransient_replyAt (by omega), ?_⟩
  rcases Nat.le_total retries (faultsAhead exchange.replies) with hfew | hmany
  · exact .inl (Nat.min_eq_left hfew)
  · rw [Nat.min_eq_right hmany]
    exact .inr not_isTransient_replyAt

end AdmissionControl.ApiServer
