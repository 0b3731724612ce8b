import Keyring.Key.Sample
import Keyring.Proofs.Config.Valid
import Keyring.Proofs.Group.Transfer
import Keyring.Proofs.History.Sound

namespace Keyring

namespace Group

open Keyring.Memory Keyring.Transfer

variable {fuel : Nat} {g g' : Group} {s s' : State} {kind : Kind}
  {userId recipientKey sessionId : String} {report : Report} {trace : List Event}

section Plain

variable {e : Engine} {before after : Server}

theorem Holds.unique (he : e.plain = true) {text : String} {keys keys' : List Key}
    (h : Holds e recipientKey text keys) (h' : Holds e recipientKey text keys') : keys = keys' := by
  obtain ⟨payload, hdecode, htext⟩ := h
  obtain ⟨payload', hdecode', htext'⟩ := h'
  simp only [Engine.sealed, he, if_true] at htext htext'
  rw [← htext, htext', hdecode'] at hdecode
  exact (Except.ok.inj hdecode).symm

theorem Arrived.unique (he : e.plain = true) {sessionId' : String} {first first' : List Key}
    {later later' : List (List Key)}
    (h : Arrived e kind userId recipientKey sessionId before after first later)
    (h' : Arrived e kind userId recipientKey sessionId' before after first' later') :
    first = first' ∧ later = later' := by
  obtain ⟨⟨o, ho, -, -, -, hfirst⟩, ⟨records, hrecords, -, hlater⟩⟩ := h
  obtain ⟨⟨o', ho', -, -, -, hfirst'⟩, ⟨records', hrecords', -, hlater'⟩⟩ := h'
  rw [ho, List.append_cancel_left_eq] at ho'
  rw [hrecords, List.append_cancel_left_eq] at hrecords'
  obtain rfl := List.singleton_inj.mp ho'
  subst hrecords'
  refine ⟨hfirst.unique he hfirst', ?_⟩
  clear hrecords
  induction hlater generalizing later' with
  | nil => exact (List.forall₂_nil_left_iff.mp hlater').symm
  | cons hhead htail ih =>
      obtain ⟨keys, rest, hhead', htail', rfl⟩ := List.forall₂_cons_left_iff.mp hlater'
      rw [hhead.2.2.2.unique he hhead'.2.2.2, ih htail']

end Plain

theorem run_transferring {S : Type} {w : World S} {s : S} (kind : Kind)
    (userId recipientKey : String) :
    (transferring kind userId recipientKey).run w fuel g s =
      (transferring kind userId recipientKey).action.run.run w fuel g s := by
  cases kind with
  | invite => rfl
  | acceptJoinRequest => rfl

theorem eq_of_result_eq_ok {report report' : Report} (h : report.result = .ok report') :
    report = report' := by
  unfold Report.result at h
  split at h
  · exact Except.ok.inj h
  · split at h
    · exact Except.ok.inj h
    · exact nomatch h

/-- The rank that a transfer of a kind takes. -/
def requiredRank (g : Group) : Kind → UInt32
  | .invite => g.config.ranks.invite
  | .acceptJoinRequest => g.config.ranks.joinRequests

/-- A transfer succeeds and delivers, unless the member's rank is too low or the server rejects
pages. -/
theorem transferring_ensures (hsize : g.config.keys.pageSize ≠ 0)
    (hlen : g.record.history.keys.length < UInt64.size) {Q : Report → Group → State → Prop}
    {X : Halt → Group → State → Prop}
    (hQ : ∀ report s', Delivered g kind userId recipientKey s s' report → Q report g s')
    (hX : ¬ (g.record.rank ≤ g.requiredRank kind ∧ s.server.failingPages = []) →
      ∀ e s', X (.failed e) g s') :
    Attempt.Ensures world fuel (transferring kind userId recipientKey).action Q X g s := by
  have htransfer : g.record.rank ≤ g.requiredRank kind →
      Attempt.Ensures world fuel (transfer g.config.keys kind userId recipientKey)
        (fun report => Attempt.Ensures world fuel (Attempt.settle report.result) Q X) X g s := by
    intro hrank
    apply transfer_ensures hsize hlen
    intro report s' haccepted hdelivered
    rw [Attempt.ensures_settle]
    cases hresult : report.result with
    | ok report' =>
        obtain rfl := eq_of_result_eq_ok hresult
        exact hQ report s' (hdelivered hresult)
    | error e =>
        refine hX (fun hfine => ?_) e s'
        rw [haccepted hfine.2] at hresult
        exact nomatch hresult
  cases kind with
  | invite =>
      simp only [transferring, Operation.action, invite, Attempt.ensures_bind, Attempt.ensures_get,
        Attempt.ensures_settle, Record.requireRank]
      by_cases hrank : g.record.rank ≤ g.config.ranks.invite
      · rw [if_pos hrank]
        exact htransfer hrank
      · rw [if_neg hrank]
        exact hX (fun hfine => hrank hfine.1) _ s
  | acceptJoinRequest =>
      simp only [transferring, Operation.action, accept, Attempt.ensures_bind, Attempt.ensures_get,
        Attempt.ensures_settle, Record.requireRank]
      by_cases hrank : g.record.rank ≤ g.config.ranks.joinRequests
      · rw [if_pos hrank]
        exact htransfer hrank
      · rw [if_neg hrank]
        exact hX (fun hfine => hrank hfine.1) _ s

/-- What has arrived after a transfer that reports success: everything that is to be shared if the
history was too long for the server to do without a session, and the first page if not. -/
theorem transfer_delivers (hvalid : g.config.validate = .ok ())
    (hlen : g.record.history.keys.length < UInt64.size)
    (hrun : (transferring kind userId recipientKey).run world fuel g s =
      ⟨.finished (.ok report), g', s', trace⟩) :
    Delivered g kind userId recipientKey s s' report := by
  have h : Attempt.Ensures world fuel (transferring kind userId recipientKey).action
      (fun report _ s' => Delivered g kind userId recipientKey s s' report) (fun _ _ _ => True)
      g s :=
    transferring_ensures (Config.pageSize_ne_zero hvalid) hlen (fun _ _ h => h)
      (fun _ _ _ => trivial)
  rw [run_transferring] at hrun
  exact h.of_run hrun

/-- A member with three keys who sends them one by one. -/
def keeper : Group where
  record := .make "team" 0
    (.extend .empty [Key.sample "first" 1, Key.sample "second" 2, Key.sample "third" 3])
  actor := ⟨"user", "public", "private", "token"⟩
  config := { keys := { pageSize := 1, boundary := .inclusive } }

/-- A simulation that passes pages on as they are, with a session for every longer history. -/
def openState (sessionThreshold : Nat) : State where
  server := { sessionThreshold }
  engine := { plain := true }

theorem validate_keeper : keeper.config.validate = .ok () := by
  decide

theorem run_keeper (sessionThreshold : Nat) :
    ∃ report g' s' trace, (transferring .invite "guest" "guest-key").run world 1 keeper
        (openState sessionThreshold) = ⟨.finished (.ok report), g', s', trace⟩ ∧
      Delivered keeper .invite "guest" "guest-key" (openState sessionThreshold) s' report := by
  rw [run_transferring]
  refine Attempt.Ensures.exists_run (transferring_ensures (Config.pageSize_ne_zero validate_keeper)
    (by decide) (fun _ _ h => h) fun h => absurd ⟨?_, rfl⟩ h)
  decide

theorem transfer_delivers_sample :
    keeper.config.validate = .ok () ∧ keeper.record.history.keys.length < UInt64.size ∧
      ∃ report g' s' trace, (transferring .invite "guest" "guest-key").run world 1 keeper
          (openState 2) = ⟨.finished (.ok report), g', s', trace⟩ ∧
        ∃ sessionId first later, Arrived (openState 2).engine .invite "guest" "guest-key" sessionId
            (openState 2).server s'.server first later ∧
          first ++ later.flatten = keeper.record.history.keys := by
  have hlen : keeper.record.history.keys.length < UInt64.size := by decide
  obtain ⟨report, g', s', trace, hrun, -⟩ := run_keeper 2
  obtain ⟨sessionId, first, later, harrived, -, -, hlong, -⟩ :=
    transfer_delivers validate_keeper hlen hrun
  exact ⟨validate_keeper, hlen, report, g', s', trace, hrun, sessionId, first, later, harrived,
    (hlong (by decide)).2⟩

/-- Without a session the guest gets one key of three, and the invitation succeeds. -/
theorem transfer_without_session_falls_short :
    keeper.config.validate = .ok () ∧ keeper.record.history.keys.length < UInt64.size ∧
      ∃ report g' s' trace, (transferring .invite "guest" "guest-key").run world 1 keeper
          (openState 50) = ⟨.finished (.ok report), g', s', trace⟩ ∧
        ¬ ∃ sessionId first later, Arrived (openState 50).engine .invite "guest" "guest-key"
            sessionId (openState 50).server s'.server first later ∧
          first ++ later.flatten =
            Page.shared keeper.config.keys.boundary keeper.record.history.keys := by
  obtain ⟨report, g', s', trace, hrun, _, _, _, harrived, -, -, -, hshort⟩ := run_keeper 50
  refine ⟨validate_keeper, by decide, report, g', s', trace, hrun, ?_⟩
  rintro ⟨sessionId, first, later, harrived', hall⟩
  obtain ⟨-, rfl, rfl⟩ := hshort (by decide)
  obtain ⟨rfl, rfl⟩ := harrived.unique rfl harrived'
  exact absurd hall (by decide)

end Group

end Keyring
