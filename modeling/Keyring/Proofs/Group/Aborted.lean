import Keyring.Memory.Faults
import Keyring.Proofs.Group.Effect
import Keyring.Proofs.Group.Transferred

namespace Keyring

def Event.party? (e : Event) : Option Party :=
  e.request?.map Request.party

/-- The calls of a run to one of its collaborators. -/
def Run.callsTo {σ S α : Type} (r : Run σ S α) (p : Party) : List Event :=
  r.calls.filter fun e => e.party? == some p

namespace Group

open Attempt Transfer

abbrev sealRequest (recipientKey : String) (page : Page) : Request :=
  .sealPage page.payload page.span.size.toNat recipientKey

abbrev openRequest (g : Group) (kind : Kind) (recipient text : String) : Request :=
  .openTransfer g.actor.token kind g.record.groupId recipient g.record.history.keys.length
    g.record.rank text

/-- Whether a world that is in one state when the first of some pages is to be sealed seals them all,
to these texts, and is in another state after the last one. -/
def Seals {S : Type} (w : World S) (recipientKey : String) : S → List (Page × String) → S → Prop
  | s, [], s' => s = s'
  | s, (page, text) :: rest, s' =>
    ∃ s₁, w.answer (sealRequest recipientKey page) s = (some (.ok text), s₁) ∧
      Seals w recipientKey s₁ rest s'

/-- A run that fails, and what it has asked the server for. -/
structure FailsAfter {S : Type} (r : Run Group S (Except Failure Report)) (e : Failure)
    (calls : List Event) : Prop where
  ending : r.ending = .finished (.error e)
  asked : r.callsTo .server = calls

/-- How a run of a transfer ends that is broken off. -/
structure Aborts {S : Type} (w : World S) (g : Group) (s : S) (paging : Config.Paging) (kind : Kind)
    (recipient recipientKey : String) (r : Run Group S (Except Failure Report)) : Prop where
  unpaged : paging.pageSize = 0 → FailsAfter r .invalidPageSize []
  unsealed : ∀ first e s₁,
    Page.ofKeys g.record.history.keys 0 paging.pageSize paging.boundary = .ok first →
    w.answer (sealRequest recipientKey first) s = (some (.error e), s₁) →
    FailsAfter r e []
  unopened : ∀ first text e s₁ s₂,
    Page.ofKeys g.record.history.keys 0 paging.pageSize paging.boundary = .ok first →
    w.answer (sealRequest recipientKey first) s = (some (.ok text), s₁) →
    w.answer (openRequest g kind recipient text) s₁ = (some (.error e), s₂) →
    FailsAfter r e [.called (openRequest g kind recipient text) (.error e)]
  /-- The pages `front` have been sealed, and `page` cannot be. -/
  interrupted : ∀ first text id front page back e s₁ s₂ s₃ s₄,
    Page.ofKeys g.record.history.keys 0 paging.pageSize paging.boundary = .ok first →
    w.answer (sealRequest recipientKey first) s = (some (.ok text), s₁) →
    w.answer (openRequest g kind recipient text) s₁ = (some (.ok id), s₂) → id ≠ "" →
    laterPages g.record.history.keys paging = front.map Prod.fst ++ page :: back →
    Seals w recipientKey s₂ front s₃ →
    w.answer (sealRequest recipientKey page) s₃ = (some (.error e), s₄) →
    FailsAfter r e [.called (openRequest g kind recipient text) (.ok id)]
  unchanged : r.state = g

section Aborted

variable {S : Type} {w : World S} {fuel : Nat} {g : Group} {s s₁ s₂ s₃ s₄ : S}
  {paging : Config.Paging} {kind : Kind} {recipient recipientKey text id : String}
  {first page : Page} {front : List (Page × String)} {back : List Page} {e : Failure}
  {calls : List Event}

theorem FailsAfter.of_recorded {a : Action Report}
    (h : Ensures w.recorded fuel a (fun _ _ _ => False)
      (fun halt _ x => halt = .failed e ∧ x.1 = calls) g ([], s)) :
    FailsAfter (a.run.run w fuel g s) e
      (calls.filter fun event => event.party? == some .server) := by
  have hmeets := h.of_recorded rfl
  unfold Meets at hmeets
  split at hmeets
  · exact hmeets.elim
  · rename_i e' hending
    obtain ⟨hhalt, hcalls⟩ := hmeets
    refine ⟨?_, congrArg _ hcalls⟩
    rw [hending, Halt.failed.inj hhalt]
  · exact nomatch hmeets.1
  · exact nomatch hmeets.1

theorem sealFor_recorded (hanswer : w.answer (sealRequest recipientKey page) s = (some (.ok text), s₁))
    {Q : SealedPage → Group → List Event × S → Prop} {X : Halt → Group → List Event × S → Prop}
    (hQ : Q ⟨page.index, page.span.size, text⟩ g
      (calls ++ [SentPage.sealing recipientKey page text], s₁)) :
    Ensures w.recorded fuel (sealFor recipientKey page) Q X g (calls, s) := by
  rw [sealFor, ensures_bind, ensures_request, World.recorded_answer, hanswer]
  exact hQ

theorem sealFor_refused (hanswer : w.answer (sealRequest recipientKey page) s = (some (.error e), s₁))
    {Q : SealedPage → Group → List Event × S → Prop} {X : Halt → Group → List Event × S → Prop}
    (hX : X (.failed e) g (calls ++ [.called (sealRequest recipientKey page) (.error e)], s₁)) :
    Ensures w.recorded fuel (sealFor recipientKey page) Q X g (calls, s) := by
  rw [sealFor, ensures_bind, ensures_request, World.recorded_answer, hanswer]
  exact hX

theorem sealAll_refused (hfront : Seals w recipientKey s front s₁)
    (hanswer : w.answer (sealRequest recipientKey page) s₁ = (some (.error e), s₂))
    {Q : List SealedPage → Group → List Event × S → Prop}
    {X : Halt → Group → List Event × S → Prop}
    (hX : X (.failed e) g (calls ++ front.map (fun p => SentPage.sealing recipientKey p.1 p.2) ++
      [.called (sealRequest recipientKey page) (.error e)], s₂)) :
    Ensures w.recorded fuel ((front.map Prod.fst ++ page :: back).mapM (sealFor recipientKey)) Q X g
      (calls, s) := by
  induction front generalizing s calls Q with
  | nil =>
      obtain rfl : s = s₁ := hfront
      rw [List.map_nil, List.nil_append, ensures_mapM_cons]
      refine sealFor_refused hanswer ?_
      simpa using hX
  | cons p rest ih =>
      obtain ⟨s', hsealed, hrest⟩ := hfront
      rw [List.map_cons, List.cons_append, ensures_mapM_cons]
      refine sealFor_recorded hsealed (ih hrest ?_)
      simpa using hX

theorem transfer_unpaged (hsize : paging.pageSize = 0) :
    Ensures w.recorded fuel (transfer paging kind recipient recipientKey) (fun _ _ _ => False)
      (fun halt _ x => halt = .failed .invalidPageSize ∧ x.1 = []) g ([], s) := by
  have hfirst : Page.ofKeys g.record.history.keys 0 paging.pageSize paging.boundary =
      .error .invalidPageSize := by
    rw [Page.ofKeys, Page.spanAt, if_pos hsize]
    rfl
  simp only [transfer, ensures_bind, ensures_get, ensures_settle, hfirst]
  exact ⟨trivial, trivial⟩

section FirstPage

variable (hfirst : Page.ofKeys g.record.history.keys 0 paging.pageSize paging.boundary = .ok first)

include hfirst

theorem transfer_unsealed
    (hanswer : w.answer (sealRequest recipientKey first) s = (some (.error e), s₁)) :
    Ensures w.recorded fuel (transfer paging kind recipient recipientKey) (fun _ _ _ => False)
      (fun halt _ x => halt = .failed e ∧
        x.1 = [.called (sealRequest recipientKey first) (.error e)]) g ([], s) := by
  simp only [transfer, ensures_bind, ensures_get, ensures_settle, hfirst]
  exact sealFor_refused hanswer ⟨rfl, rfl⟩

variable (hsealed : w.answer (sealRequest recipientKey first) s = (some (.ok text), s₁))

include hsealed

theorem transfer_unopened
    (hanswer : w.answer (openRequest g kind recipient text) s₁ = (some (.error e), s₂)) :
    Ensures w.recorded fuel (transfer paging kind recipient recipientKey) (fun _ _ _ => False)
      (fun halt _ x => halt = .failed e ∧
        x.1 = [SentPage.sealing recipientKey first text,
          .called (openRequest g kind recipient text) (.error e)]) g ([], s) := by
  simp only [transfer, ensures_bind, ensures_get, ensures_settle, hfirst]
  refine sealFor_recorded hsealed ?_
  simp only [ensures_bind]
  rw [ensures_request, World.recorded_answer, hanswer]
  exact ⟨rfl, rfl⟩

theorem transfer_interrupted
    (hopened : w.answer (openRequest g kind recipient text) s₁ = (some (.ok id), s₂)) (hid : id ≠ "")
    (hpages : laterPages g.record.history.keys paging = front.map Prod.fst ++ page :: back)
    (hfront : Seals w recipientKey s₂ front s₃)
    (hanswer : w.answer (sealRequest recipientKey page) s₃ = (some (.error e), s₄)) :
    Ensures w.recorded fuel (transfer paging kind recipient recipientKey) (fun _ _ _ => False)
      (fun halt _ x => halt = .failed e ∧
        x.1 = openingCalls g kind recipient recipientKey first text id ++
          front.map (fun p => SentPage.sealing recipientKey p.1 p.2) ++
          [.called (sealRequest recipientKey page) (.error e)]) g ([], s) := by
  have hsession : Session.ofId id = .opened id := ofId_eq_opened_iff.mpr ⟨rfl, hid⟩
  simp only [transfer, ensures_bind, ensures_get, ensures_settle, hfirst]
  refine sealFor_recorded hsealed ?_
  simp only [ensures_bind]
  rw [ensures_request, World.recorded_answer, hopened]
  simp only [hsession, hpages]
  -- A session that is opened where nothing is left is noticed first.
  split
  all_goals
    simp only [ensures_bind, ensures_notice]
    exact sealAll_refused hfront hanswer ⟨rfl, rfl⟩

end FirstPage

theorem transfer_unchanged (paging : Config.Paging) (kind : Kind) (recipient recipientKey : String) :
    ((transfer paging kind recipient recipientKey).run.run w fuel g s).state = g := by
  have hkept : Preserves w fuel (fun g' _ => g' = g) (transfer paging kind recipient recipientKey) :=
    preserves_transfer (fun _ _ _ _ h => h) paging recipient recipientKey
  exact (meets_ending (R := fun _ g' _ => g' = g)).mp (hkept g s rfl)

end Aborted

/-- No page after the first is sent before all of them are sealed, so a transfer that is broken off
has asked the server to open it at most, and leaves the group as it was. -/
theorem transfer_aborts {S : Type} (w : World S) (fuel : Nat) (g : Group) (s : S)
    (paging : Config.Paging) (kind : Kind) (recipient recipientKey : String) :
    Aborts w g s paging kind recipient recipientKey
      ((transfer paging kind recipient recipientKey).run.run w fuel g s) := by
  refine ⟨?_, ?_, ?_, ?_, transfer_unchanged paging kind recipient recipientKey⟩
  · intro hsize
    exact .of_recorded (transfer_unpaged hsize)
  · intro first e s₁ hfirst hanswer
    exact .of_recorded (transfer_unsealed hfirst hanswer)
  · intro first text e s₁ s₂ hfirst hsealed hanswer
    exact .of_recorded (transfer_unopened hfirst hsealed hanswer)
  · intro first text id front page back e s₁ s₂ s₃ s₄ hfirst hsealed hopened hid hpages hfront hanswer
    have hseals : (front.map fun p => SentPage.sealing recipientKey p.1 p.2).filter
        (fun event => event.party? == some .server) = [] := by
      rw [List.filter_eq_nil_iff]
      intro event hevent
      obtain ⟨p, -, rfl⟩ := List.mem_map.mp hevent
      exact Bool.false_ne_true
    have hasked : List.filter (fun event => event.party? == some .server)
        (openingCalls g kind recipient recipientKey first text id ++
          front.map (fun p => SentPage.sealing recipientKey p.1 p.2) ++
          [.called (sealRequest recipientKey page) (.error e)]) =
        [.called (openRequest g kind recipient text) (.ok id)] := by
      rw [List.filter_append, List.filter_append, hseals, List.append_nil]
      rfl
    rw [← hasked]
    exact .of_recorded (transfer_interrupted hfirst hsealed hopened hid hpages hfront hanswer)

section Refused

open Keyring.Memory

/-- A simulation that opens a session for three keys and fails to seal a third time. -/
def refusing : Faults × State :=
  ([("prepare_keys_for_new_member", ⟨2, 1⟩)], openState 2)

theorem transfer_aborts_refusing : ∃ request id,
    FailsAfter ((transfer keeper.config.keys .invite "guest" "guest-key").run.run (withFaults world)
        0 keeper refusing)
      (.crypto "injected prepare_keys_for_new_member") [.called request (.ok id)] := by
  have hlen : keeper.record.history.keys.length < UInt64.size := by decide
  have hsize := Config.pageSize_ne_zero validate_keeper
  have hfirst : Page.ofKeys keeper.record.history.keys 0 keeper.config.keys.pageSize
      keeper.config.keys.boundary = .ok _ := rfl
  have hlength : (laterPages keeper.record.history.keys keeper.config.keys).length = 2 := by
    have hcount : Page.countFrom keeper.record.history.keys.length.toUInt64
        keeper.config.keys.pageSize keeper.config.keys.boundary hsize 0 = 3 :=
      Except.ok.inj ((dif_neg hsize).symm.trans count_keeper)
    rw [laterPages, dif_neg hsize, Page.length_following_one hlen hsize, hcount]
    rfl
  obtain ⟨p, q, hpages⟩ := List.length_eq_two.mp hlength
  have hid : SessionIds.numbered.id 1 ≠ "" := SessionIds.numbered.id_ne_empty 1
  exact ⟨_, _, (transfer_aborts (withFaults world) 0 keeper refusing keeper.config.keys .invite
    "guest" "guest-key").interrupted _ _ _ [(p, _)] q [] _ _ _ _ _ hfirst rfl rfl hid hpages
    ⟨_, rfl, rfl⟩ rfl⟩

end Refused

end Group

end Keyring
