import Keyring.Proofs.Group.Delivery
import Keyring.Proofs.Page.Lossless
import Keyring.Proofs.Program.Returns

namespace Keyring.Group

open Keyring.Transfer

/-- A world in which pages are sealed, transfers are opened, and pages are answered, be it by a
failure. What is said of its states holds again after each of these requests. -/
structure Willing {S : Type} (w : World S) (ready : S → Prop) : Prop where
  seals : ∀ payload keyCount recipientKey s, ready s → ∃ text s',
    w.answer (.sealPage payload keyCount recipientKey) s = (some (.ok text), s') ∧ ready s'
  opens : ∀ token kind groupId userId keyCount rank payload s, ready s → ∃ id s',
    w.answer (.openTransfer token kind groupId userId keyCount rank payload) s =
      (some (.ok id), s') ∧ ready s'
  receives : ∀ token kind groupId sessionId userId index payload s, ready s → ∃ reply s',
    w.answer (.uploadPage token kind groupId sessionId userId index payload) s =
      (some reply, s') ∧ ready s'

/-- A page after the first, as it was sealed and sent, and what came back. -/
structure SentPage where
  page : Page
  text : String
  reply : Except Failure Unit

namespace SentPage

def sealing (recipientKey : String) (page : Page) (text : String) : Event :=
  .called (.sealPage page.payload page.span.size.toNat recipientKey) (.ok text)

def sending (g : Group) (kind : Kind) (sessionId recipient : String) (p : SentPage) : Event :=
  .called (.uploadPage g.actor.token kind g.record.groupId sessionId recipient p.page.index p.text)
    p.reply

def outcome (p : SentPage) : PageResult :=
  ⟨p.page.index, p.page.span.size, p.reply⟩

end SentPage

/-- The report on a transfer with its first page, the id that answered it, and the other pages. -/
def reportOn (kind : Kind) (first : Page) (id : String) (sent : List SentPage) : Report :=
  ⟨kind, .ofId id, first.span.more, sent.map SentPage.outcome⟩

/-- The calls by which a transfer begins: the first page is sealed, and sent with the length of the
whole history. -/
def openingCalls (g : Group) (kind : Kind) (recipient recipientKey : String) (first : Page)
    (text id : String) : List Event := [
  SentPage.sealing recipientKey first text,
  .called (.openTransfer g.actor.token kind g.record.groupId recipient
    g.record.history.keys.length g.record.rank text) (.ok id)]

/-- The calls for the pages after the first: all are sealed before one is sent. -/
def laterCalls (g : Group) (kind : Kind) (recipient recipientKey id : String)
    (sent : List SentPage) : List Event :=
  sent.map (fun p => SentPage.sealing recipientKey p.page p.text) ++
    sent.map (SentPage.sending g kind id recipient)

/-- What a transfer has done, page by page, and what it reports. -/
structure Transferred (g : Group) (paging : Config.Paging) (kind : Kind)
    (recipient recipientKey : String) (first : Page) (text id : String) (sent : List SentPage)
    (r : Run Group S (Except Failure Report)) : Prop where
  begun : Page.ofKeys g.record.history.keys 0 paging.pageSize paging.boundary = .ok first
  later : ∀ i p, sent[i]? = some p → p.page.index.toNat = i + 1 ∧
    Page.ofKeys g.record.history.keys p.page.index paging.pageSize paging.boundary = .ok p.page
  calls : r.calls = openingCalls g kind recipient recipientKey first text id ++
    laterCalls g kind recipient recipientKey id sent
  state : r.state = g
  ending : r.ending = .finished (.ok (reportOn kind first id sent))

/-- What a report comes to: itself, or the failure that names the pages that have failed. -/
inductive Judged (id : String) (sent : List SentPage) (report : Report) :
    Except Failure Report → Prop
  | complete (hall : ∀ p ∈ sent, p.reply = .ok ()) : Judged id sent report (.ok report)
  | incomplete {failed : List Nat} (hne : failed ≠ []) (hsorted : failed.Pairwise (· < ·))
      (hmem : ∀ i, i ∈ failed ↔ ∃ p ∈ sent, p.page.index.toNat = i ∧ p.reply ≠ .ok ()) :
      Judged id sent report (.error (.incompleteUpload id failed sent.length))

section Sending

variable {S : Type} {w : World S} {ready : S → Prop} {s : S} (fuel : Nat) (g : Group)
  (kind : Kind) (recipient recipientKey : String)

theorem Willing.returns_sealFor (hw : Willing w ready) (hs : ready s) (page : Page)
    (before : List Event) : ∃ text s', ready s' ∧
      Attempt.Returns w.recorded fuel (sealFor recipientKey page) g (before, s)
        ⟨page.index, page.span.size, text⟩ g
        (before ++ [SentPage.sealing recipientKey page text], s') := by
  obtain ⟨text, s', hanswer, hs'⟩ := hw.seals page.payload page.span.size.toNat recipientKey s hs
  refine ⟨text, s', hs', ?_⟩
  rw [sealFor, Attempt.returns_bind]
  exact ⟨text, g, _, Attempt.returns_recorded_request before hanswer,
    Attempt.returns_pure.mpr ⟨rfl, rfl, rfl⟩⟩

/-- A page with its sealed text, as it is sent. -/
def sealedAs (p : Page × String) : SealedPage :=
  ⟨p.1.index, p.1.span.size, p.2⟩

theorem Willing.returns_upload (hw : Willing w ready) (hs : ready s) (id : String)
    (p : Page × String) (before : List Event) : ∃ (sent : SentPage) (s' : S),
      (sent.page, sent.text) = p ∧ ready s' ∧
        Attempt.Returns w.recorded fuel (upload kind id recipient (sealedAs p)) g (before, s)
          sent.outcome g (before ++ [sent.sending g kind id recipient], s') := by
  obtain ⟨reply, s', hanswer, hs'⟩ :=
    hw.receives g.actor.token kind g.record.groupId id recipient p.1.index p.2 s hs
  refine ⟨⟨p.1, p.2, reply⟩, s', rfl, hs', ?_⟩
  simp only [upload, Attempt.returns_bind, Attempt.returns_get]
  exact ⟨g, g, _, ⟨rfl, rfl, rfl⟩, reply, g, _, Attempt.returns_recorded_outcome before hanswer,
    Attempt.returns_pure.mpr ⟨rfl, rfl, rfl⟩⟩

theorem Willing.returns_later (hw : Willing w ready) (hs : ready s) (id : String)
    (pages : List Page) (before : List Event) :
    ∃ (sent : List SentPage) (sealed : List SealedPage) (s₁ s' : S),
      sent.map SentPage.page = pages ∧
      Attempt.Returns w.recorded fuel (pages.mapM (sealFor recipientKey)) g (before, s) sealed g
        (before ++ sent.map (fun p => SentPage.sealing recipientKey p.page p.text), s₁) ∧
      Attempt.Returns w.recorded fuel (sealed.mapM (upload kind id recipient)) g
        (before ++ sent.map (fun p => SentPage.sealing recipientKey p.page p.text), s₁)
        (sent.map SentPage.outcome) g
        (before ++ laterCalls g kind recipient recipientKey id sent, s') := by
  have hseal : ∀ page before s, ready s → ∃ (p : Page × String) (s' : S), p.1 = page ∧ ready s' ∧
      Attempt.Returns w.recorded fuel (sealFor recipientKey page) g (before, s) (sealedAs p) g
        (before ++ [SentPage.sealing recipientKey p.1 p.2], s') := by
    intro page before s hs
    obtain ⟨text, s', hs', hreturns⟩ := hw.returns_sealFor fuel g recipientKey hs page before
    exact ⟨(page, text), s', rfl, hs', hreturns⟩
  obtain ⟨sealed, s₁, hpages, hs₁, hseals⟩ :=
    Attempt.exists_returns_mapM _ sealedAs _ hseal pages before hs
  obtain ⟨sent, s', rfl, -, huploads⟩ :=
    Attempt.exists_returns_mapM (f := upload kind id recipient ∘ sealedAs) _ SentPage.outcome _
      (fun p before s hs => hw.returns_upload fuel g kind recipient hs id p before) sealed
      (before ++ sealed.map fun p => SentPage.sealing recipientKey p.1 p.2) hs₁
  rw [← List.mapM_map] at huploads
  simp only [List.map_map, Function.comp_def] at hpages hseals huploads
  refine ⟨sent, _, s₁, s', hpages, hseals, ?_⟩
  rw [laterCalls, ← List.append_assoc]
  exact huploads

theorem Willing.returns_transfer (hw : Willing w ready) (hs : ready s) {paging : Config.Paging}
    {first : Page}
    (hfirst : Page.ofKeys g.record.history.keys 0 paging.pageSize paging.boundary = .ok first) :
    ∃ (text id : String) (sent : List SentPage) (s' : S),
      sent.map SentPage.page =
        (if id = "" then [] else laterPages g.record.history.keys paging) ∧
      Attempt.Returns w.recorded fuel (transfer paging kind recipient recipientKey) g ([], s)
        (reportOn kind first id sent) g
        (openingCalls g kind recipient recipientKey first text id ++
          laterCalls g kind recipient recipientKey id sent, s') := by
  obtain ⟨text, s₁, hs₁, hopening⟩ := hw.returns_sealFor fuel g recipientKey hs first []
  obtain ⟨id, s₂, hanswer, hs₂⟩ := hw.opens g.actor.token kind g.record.groupId recipient
    g.record.history.keys.length g.record.rank text s₁ hs₁
  have hrequest : Attempt.Returns w.recorded fuel _ g _ id g
      (openingCalls g kind recipient recipientKey first text id, s₂) :=
    Attempt.returns_recorded_request [SentPage.sealing recipientKey first text] hanswer
  by_cases hid : id = ""
  · have hsession : Session.ofId id = .notRequired := if_pos (String.isEmpty_iff.mpr hid)
    refine ⟨text, id, [], s₂, by rw [if_pos hid]; rfl, ?_⟩
    simp only [transfer, Attempt.returns_bind, Attempt.returns_get, Attempt.returns_settle]
    refine ⟨g, g, _, ⟨rfl, rfl, rfl⟩, first, g, _, ⟨hfirst, rfl, rfl⟩, _, g, _, hopening, id, g, _,
      hrequest, ?_⟩
    simp only [reportOn, hsession, Attempt.returns_bind, Attempt.returns_notice,
      Attempt.returns_pure]
    exact ⟨(), g, _, ⟨rfl, rfl⟩, rfl, rfl, rfl⟩
  · have hsession : Session.ofId id = .opened id := ofId_eq_opened_iff.mpr ⟨rfl, hid⟩
    obtain ⟨sent, sealed, s₃, s₄, hpages, hseals, huploads⟩ :=
      hw.returns_later fuel g kind recipient recipientKey hs₂ id
        (laterPages g.record.history.keys paging)
        (openingCalls g kind recipient recipientKey first text id)
    refine ⟨text, id, sent, s₄, by rw [if_neg hid]; exact hpages, ?_⟩
    simp only [transfer, Attempt.returns_bind, Attempt.returns_get, Attempt.returns_settle]
    refine ⟨g, g, _, ⟨rfl, rfl, rfl⟩, first, g, _, ⟨hfirst, rfl, rfl⟩, _, g, _, hopening, id, g, _,
      hrequest, ?_⟩
    simp only [reportOn, hsession]
    -- A session that is opened where nothing is left is noticed first.
    split
    all_goals
      simp only [Attempt.returns_bind, Attempt.returns_notice, Attempt.returns_tellAll,
        Attempt.returns_pure]
    · exact ⟨(), g, _, ⟨rfl, rfl⟩, _, g, _, hseals, _, g, _, huploads, (), g, _, ⟨rfl, rfl⟩, (), g,
        _, ⟨rfl, rfl⟩, rfl, rfl, rfl⟩
    · exact ⟨_, g, _, hseals, _, g, _, huploads, (), g, _, ⟨rfl, rfl⟩, (), g, _, ⟨rfl, rfl⟩, rfl,
        rfl, rfl⟩

end Sending

theorem page_of_laterPages {keys : List Key} {paging : Config.Paging} {sent : List SentPage}
    {i : Nat} {p : SentPage} (hsize : paging.pageSize ≠ 0)
    (hsent : sent.map SentPage.page = laterPages keys paging) (hp : sent[i]? = some p) :
    p.page.index.toNat = i + 1 ∧
      Page.ofKeys keys p.page.index paging.pageSize paging.boundary = .ok p.page := by
  rw [laterPages, dif_neg hsize] at hsent
  have hindices : (sent.map SentPage.page).map (fun page => page.index.toNat) =
      List.range' 1 (sent.map SentPage.page).length := by
    rw [hsent]
    exact Page.indices_following 1 paging.pageSize paging.boundary hsize
  have hmem : p.page ∈ Page.following keys paging.pageSize paging.boundary hsize 1 :=
    hsent ▸ List.mem_map_of_mem (List.mem_of_getElem? hp)
  have hcut := Page.isCut_of_mem_following paging.pageSize paging.boundary hsize hmem
  constructor
  · rw [List.map_map, List.length_map] at hindices
    have hi : i < sent.length := (List.getElem?_eq_some_iff.mp hp).1
    have hindex := congrArg (·[i]?) hindices
    simp only [List.getElem?_map, hp, List.getElem?_range' hi, Option.map_some, Nat.one_mul]
      at hindex
    rw [Nat.add_comm]
    exact Option.some.inj hindex
  · simp only [Page.ofKeys, Page.spanAt, hsize, if_false]
    exact congrArg Except.ok hcut.symm

theorem SentPage.not_succeeded_iff (p : SentPage) :
    (!p.outcome.succeeded) = true ↔ p.reply ≠ .ok () := by
  obtain ⟨page, text, _ | ⟨⟩⟩ := p <;> simp [SentPage.outcome, PageResult.succeeded]

theorem result_reportOn (kind : Kind) (first : Page) {id : String} (sent : List SentPage)
    (hid : id ≠ "") :
    (reportOn kind first id sent).result =
      if (reportOn kind first id sent).failed = [] then .ok (reportOn kind first id sent)
      else .error (.incompleteUpload id (reportOn kind first id sent).failed sent.length) := by
  simp only [Report.result, reportOn, ofId_eq_opened_iff.mpr ⟨rfl, hid⟩, List.isEmpty_iff,
    List.length_map]

theorem judged_reportOn (kind : Kind) (first : Page) {id : String} {sent : List SentPage}
    (hnone : id = "" → sent = [])
    (hsorted : sent.Pairwise fun p q => p.page.index.toNat < q.page.index.toNat) :
    Judged id sent (reportOn kind first id sent) (reportOn kind first id sent).result := by
  have hfailed : (reportOn kind first id sent).failed =
      (sent.filter fun p => !p.outcome.succeeded).map fun p => p.page.index.toNat := by
    simp [Report.failed, reportOn, List.filter_map, Function.comp_def, SentPage.outcome]
  have hmem : ∀ i, i ∈ (reportOn kind first id sent).failed ↔
      ∃ p ∈ sent, p.page.index.toNat = i ∧ p.reply ≠ .ok () := by
    intro i
    simp only [hfailed, List.mem_map, List.mem_filter, SentPage.not_succeeded_iff, and_assoc,
      and_comm (a := _ = i)]
  by_cases hid : id = ""
  · have hresult : (reportOn kind first id sent).result = .ok (reportOn kind first id sent) := by
      simp only [Report.result, reportOn, Session.ofId, String.isEmpty_iff.mpr hid, if_true]
    rw [hresult]
    exact .complete (by simp [hnone hid])
  · rw [result_reportOn kind first sent hid]
    by_cases hempty : (reportOn kind first id sent).failed = []
    · rw [if_pos hempty]
      refine .complete fun p hp => Classical.byContradiction fun hne => ?_
      have hfail := (hmem p.page.index.toNat).mpr ⟨p, hp, rfl, hne⟩
      rw [hempty] at hfail
      exact List.not_mem_nil hfail
    · rw [if_neg hempty]
      refine .incomplete hempty ?_ hmem
      rw [hfailed]
      exact (hsorted.filter _).map _ fun _ _ h => h

/-- A transfer, page by page. Where the first page is answered by an empty id, no other is sent. -/
theorem transfer_exact {S : Type} {w : World S} {ready : S → Prop} (hw : Willing w ready) {s : S}
    (hs : ready s) {g : Group} (hlen : g.record.history.keys.length < UInt64.size)
    {paging : Config.Paging} (hsize : paging.pageSize ≠ 0) (kind : Kind)
    (recipient recipientKey : String) (fuel : Nat) :
    ∃ count first text id sent,
      Page.count g.record.history.keys.length.toUInt64 paging.pageSize paging.boundary =
        .ok count ∧
      sent.length = (if id = "" then 0 else max 1 (count.toNat - 1)) ∧
      Transferred g paging kind recipient recipientKey first text id sent
        ((transfer paging kind recipient recipientKey).run.run w fuel g s) ∧
      Judged id sent (reportOn kind first id sent) (reportOn kind first id sent).result := by
  obtain ⟨first, hfirst⟩ : ∃ first,
      Page.ofKeys g.record.history.keys 0 paging.pageSize paging.boundary = .ok first := by
    simp only [Page.ofKeys, Page.spanAt, hsize, if_false]
    exact ⟨_, rfl⟩
  obtain ⟨text, id, sent, s', hsent, hreturns⟩ :=
    hw.returns_transfer fuel g kind recipient recipientKey hs hfirst
  obtain ⟨hending, hstate, hcalls⟩ := hreturns.of_recorded
  have hlater : ∀ i p, sent[i]? = some p → p.page.index.toNat = i + 1 ∧
      Page.ofKeys g.record.history.keys p.page.index paging.pageSize paging.boundary =
        .ok p.page := by
    intro i p hp
    split at hsent
    · rw [List.map_eq_nil_iff.mp hsent] at hp
      cases hp
    · exact page_of_laterPages hsize hsent hp
  have hsorted : sent.Pairwise fun p q => p.page.index.toNat < q.page.index.toNat := by
    refine List.pairwise_iff_getElem.mpr fun i j hi hj hij => ?_
    rw [(hlater i _ (List.getElem?_eq_getElem hi)).1, (hlater j _ (List.getElem?_eq_getElem hj)).1]
    omega
  refine ⟨_, first, text, id, sent, dif_neg hsize, ?_,
    ⟨hfirst, hlater, hcalls, hstate, hending⟩, judged_reportOn kind first (fun hid => ?_) hsorted⟩
  · rw [← List.length_map SentPage.page, hsent]
    split
    · rfl
    · rw [laterPages, dif_neg hsize, Page.length_following_one hlen hsize]
  · rwa [if_pos hid, List.map_eq_nil_iff] at hsent

section Rejected

open Keyring.Memory

theorem willing_world : Willing world fun _ => True where
  seals _ _ _ s _ := ⟨_, s, rfl, trivial⟩
  opens _ _ _ _ _ _ _ _ _ := ⟨_, _, rfl, trivial⟩
  receives _ _ _ _ _ _ _ _ _ := ⟨_, _, rfl, trivial⟩

/-- A simulation that opens a session and takes the first page after that, but not the second. -/
def rejecting : State :=
  { openState 2 with server := (openState 2).server.failPages [2] }

/-- The session of a report, and the pages that failed. -/
def reported : Ending (Except Failure Report) → Option (Session × List Nat)
  | .finished (.ok report) => some (report.session, report.failed)
  | _ => none

theorem reported_rejecting :
    reported ((transfer keeper.config.keys .invite "guest" "guest-key").run.run world 0 keeper
      rejecting).ending = some (.opened (SessionIds.numbered.id 1), [2]) := by
  decide +kernel

theorem count_keeper : Page.count 3 1 .inclusive = .ok 3 := by
  decide +kernel

theorem transfer_exact_rejecting :
    Willing world (fun _ => True) ∧ keeper.record.history.keys.length < UInt64.size ∧
      keeper.config.keys.pageSize ≠ 0 ∧
      ∃ first text sent, sent.length = 2 ∧
        Transferred keeper keeper.config.keys .invite "guest" "guest-key" first text
          (SessionIds.numbered.id 1) sent ((transfer keeper.config.keys .invite "guest"
            "guest-key").run.run world 0 keeper rejecting) ∧
        (reportOn .invite first (SessionIds.numbered.id 1) sent).result =
          .error (.incompleteUpload (SessionIds.numbered.id 1) [2] 2) := by
  have hlen : keeper.record.history.keys.length < UInt64.size := by decide
  have hsize := Config.pageSize_ne_zero validate_keeper
  obtain ⟨count, first, text, id, sent, hcount, hlength, htransferred, -⟩ :=
    transfer_exact willing_world (s := rejecting) trivial hlen hsize .invite "guest" "guest-key" 0
  have hreported := reported_rejecting
  rw [htransferred.ending] at hreported
  obtain ⟨hsession, hfailed⟩ := Prod.mk.inj (Option.some.inj hreported)
  obtain ⟨rfl, hid⟩ := ofId_eq_opened_iff.mp hsession
  obtain rfl : 3 = count := Except.ok.inj (count_keeper.symm.trans hcount)
  have htwo : sent.length = 2 := by
    rw [hlength, if_neg hid]
    rfl
  refine ⟨willing_world, hlen, hsize, first, text, sent, htwo, htransferred, ?_⟩
  rw [result_reportOn .invite first sent hid, hfailed, htwo]
  rfl

end Rejected

end Keyring.Group
