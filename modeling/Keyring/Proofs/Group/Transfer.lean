import Mathlib.Data.List.Forall2
import Keyring.Group.Operation
import Keyring.Memory.World
import Keyring.Proofs.Page.Cover
import Keyring.Proofs.Program.Ensures

namespace Keyring.Group

open Keyring.Memory Keyring.Transfer

/-- The operation that starts a transfer of a kind. -/
def transferring (kind : Kind) (userId recipientKey : String) : Operation Report :=
  match kind with
  | .invite => .invite userId recipientKey
  | .acceptJoinRequest => .accept userId recipientKey

theorem ofId_eq_opened_iff {id sessionId : String} :
    Session.ofId id = .opened sessionId ↔ id = sessionId ∧ id ≠ "" := by
  unfold Session.ofId
  by_cases hid : id = ""
  · simp [hid]
  · simp [hid, String.isEmpty_iff]

def sealedPage (e : Engine) (recipientKey : String) (page : Page) : SealedPage :=
  ⟨page.index, page.span.size, e.sealed page.payload page.span.size.toNat recipientKey⟩

section Server

variable (server : Server) (kind : Kind) (sessionId userId : String)

/-- What becomes of a page that is sent to a server under one of its sessions. -/
def fate (p : SealedPage) : PageResult :=
  ⟨p.index, p.keyCount,
    if server.failingPages.contains p.index then
      .error (.gateway ("page " ++ Decimal.render p.index.toNat ++ " rejected"))
    else .ok ()⟩

def pageRecord (p : SealedPage) : PageRecord :=
  ⟨kind, sessionId, userId, p.index, p.payload⟩

/-- A server after pages have been sent to it under one of its sessions. -/
def withPages (pages : List SealedPage) : Server :=
  { server with
    pages := server.pages ++
      (pages.filter fun p => !server.failingPages.contains p.index).map
        (pageRecord kind sessionId userId) }

theorem result_eq_ok_iff (more : Bool) (pages : List PageResult) :
    (Report.mk kind (.opened sessionId) more pages).result =
        .ok ⟨kind, .opened sessionId, more, pages⟩ ↔
      (Report.mk kind (.opened sessionId) more pages).failed = [] := by
  simp [Report.result]

theorem failed_eq_nil_iff (session : Session) (more : Bool) (pages : List SealedPage) :
    (Report.mk kind session more (pages.map (fate server))).failed = [] ↔
      ∀ p ∈ pages, server.failingPages.contains p.index = false := by
  have hsucceeded : ∀ p, (fate server p).succeeded = !server.failingPages.contains p.index := by
    intro p
    by_cases hfail : server.failingPages.contains p.index = true
    · simp only [fate, PageResult.succeeded, hfail, if_true, Bool.not_true]
    · simp only [fate, PageResult.succeeded, hfail, Bool.false_eq_true, if_false, Bool.not_false]
  simp [Report.failed, hsucceeded]

theorem withPages_nil : withPages server kind sessionId userId [] = server := by
  simp [withPages]

theorem withPages_append (pages more : List SealedPage) :
    withPages (withPages server kind sessionId userId pages) kind sessionId userId more =
      withPages server kind sessionId userId (pages ++ more) := by
  simp [withPages]

theorem receivePage_eq (h : server.openings.any (·.sessionId == sessionId) = true)
    (p : SealedPage) :
    server.receivePage kind sessionId userId p.index p.payload =
      (withPages server kind sessionId userId [p], (fate server p).result) := by
  simp only [Server.receivePage, withPages, fate, h, Bool.not_true, Bool.false_eq_true, if_false]
  by_cases hfail : server.failingPages.contains p.index = true
  · simp only [hfail, if_true, List.filter_cons, Bool.not_true, Bool.false_eq_true, if_false,
      List.filter_nil, List.map_nil, List.append_nil]
  · simp only [hfail, Bool.false_eq_true, if_false, List.filter_cons, Bool.not_false, if_true,
      List.filter_nil, List.map_cons, List.map_nil, pageRecord]

theorem openTransfer_spec (groupId : String) (keyCount : Nat) (rank : UInt32) (payload : String) :
    ∃ server' id, server.openTransfer kind groupId userId keyCount rank payload = (server', id) ∧
      server'.openings =
        server.openings ++ [⟨kind, groupId, userId, keyCount, rank, payload, id⟩] ∧
      server'.pages = server.pages ∧ server'.failingPages = server.failingPages ∧
      (Session.ofId id = .notRequired ↔ keyCount ≤ server.sessionThreshold) := by
  refine ⟨_, _, rfl, rfl, rfl, rfl, ?_⟩
  rcases Nat.lt_or_ge server.sessionThreshold keyCount with hlong | hshort
  · simp [hlong, Session.ofId, Nat.not_le.mpr hlong, server.sessionIds.id_ne_empty]
  · simp [Nat.not_lt.mpr hshort, hshort, Session.ofId]

end Server

/-- Whether a text is a sealed page of these keys. -/
def Holds (e : Engine) (recipientKey text : String) (keys : List Key) : Prop :=
  ∃ payload, Page.decode payload = .ok keys ∧ text = e.sealed payload keys.length recipientKey

/-- What has arrived of a transfer at a server: the keys of the page that opened it, and the keys of
each page after it. -/
structure Arrived (e : Engine) (kind : Kind) (userId recipientKey sessionId : String)
    (before after : Server) (first : List Key) (later : List (List Key)) : Prop where
  opening : ∃ o : OpeningRecord, after.openings = before.openings ++ [o] ∧
    o.kind = kind ∧ o.userId = userId ∧ o.sessionId = sessionId ∧
      Holds e recipientKey o.payload first
  pages : ∃ records : List PageRecord, after.pages = before.pages ++ records ∧
    records.map (fun r => r.index.toNat) = List.range' 1 later.length ∧
    List.Forall₂ (fun r keys => r.kind = kind ∧ r.userId = userId ∧ r.sessionId = sessionId ∧
      Holds e recipientKey r.payload keys) records later

variable {fuel : Nat} {g : Group} {s : State} {X : Halt → Group → State → Prop}

theorem sealFor_ensures (recipientKey : String) (page : Page)
    {Q : SealedPage → Group → State → Prop}
    (hQ : Q (sealedPage s.engine recipientKey page) g s) :
    Attempt.Ensures world fuel (sealFor recipientKey page) Q X g s := by
  simp only [sealFor, Attempt.ensures_bind]
  exact hQ

theorem sealPages_ensures (recipientKey : String) (pages : List Page)
    {Q : List SealedPage → Group → State → Prop}
    (hQ : Q (pages.map (sealedPage s.engine recipientKey)) g s) :
    Attempt.Ensures world fuel (pages.mapM (sealFor recipientKey)) Q X g s := by
  induction pages generalizing Q with
  | nil => exact hQ
  | cons page rest ih =>
      rw [Attempt.ensures_mapM_cons]
      exact sealFor_ensures recipientKey page (ih hQ)

theorem upload_ensures {kind : Kind} {sessionId userId : String}
    (hopen : s.server.openings.any (·.sessionId == sessionId) = true) (p : SealedPage)
    {Q : PageResult → Group → State → Prop}
    (hQ : Q (fate s.server p) g
      { s with server := withPages s.server kind sessionId userId [p] }) :
    Attempt.Ensures world fuel (upload kind sessionId userId p) Q X g s := by
  have hanswer : world.answer (.uploadPage g.actor.token kind g.record.groupId sessionId userId
      p.index p.payload) s = (some (fate s.server p).result,
        { s with server := withPages s.server kind sessionId userId [p] }) := by
    simp only [world, State.answer, receivePage_eq _ kind sessionId userId hopen p]
  simp only [upload, Attempt.ensures_bind, Attempt.ensures_get, Attempt.ensures_outcome]
  rw [Attempt.ensures_request, hanswer]
  rcases hfate : fate s.server p with ⟨index, keyCount, _ | _⟩
  all_goals
    rw [hfate] at hQ
    obtain ⟨rfl, rfl, -⟩ := PageResult.mk.inj hfate
    exact hQ

theorem uploads_ensures {kind : Kind} {sessionId userId : String}
    (hopen : s.server.openings.any (·.sessionId == sessionId) = true) (pages : List SealedPage)
    {Q : List PageResult → Group → State → Prop}
    (hQ : Q (pages.map (fate s.server)) g
      { s with server := withPages s.server kind sessionId userId pages }) :
    Attempt.Ensures world fuel (pages.mapM (upload kind sessionId userId)) Q X g s := by
  induction pages generalizing s Q with
  | nil => rwa [List.map_nil, withPages_nil] at hQ
  | cons p rest ih =>
      rw [Attempt.ensures_mapM_cons]
      apply upload_ensures hopen p
      apply ih (s := { s with server := withPages s.server kind sessionId userId [p] }) hopen
      rwa [withPages_append]

/-- What a transfer that led from one state to another has brought to the server. With a session,
all keys that are to be shared have arrived; without one, those of the first page. -/
def Delivered (g : Group) (kind : Kind) (userId recipientKey : String) (s s' : State)
    (report : Report) : Prop :=
  let keys := g.record.history.keys
  let shared := Page.shared g.config.keys.boundary keys
  let pageSize := g.config.keys.pageSize.toNat
  ∃ sessionId first later,
    Arrived s.engine kind userId recipientKey sessionId s.server s'.server first later ∧
      report.session = .ofId sessionId ∧
      (report.firstPageMore = true ↔ pageSize < shared.length) ∧
      (s.server.sessionThreshold < keys.length →
        report.session ≠ .notRequired ∧ first ++ later.flatten = shared) ∧
      (keys.length ≤ s.server.sessionThreshold →
        report.session = .notRequired ∧ first = shared.take pageSize ∧ later = [])

def firstPage (g : Group) : Page :=
  Page.ofSpan g.record.history.keys 0
    (Page.cut g.record.history.keys.length.toUInt64 0 g.config.keys.pageSize g.config.keys.boundary)

theorem isCut_firstPage (g : Group) :
    g.firstPage.IsCut g.record.history.keys g.config.keys.pageSize g.config.keys.boundary :=
  rfl

section Pages

variable {keys : List Key} {size : UInt64} {b : Page.Boundary}

theorem holds_sealedPage (hlen : keys.length < UInt64.size) (e : Engine) (recipientKey : String)
    {page : Page} (hpage : page.IsCut keys size b) :
    Holds e recipientKey (sealedPage e recipientKey page).payload
      (Page.covered keys page.span) := by
  rw [hpage]
  refine ⟨_, Page.decode_ofSpan keys page.index _, ?_⟩
  have hcount := Page.length_covered page.index size b hlen
  exact (congrArg (fun n => e.sealed _ n recipientKey) hcount).symm

theorem arrived_of_pages (hlen : keys.length < UInt64.size) {e : Engine} {kind : Kind}
    {userId recipientKey sessionId : String} {before opened : Server} {o : OpeningRecord}
    {first : Page} {later : List Page} (hopenings : opened.openings = before.openings ++ [o])
    (hkind : o.kind = kind) (huser : o.userId = userId) (hsession : o.sessionId = sessionId)
    (hpayload : o.payload = (sealedPage e recipientKey first).payload)
    (hpages : opened.pages = before.pages)
    (hall : ∀ page ∈ later, opened.failingPages.contains page.index = false)
    (hfirst : first.IsCut keys size b) (hlater : ∀ page ∈ later, page.IsCut keys size b)
    (hindices : later.map (fun page => page.index.toNat) = List.range' 1 later.length) :
    Arrived e kind userId recipientKey sessionId before
      (withPages opened kind sessionId userId (later.map (sealedPage e recipientKey)))
      (Page.covered keys first.span) (later.map fun page => Page.covered keys page.span) := by
  refine ⟨⟨o, hopenings, hkind, huser, hsession, ?_⟩, ?_⟩
  · rw [hpayload]
    exact holds_sealedPage hlen e recipientKey hfirst
  · refine ⟨(later.map (sealedPage e recipientKey)).map (pageRecord kind sessionId userId),
      ?_, ?_, ?_⟩
    · have hfilter : (later.map (sealedPage e recipientKey)).filter
          (fun p => !opened.failingPages.contains p.index) =
            later.map (sealedPage e recipientKey) := by
        rw [List.filter_eq_self]
        intro p hp
        obtain ⟨page, hmem, rfl⟩ := List.mem_map.mp hp
        exact congrArg not (hall page hmem)
      rw [withPages, hfilter, hpages]
    · simpa [Function.comp_def, pageRecord, sealedPage] using hindices
    · rw [List.map_map, List.forall₂_map_left_iff, List.forall₂_map_right_iff, List.forall₂_same]
      intro page hmem
      exact ⟨rfl, rfl, rfl, holds_sealedPage hlen e recipientKey (hlater page hmem)⟩

end Pages

theorem firstPage_more_iff (hlen : g.record.history.keys.length < UInt64.size) :
    g.firstPage.span.more = true ↔ g.config.keys.pageSize.toNat <
      (Page.shared g.config.keys.boundary g.record.history.keys).length := by
  have hmore := Page.more_iff 0 g.config.keys.pageSize g.config.keys.boundary hlen
  rwa [show (0 : UInt64).toNat = 0 from rfl, Nat.zero_mul, Nat.zero_add] at hmore

theorem covered_firstPage (hlen : g.record.history.keys.length < UInt64.size) :
    Page.covered g.record.history.keys g.firstPage.span =
      (Page.shared g.config.keys.boundary g.record.history.keys).take
        g.config.keys.pageSize.toNat := by
  have hcovered := Page.covered_cut 0 g.config.keys.pageSize g.config.keys.boundary hlen
  rwa [show (0 : UInt64).toNat = 0 from rfl, Nat.zero_mul, List.drop_zero] at hcovered

theorem flatMap_laterPages (hsize : g.config.keys.pageSize ≠ 0)
    (hlen : g.record.history.keys.length < UInt64.size) :
    (laterPages g.record.history.keys g.config.keys).flatMap
        (fun page => Page.covered g.record.history.keys page.span) =
      (Page.shared g.config.keys.boundary g.record.history.keys).drop
        g.config.keys.pageSize.toNat := by
  have hcover := Page.flatMap_following 1 _ g.config.keys.boundary hlen hsize
  rw [laterPages, dif_neg hsize, hcover, show (1 : UInt64).toNat = 1 from rfl, Nat.one_mul]

theorem isCut_of_mem_laterPages (hsize : g.config.keys.pageSize ≠ 0) {page : Page}
    (h : page ∈ laterPages g.record.history.keys g.config.keys) :
    page.IsCut g.record.history.keys g.config.keys.pageSize g.config.keys.boundary := by
  rw [laterPages, dif_neg hsize] at h
  exact Page.isCut_of_mem_following _ _ hsize h

theorem indices_laterPages (hsize : g.config.keys.pageSize ≠ 0) :
    (laterPages g.record.history.keys g.config.keys).map (fun page => page.index.toNat) =
      List.range' 1 (laterPages g.record.history.keys g.config.keys).length := by
  rw [laterPages, dif_neg hsize]
  exact Page.indices_following 1 _ _ hsize

theorem delivered_without_session {kind : Kind} {userId recipientKey id : String} {server' : Server}
    (hlen : g.record.history.keys.length < UInt64.size)
    (hopenings : server'.openings = s.server.openings ++ [⟨kind, g.record.groupId, userId,
      g.record.history.keys.length, g.record.rank,
      (sealedPage s.engine recipientKey g.firstPage).payload, id⟩])
    (hpages : server'.pages = s.server.pages) (hid : Session.ofId id = .notRequired)
    (hshort : g.record.history.keys.length ≤ s.server.sessionThreshold) :
    Delivered g kind userId recipientKey s { s with server := server' }
      ⟨kind, .notRequired, g.firstPage.span.more, []⟩ := by
  have harrived := arrived_of_pages hlen hopenings rfl rfl rfl rfl hpages (by simp)
    g.isCut_firstPage (by simp) (rfl : List.map _ [] = [])
  rw [List.map_nil, withPages_nil] at harrived
  refine ⟨id, _, _, harrived, hid.symm, firstPage_more_iff hlen, fun hlong => ?_, fun _ => ?_⟩
  · exact absurd hshort (Nat.not_le.mpr hlong)
  · exact ⟨rfl, covered_firstPage hlen, rfl⟩

theorem delivered_of_session {kind : Kind} {userId recipientKey id : String} {server' : Server}
    (hsize : g.config.keys.pageSize ≠ 0) (hlen : g.record.history.keys.length < UInt64.size)
    (hopenings : server'.openings = s.server.openings ++ [⟨kind, g.record.groupId, userId,
      g.record.history.keys.length, g.record.rank,
      (sealedPage s.engine recipientKey g.firstPage).payload, id⟩])
    (hpages : server'.pages = s.server.pages) (hid : Session.ofId id = .opened id)
    (hlong : s.server.sessionThreshold < g.record.history.keys.length)
    (hall : ∀ page ∈ laterPages g.record.history.keys g.config.keys,
      server'.failingPages.contains page.index = false) (results : List PageResult) :
    Delivered g kind userId recipientKey s
      { s with
        server := withPages server' kind id userId
          ((laterPages g.record.history.keys g.config.keys).map
            (sealedPage s.engine recipientKey)) }
      ⟨kind, .opened id, g.firstPage.span.more, results⟩ := by
  have harrived := arrived_of_pages hlen hopenings rfl rfl rfl rfl hpages hall g.isCut_firstPage
    (fun page => isCut_of_mem_laterPages hsize) (indices_laterPages hsize)
  refine ⟨id, _, _, harrived, hid.symm, firstPage_more_iff hlen, fun _ => ?_, fun hshort => ?_⟩
  · refine ⟨Session.noConfusion, ?_⟩
    rw [← List.flatMap_def, flatMap_laterPages hsize hlen, covered_firstPage hlen,
      List.take_append_drop]
  · exact absurd hlong (Nat.not_lt.mpr hshort)

theorem transfer_ensures {kind : Kind} {userId recipientKey : String}
    (hsize : g.config.keys.pageSize ≠ 0) (hlen : g.record.history.keys.length < UInt64.size)
    {Q : Report → Group → State → Prop}
    (hQ : ∀ report s', (s.server.failingPages = [] → report.result = .ok report) →
      (report.result = .ok report → Delivered g kind userId recipientKey s s' report) →
      Q report g s') :
    Attempt.Ensures world fuel (transfer g.config.keys kind userId recipientKey) Q X g s := by
  have hfirst : Page.ofKeys g.record.history.keys 0 g.config.keys.pageSize g.config.keys.boundary =
      .ok g.firstPage := by
    simp only [Page.ofKeys, Page.spanAt, hsize, if_false]
    rfl
  simp only [transfer, Attempt.ensures_bind, Attempt.ensures_get, Attempt.ensures_settle, hfirst]
  apply sealFor_ensures recipientKey _
  obtain ⟨server', id, hopen, hopenings, hpages, hfailing, hsession⟩ :=
    openTransfer_spec s.server kind userId g.record.groupId g.record.history.keys.length
      g.record.rank (sealedPage s.engine recipientKey g.firstPage).payload
  have hanswer : world.answer (.openTransfer g.actor.token kind g.record.groupId userId
      g.record.history.keys.length g.record.rank
      (sealedPage s.engine recipientKey g.firstPage).payload) s =
      (some (.ok id), { s with server := server' }) := by
    simp only [world, State.answer, hopen]
  simp only [Attempt.ensures_bind]
  rw [Attempt.ensures_request, hanswer]
  simp only
  cases hid : Session.ofId id with
  | notRequired =>
      simp only [Attempt.ensures_bind, Attempt.ensures_notice, Attempt.ensures_pure]
      exact hQ _ _ (fun _ => rfl) fun _ =>
        delivered_without_session hlen hopenings hpages hid (hsession.mp hid)
  | opened sessionId =>
      obtain rfl : id = sessionId := (ofId_eq_opened_iff.mp hid).1
      have hknown : server'.openings.any (·.sessionId == id) = true := by
        simp [hopenings]
      have hlong : s.server.sessionThreshold < g.record.history.keys.length := by
        rw [← Nat.not_le, ← hsession, hid]
        exact Session.noConfusion
      let pages := (laterPages g.record.history.keys g.config.keys).map
        (sealedPage s.engine recipientKey)
      have hend : Q ⟨kind, .opened id, g.firstPage.span.more, pages.map (fate server')⟩ g
          { s with server := withPages server' kind id userId pages } := by
        refine hQ _ _ (fun hnone => ?_) fun hok => ?_
        · rw [result_eq_ok_iff, failed_eq_nil_iff, hfailing, hnone]
          exact fun _ _ => rfl
        · rw [result_eq_ok_iff, failed_eq_nil_iff] at hok
          exact delivered_of_session hsize hlen hopenings hpages hid hlong
            (fun page hpage => hok _ (List.mem_map_of_mem hpage)) _
      dsimp only
      split
      all_goals
        simp only [Attempt.ensures_bind, Attempt.ensures_notice]
        apply sealPages_ensures recipientKey _
        rw [Attempt.ensures_bind]
        refine uploads_ensures ?_ _ ?_
        · exact hknown
        simp only [Attempt.ensures_bind, Attempt.ensures_tellAll, Attempt.ensures_notice,
          Attempt.ensures_pure]
        exact hend

end Keyring.Group
