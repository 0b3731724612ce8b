import Keyring.Group.Operation
import Keyring.Proofs.Secrecy.Program

namespace Keyring.Group

open Attempt

section Storage

variable {r r' : Record} {σ : Type} {G : σ → σ → Prop}

theorem resembles_store (hr : r.Resembles r') (space : String) :
    (r.store space : Attempt σ Unit).Resembles G Eq (r'.store space) := by
  have hnotice : Log.Notice.recordSaved (storeKey space r.groupId) r.history.size
      r.save.utf8ByteSize = .recordSaved (storeKey space r'.groupId) r'.history.size
        r'.save.utf8ByteSize := by
    rw [hr.save_size, hr.history.size_eq, hr.groupId_eq]
  unfold Record.store
  dsimp only
  apply (Resembles.notice hnotice).bind
  intro _ _ _
  rw [hr.groupId_eq]
  have hwrite := Request.Resembles.writeStore (storeKey space r'.groupId) hr.save
  exact Resembles.request hwrite

theorem resembles_fetch? (space groupId : String) :
    (Record.fetch? space groupId : Attempt σ (Option Record)).Resembles G
      (Option.Rel Record.Resembles) (Record.fetch? space groupId) := by
  apply (Resembles.request (.readStore _)).bind
  intro text text' ht
  cases ht with
  | none => exact .pure .none
  | @some text text' ht =>
      obtain ⟨hhistory, hresult⟩ := ht.restore
      dsimp only
      generalize Record.restore text = restored, Record.restore text' = restored'
        at hhistory hresult ⊢
      obtain ⟨h, result⟩ := restored
      obtain ⟨h', result'⟩ := restored'
      have hrest : (do return some (← Attempt.settle result) : Attempt σ (Option Record)).Resembles
          G (Option.Rel Record.Resembles) (do return some (← Attempt.settle result')) :=
        (Resembles.settle hresult).bind fun _ _ hr => .pure (.some hr)
      cases hhistory with
      | none => exact hrest
      | some hh =>
          dsimp only
          rw [hh.keys.appended_eq]
          exact (Resembles.tellAll _).bind fun _ _ _ => hrest

theorem resembles_load (groupId : String) {actor actor' : Actor} (ha : actor.Resembles actor')
    (config : Config) :
    (load groupId actor config : Attempt σ Group).Resembles G Group.Resembles
      (load groupId actor' config) := by
  have hrecord : (Record.load config.store.space groupId : Attempt σ Record).Resembles G
      Record.Resembles (Record.load config.store.space groupId) := by
    apply (resembles_fetch? _ _).bind
    intro r r' hr
    cases hr with
    | none => exact .throw _
    | some hr =>
        dsimp only
        rw [hr.history.size_eq]
        exact (Resembles.tellAll _).bind fun _ _ _ => .pure hr
  exact hrecord.bind fun r r' hr => .pure (.mk hr ha config .idle)

end Storage

/-- Actions that run alike on groups that differ in nothing but secret material. -/
abbrev Alike {α β : Type} (V : α → β → Prop) (a : Action α) (b : Action β) : Prop :=
  Attempt.Resembles Group.Resembles V a b

theorem alike_setPhase {p p' : Rotation.Phase} (hp : Phase.Resembles p p') :
    Alike Eq (setPhase p) (setPhase p') :=
  .modify fun _ _ hg => by
    obtain ⟨hr, ha, config, -⟩ := hg
    exact .mk hr ha config hp

theorem alike_persist : Alike Eq persist persist := by
  apply Resembles.get.bind
  rintro _ _ ⟨hr, ha, config, hp⟩
  exact resembles_store hr _

theorem alike_append {keys keys' : List Key} (h : Key.ListResembles keys keys') :
    Alike Eq (append keys) (append keys') := by
  apply Resembles.get.bind
  rintro _ _ ⟨⟨groupId, parentGroupId, rank, keyUpdate, createTime, joinedTime, hh⟩, ha, config, hp⟩
  apply (Resembles.settle (hh.append h)).bind
  intro history history' hhistory
  dsimp only
  rw [hh.size_eq, h.appended_eq, h.length_eq]
  apply (Resembles.tellAll _).bind
  intro _ _ _
  have hset := Resembles.set (Resembles.mk
    (.mk groupId parentGroupId rank keyUpdate createTime joinedTime hhistory) ha config hp)
  exact hset.bind fun _ _ _ => .pure rfl

theorem alike_fetchNew (token : String) (threshold : UInt64) :
    Alike Eq (fetchNew token threshold) (fetchNew token threshold) := by
  apply Resembles.get.bind
  rintro _ _ ⟨⟨groupId, parentGroupId, rank, keyUpdate, createTime, joinedTime, hh⟩, ha, config, hp⟩
  dsimp only
  rw [hh.cursor_eq]
  apply (Resembles.settle_same _).bind
  rintro cursor _ rfl
  apply (Resembles.gather (.mk token groupId threshold cursor .nil)).bind
  intro gathered gathered' hgathered
  have hfresh := hh.filter_unknown hgathered
  rw [hfresh.length_eq, hgathered.length_eq]
  split
  · exact (Resembles.tellAll _).bind fun _ _ _ => alike_append hfresh
  · exact alike_append hfresh

theorem alike_fetch : Alike Eq fetch fetch := by
  apply Resembles.get.bind
  rintro _ _ ⟨hr, ⟨userId, _, _, _, _, token⟩, config, hp⟩
  apply (alike_fetchNew _ _).bind
  rintro added _ rfl
  split
  · exact alike_persist.bind fun _ _ _ => .pure rfl
  · exact .pure rfl

section Rotation

open Keyring.Rotation

abbrev SameStart (artifact artifact' : Artifact) : Prop :=
  artifact.preKeyId = artifact'.preKeyId

theorem SameStart.prepared {artifact artifact' : Artifact} (h : SameStart artifact artifact') :
    Phase.Resembles (.prepared artifact) (.prepared artifact') := by
  obtain ⟨preKeyId, payload⟩ := artifact
  obtain ⟨preKeyId', payload'⟩ := artifact'
  obtain rfl : preKeyId = preKeyId' := h
  exact .prepared _ _ _

theorem alike_prepare : Alike SameStart prepare prepare := by
  apply Resembles.get.bind
  rintro _ _ ⟨hr, ha, config, hp⟩
  obtain ⟨groupId, parentGroupId, rank, keyUpdate, createTime, joinedTime, hh⟩ := hr
  obtain ⟨userId, publicKey, publicKey', privateKey, privateKey', token⟩ := ha
  apply (Resembles.settle_same _).bind
  intro _ _ _
  cases hp with
  | published | finishing => exact .throw _
  | idle | prepared =>
      apply (Resembles.settle hh.latest).bind
      intro latest latest' hk
      have hprepare := Request.Resembles.prepareRotation hk publicKey publicKey'
      apply (Resembles.request hprepare).bind
      intro artifact artifact' hstart
      apply (Resembles.notice (congrArg (Log.Notice.rotationPrepared groupId) hstart)).bind
      intro _ _ _
      have hphase := alike_setPhase (SameStart.prepared hstart)
      exact hphase.bind fun _ _ _ => .pure hstart

theorem alike_publish : Alike Eq publish publish := by
  apply Resembles.get.bind
  rintro _ _ ⟨⟨groupId, parentGroupId, rank, keyUpdate, createTime, joinedTime, hh⟩,
    ⟨userId, _, _, _, _, token⟩, config, hp⟩
  cases hp with
  | prepared preKeyId payload payload' =>
      apply (Resembles.request (.publishRotation _ _ preKeyId payload payload')).bind
      intro _ _ _
      apply (Resembles.tellAll _).bind
      intro _ _ _
      exact .set (.mk (.mk _ _ _ _ _ _ hh) (.mk _ _ _ _ _ _) config .published)
  | idle | published | finishing => exact .throw _

theorem alike_resolve (round : Nat) (output : Output) {preKey preKey' : Key}
    (hk : preKey.Resembles preKey') :
    Alike Eq (resolve round output preKey) (resolve round output preKey') := by
  apply Resembles.get.bind
  rintro _ _ ⟨⟨groupId, _, _, _, _, _, _⟩, ha, config, hp⟩
  have hderive := Request.Resembles.deriveKey hk output ha
  refine (Resembles.tryCatch (Resembles.request hderive) fun e => ?_).bind ?_
  · exact (Resembles.tellAll _).bind fun _ _ _ => .throw e
  intro key key' hkey
  obtain ⟨userId, _, _, _, _, token⟩ := ha
  have hcommit := Request.Resembles.commitKey token groupId output hkey
  apply (Resembles.request hcommit).bind
  intro _ _ _
  rw [hkey.id_eq]
  exact (Resembles.tellAll _).bind fun _ _ _ => .tellAll _

theorem alike_resolveKnown (round resolved : Nat) (deferred outputs : List Output) :
    Alike Eq (resolveKnown round resolved deferred outputs)
      (resolveKnown round resolved deferred outputs) := by
  induction outputs generalizing resolved deferred with
  | nil => exact .pure rfl
  | cons output rest ih =>
      apply Resembles.get.bind
      rintro g g' hg
      have hfound : Option.Rel Key.Resembles (g.record.history.get? output.preKeyId)
          (g'.record.history.get? output.preKeyId) := by
        obtain ⟨hr, -, -, -⟩ := hg
        exact hr.history.get? _
      generalize g.record.history.get? output.preKeyId = found,
        g'.record.history.get? output.preKeyId = found' at hfound ⊢
      cases hfound with
      | none =>
          apply (Resembles.tellAll _).bind
          intro _ _ _
          exact (Resembles.tellAll _).bind fun _ _ _ => ih _ _
      | some hk => exact (alike_resolve round output hk).bind fun _ _ _ => ih _ _

theorem alike_finishRound (round left : Nat) (pending : List Output) :
    Alike Eq (finishRound round left pending) (finishRound round left pending) := by
  apply (alike_resolveKnown _ _ _ _).bind
  rintro ⟨resolved, deferred⟩ _ rfl
  apply Resembles.get.bind
  rintro _ _ ⟨hr, ⟨userId, _, _, _, _, token⟩, config, hp⟩
  apply (alike_fetchNew _ _).bind
  rintro fetched _ rfl
  exact (Resembles.tellAll _).bind fun _ _ _ => .pure rfl

theorem alike_catchUp (round resolved left : Nat) (pending : List Output) :
    Alike Eq (catchUp round resolved left pending) (catchUp round resolved left pending) := by
  induction left generalizing round resolved pending with
  | zero =>
      apply (alike_finishRound _ _ _).bind
      rintro result _ rfl
      exact .pure rfl
  | succ left ih =>
      apply (alike_finishRound _ _ _).bind
      rintro ⟨more, deferred⟩ _ rfl
      dsimp only
      split
      · exact .pure rfl
      · exact ih _ _ _

theorem alike_finishPending : Alike Eq finishPending finishPending := by
  apply Resembles.get.bind
  rintro _ _ ⟨⟨groupId, _, _, _, _, _, _⟩, ⟨userId, _, _, _, _, token⟩, config, hp⟩
  apply (Resembles.request (.pendingOutputs _ _)).bind
  rintro pending _ rfl
  split
  · apply (Resembles.tellAll _).bind
    intro _ _ _
    exact (Resembles.tellAll _).bind fun _ _ _ => .pure rfl
  apply (Resembles.tellAll _).bind
  intro _ _ _
  apply (alike_catchUp _ _ _ _).bind
  rintro ⟨resolved, rounds, waiting⟩ _ rfl
  apply (Resembles.tellAll _).bind
  intro _ _ _
  have hmark : Alike Eq (modifyRecord ({ · with keyUpdate := false }))
      (modifyRecord ({ · with keyUpdate := false })) :=
    .modify fun _ _ hg => by
      obtain ⟨⟨_, _, _, _, _, _, hh⟩, ha, config, hp⟩ := hg
      exact .mk (.mk _ _ _ _ _ _ hh) ha config hp
  dsimp only
  split
  · apply hmark.bind
    intro _ _ _
    apply (Resembles.tellAll _).bind
    intro _ _ _
    exact alike_persist.bind fun _ _ _ => (Resembles.tellAll _).bind fun _ _ _ => .pure rfl
  · apply (Resembles.tellAll _).bind
    intro _ _ _
    exact alike_persist.bind fun _ _ _ => (Resembles.tellAll _).bind fun _ _ _ => .pure rfl

theorem alike_finish : Alike Eq finish finish := by
  apply Resembles.get.bind
  rintro _ _ ⟨hr, ha, config, hp⟩
  -- The phase is kept for the case that outputs still wait, or that the run fails.
  have hkept := hp
  cases hp with
  | prepared | finishing => exact .throw _
  | idle | published =>
      apply (alike_setPhase .finishing).bind
      intro _ _ _
      refine (Resembles.tryCatch alike_finishPending fun e => ?_).bind ?_
      · exact (alike_setPhase hkept).bind fun _ _ _ => .throw e
      rintro outcome _ rfl
      refine Resembles.bind (alike_setPhase ?_) fun _ _ _ => .pure rfl
      split
      · exact .idle
      · exact hkept

theorem alike_abandonFinish : Alike Eq abandonFinish abandonFinish := by
  apply Resembles.get.bind
  rintro _ _ ⟨⟨groupId, _, _, keyUpdate, _, _, _⟩, ha, config, hp⟩
  have hphase : Phase.Resembles (if keyUpdate then .published else .idle)
      (if keyUpdate then .published else .idle) := by
    split
    · exact .published
    · exact .idle
  cases hp with
  | finishing =>
      apply (alike_setPhase hphase).bind
      intro _ _ _
      exact .tellAll _
  | idle | published => exact .pure rfl
  | prepared => exact .pure rfl

theorem alike_finishExpired : Alike Eq finishExpired finishExpired := by
  apply alike_abandonFinish.bind
  intro _ _ _
  apply Resembles.get.bind
  rintro _ _ ⟨⟨groupId, _, _, _, _, _, _⟩, ha, config, hp⟩
  exact (Resembles.tellAll _).bind fun _ _ _ => .throw _

end Rotation

section Transfer

open Keyring.Transfer

/-- Pages that cover the same positions. -/
def SamePage (page page' : Page) : Prop :=
  page.index = page'.index ∧ page.span = page'.span

/-- Sealed pages of the same index with the same number of keys. -/
def SameSealed (page page' : SealedPage) : Prop :=
  page.index = page'.index ∧ page.keyCount = page'.keyCount

variable {keys keys' : List Key}

theorem agree_ofKeys (h : Key.ListResembles keys keys') (index size : UInt64)
    (b : Page.Boundary) :
    Agree SamePage (Page.ofKeys keys index size b) (Page.ofKeys keys' index size b) := by
  unfold Page.ofKeys
  rw [h.length_eq]
  cases Page.spanAt keys'.length.toUInt64 index size b with
  | error e => exact .error e
  | ok s => exact .ok ⟨rfl, rfl⟩

theorem same_following (h : Key.ListResembles keys keys') (size : UInt64) (b : Page.Boundary)
    (hs : size ≠ 0) (index : UInt64) :
    List.Forall₂ SamePage (Page.following keys size b hs index)
      (Page.following keys' size b hs index) := by
  -- Where a page ends depends on the number of keys only: one side leads the induction, and the
  -- other is unrolled along with it.
  fun_induction Page.following keys size b hs index with
  | case1 index s hmore ih =>
      have hcut : s = Page.cut keys'.length.toUInt64 index size b := by rw [← h.length_eq]
      rw [Page.following.eq_def keys', dif_pos (hcut ▸ hmore)]
      exact .cons ⟨rfl, hcut⟩ ih
  | case2 index s hmore =>
      have hcut : s = Page.cut keys'.length.toUInt64 index size b := by rw [← h.length_eq]
      rw [Page.following.eq_def keys', dif_neg (hcut ▸ hmore)]
      exact .cons ⟨rfl, hcut⟩ .nil

theorem same_laterPages (h : Key.ListResembles keys keys') (paging : Config.Paging) :
    List.Forall₂ SamePage (laterPages keys paging) (laterPages keys' paging) := by
  unfold laterPages
  split
  · exact .nil
  · exact same_following h _ _ _ _

theorem alike_sealFor (recipientKey : String) {page page' : Page} (h : SamePage page page') :
    Alike SameSealed (sealFor recipientKey page) (sealFor recipientKey page') := by
  obtain ⟨index, payload, span⟩ := page
  obtain ⟨index', payload', span'⟩ := page'
  obtain ⟨hindex, hspan⟩ := h
  obtain rfl : index = index' := hindex
  obtain rfl : span = span' := hspan
  apply (Resembles.request (.sealPage payload payload' span.size.toNat recipientKey)).bind
  intro _ _ _
  exact .pure ⟨rfl, rfl⟩

theorem alike_upload (kind : Kind) (sessionId recipient : String) {page page' : SealedPage}
    (h : SameSealed page page') :
    Alike Eq (upload kind sessionId recipient page) (upload kind sessionId recipient page') := by
  obtain ⟨index, keyCount, payload⟩ := page
  obtain ⟨index', keyCount', payload'⟩ := page'
  obtain ⟨hindex, hcount⟩ := h
  obtain rfl : index = index' := hindex
  obtain rfl : keyCount = keyCount' := hcount
  apply Resembles.get.bind
  rintro _ _ ⟨⟨groupId, _, _, _, _, _, _⟩, ⟨userId, _, _, _, _, token⟩, config, hp⟩
  have hsend := Request.Resembles.uploadPage token kind groupId sessionId recipient index payload
    payload'
  apply (Resembles.outcome (Resembles.request hsend)).bind
  intro result result' hresult
  exact .pure (congrArg (PageResult.mk index keyCount) hresult.eq)

/-- What became of the pages that are sent is the same, so what follows may be anything that is not
about keys. -/
theorem alike_sendLater {α : Type} (h : Key.ListResembles keys keys') (paging : Config.Paging)
    (kind : Kind) (id recipient recipientKey : String) {rest : List PageResult → Action α}
    (hrest : ∀ results, Alike Eq (rest results) (rest results)) :
    Alike Eq (do
      let pages ← (laterPages keys paging).mapM (sealFor recipientKey)
      let results ← pages.mapM (upload kind id recipient)
      rest results) (do
        let pages ← (laterPages keys' paging).mapM (sealFor recipientKey)
        let results ← pages.mapM (upload kind id recipient)
        rest results) := by
  apply (Resembles.mapM (same_laterPages h paging) fun _ _ => alike_sealFor recipientKey).bind
  intro pages pages' hsealed
  apply (Resembles.mapM hsealed fun _ _ => alike_upload kind id recipient).bind
  intro results results' hresults
  rw [List.forall₂_eq_eq_eq] at hresults
  exact hresults ▸ hrest results

theorem alike_transfer (paging : Config.Paging) (kind : Kind) (recipient recipientKey : String) :
    Alike Eq (transfer paging kind recipient recipientKey)
      (transfer paging kind recipient recipientKey) := by
  apply Resembles.get.bind
  rintro _ _ ⟨@⟨groupId, _, rank, _, _, _, h, h', hh⟩, ⟨userId, _, _, _, _, token⟩, config, hp⟩
  apply (Resembles.settle (agree_ofKeys hh.keys _ _ _)).bind
  intro first first' hfirst
  apply (alike_sealFor recipientKey hfirst).bind
  intro opening opening' _
  have hopen := Request.Resembles.openTransfer token kind groupId recipient h.keys.length rank
    opening.payload opening'.payload
  dsimp only
  rw [← hh.keys.length_eq, ← hfirst.2]
  apply (Resembles.request hopen).bind
  rintro sessionId _ rfl
  cases Session.ofId sessionId with
  | notRequired => exact (Resembles.tellAll _).bind fun _ _ _ => .pure rfl
  | opened id =>
      dsimp only
      split
      · apply (Resembles.tellAll _).bind
        intro _ _ _
        apply alike_sendLater hh.keys
        intro results
        apply (Resembles.tellAll _).bind
        intro _ _ _
        exact (Resembles.tellAll _).bind fun _ _ _ => .pure rfl
      · apply alike_sendLater hh.keys
        intro results
        apply (Resembles.tellAll _).bind
        intro _ _ _
        exact (Resembles.tellAll _).bind fun _ _ _ => .pure rfl

end Transfer

section Operations

variable {g g' : Group}

theorem agree_requireRank {r r' : Record} (hr : r.Resembles r') (action : String)
    (required : UInt32) :
    Agree Eq (r.requireRank action required) (r'.requireRank action required) := by
  obtain ⟨_, _, _, _, _, _, _⟩ := hr
  exact .refl (fun _ => rfl) _

/-- How the results of an operation on groups compare that differ in nothing but secret material: a
prepared rotation has a payload of its own, every other result is the same. -/
def Operation.Compares {α : Type} : Operation α → α → α → Prop
  | .prepare => SameStart
  | _ => Eq

theorem alike_action {α : Type} (op : Operation α) : Alike op.Compares op.action op.action := by
  cases op with
  | persist => exact alike_persist
  | fetch => exact alike_fetch
  | invite userId recipientKey | accept userId recipientKey =>
      apply Resembles.get.bind
      rintro _ _ ⟨hr, ha, config, hp⟩
      apply (Resembles.settle (agree_requireRank hr _ _)).bind
      intro _ _ _
      apply (alike_transfer _ _ _ _).bind
      rintro report _ rfl
      exact .settle_same _
  | listJoins cursor =>
      apply Resembles.get.bind
      rintro _ _ ⟨⟨groupId, _, rank, _, _, _, _⟩, ⟨userId, _, _, _, _, token⟩, config, hp⟩
      apply (Resembles.settle_same _).bind
      intro _ _ _
      exact .request (.listJoins token groupId rank cursor)
  | reject userId =>
      apply Resembles.get.bind
      rintro _ _ ⟨⟨groupId, _, rank, _, _, _, _⟩, ⟨_, _, _, _, _, token⟩, config, hp⟩
      apply (Resembles.settle_same _).bind
      intro _ _ _
      apply (Resembles.request (.rejectJoin token groupId rank userId)).bind
      intro _ _ _
      exact .tellAll _
  | leave =>
      apply Resembles.get.bind
      rintro _ _ ⟨⟨groupId, _, rank, _, _, _, _⟩, ⟨userId, _, _, _, _, token⟩, config, hp⟩
      apply (Resembles.request (.leaveGroup token groupId)).bind
      intro _ _ _
      exact .tellAll _
  | prepare => exact alike_prepare
  | publish => exact alike_publish
  | rotate => exact alike_prepare.bind fun _ _ _ => alike_publish
  | finish | finishInTime => exact alike_finish

variable {S : Type} {w : World S} {T : S → S → Prop} {world world' : S}

theorem Operation.resembles_run {α : Type} (hw : w.Respects T) (fuel : Nat) (op : Operation α)
    (hg : g.Resembles g') (hT : T world world') :
    (op.run w fuel g world).Resembles Group.Resembles T (Agree op.Compares)
      (op.run w fuel g' world') := by
  cases op with
  | finishInTime =>
      rw [Operation.run, Operation.run, hg.config_eq]
      exact Program.Resembles.runWithin alike_finish alike_finishExpired hw fuel _ hg hT
  | _ => exact Program.Resembles.run (alike_action _) hw fuel hg hT

end Operations

end Keyring.Group
