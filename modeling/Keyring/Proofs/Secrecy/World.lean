import Keyring.Memory.Faults
import Keyring.Memory.World
import Keyring.Proofs.Secrecy.Program

namespace Keyring.Memory

/-- Two servers that differ in nothing but key material and in what members have sent sealed. -/
structure Server.Resembles (s s' : Server) : Prop where
  log : Key.ListResembles s.log s'.log
  delayed : List.Forall₂ (fun d d' => d.1 = d'.1 ∧ Key.ListResembles d.2 d'.2) s.delayed s'.delayed
  scripted : List.Forall₂ Key.ListResembles s.scripted s'.scripted
  cursors_eq : s.cursors = s'.cursors
  failing_eq : s.failing = s'.failing
  delay_eq : s.delay = s'.delay
  pending_eq : s.pending = s'.pending
  sessionThreshold_eq : s.sessionThreshold = s'.sessionThreshold
  sessionIds_eq : s.sessionIds = s'.sessionIds
  sessions_eq : s.sessions = s'.sessions
  openings_eq : s.openings.map OpeningRecord.sessionId = s'.openings.map OpeningRecord.sessionId
  failingPages_eq : s.failingPages = s'.failingPages
  joinRequests_eq : s.joinRequests = s'.joinRequests

namespace Server.Resembles

variable {s s' : Server}

theorem openTransfer (h : s.Resembles s') (kind : Transfer.Kind) (groupId userId : String)
    (keyCount : Nat) (rank : UInt32) (payload payload' : String) :
    (s.openTransfer kind groupId userId keyCount rank payload).1.Resembles
        (s'.openTransfer kind groupId userId keyCount rank payload').1 ∧
      (s.openTransfer kind groupId userId keyCount rank payload).2 =
        (s'.openTransfer kind groupId userId keyCount rank payload').2 := by
  simp only [Server.openTransfer, h.sessionThreshold_eq, h.sessionIds_eq, h.sessions_eq,
    h.joinRequests_eq]
  refine ⟨?_, trivial⟩
  have hopenings (o : OpeningRecord) (o' : OpeningRecord) (ho : o.sessionId = o'.sessionId) :
      (s.openings ++ [o]).map OpeningRecord.sessionId =
        (s'.openings ++ [o']).map OpeningRecord.sessionId := by
    rw [List.map_append, List.map_append, h.openings_eq, List.map_singleton, List.map_singleton, ho]
  exact { h with
    sessionThreshold_eq := rfl
    sessionIds_eq := rfl
    sessions_eq := rfl
    joinRequests_eq := rfl
    openings_eq := hopenings _ _ rfl }

theorem any_openings (h : s.Resembles s') (sessionId : String) :
    s.openings.any (·.sessionId == sessionId) = s'.openings.any (·.sessionId == sessionId) := by
  have hmap (os : List OpeningRecord) : os.any (·.sessionId == sessionId) =
      (os.map OpeningRecord.sessionId).any (· == sessionId) := by
    rw [List.any_map]
    rfl
  rw [hmap, hmap, h.openings_eq]

theorem receivePage (h : s.Resembles s') (kind : Transfer.Kind) (sessionId userId : String)
    (index : UInt64) (payload payload' : String) :
    (s.receivePage kind sessionId userId index payload).1.Resembles
        (s'.receivePage kind sessionId userId index payload').1 ∧
      (s.receivePage kind sessionId userId index payload).2 =
        (s'.receivePage kind sessionId userId index payload').2 := by
  simp only [Server.receivePage, h.failingPages_eq, h.any_openings sessionId]
  split
  · exact ⟨h, rfl⟩
  · split
    · exact ⟨h, rfl⟩
    · exact ⟨{ h with failingPages_eq := rfl }, rfl⟩

theorem rejectJoin (h : s.Resembles s') (userId : String) :
    (s.rejectJoin userId).1.Resembles (s'.rejectJoin userId).1 ∧
      (s.rejectJoin userId).2 = (s'.rejectJoin userId).2 := by
  simp only [Server.rejectJoin, h.joinRequests_eq]
  split
  · exact ⟨{ h with joinRequests_eq := rfl }, rfl⟩
  · exact ⟨h, rfl⟩

theorem commit (h : s.Resembles s') (output : Rotation.Output) {key key' : Key}
    (hk : key.Resembles key') : (s.commit output key).Resembles (s'.commit output key') := by
  have hknown : s.log.any (·.id == key.id) = s'.log.any (·.id == key'.id) := by
    have hmap (keys : List Key) (id : String) :
        keys.any (·.id == id) = (Key.ids keys).any (· == id) := by
      rw [Key.ids, List.any_map]
      rfl
    rw [hmap, hmap, h.log.ids_eq, hk.id_eq]
  have hlast := h.log.rel_getLast?
  refine { h with log := ?_, pending_eq := ?_ }
  · dsimp only [Server.commit]
    rw [hknown]
    split
    · exact h.log
    · generalize s.log.getLast? = last, s'.log.getLast? = last' at hlast ⊢
      cases hlast with
      | none => exact List.rel_append h.log (.cons hk .nil)
      | some hlast =>
          refine List.rel_append h.log (.cons ?_ .nil)
          exact { hk with time_eq := by rw [hk.time_eq, hlast.time_eq] }
  · dsimp only [Server.commit]
    rw [h.pending_eq]

theorem position?_eq {α β : Type} {R : α → β → Prop} {p : α → Bool} {q : β → Bool} {xs : List α}
    {ys : List β} (h : List.Forall₂ R xs ys) (hpq : ∀ x y, R x y → p x = q y) :
    position? p xs = position? q ys := by
  induction h with
  | nil => rfl
  | cons hfirst _ ih => rw [position?, position?, hpq _ _ hfirst, ih]

theorem dropWhile_time {log log' : List Key} (h : Key.ListResembles log log') (time : UInt64) :
    Key.ListResembles (log.dropWhile fun k => k.time ≤ time)
      (log'.dropWhile fun k => k.time ≤ time) := by
  induction h with
  | nil => exact .nil
  | cons hfirst hrest ih =>
      rw [List.dropWhile_cons, List.dropWhile_cons, hfirst.time_eq]
      split
      · exact ih
      · exact .cons hfirst hrest

theorem keysAfter {log log' : List Key} (h : Key.ListResembles log log') (c : Cursor) :
    Key.ListResembles (Server.keysAfter log c) (Server.keysAfter log' c) := by
  unfold Server.keysAfter
  have hposition : position? (·.id == c.keyId) log = position? (·.id == c.keyId) log' :=
    position?_eq h fun _ _ hk => by rw [hk.id_eq]
  rw [hposition]
  split
  · exact List.forall₂_drop _ h
  · exact dropWhile_time h _

theorem served (h : s.Resembles s') {log log' : List Key} (hlog : Key.ListResembles log log')
    {delayed delayed' : List (Nat × List Key)}
    (hdelayed : List.Forall₂ (fun d d' => d.1 = d'.1 ∧ Key.ListResembles d.2 d'.2) delayed delayed')
    {scripted scripted' : List (List Key)}
    (hscripted : List.Forall₂ Key.ListResembles scripted scripted') (cursors : List Cursor)
    (failing : Bool) :
    Server.Resembles { s with log, delayed, scripted, cursors, failing }
      { s' with log := log', delayed := delayed', scripted := scripted', cursors, failing } :=
  { h with
    log := hlog
    delayed := hdelayed
    scripted := hscripted
    cursors_eq := rfl
    failing_eq := rfl }

theorem fetch (h : s.Resembles s') (c : Cursor) :
    (s.fetch c).1.Resembles (s'.fetch c).1 ∧
      Agree Key.ListResembles (s.fetch c).2 (s'.fetch c).2 := by
  simp only [Server.fetch, h.failing_eq, h.cursors_eq, List.partition_eq_filter_filter]
  split
  · exact ⟨h, .error _⟩
  · -- What is due at this fetch is told apart from what still waits by numbers alone.
    have hfilter (p : Nat × List Key → Bool)
        (hp : ∀ d d' : Nat × List Key, d.1 = d'.1 → p d = p d') :
        List.Forall₂ (fun d d' => d.1 = d'.1 ∧ Key.ListResembles d.2 d'.2) (s.delayed.filter p)
          (s'.delayed.filter p) := by
      apply List.rel_filter _ h.delayed
      intro d d' hd
      exact Bool.eq_iff_iff.mp (hp d d' hd.1)
    have hdue := hfilter (·.1 ≤ (c :: s'.cursors).length) fun d d' hd => by rw [hd]
    have hwaiting := hfilter (not ∘ (·.1 ≤ (c :: s'.cursors).length)) fun d d' hd => by
      simp only [Function.comp_apply, hd]
    have hrevealed : List.Forall₂ Key.ListResembles
        ((s.delayed.filter (·.1 ≤ (c :: s'.cursors).length)).map Prod.snd)
        ((s'.delayed.filter (·.1 ≤ (c :: s'.cursors).length)).map Prod.snd) := by
      rw [List.forall₂_map_left_iff, List.forall₂_map_right_iff]
      exact hdue.imp fun _ _ hd => hd.2
    have hlog := List.rel_append h.log (List.rel_flatten hrevealed)
    have hscripted := h.scripted
    generalize s.scripted = scripted, s'.scripted = scripted' at hscripted ⊢
    cases hscripted with
    | nil => exact ⟨h.served hlog hwaiting .nil _ _, .ok (keysAfter hlog c)⟩
    | cons hbatch hrest => exact ⟨h.served hlog hwaiting hrest _ _, .ok hbatch⟩

end Server.Resembles

/-- Two stores with texts that read as the same records, but for key material. -/
def Store.Resembles (s s' : Store) : Prop :=
  Assoc.Rel (fun _ => Group.Record.TextResembles) s.entries s'.entries

theorem Store.Resembles.get? {s s' : Store} (h : s.Resembles s') (key : String) :
    Option.Rel Group.Record.TextResembles (s.get? key) (s'.get? key) :=
  Assoc.Rel.lookup h key

theorem Store.Resembles.set {s s' : Store} (h : s.Resembles s') (key : String)
    {text text' : String} (ht : Group.Record.TextResembles text text') :
    (s.set key text).Resembles (s'.set key text') :=
  Assoc.Rel.put h ht

structure State.Resembles (s s' : State) : Prop where
  server : s.server.Resembles s'.server
  engine_eq : s.engine = s'.engine
  store : s.store.Resembles s'.store
  clock_eq : s.clock = s'.clock

namespace State.Resembles

variable {s s' : State}

theorem behind {α β : Type} {R : α → β → Prop} (h : s.Resembles s') (stop : Clock → Bool × Clock)
    {reply : State → α × State} {reply' : State → β × State}
    (hreply : ∀ {t t' : State}, t.Resembles t' →
      R (reply t).1 (reply' t').1 ∧ (reply t).2.Resembles (reply' t').2) :
    Option.Rel R (s.behind stop reply).1 (s'.behind stop reply').1 ∧
      (s.behind stop reply).2.Resembles (s'.behind stop reply').2 := by
  unfold State.behind
  rw [h.clock_eq]
  rcases stop s'.clock with ⟨_ | _, clock⟩
  · exact ⟨.none, { h with clock_eq := rfl }⟩
  · have hpassed : Resembles { s with clock } { s' with clock } := { h with clock_eq := rfl }
    obtain ⟨hr, hnext⟩ := hreply hpassed
    exact ⟨.some hr, hnext⟩

end State.Resembles

theorem Engine.agree_derive (e : Engine) {preKey preKey' : Key} (hk : preKey.Resembles preKey')
    (output : Rotation.Output) (actor actor' : Actor) :
    (e.derive preKey output actor).1 = (e.derive preKey' output actor').1 ∧
      Agree Key.Resembles (e.derive preKey output actor).2 (e.derive preKey' output actor').2 := by
  have hsize (parts parts' : List String) :
      Json.encodedSize (digest parts) = Json.encodedSize (digest parts') := by
    rw [digest, digest, Sha256.encodedSize_hex, Sha256.encodedSize_hex]
  unfold derive
  rw [hk.id_eq]
  split
  · exact ⟨rfl, .error _⟩
  · split
    · exact ⟨rfl, .error _⟩
    · refine ⟨rfl, .ok ⟨?_, hsize _ _, hsize _ _, hsize _ _, ?_⟩⟩
      · rw [rotatedKey, rotatedKey, hk.id_eq]
      · rw [rotatedKey, rotatedKey, hk.time_eq]

section Answers

variable {s s' : State} {q q' : Request} {A : q.Answer → q'.Answer → Prop}

theorem State.Resembles.answer (hs : s.Resembles s') (hq : Request.Resembles q q' A) :
    Option.Rel (Agree A) (State.answer q s).1 (State.answer q' s').1 ∧
      (State.answer q s).2.Resembles (State.answer q' s').2 := by
  cases hq with
  | openTransfer token kind groupId userId keyCount rank payload payload' =>
      obtain ⟨hserver, hid⟩ := hs.server.openTransfer kind groupId userId keyCount rank payload
        payload'
      exact ⟨.some (.ok hid), { hs with server := hserver }⟩
  | uploadPage token kind groupId sessionId userId index payload payload' =>
      obtain ⟨hserver, hreply⟩ := hs.server.receivePage kind sessionId userId index payload payload'
      refine ⟨.some ?_, { hs with server := hserver }⟩
      exact hreply ▸ .refl (fun _ => rfl) _
  | rejectJoin token groupId rank userId =>
      obtain ⟨hserver, hreply⟩ := hs.server.rejectJoin userId
      refine ⟨.some ?_, { hs with server := hserver }⟩
      exact hreply ▸ .refl (fun _ => rfl) _
  | listJoins token groupId rank cursor =>
      refine ⟨.some (.ok ?_), hs⟩
      show s.server.listJoins cursor = s'.server.listJoins cursor
      simp only [Server.listJoins, hs.server.joinRequests_eq]
  | leaveGroup token groupId => exact ⟨.some (.ok rfl), { hs with server := { hs.server with } }⟩
  | publishRotation token groupId preKeyId payload payload' =>
      exact ⟨.some (.ok rfl), { hs with server := { hs.server with } }⟩
  | pendingOutputs token groupId => exact ⟨.some (.ok hs.server.pending_eq), hs⟩
  | commitKey token groupId output hk =>
      exact ⟨.some (.ok rfl), { hs with server := hs.server.commit output hk }⟩
  | fetchKeys token groupId cursor =>
      have hstop : s.fetchStop = s'.fetchStop := by
        unfold State.fetchStop
        rw [hs.server.delay_eq]
      rw [State.answer, State.answer, hstop]
      apply hs.behind
      intro t t' ht
      obtain ⟨hserver, hreply⟩ := ht.server.fetch cursor
      exact ⟨hreply, { ht with server := hserver }⟩
  | sealPage payload payload' keyCount recipientKey => exact ⟨.some (.ok trivial), hs⟩
  | prepareRotation hk publicKey publicKey' => exact ⟨.some (.ok hk.id_eq), hs⟩
  | deriveKey hk output ha =>
      rw [State.answer, State.answer, hs.engine_eq]
      obtain ⟨hengine, hreply⟩ := s'.engine.agree_derive hk output _ _
      exact ⟨.some hreply, { hs with engine_eq := hengine }⟩
  | readStore key =>
      apply hs.behind
      intro t t' ht
      exact ⟨.ok (ht.store.get? key), ht⟩
  | writeStore key htext =>
      apply hs.behind
      intro t t' ht
      exact ⟨.ok rfl, { ht with store := ht.store.set key htext }⟩

theorem respects_world : world.Respects State.Resembles where
  answer hq _ _ hs := hs.answer hq
  startTimer limit _ _ hs := { hs with clock_eq := congrArg (Clock.start limit) hs.clock_eq }
  stopTimer hs := { hs with clock_eq := congrArg Clock.clear hs.clock_eq }

theorem respects_withFaults {S : Type} {w : World S} {T : S → S → Prop} (hw : w.Respects T) :
    (withFaults w).Respects fun s s' => s.1 = s'.1 ∧ T s.2 s'.2 where
  answer {q q'} A hq s s' hs := by
    obtain ⟨faults, world⟩ := s
    obtain ⟨faults', world'⟩ := s'
    obtain ⟨rfl, hT⟩ := hs
    have hinjected : injected q = injected q' := by
      rw [injected, injected, hq.name_eq, hq.party_eq]
    obtain ⟨hreply, hnext⟩ := hw.answer hq hT
    simp only [withFaults, hq.name_eq]
    rcases faults.strike q'.name with ⟨faults, _ | _⟩
    · exact ⟨hreply, rfl, hnext⟩
    · rw [hinjected]
      exact ⟨.some (.error _), rfl, hT⟩
  startTimer limit _ _ hs := ⟨hs.1, hw.startTimer limit hs.2⟩
  stopTimer hs := ⟨hs.1, hw.stopTimer hs.2⟩

theorem State.Resembles.fetchBound_eq (hs : s.Resembles s') : s.fetchBound = s'.fetchBound := by
  unfold State.fetchBound
  rw [hs.server.scripted.length_eq, hs.server.delayed.map_eq fun _ _ hd => hd.1]

end Answers

end Keyring.Memory
