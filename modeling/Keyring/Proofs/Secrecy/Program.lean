import Keyring.Proofs.Program.Ensures
import Keyring.Proofs.Secrecy.Group

/-!
Programs that differ in nothing but secret material: they make the same requests, up to such
material, tell the same, and go on the same way. In worlds that answer such requests alike they
end alike and tell the same.
-/

namespace Keyring

/-- Two requests that differ in nothing but secret material, with the relation that their answers
are to have. Sealed pages come out as the engine likes. -/
inductive Request.Resembles : (q q' : Request) → (q.Answer → q'.Answer → Prop) → Prop where
  | openTransfer (token : String) (kind : Transfer.Kind) (groupId userId : String) (keyCount : Nat)
      (rank : UInt32) (payload payload' : String) :
      Resembles (.openTransfer token kind groupId userId keyCount rank payload)
        (.openTransfer token kind groupId userId keyCount rank payload') Eq
  | uploadPage (token : String) (kind : Transfer.Kind) (groupId sessionId userId : String)
      (index : UInt64) (payload payload' : String) :
      Resembles (.uploadPage token kind groupId sessionId userId index payload)
        (.uploadPage token kind groupId sessionId userId index payload') Eq
  | rejectJoin (token groupId : String) (rank : UInt32) (userId : String) :
      Resembles (.rejectJoin token groupId rank userId) (.rejectJoin token groupId rank userId) Eq
  | listJoins (token groupId : String) (rank : UInt32) (cursor : Option JoinRequest) :
      Resembles (.listJoins token groupId rank cursor) (.listJoins token groupId rank cursor) Eq
  | leaveGroup (token groupId : String) :
      Resembles (.leaveGroup token groupId) (.leaveGroup token groupId) Eq
  | publishRotation (token groupId preKeyId payload payload' : String) :
      Resembles (.publishRotation token groupId ⟨preKeyId, payload⟩)
        (.publishRotation token groupId ⟨preKeyId, payload'⟩) Eq
  | pendingOutputs (token groupId : String) :
      Resembles (.pendingOutputs token groupId) (.pendingOutputs token groupId) Eq
  | commitKey (token groupId : String) (output : Rotation.Output) {key key' : Key}
      (hk : key.Resembles key') :
      Resembles (.commitKey token groupId output key) (.commitKey token groupId output key') Eq
  | fetchKeys (token groupId : String) (cursor : Cursor) :
      Resembles (.fetchKeys token groupId cursor) (.fetchKeys token groupId cursor)
        Key.ListResembles
  | sealPage (payload payload' : String) (keyCount : Nat) (recipientKey : String) :
      Resembles (.sealPage payload keyCount recipientKey) (.sealPage payload' keyCount recipientKey)
        fun _ _ => True
  | prepareRotation {latest latest' : Key} (hk : latest.Resembles latest')
      (publicKey publicKey' : String) :
      Resembles (.prepareRotation latest publicKey) (.prepareRotation latest' publicKey')
        fun artifact artifact' => artifact.preKeyId = artifact'.preKeyId
  | deriveKey {preKey preKey' : Key} (hk : preKey.Resembles preKey') (output : Rotation.Output)
      {actor actor' : Actor} (ha : actor.Resembles actor') :
      Resembles (.deriveKey preKey output actor) (.deriveKey preKey' output actor') Key.Resembles
  | readStore (storeKey : String) :
      Resembles (.readStore storeKey) (.readStore storeKey)
        (Option.Rel Group.Record.TextResembles)
  | writeStore (storeKey : String) {text text' : String}
      (ht : Group.Record.TextResembles text text') :
      Resembles (.writeStore storeKey text) (.writeStore storeKey text') Eq

theorem Request.Resembles.name_eq {q q' : Request} {A : q.Answer → q'.Answer → Prop}
    (h : Request.Resembles q q' A) : q.name = q'.name := by
  cases h with
  | openTransfer _ kind | uploadPage _ kind => cases kind <;> rfl
  | _ => rfl

theorem Request.Resembles.party_eq {q q' : Request} {A : q.Answer → q'.Answer → Prop}
    (h : Request.Resembles q q' A) : q.party = q'.party := by
  cases h <;> rfl

def Event.signals (trace : List Event) : List Signal :=
  trace.filterMap Event.signal?

namespace Event

theorem signals_append (trace more : List Event) :
    signals (trace ++ more) = signals trace ++ signals more :=
  List.filterMap_append

end Event

/-- Two fetch loops that differ in nothing but the material of the keys that they have gathered. -/
inductive Sweep.Resembles : Sweep → Sweep → Prop where
  | mk (token groupId : String) (threshold : UInt64) (cursor : Cursor)
      {batches batches' : List (List Key)} (h : List.Forall₂ Key.ListResembles batches batches') :
      Resembles ⟨token, groupId, threshold, cursor, batches⟩
        ⟨token, groupId, threshold, cursor, batches'⟩

namespace Sweep.Resembles

variable {s s' : Sweep} {batch batch' : List Key}

theorem request (h : s.Resembles s') :
    Request.Resembles s.request s'.request Key.ListResembles := by
  obtain ⟨token, groupId, threshold, cursor, -⟩ := h
  exact .fetchKeys _ _ _

theorem signals_eq (h : s.Resembles s') (hbatch : Key.ListResembles batch batch') :
    s.signals batch = s'.signals batch' := by
  obtain ⟨token, groupId, threshold, cursor, h⟩ := h
  simp only [signals, hasMore, hbatch.length_eq, h.length_eq]

theorem told_eq (h : s.Resembles s') (hbatch : Key.ListResembles batch batch') :
    Event.signals (.called s.request (.ok batch) :: (s.signals batch).map .told) =
      Event.signals (.called s'.request (.ok batch') :: (s'.signals batch').map .told) := by
  rw [h.signals_eq hbatch]
  rfl

theorem gathered (h : s.Resembles s') : Key.ListResembles s.gathered s'.gathered := by
  obtain ⟨token, groupId, threshold, cursor, h⟩ := h
  exact List.rel_flatten (List.forall₂_reverse_iff.mpr h)

theorem take (h : s.Resembles s') (hbatch : Key.ListResembles batch batch') :
    Sum.LiftRel Resembles Key.ListResembles (s.take batch) (s'.take batch') := by
  have hmore : s.hasMore batch = s'.hasMore batch' := by
    obtain ⟨token, groupId, threshold, cursor, -⟩ := h
    simp only [hasMore, hbatch.length_eq]
  have hlast := hbatch.rel_getLast?
  unfold Sweep.take
  generalize batch.getLast? = last, batch'.getLast? = last' at hlast ⊢
  cases hlast with
  | none => exact .inr h.gathered
  | some hk =>
      dsimp only
      rw [hmore]
      split
      · obtain ⟨token, groupId, threshold, cursor, h⟩ := h
        rw [hk.cursor_eq]
        exact .inl (.mk _ _ _ _ (.cons hbatch h))
      · exact .inr (List.rel_append h.gathered hbatch)

end Sweep.Resembles

/-- Both come to their end, with related results, or to none in the same way. -/
inductive Ending.Rel {α β : Type} (V : α → β → Prop) : Ending α → Ending β → Prop where
  | finished {a : α} {b : β} (h : V a b) : Rel V (.finished a) (.finished b)
  | cut : Rel V .cut .cut
  | exhausted : Rel V .exhausted .exhausted

/-- Two runs that end alike, leave related states behind and have told the same. -/
structure Run.Resembles {σ S α β : Type} (G : σ → σ → Prop) (T : S → S → Prop) (V : α → β → Prop)
    (r : Run σ S α) (r' : Run σ S β) : Prop where
  ending : Ending.Rel V r.ending r'.ending
  state : G r.state r'.state
  world : T r.world r'.world
  signals_eq : Event.signals r.trace = Event.signals r'.trace

theorem Run.Resembles.after {σ S α β : Type} {G : σ → σ → Prop} {T : S → S → Prop}
    {V : α → β → Prop} {r : Run σ S α} {r' : Run σ S β} (h : r.Resembles G T V r')
    {events events' : List Event} (he : Event.signals events = Event.signals events') :
    (r.after events).Resembles G T V (r'.after events') := by
  refine ⟨h.ending, h.state, h.world, ?_⟩
  show Event.signals (events ++ r.trace) = Event.signals (events' ++ r'.trace)
  rw [Event.signals_append, Event.signals_append, he, h.signals_eq]

/-- A world in which requests are answered alike that differ in nothing but secret material, as
long as its states are related. -/
structure World.Respects {S : Type} (w : World S) (T : S → S → Prop) : Prop where
  answer {q q' : Request} {A : q.Answer → q'.Answer → Prop} (hq : Request.Resembles q q' A)
    {s s' : S} (hs : T s s') :
    Option.Rel (Agree A) (w.answer q s).1 (w.answer q' s').1 ∧
      T (w.answer q s).2 (w.answer q' s').2
  startTimer (limit : Duration) {s s' : S} (hs : T s s') :
    T (w.startTimer limit s) (w.startTimer limit s')
  stopTimer {s s' : S} (hs : T s s') : T (w.stopTimer s) (w.stopTimer s')

section Runs

variable {S : Type} {w : World S} {T : S → S → Prop}

theorem Sweep.Resembles.run (hw : w.Respects T) (fuel : Nat) {s s' : Sweep} (hs : s.Resembles s')
    {world world' : S} (hT : T world world') :
    Ending.Rel (Agree Key.ListResembles) (s.run w fuel world).1 (s'.run w fuel world').1 ∧
      T (s.run w fuel world).2.1 (s'.run w fuel world').2.1 ∧
      Event.signals (s.run w fuel world).2.2 = Event.signals (s'.run w fuel world').2.2 := by
  -- The loops stay related as long as both go on, so they use up their fuel together.
  induction fuel generalizing s s' world world' with
  | zero => exact ⟨.exhausted, hT, rfl⟩
  | succ fuel ih =>
      obtain ⟨hreply, hnext⟩ := hw.answer hs.request hT
      rw [Sweep.run, Sweep.run]
      generalize w.answer s.request world = answer, w.answer s'.request world' = answer'
        at hreply hnext ⊢
      obtain ⟨reply, world⟩ := answer
      obtain ⟨reply', world'⟩ := answer'
      cases hreply with
      | none => exact ⟨.cut, hnext, rfl⟩
      | some hr =>
          cases hr with
          | error e => exact ⟨.finished (.error e), hnext, rfl⟩
          | @ok batch batch' hbatch =>
              have htake := hs.take hbatch
              have htold := hs.told_eq hbatch
              dsimp only
              generalize s.take batch = taken, s'.take batch' = taken' at htake ⊢
              cases htake with
              | inr hkeys => exact ⟨.finished (.ok hkeys), hnext, htold⟩
              | inl hs =>
                  obtain ⟨hending, hworld, hsignals⟩ := ih hs hnext
                  refine ⟨hending, hworld, ?_⟩
                  dsimp only
                  rw [Event.signals_append, Event.signals_append, htold, hsignals]

end Runs

namespace Program

/-- Programs that differ in nothing but secret material, on related states, with `V` between their
results. -/
inductive Resembles {σ α β : Type} (G : σ → σ → Prop) (V : α → β → Prop) :
    Program σ α → Program σ β → Prop where
  | done {a : α} {b : β} (h : V a b) : Resembles G V (.done a) (.done b)
  | ask {q q' : Request} {A : q.Answer → q'.Answer → Prop} (hq : Request.Resembles q q' A)
      {next : q.Reply → Program σ α} {next' : q'.Reply → Program σ β}
      (h : ∀ r r', Agree A r r' → Resembles G V (next r) (next' r')) :
      Resembles G V (.ask q next) (.ask q' next')
  | gather {s s' : Sweep} (hs : s.Resembles s')
      {next : Except Failure (List Key) → Program σ α}
      {next' : Except Failure (List Key) → Program σ β}
      (h : ∀ r r', Agree Key.ListResembles r r' → Resembles G V (next r) (next' r')) :
      Resembles G V (.gather s next) (.gather s' next')
  | tell (s : Signal) {next : Program σ α} {next' : Program σ β} (h : Resembles G V next next') :
      Resembles G V (.tell s next) (.tell s next')
  | read {next : σ → Program σ α} {next' : σ → Program σ β}
      (h : ∀ s s', G s s' → Resembles G V (next s) (next' s')) :
      Resembles G V (.read next) (.read next')
  | write {s s' : σ} (hs : G s s') {next : Program σ α} {next' : Program σ β}
      (h : Resembles G V next next') : Resembles G V (.write s next) (.write s' next')

variable {σ S α β γ δ : Type} {G : σ → σ → Prop} {V : α → β → Prop} {V' : γ → δ → Prop}
  {p : Program σ α} {p' : Program σ β}

theorem Resembles.bind {f : α → Program σ γ} {f' : β → Program σ δ} (h : p.Resembles G V p')
    (hf : ∀ a b, V a b → (f a).Resembles G V' (f' b)) : (p.bind f).Resembles G V' (p'.bind f') := by
  induction h with
  | done h => exact hf _ _ h
  | ask hq _ ih => exact .ask hq ih
  | gather hs _ ih => exact .gather hs ih
  | tell s _ ih => exact .tell s ih
  | read _ ih => exact .read ih
  | write hs _ ih => exact .write hs ih

theorem Resembles.tellAll (signals : List Signal) :
    (Program.tellAll signals : Program σ Unit).Resembles G Eq (Program.tellAll signals) := by
  induction signals with
  | nil => exact .done rfl
  | cons s rest ih => exact .tell s ih

variable {w : World S} {T : S → S → Prop} {state state' : σ} {world world' : S}

theorem Resembles.run (h : p.Resembles G V p') (hw : w.Respects T) (fuel : Nat)
    (hG : G state state') (hT : T world world') :
    (p.run w fuel state world).Resembles G T V (p'.run w fuel state' world') := by
  induction h generalizing state state' world world' with
  | done h => exact ⟨.finished h, hG, hT, rfl⟩
  | @ask q q' _ hq _ _ _ ih =>
      obtain ⟨hreply, hnext⟩ := hw.answer hq hT
      rw [Program.run, Program.run]
      generalize w.answer q world = answer, w.answer q' world' = answer' at hreply hnext ⊢
      obtain ⟨reply, world⟩ := answer
      obtain ⟨reply', world'⟩ := answer'
      cases hreply with
      | none => exact ⟨.cut, hG, hnext, rfl⟩
      | some hr => exact (ih _ _ hr hG hnext).after rfl
  | @gather s s' hs _ _ _ ih =>
      obtain ⟨hending, hnext, hsignals⟩ := hs.run hw fuel hT
      rw [Program.run, Program.run]
      generalize s.run w fuel world = swept, s'.run w fuel world' = swept'
        at hending hnext hsignals ⊢
      obtain ⟨ending, world, events⟩ := swept
      obtain ⟨ending', world', events'⟩ := swept'
      cases hending with
      | cut => exact ⟨.cut, hG, hnext, hsignals⟩
      | exhausted => exact ⟨.exhausted, hG, hnext, hsignals⟩
      | finished hr => exact (ih _ _ hr hG hnext).after hsignals
  | tell s _ ih => exact (ih hG hT).after rfl
  | read _ ih => exact ih _ _ hG hG hT
  | write hs _ ih => exact ih hs hT

theorem Resembles.runWithin {expired : Program σ α} {expired' : Program σ β}
    (h : p.Resembles G V p') (hexpired : expired.Resembles G V expired') (hw : w.Respects T)
    (fuel : Nat) (limit : Duration) (hG : G state state') (hT : T world world') :
    (runWithin w fuel limit p expired state world).Resembles G T V
      (runWithin w fuel limit p' expired' state' world') := by
  have hrun := h.run hw fuel hG (hw.startTimer limit hT)
  unfold Program.runWithin
  generalize p.run w fuel state _ = r, p'.run w fuel state' _ = r' at hrun ⊢
  obtain ⟨ending, state, world, trace⟩ := r
  obtain ⟨ending', state', world', trace'⟩ := r'
  obtain ⟨hending, hstate, hworld, hsignals⟩ := hrun
  have hstopped := hw.stopTimer hworld
  cases hending with
  | cut => exact (hexpired.run hw fuel hstate hstopped).after hsignals
  | finished hr => exact ⟨.finished hr, hstate, hstopped, hsignals⟩
  | exhausted => exact ⟨.exhausted, hstate, hstopped, hsignals⟩

theorem Resembles.step (h : p.Resembles G V p') (hw : w.Respects T) (hG : G state state')
    (hT : T world world') :
    Option.Rel (fun r r' => Resembles G V r.1 r'.1 ∧ G r.2 r'.2) (p.step w state world).1
        (p'.step w state' world').1 ∧
      T (p.step w state world).2.1 (p'.step w state' world').2.1 ∧
      Event.signals (p.step w state world).2.2 = Event.signals (p'.step w state' world').2.2 := by
  induction h generalizing state state' world world' with
  | done h => exact ⟨.some ⟨.done h, hG⟩, hT, rfl⟩
  | @ask q q' _ hq _ _ hnext _ =>
      obtain ⟨hreply, hworld⟩ := hw.answer hq hT
      rw [Program.step, Program.step]
      generalize w.answer q world = answer, w.answer q' world' = answer' at hreply hworld ⊢
      obtain ⟨reply, world⟩ := answer
      obtain ⟨reply', world'⟩ := answer'
      cases hreply with
      | none => exact ⟨.none, hworld, rfl⟩
      | some hr => exact ⟨.some ⟨hnext _ _ hr, hG⟩, hworld, rfl⟩
  | @gather s s' hs _ _ hnext _ =>
      obtain ⟨hreply, hworld⟩ := hw.answer hs.request hT
      rw [Program.step, Program.step]
      generalize w.answer s.request world = answer, w.answer s'.request world' = answer'
        at hreply hworld ⊢
      obtain ⟨reply, world⟩ := answer
      obtain ⟨reply', world'⟩ := answer'
      cases hreply with
      | none => exact ⟨.none, hworld, rfl⟩
      | some hr =>
          cases hr with
          | error e => exact ⟨.some ⟨hnext _ _ (.error e), hG⟩, hworld, rfl⟩
          | @ok batch batch' hbatch =>
              have htake := hs.take hbatch
              have htold := hs.told_eq hbatch
              dsimp only
              generalize s.take batch = taken, s'.take batch' = taken' at htake ⊢
              cases htake with
              | inr hkeys => exact ⟨.some ⟨hnext _ _ (.ok hkeys), hG⟩, hworld, htold⟩
              | inl hs => exact ⟨.some ⟨.gather hs hnext, hG⟩, hworld, htold⟩
  | tell s _ ih =>
      obtain ⟨hrest, hworld, hsignals⟩ := ih hG hT
      exact ⟨hrest, hworld, congrArg (s :: ·) hsignals⟩
  | read _ ih => exact ih _ _ hG hG hT
  | write hs _ ih => exact ih hs hT

end Program

namespace Attempt

variable {σ α β γ δ : Type} {G : σ → σ → Prop} {V : α → β → Prop} {V' : γ → δ → Prop}

def Resembles (G : σ → σ → Prop) (V : α → β → Prop) (a : Attempt σ α) (b : Attempt σ β) : Prop :=
  Program.Resembles G (Agree V) a.run b.run

namespace Resembles

variable {a : Attempt σ α} {b : Attempt σ β}

theorem pure {x : α} {y : β} (h : V x y) :
    (Pure.pure x : Attempt σ α).Resembles G V (Pure.pure y : Attempt σ β) :=
  .done (.ok h)

theorem throw (e : Failure) :
    (MonadExcept.throw e : Attempt σ α).Resembles G V (MonadExcept.throw e : Attempt σ β) :=
  .done (.error e)

theorem bind {f : α → Attempt σ γ} {f' : β → Attempt σ δ} (h : a.Resembles G V b)
    (hf : ∀ x y, V x y → (f x).Resembles G V' (f' y)) :
    (a >>= f).Resembles G V' (b >>= f') := by
  unfold Resembles at h ⊢
  rw [run_bind, run_bind]
  apply Program.Resembles.bind h
  intro r r' hr
  cases hr with
  | ok hx => exact hf _ _ hx
  | error e => exact .done (.error e)

theorem tryCatch {f : Failure → Attempt σ α} {f' : Failure → Attempt σ β} (h : a.Resembles G V b)
    (hf : ∀ e, (f e).Resembles G V (f' e)) :
    (MonadExcept.tryCatch a f : Attempt σ α).Resembles G V (MonadExcept.tryCatch b f') := by
  unfold Resembles at h ⊢
  rw [run_tryCatch, run_tryCatch]
  apply Program.Resembles.bind h
  intro r r' hr
  cases hr with
  | ok hx => exact .done (.ok hx)
  | error e => exact hf e

theorem get : (Attempt.get : Attempt σ σ).Resembles G G Attempt.get :=
  .read fun _ _ h => .done (.ok h)

theorem set {s s' : σ} (h : G s s') : (Attempt.set s).Resembles G Eq (Attempt.set s') :=
  .write h (.done (.ok rfl))

theorem settle {r : Except Failure α} {r' : Except Failure β} (h : Agree V r r') :
    (Attempt.settle r : Attempt σ α).Resembles G V (Attempt.settle r') :=
  .done h

theorem settle_same (r : Except Failure α) :
    (Attempt.settle r : Attempt σ α).Resembles G Eq (Attempt.settle r) :=
  settle (.refl (fun _ => rfl) r)

theorem tellAll (signals : List Signal) :
    (Attempt.tellAll signals : Attempt σ Unit).Resembles G Eq (Attempt.tellAll signals) :=
  (Program.Resembles.tellAll signals).bind fun _ _ h => .done (.ok h)

theorem notice {n n' : Log.Notice} (h : n = n') :
    (Attempt.notice n : Attempt σ Unit).Resembles G Eq (Attempt.notice n') :=
  h ▸ tellAll _

theorem request {q q' : Request} {A : q.Answer → q'.Answer → Prop} (h : Request.Resembles q q' A) :
    (Attempt.request q : Attempt σ q.Answer).Resembles G A (Attempt.request q') :=
  .ask h fun _ _ hr => .done hr

theorem gather {s s' : Sweep} (h : s.Resembles s') :
    (Attempt.gather s : Attempt σ (List Key)).Resembles G Key.ListResembles (Attempt.gather s') :=
  Program.Resembles.gather h fun _ _ hr => .done hr

theorem outcome (h : a.Resembles G V b) :
    (Attempt.outcome a).Resembles G (Agree V) (Attempt.outcome b) :=
  Program.Resembles.bind h fun _ _ hr => .done (.ok hr)

theorem mapM {R : γ → δ → Prop} {f : γ → Attempt σ α} {f' : δ → Attempt σ β} {xs : List γ}
    {ys : List δ} (h : List.Forall₂ R xs ys) (hf : ∀ x y, R x y → (f x).Resembles G V (f' y)) :
    (xs.mapM f).Resembles G (List.Forall₂ V) (ys.mapM f') := by
  induction h with
  | nil => exact .pure .nil
  | cons hfirst _ ih =>
      rw [List.mapM_cons, List.mapM_cons]
      exact (hf _ _ hfirst).bind fun _ _ hx => ih.bind fun _ _ hxs => .pure (.cons hx hxs)

theorem modify {f f' : σ → σ} (h : ∀ s s', G s s' → G (f s) (f' s')) :
    (do let s ← Attempt.get; Attempt.set (f s) : Attempt σ Unit).Resembles G Eq
      (do let s ← Attempt.get; Attempt.set (f' s)) :=
  get.bind fun _ _ hs => .set (h _ _ hs)

end Resembles

end Attempt

end Keyring
