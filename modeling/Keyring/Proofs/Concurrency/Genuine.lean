import Keyring.Proofs.Concurrency.Consistent
import Keyring.Proofs.Rotation.Board

/-!
Programs that commit no keys but those that the engine has derived for the same outputs.
-/

namespace Keyring

/-- Whether a request, if it commits a key, commits one with the id that the output derives. -/
def Request.Genuine : Request → Prop
  | .commitKey _ _ output key => key.id = output.derivedId
  | _ => True

/-- Whether a request neither commits a key nor asks for keys of the log. -/
def Request.isPlain : Request → Bool
  | .commitKey .. | .fetchKeys .. => false
  | _ => true

theorem Request.genuine_of_isPlain {q : Request} (h : q.isPlain) :
    q.Genuine ∧ q.isFetch = false := by
  cases q with
  | commitKey | fetchKeys => exact nomatch h
  | _ => exact ⟨trivial, rfl⟩

/-- Whether an answer, if it is a derived key, is one with the id that the output derives. -/
def Request.Trusts : (q : Request) → Except Failure q.Answer → Prop
  | .deriveKey _ output _, .ok key => key.id = output.derivedId
  | _, _ => True

namespace Program

variable {σ α β : Type}

/-- Whether a program makes genuine requests and ends with `Q`, if its answers can be trusted. -/
def Genuine (Q : α → Prop) : Program σ α → Prop
  | done a => Q a
  | ask q next => (q.Genuine ∧ q.isFetch = false) ∧ ∀ r, q.Trusts r → (next r).Genuine Q
  | gather _ next => ∀ r, (next r).Genuine Q
  | tell _ next => next.Genuine Q
  | read next => ∀ s, (next s).Genuine Q
  | write _ next => next.Genuine Q

variable {Q Q' : α → Prop}

theorem Genuine.mono {p : Program σ α} (h : p.Genuine Q) (hQ : ∀ a, Q a → Q' a) :
    p.Genuine Q' := by
  induction p with
  | done a => exact hQ a h
  | ask q next ih => exact ⟨h.1, fun r hr => ih r (h.2 r hr)⟩
  | gather s next ih => exact fun r => ih r (h r)
  | tell s next ih => exact ih h
  | read next ih => exact fun s => ih s (h s)
  | write s next ih => exact ih h

theorem genuine_bind {R : β → Prop} {p : Program σ α} {f : α → Program σ β}
    (h : p.Genuine fun a => (f a).Genuine R) : (p.bind f).Genuine R := by
  induction p with
  | done a => exact h
  | ask q next ih => exact ⟨h.1, fun r hr => ih r (h.2 r hr)⟩
  | gather s next ih => exact fun r => ih r (h r)
  | tell s next ih => exact ih h
  | read next ih => exact fun s => ih s (h s)
  | write s next ih => exact ih h

theorem genuine_tellAll {Q : Unit → Prop} (signals : List Signal) (h : Q ()) :
    (tellAll (σ := σ) signals).Genuine Q := by
  induction signals with
  | nil => exact h
  | cons s rest ih => exact ih

theorem Genuine.settle {p : Program Group α} (h : p.Genuine Q) (g : Group) :
    (p.settle g).1.Genuine Q ∧ ((p.settle g).1.Waits ∨ ∃ a, (p.settle g).1 = .done a) := by
  induction p generalizing g with
  | done a => exact ⟨h, .inr ⟨a, rfl⟩⟩
  | ask q next ih => exact ⟨h, .inl trivial⟩
  | gather s next ih => exact ⟨h, .inl trivial⟩
  | tell s next ih => exact ih h g
  | read next ih => exact ih g (h g) g
  | write g' next ih => exact ih h g'

end Program

namespace Attempt

variable {σ α β : Type}

/-- Whether an attempt is genuine, with `Q` for its result. -/
def Genuine (a : Attempt σ α) (Q : α → Prop) : Prop :=
  Program.Genuine (∀ x, · = .ok x → Q x) a.run

abbrev IsGenuine (a : Attempt σ α) : Prop :=
  a.Genuine fun _ => True

namespace Genuine

variable {Q : α → Prop}

theorem pure {x : α} (h : Q x) : (Pure.pure x : Attempt σ α).Genuine Q := by
  intro x' hx
  obtain rfl := Except.ok.inj hx
  exact h

theorem throw (e : Failure) : (MonadExcept.throw e : Attempt σ α).Genuine Q :=
  nofun

theorem bind {R : β → Prop} {a : Attempt σ α} {f : α → Attempt σ β} (ha : a.Genuine Q)
    (hf : ∀ x, Q x → (f x).Genuine R) : (a >>= f).Genuine R := by
  unfold Genuine at ha ⊢
  rw [run_bind]
  refine Program.genuine_bind (ha.mono fun r hr => ?_)
  cases r with
  | ok x => exact hf x (hr x rfl)
  | error e => exact nofun

theorem get {Q : σ → Prop} (h : ∀ s, Q s) : (Attempt.get : Attempt σ σ).Genuine Q := by
  rintro s _ ⟨⟩
  exact h s

theorem set {Q : Unit → Prop} (s : σ) (h : Q ()) : (Attempt.set s).Genuine Q :=
  fun _ _ => h

theorem settle {r : Except Failure α} (h : ∀ x, r = .ok x → Q x) :
    (Attempt.settle r : Attempt σ α).Genuine Q :=
  h

theorem tellAll {Q : Unit → Prop} (signals : List Signal) (h : Q ()) :
    (Attempt.tellAll signals : Attempt σ Unit).Genuine Q :=
  Program.genuine_bind (Program.genuine_tellAll signals fun _ _ => h)

theorem request {q : Request} {Q : q.Answer → Prop} (hq : q.Genuine) (hfetch : q.isFetch = false)
    (h : ∀ x, q.Trusts (.ok x) → Q x) : (Attempt.request q : Attempt σ q.Answer).Genuine Q := by
  refine ⟨⟨hq, hfetch⟩, fun r hr x hx => ?_⟩
  subst hx
  exact h x hr

theorem tryCatch {a : Attempt σ α} {f : Failure → Attempt σ α} (ha : a.Genuine Q)
    (hf : ∀ e, (f e).Genuine Q) : (MonadExcept.tryCatch a f : Attempt σ α).Genuine Q := by
  unfold Genuine at ha ⊢
  rw [run_tryCatch]
  refine Program.genuine_bind (ha.mono fun r hr => ?_)
  cases r with
  | ok x => exact hr
  | error e => exact hf e

end Genuine

namespace IsGenuine

theorem get : (Attempt.get : Attempt σ σ).IsGenuine :=
  Genuine.get fun _ => trivial

theorem settle (r : Except Failure α) : (Attempt.settle r : Attempt σ α).IsGenuine :=
  Genuine.settle fun _ _ => trivial

theorem tellAll (signals : List Signal) : (Attempt.tellAll signals : Attempt σ Unit).IsGenuine :=
  Genuine.tellAll signals trivial

theorem request {q : Request} (hq : q.isPlain) :
    (Attempt.request q : Attempt σ q.Answer).IsGenuine :=
  have hgenuine := Request.genuine_of_isPlain hq
  Genuine.request hgenuine.1 hgenuine.2 fun _ _ => trivial

theorem outcome {a : Attempt σ α} (ha : a.IsGenuine) : (Attempt.outcome a).IsGenuine :=
  Program.genuine_bind (ha.mono fun _ _ _ _ => trivial)

theorem gather (s : Sweep) : (Attempt.gather s : Attempt σ (List Key)).IsGenuine :=
  fun _ _ _ => trivial

theorem mapM {f : α → Attempt σ β} (hf : ∀ x, (f x).IsGenuine) (xs : List α) :
    (xs.mapM f).IsGenuine := by
  induction xs with
  | nil => exact .pure trivial
  | cons x rest ih =>
      rw [List.mapM_cons]
      exact (hf x).bind fun _ _ => ih.bind fun _ _ => .pure trivial

theorem modify (f : σ → σ) :
    (do let s ← Attempt.get; Attempt.set (f s) : Attempt σ Unit).IsGenuine :=
  IsGenuine.get.bind fun s _ => .set (f s) trivial

end IsGenuine

end Attempt

namespace Group

open Attempt

theorem genuine_persist : persist.IsGenuine := by
  apply IsGenuine.get.bind
  intro g _
  exact (IsGenuine.tellAll _).bind fun _ _ => IsGenuine.request rfl

theorem genuine_transfer (paging : Config.Paging) (kind : Transfer.Kind)
    (recipient recipientKey : String) :
    (transfer paging kind recipient recipientKey).IsGenuine := by
  have hseal (page : Page) : (sealFor recipientKey page).IsGenuine :=
    (IsGenuine.request rfl).bind fun _ _ => .pure trivial
  have hupload (sessionId : String) (page : SealedPage) :
      (upload kind sessionId recipient page).IsGenuine :=
    IsGenuine.get.bind fun _ _ =>
      (IsGenuine.outcome (.request rfl)).bind fun _ _ => .pure trivial
  refine IsGenuine.get.bind fun g _ => (IsGenuine.settle _).bind fun first _ => ?_
  refine (hseal first).bind fun opening _ => ?_
  refine (IsGenuine.request rfl).bind fun sessionId _ => ?_
  cases Transfer.Session.ofId sessionId with
  | notRequired => exact (IsGenuine.tellAll _).bind fun _ _ => .pure trivial
  | opened id =>
      dsimp only
      split
      case' isTrue => refine (IsGenuine.tellAll _).bind fun _ _ => ?_
      all_goals
        refine (IsGenuine.mapM hseal _).bind fun pages _ => ?_
        refine (IsGenuine.mapM (hupload id) _).bind fun results _ => ?_
        exact (IsGenuine.tellAll _).bind fun _ _ => (IsGenuine.tellAll _).bind fun _ _ =>
          .pure trivial

theorem genuine_append (keys : List Key) : (append keys).IsGenuine := by
  refine IsGenuine.get.bind fun g _ => (IsGenuine.settle _).bind fun history _ => ?_
  refine (IsGenuine.tellAll _).bind fun _ _ => ?_
  exact Genuine.bind (Genuine.set (Q := fun _ => True) _ trivial) fun _ _ => .pure trivial

theorem genuine_fetchNew (token : String) (threshold : UInt64) :
    (fetchNew token threshold).IsGenuine := by
  refine IsGenuine.get.bind fun g _ => (IsGenuine.settle _).bind fun cursor _ => ?_
  refine (IsGenuine.gather _).bind fun gathered _ => ?_
  dsimp only
  split
  · exact (IsGenuine.tellAll _).bind fun _ _ => genuine_append _
  · exact genuine_append _

theorem genuine_prepare : prepare.IsGenuine := by
  refine IsGenuine.get.bind fun g _ => (IsGenuine.settle _).bind fun _ _ => ?_
  have hbody : (do
      let latest ← Attempt.settle g.record.history.latest
      let artifact ← Attempt.request (.prepareRotation latest g.actor.publicKey)
      Attempt.notice (.rotationPrepared g.record.groupId artifact.preKeyId)
      setPhase (.prepared artifact)
      return artifact).IsGenuine := by
    refine (IsGenuine.settle _).bind fun latest _ => ?_
    refine (IsGenuine.request rfl).bind fun artifact _ => ?_
    exact (IsGenuine.tellAll _).bind fun _ _ => (IsGenuine.modify _).bind fun _ _ => .pure trivial
  split
  · exact hbody
  · exact hbody
  · exact .throw _

theorem genuine_publish : publish.IsGenuine := by
  apply IsGenuine.get.bind
  intro g _
  split
  · refine (IsGenuine.request rfl).bind fun _ _ => ?_
    exact (IsGenuine.tellAll _).bind fun _ _ => .set _ trivial
  · exact .throw _

theorem genuine_resolve (round : Nat) (output : Rotation.Output) (preKey : Key) :
    (resolve round output preKey).IsGenuine := by
  apply IsGenuine.get.bind
  intro g _
  have hderive : (tryCatch (Attempt.request (.deriveKey preKey output g.actor)) fun e => do
      Attempt.metric (.outputHandled .failed)
      throw e : Action Key).Genuine fun key => key.id = output.derivedId := by
    refine Genuine.tryCatch (.request trivial rfl fun key hkey => hkey) fun e => ?_
    exact (IsGenuine.tellAll _).bind fun _ _ => .throw e
  refine hderive.bind fun key hkey => ?_
  have hcommit : (Attempt.request (.commitKey g.actor.token g.record.groupId output key) :
      Action Unit).IsGenuine := Genuine.request hkey rfl fun _ _ => trivial
  exact hcommit.bind fun _ _ => (IsGenuine.tellAll _).bind fun _ _ => IsGenuine.tellAll _

theorem genuine_resolveKnown (round resolved : Nat) (deferred outputs : List Rotation.Output) :
    (resolveKnown round resolved deferred outputs).IsGenuine := by
  induction outputs generalizing resolved deferred with
  | nil => exact .pure trivial
  | cons output rest ih =>
      apply IsGenuine.get.bind
      intro g _
      split
      · exact (genuine_resolve _ _ _).bind fun _ _ => ih _ _
      · exact (IsGenuine.tellAll _).bind fun _ _ => (IsGenuine.tellAll _).bind fun _ _ => ih _ _

theorem genuine_finishRound (round left : Nat) (pending : List Rotation.Output) :
    (finishRound round left pending).IsGenuine := by
  refine (genuine_resolveKnown _ _ _ _).bind fun result _ => IsGenuine.get.bind fun g _ => ?_
  refine (genuine_fetchNew _ _).bind fun fetched _ => ?_
  exact (IsGenuine.tellAll _).bind fun _ _ => .pure trivial

theorem genuine_catchUp (round resolved left : Nat) (pending : List Rotation.Output) :
    (catchUp round resolved left pending).IsGenuine := by
  induction left generalizing round resolved pending with
  | zero => exact (genuine_finishRound _ _ _).bind fun _ _ => .pure trivial
  | succ left ih =>
      apply (genuine_finishRound _ _ _).bind
      intro result _
      dsimp only
      split
      · exact .pure trivial
      · exact ih _ _ _

theorem genuine_finishPending : finishPending.IsGenuine := by
  refine IsGenuine.get.bind fun g _ => (IsGenuine.request rfl).bind fun pending _ => ?_
  split
  · exact (IsGenuine.tellAll _).bind fun _ _ => (IsGenuine.tellAll _).bind fun _ _ => .pure trivial
  · refine (IsGenuine.tellAll _).bind fun _ _ => (genuine_catchUp _ _ _ _).bind fun result _ => ?_
    apply (IsGenuine.tellAll _).bind
    intro _ _
    have hend (m : Metric) (outcome : Rotation.Outcome) : (do
        persist
        Attempt.metric m
        return outcome).IsGenuine :=
      genuine_persist.bind fun _ _ => (IsGenuine.tellAll _).bind fun _ _ => .pure trivial
    split
    · exact (IsGenuine.modify _).bind fun _ _ => (IsGenuine.tellAll _).bind fun _ _ => hend _ _
    · exact (IsGenuine.tellAll _).bind fun _ _ => hend _ _

theorem genuine_finish : finish.IsGenuine := by
  apply IsGenuine.get.bind
  intro g _
  have hbody : (do
      setPhase .finishing
      let outcome ← tryCatch finishPending fun e => do
        setPhase g.phase
        throw e
      setPhase (if outcome.isComplete then .idle else g.phase)
      return outcome).IsGenuine := by
    refine (IsGenuine.modify _).bind fun _ _ => ?_
    refine Genuine.bind (Genuine.tryCatch genuine_finishPending fun e => ?_) fun outcome _ => ?_
    · exact (IsGenuine.modify _).bind fun _ _ => .throw e
    · exact (IsGenuine.modify _).bind fun _ _ => .pure trivial
  split
  · exact hbody
  · exact hbody
  · exact .throw _

theorem genuine_finishExpired : finishExpired.IsGenuine := by
  have habandon : abandonFinish.IsGenuine := by
    apply IsGenuine.get.bind
    intro g _
    split
    · exact (IsGenuine.modify _).bind fun _ _ => IsGenuine.tellAll _
    · exact .pure trivial
  refine habandon.bind fun _ _ => IsGenuine.get.bind fun _ _ => ?_
  exact (IsGenuine.tellAll _).bind fun _ _ => .throw _

theorem genuine_action {α : Type} (op : Operation α) : op.action.IsGenuine := by
  cases op with
  | persist => exact genuine_persist
  | fetch =>
      refine IsGenuine.get.bind fun g _ => (genuine_fetchNew _ _).bind fun added _ => ?_
      split
      · exact genuine_persist.bind fun _ _ => .pure trivial
      · exact .pure trivial
  | invite userId recipientKey | accept userId recipientKey =>
      refine IsGenuine.get.bind fun g _ => (IsGenuine.settle _).bind fun _ _ => ?_
      exact (genuine_transfer _ _ _ _).bind fun _ _ => IsGenuine.settle _
  | listJoins cursor =>
      refine IsGenuine.get.bind fun g _ => (IsGenuine.settle _).bind fun _ _ => ?_
      exact IsGenuine.request rfl
  | reject userId =>
      refine IsGenuine.get.bind fun g _ => (IsGenuine.settle _).bind fun _ _ => ?_
      exact (IsGenuine.request rfl).bind fun _ _ => IsGenuine.tellAll _
  | leave =>
      refine IsGenuine.get.bind fun g _ => (IsGenuine.request rfl).bind fun _ _ => ?_
      exact IsGenuine.tellAll _
  | prepare => exact genuine_prepare
  | publish => exact genuine_publish
  | rotate => exact genuine_prepare.bind fun _ _ => genuine_publish
  | finish | finishInTime => exact genuine_finish

end Group

end Keyring
