import Keyring.Proofs.Program.Ensures

/-!
Worlds that keep a record of the calls that reach them, so that what is certain of a run may speak
of its calls. Keeping the record does not change a run.
-/

namespace Keyring

namespace Event

def isCall : Event → Bool
  | told _ => false
  | _ => true

@[simp] theorem isCall_called (q : Request) (r : q.Reply) : (called q r).isCall = true :=
  rfl

@[simp] theorem isCall_dropped (q : Request) : (dropped q).isCall = true :=
  rfl

@[simp] theorem isCall_told (s : Signal) : (told s).isCall = false :=
  rfl

/-- A request and its answer, if one came. -/
def ofReply (q : Request) : Option q.Reply → Event
  | some r => called q r
  | none => dropped q

@[simp] theorem ofReply_some (q : Request) (r : q.Reply) : ofReply q (some r) = called q r :=
  rfl

@[simp] theorem ofReply_none (q : Request) : ofReply q none = dropped q :=
  rfl

end Event

/-- The requests of a run with their answers. -/
def Run.calls {σ S α : Type} (r : Run σ S α) : List Event :=
  r.trace.filter Event.isCall

theorem Run.calls_after {σ S α : Type} (events : List Event) (r : Run σ S α) :
    (r.after events).calls = events.filter Event.isCall ++ r.calls :=
  List.filter_append ..

namespace World

variable {S : Type}

/-- The same world with a record of its calls. -/
def recorded (w : World S) : World (List Event × S) where
  answer q s := ((w.answer q s.2).1, s.1 ++ [.ofReply q (w.answer q s.2).1], (w.answer q s.2).2)
  startTimer limit s := (s.1, w.startTimer limit s.2)
  stopTimer s := (s.1, w.stopTimer s.2)

theorem recorded_answer (w : World S) (q : Request) (calls : List Event) (world : S) :
    w.recorded.answer q (calls, world) = ((w.answer q world).1,
      (calls ++ [.ofReply q (w.answer q world).1], (w.answer q world).2)) :=
  rfl

end World

variable {σ S α : Type} (w : World S)

theorem Sweep.run_recorded (fuel : Nat) (sweep : Sweep) (calls : List Event) (world : S) :
    sweep.run w.recorded fuel (calls, world) =
      ((sweep.run w fuel world).1, (calls ++ (sweep.run w fuel world).2.2.filter Event.isCall,
        (sweep.run w fuel world).2.1), (sweep.run w fuel world).2.2) := by
  induction fuel generalizing sweep calls world with
  | zero => simp [run]
  | succ fuel ih =>
      simp only [run, World.recorded_answer]
      rcases w.answer sweep.request world with ⟨_ | _ | batch, world'⟩
      · simp [List.filter_cons]
      · simp [List.filter_cons]
      · simp only
        cases sweep.take batch with
        | inr keys => simp [List.filter_cons]
        | inl sweep' => simp [ih, List.filter_cons]

theorem Program.run_recorded (fuel : Nat) (p : Program σ α) (state : σ) (calls : List Event)
    (world : S) :
    p.run w.recorded fuel state (calls, world) =
      ⟨(p.run w fuel state world).ending, (p.run w fuel state world).state,
        (calls ++ (p.run w fuel state world).calls, (p.run w fuel state world).world),
        (p.run w fuel state world).trace⟩ := by
  induction p generalizing state calls world with
  | done a => simp [run, Run.calls]
  | ask q next ih =>
      simp only [run, World.recorded_answer]
      rcases w.answer q world with ⟨_ | r, world'⟩
      · simp [Run.calls, List.filter_cons]
      · simp [ih, Run.after, Run.calls, List.filter_cons]
  | gather sweep next ih =>
      simp only [run, Sweep.run_recorded]
      rcases sweep.run w fuel world with ⟨_ | _ | _, world', events⟩
      · simp [ih, Run.after, Run.calls]
      · simp [Run.calls]
      · simp [Run.calls]
  | tell s next ih =>
      simp [run, ih, Run.after, Run.calls]
  | read next ih => exact ih state state calls world
  | write state' next ih => exact ih state' calls world

theorem Program.runWithin_recorded (fuel : Nat) (limit : Duration) (body expired : Program σ α)
    (state : σ) (calls : List Event) (world : S) :
    runWithin w.recorded fuel limit body expired state (calls, world) =
      ⟨(runWithin w fuel limit body expired state world).ending,
        (runWithin w fuel limit body expired state world).state,
        (calls ++ (runWithin w fuel limit body expired state world).calls,
          (runWithin w fuel limit body expired state world).world),
        (runWithin w fuel limit body expired state world).trace⟩ := by
  have hstart : w.recorded.startTimer limit (calls, world) =
      (calls, w.startTimer limit world) :=
    rfl
  have hstop : ∀ s, w.recorded.stopTimer s = (s.1, w.stopTimer s.2) := fun _ => rfl
  simp only [runWithin, hstart, hstop, run_recorded]
  rcases body.run w fuel state (w.startTimer limit world) with ⟨_ | _ | _, state', world', trace⟩
  · rfl
  · simp [Run.after, Run.calls]
  · rfl

theorem Sweep.run_cut_iff (fuel : Nat) (sweep : Sweep) (world : S) :
    (sweep.run w fuel world).1 = .cut ↔ ∃ q, .dropped q ∈ (sweep.run w fuel world).2.2 := by
  induction fuel generalizing sweep world with
  | zero => simp [run]
  | succ fuel ih =>
      simp only [run]
      rcases w.answer sweep.request world with ⟨_ | _ | batch, world'⟩
      · simp
      · simp
      · simp only
        cases sweep.take batch with
        | inr keys => simp
        | inl sweep' => simpa using ih sweep' world'

theorem Program.run_cut_iff (fuel : Nat) (p : Program σ α) (state : σ) (world : S) :
    (p.run w fuel state world).ending = .cut ↔
      ∃ q, .dropped q ∈ (p.run w fuel state world).calls := by
  induction p generalizing state world with
  | done a => simp [run, Run.calls]
  | ask q next ih =>
      simp only [run]
      rcases w.answer q world with ⟨_ | r, world'⟩
      · simp [Run.calls]
      · simpa [Run.after, Run.calls] using ih r state world'
  | gather sweep next ih =>
      have hcut := sweep.run_cut_iff w fuel world
      simp only [run]
      rcases hrun : sweep.run w fuel world with ⟨r | _ | _, world', events⟩
      · rw [hrun] at hcut
        have hnone : ∀ q, Event.dropped q ∉ events := by simpa using hcut
        simpa [Run.after, Run.calls, hnone] using ih r state world'
      · rw [hrun] at hcut
        simpa [Run.calls] using hcut
      · rw [hrun] at hcut
        simpa [Run.calls] using hcut
  | tell s next ih => simpa [run, Run.after, Run.calls] using ih state world
  | read next ih => exact ih state state world
  | write state' next ih => exact ih state' world

/-- A request of a fetch loop and its answer. -/
structure FetchCall where
  cursor : Cursor
  reply : Option (Except Failure (List Key))

namespace FetchCall

def event (token groupId : String) (f : FetchCall) : Event :=
  .ofReply (.fetchKeys token groupId f.cursor) f.reply

/-- The keys that a call brings. -/
def keys (f : FetchCall) : List Key :=
  match f.reply with
  | some (.ok batch) => batch
  | _ => []

end FetchCall

namespace Attempt

variable {w} {fuel : Nat} {state : σ} {calls : List Event} {world : S}

theorem Ensures.of_recorded {a : Attempt σ α} {Q : α → σ → List Event × S → Prop}
    {X : Halt → σ → List Event × S → Prop}
    (h : Ensures w.recorded fuel a Q X state ([], world)) {r : Run σ S (Except Failure α)}
    (hr : a.run.run w fuel state world = r) :
    Meets (fun x g s => Q x g (r.calls, s)) (fun e g s => X e g (r.calls, s)) r := by
  subst hr
  unfold Ensures at h
  rw [Program.run_recorded] at h
  unfold Meets at h ⊢
  exact h

theorem Ensures.run_of_recorded {a : Attempt σ α}
    {R : Ending (Except Failure α) → List Event → σ → S → Prop}
    (h : Ensures w.recorded fuel a (fun x g s => R (.finished (.ok x)) s.1 g s.2)
      (fun halt g s => R halt.ending s.1 g s.2) state ([], world)) :
    R (a.run.run w fuel state world).ending (a.run.run w fuel state world).calls
      (a.run.run w fuel state world).state (a.run.run w fuel state world).world := by
  have hrun := (meets_ending (R := fun e g (s : List Event × S) => R e s.1 g s.2)).mp h
  rwa [Program.run_recorded] at hrun

theorem Ensures.ending_of_recorded {a : Attempt σ α}
    {R : Ending (Except Failure α) → List Event → σ → Prop}
    (h : Ensures w.recorded fuel a (fun x g s => R (.finished (.ok x)) s.1 g)
      (fun halt g s => R halt.ending s.1 g) state ([], world)) :
    R (a.run.run w fuel state world).ending (a.run.run w fuel state world).calls
      (a.run.run w fuel state world).state :=
  run_of_recorded (R := fun ending calls g _ => R ending calls g) h

theorem ensures_recorded_request (q : Request) {Q : q.Answer → σ → List Event × S → Prop}
    {X : Halt → σ → List Event × S → Prop}
    (hQ : ∀ x s, Q x state (calls ++ [.called q (.ok x)], s))
    (hfailed : ∀ e s, X (.failed e) state (calls ++ [.called q (.error e)], s))
    (hcut : ∀ s, X .cut state (calls ++ [.dropped q], s)) :
    Ensures w.recorded fuel (request q) Q X state (calls, world) := by
  rw [ensures_request]
  simp only [World.recorded_answer]
  rcases w.answer q world with ⟨_ | _ | x, world'⟩
  · exact hcut world'
  · exact hfailed _ world'
  · exact hQ x world'

/-- A fetch loop of whose answers nothing is known. -/
theorem ensures_recorded_gather (sweep : Sweep) {Q : List Key → σ → List Event × S → Prop}
    {X : Halt → σ → List Event × S → Prop}
    (hQ : ∀ (fetches : List FetchCall) s,
      Q (sweep.gathered ++ fetches.flatMap FetchCall.keys) state
        (calls ++ fetches.map (FetchCall.event sweep.token sweep.groupId), s))
    (hX : ∀ halt (fetches : List FetchCall) s,
      (halt = .cut → ∃ front cursor, fetches = front ++ [⟨cursor, none⟩]) →
      (halt = .exhausted → fetches.length = fuel) →
      X halt state (calls ++ fetches.map (FetchCall.event sweep.token sweep.groupId), s)) :
    Ensures w.recorded fuel (gather sweep) Q X state (calls, world) := by
  induction fuel generalizing sweep calls world with
  | zero =>
      rw [ensures_gather, Sweep.run]
      simpa using hX .exhausted [] world (by simp) (by simp)
  | succ fuel ih =>
      rw [ensures_gather_succ]
      apply ensures_recorded_request
      · intro (batch : List Key) s
        -- The call that brought the batch goes before those of the rest of the loop.
        let call : FetchCall := ⟨sweep.cursor, some (.ok batch)⟩
        rcases sweep.take_cases batch with ⟨-, htake⟩ | ⟨last, -, -, htake⟩
        · rw [htake]
          show Q (sweep.gathered ++ batch) state
            (calls ++ [call.event sweep.token sweep.groupId], s)
          simpa [call, FetchCall.keys] using hQ [call] s
        · rw [htake]
          show Ensures w.recorded fuel (gather _) Q X state
            (calls ++ [call.event sweep.token sweep.groupId], s)
          refine ih { sweep with cursor := last.cursor, batches := batch :: sweep.batches } ?_ ?_
          · intro fetches s'
            simpa [call, FetchCall.keys, Sweep.gathered] using hQ (call :: fetches) s'
          · intro halt fetches s' hcut hexhausted
            have h := hX halt (call :: fetches) s' ?_ ?_
            · simpa using h
            · intro hhalt
              obtain ⟨front, cursor, rfl⟩ := hcut hhalt
              exact ⟨call :: front, cursor, rfl⟩
            · intro hhalt
              rw [List.length_cons, hexhausted hhalt]
      · intro e s
        have h := hX (.failed e) [⟨sweep.cursor, some (.error e)⟩] s (by simp) (by simp)
        simpa [FetchCall.event, Event.ofReply, Sweep.request] using h
      · intro s
        have h := hX .cut [⟨sweep.cursor, none⟩] s (fun _ => ⟨[], sweep.cursor, rfl⟩) (by simp)
        simpa [FetchCall.event, Event.ofReply, Sweep.request] using h

end Attempt

end Keyring
