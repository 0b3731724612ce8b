import Keyring.Group.Operation
import Keyring.Proofs.Group.Course
import Keyring.Proofs.Group.Convergence

namespace Keyring.Group

open Keyring.Rotation

/-- A run that is cut has made a last request without an answer. -/
def EndsCut (halt : Halt) (calls : List Event) : Prop :=
  halt = .cut → ∃ q, calls.getLast? = some (.dropped q)

theorem EndsCut.append {halt : Halt} {calls : List Event} (h : EndsCut halt calls)
    (before : List Event) : EndsCut halt (before ++ calls) := by
  intro hcut
  obtain ⟨q, hq⟩ := h hcut
  exact ⟨q, by rw [List.getLast?_append, hq, Option.some_or]⟩

theorem endsCut_failed (e : Failure) (calls : List Event) : EndsCut (.failed e) calls :=
  nofun

theorem endsCut_dropped (halt : Halt) (q : Request) : EndsCut halt [.dropped q] :=
  fun _ => ⟨q, rfl⟩

variable {S : Type} {w : World S} {fuel : Nat} {g : Group} {s : S} {calls : List Event}
  {X : Halt → Group → List Event × S → Prop}

theorem resolve_recorded (round : Nat) (o : Output) (position : Nat) (k : Key)
    {Q : Unit → Group → List Event × S → Prop}
    (hQ : ∀ h : Handling, h.place = (o, position) → h.startKey = k → h.Resolved → ∀ s',
      Q () g (calls ++ h.calls g, s'))
    (hX : ∀ h : Handling, h.place = (o, position) → h.startKey = k → ∀ halt s',
      EndsCut halt (h.calls g) → halt ≠ .exhausted → X halt g (calls ++ h.calls g, s')) :
    Attempt.Ensures w.recorded fuel (resolve round o k) Q X g (calls, s) := by
  simp only [resolve, Attempt.ensures_bind, Attempt.ensures_get, Attempt.ensures_tryCatch]
  apply Attempt.ensures_recorded_request
  · intro (key : Key) s₁
    simp only [Attempt.ensures_bind]
    apply Attempt.ensures_recorded_request
    · intro (answer : Unit) s₂
      rw [List.append_assoc]
      exact hQ ⟨o, position, k, .derived key (some (.ok answer))⟩ rfl rfl ⟨key, rfl⟩ s₂
    · intro e s₂
      rw [List.append_assoc]
      exact hX ⟨o, position, k, .derived key (some (.error e))⟩ rfl rfl _ s₂
        (endsCut_failed e _) (by simp)
    · intro s₂
      rw [List.append_assoc]
      exact hX ⟨o, position, k, .derived key none⟩ rfl rfl _ s₂
        ((endsCut_dropped .cut _).append [_]) (by simp)
  · intro e s₁
    simp only [Attempt.ensures_bind, Attempt.ensures_metric, Attempt.ensures_throw]
    exact hX ⟨o, position, k, .underived (some e)⟩ rfl rfl _ s₁ (endsCut_failed e _) (by simp)
  · intro s₁
    exact hX ⟨o, position, k, .underived none⟩ rfl rfl _ s₁ (endsCut_dropped .cut _) (by simp)

theorem resolveKnown_recorded (hsound : g.record.history.Sound) (round resolved : Nat)
    (deferred : List Output) (waiting : List (Output × Nat))
    {Q : Nat × List Output → Group → List Event × S → Prop}
    (hQ : ∀ handled, Whole g.record.history.keys waiting handled → ∀ s',
      Q (resolved + handled.length, deferred.reverse ++
          (waiting.filter fun p => !knows g.record.history.keys p.1).map Prod.fst) g
        (calls ++ handled.flatMap (Handling.calls g), s'))
    (hX : ∀ handled, Begun g.record.history.keys waiting handled → ∀ halt s',
      EndsCut halt (handled.flatMap (Handling.calls g)) → halt ≠ .exhausted →
      X halt g (calls ++ handled.flatMap (Handling.calls g), s')) :
    Attempt.Ensures w.recorded fuel (resolveKnown round resolved deferred (waiting.map Prod.fst))
      Q X g (calls, s) := by
  induction waiting generalizing resolved deferred calls s with
  | nil =>
      simp only [List.map_nil, resolveKnown, Attempt.ensures_pure]
      simpa using hQ [] Whole.nil s
  | cons p rest ih =>
      simp only [List.map_cons, resolveKnown, Attempt.ensures_bind, Attempt.ensures_get]
      cases hget : g.record.history.get? p.1.preKeyId with
      | none =>
          have hk : knows g.record.history.keys p.1 = false := by
            rw [Bool.eq_false_iff, ne_eq, knows_iff]
            exact (hsound.get?_eq_none_iff _).mp hget
          simp only [Attempt.ensures_bind, Attempt.ensures_notice, Attempt.ensures_metric]
          refine ih resolved (p.1 :: deferred) ?_ ?_
          · intro handled hwhole s'
            simpa [hk] using hQ handled (hwhole.skip hk) s'
          · exact fun handled hbegun => hX handled (hbegun.skip hk)
      | some k =>
          obtain ⟨hmem, hid⟩ := (hsound.get?_eq_some_iff _ k).mp hget
          simp only [Attempt.ensures_bind]
          apply resolve_recorded round p.1 p.2 k
          · intro a hplace hkey hresolved s₁
            obtain rfl : a.place = p := hplace
            subst hkey
            have hk := knows_of_startKey hmem hid
            refine ih (resolved + 1) deferred ?_ ?_
            · intro handled hwhole s'
              have h := hQ (a :: handled) (hwhole.cons hmem hid hresolved) s'
              rw [List.length_cons, Nat.add_comm handled.length 1, ← Nat.add_assoc] at h
              simpa [hk] using h
            · intro handled hbegun halt s' hcut hhalt
              have h := hX (a :: handled) (hbegun.cons hmem hid hresolved) halt s'
                (by simpa using hcut.append (a.calls g)) hhalt
              simpa using h
          · intro a hplace hkey halt s' hcut hhalt
            obtain rfl : a.place = p := hplace
            subst hkey
            simpa using hX [a] (Begun.single hmem hid) halt s' (by simpa using hcut) hhalt

theorem fetchNew_recorded (hsound : g.record.history.Sound) (threshold : UInt64)
    {Q : Nat → Group → List Event × S → Prop}
    (hQ : ∀ n (fetches : List FetchCall) (h : History) s', h.Sound →
      h.keys = learn g.record.history.keys (fetches.flatMap FetchCall.keys) →
      Q n (g.withHistory h)
        (calls ++ fetches.map (FetchCall.event g.actor.token g.record.groupId), s'))
    (hX : ∀ halt (fetches : List FetchCall) s',
      EndsCut halt (fetches.map (FetchCall.event g.actor.token g.record.groupId)) →
      (halt = .exhausted → fetches.length = fuel) →
      X halt g (calls ++ fetches.map (FetchCall.event g.actor.token g.record.groupId), s')) :
    Attempt.Ensures w.recorded fuel (fetchNew g.actor.token threshold) Q X g (calls, s) := by
  cases hlast : g.record.history.keys.getLast? with
  | none =>
      rw [ensures_fetchNew_empty (List.getLast?_eq_none_iff.mp hlast)]
      simpa using hX (.failed .emptyHistory) [] s (endsCut_failed _ _) (by simp)
  | some last =>
      rw [ensures_fetchNew hsound hlast]
      apply Attempt.ensures_recorded_gather
      · intro fetches s'
        rw [ensures_append]
        cases happend : g.record.history.append _ with
        | error e => exact hX (.failed e) fetches s' (endsCut_failed e _) (by simp)
        | ok h =>
            obtain ⟨hsound', hkeys⟩ := hsound.of_append_eq_ok happend
            refine hQ _ fetches h s' hsound' ?_
            simpa [learn, Sweep.gathered, -List.mem_map] using hkeys
      · intro halt fetches s' hcut hexhausted
        refine hX halt fetches s' ?_ hexhausted
        intro hhalt
        obtain ⟨front, last, rfl⟩ := hcut hhalt
        refine ⟨.fetchKeys g.actor.token g.record.groupId last, ?_⟩
        rw [List.map_append, List.map_singleton, List.getLast?_concat]
        rfl

theorem finishRound_recorded (hsound : g.record.history.Sound) (round left : Nat)
    (waiting : List (Output × Nat)) {Q : Nat × List Output → Group → List Event × S → Prop}
    (hQ : ∀ r : Round, Whole g.record.history.keys waiting r.handled → ∀ (h : History) s',
      h.Sound → h.keys = learn g.record.history.keys r.brought →
      Q (r.handled.length, (waiting.filter fun p => !knows g.record.history.keys p.1).map Prod.fst)
        (g.withHistory h) (calls ++ r.calls g, s'))
    (hX : ∀ r : Round, Begun g.record.history.keys waiting r.handled → ∀ halt s',
      EndsCut halt (r.calls g) → (halt = .exhausted → r.fetches.length = fuel) →
      X halt g (calls ++ r.calls g, s')) :
    Attempt.Ensures w.recorded fuel (finishRound round left (waiting.map Prod.fst)) Q X g
      (calls, s) := by
  simp only [finishRound, Attempt.ensures_bind]
  apply resolveKnown_recorded hsound
  · intro handled hwhole s₁
    simp only [Attempt.ensures_bind, Attempt.ensures_get]
    apply fetchNew_recorded hsound
    · intro n fetches h s₂ hsound' hkeys
      simp only [List.append_assoc, Nat.zero_add, List.reverse_nil, List.nil_append]
      exact hQ ⟨handled, fetches⟩ hwhole h s₂ hsound' hkeys
    · intro halt fetches s₂ hcut hexhausted
      rw [List.append_assoc]
      exact hX ⟨handled, fetches⟩ hwhole.begun halt s₂ (hcut.append _) hexhausted
  · intro handled hbegun halt s₁ hcut hhalt
    simpa [Round.calls] using
      hX ⟨handled, []⟩ hbegun halt s₁ (by simpa [Round.calls] using hcut) (absurd · hhalt)

/-- The loop goes on with a course until nothing waits or the rounds are used up. -/
theorem catchUp_recorded {held : List Key} {pending : List Output} {rounds : List Round}
    (hsound : g.record.history.Sound) (hkeys : g.record.history.keys = heldAfter held rounds)
    (hcourse : Course held pending rounds) (left : Nat)
    {Q : Nat × Nat × List Output → Group → List Event × S → Prop}
    (hQ : ∀ rounds', Course held pending rounds' → rounds'.length ≤ rounds.length + (left + 1) →
      (waitingAfter pending rounds' = [] ∨ rounds'.length = rounds.length + (left + 1)) →
      ∀ (h : History) s', h.Sound → h.keys = heldAfter held rounds' →
      Q (handledCount rounds', rounds'.length, (waitingAfter pending rounds').map Prod.fst)
        (g.withHistory h) (calls ++ rounds'.flatMap (Round.calls g), s'))
    (hX : ∀ rounds' r, Course held pending rounds' →
      Begun (heldAfter held rounds') (waitingAfter pending rounds') r.handled →
      (rounds' ++ [r]).length ≤ rounds.length + (left + 1) → ∀ halt (h : History) s',
      EndsCut halt (r.calls g) → (halt = .exhausted → r.fetches.length = fuel) →
      X halt (g.withHistory h) (calls ++ (rounds' ++ [r]).flatMap (Round.calls g), s')) :
    Attempt.Ensures w.recorded fuel
      (catchUp (rounds.length + 1) (handledCount rounds) left
        ((waitingAfter pending rounds).map Prod.fst)) Q X g
      (calls ++ rounds.flatMap (Round.calls g), s) := by
  induction left generalizing rounds g s with
  | zero =>
      simp only [catchUp, Attempt.ensures_bind]
      apply finishRound_recorded hsound
      · intro r hwhole h s' hsound' hkeys'
        rw [hkeys] at hwhole hkeys'
        have hlength : (rounds ++ [r]).length = rounds.length + (0 + 1) := by simp
        have hres := hQ _ (hcourse.round r hwhole) hlength.le (.inr hlength) h s' hsound'
          (hkeys'.trans heldAfter_snoc.symm)
        rw [handledCount_snoc, hlength, hwhole.waitingAfter_snoc] at hres
        simpa [hkeys] using hres
      · intro r hbegun halt s' hcut hexhausted
        rw [hkeys] at hbegun
        have hres := hX rounds r hcourse hbegun (by simp) halt g.record.history s' hcut hexhausted
        simpa using hres
  | succ left ih =>
      simp only [catchUp, Attempt.ensures_bind]
      apply finishRound_recorded hsound
      · intro r hwhole h s' hsound' hkeys'
        rw [hkeys] at hwhole hkeys'
        have hlength : (rounds ++ [r]).length = rounds.length + 1 := by simp
        have hcalls : calls ++ rounds.flatMap (Round.calls g) ++ r.calls g =
            calls ++ (rounds ++ [r]).flatMap (Round.calls g) := by simp
        rw [hkeys, ← hwhole.waitingAfter_snoc, hcalls]
        simp only [← handledCount_snoc]
        by_cases hempty : waitingAfter pending (rounds ++ [r]) = []
        · have hres := hQ _ (hcourse.round r hwhole) (by omega) (.inl hempty) h s' hsound'
            (hkeys'.trans heldAfter_snoc.symm)
          rw [hempty, hlength] at hres
          simpa [hempty] using hres
        · rw [if_neg (by simpa using hempty), ← hlength]
          refine ih (g := g.withHistory h) hsound' (hkeys'.trans heldAfter_snoc.symm)
            (hcourse.round r hwhole) ?_ ?_
          · intro rounds' hcourse' hle hend
            exact hQ rounds' hcourse' (by omega) (hend.imp_right fun heq => by omega)
          · intro rounds' r' hcourse' hbegun' hle
            exact hX rounds' r' hcourse' hbegun' (by omega)
      · intro r hbegun halt s' hcut hexhausted
        rw [hkeys] at hbegun
        have hres := hX rounds r hcourse hbegun (by simp) halt g.record.history s' hcut hexhausted
        simpa using hres

/-- Whether an event is a commit that was accepted. -/
def isCommit : Event → Bool
  | .called (.commitKey ..) (.ok _) => true
  | _ => false

theorem countP_isCommit_handled (g : Group) {handled : List Handling}
    (h : ∀ a ∈ handled, a.Resolved) :
    (handled.flatMap (Handling.calls g)).countP isCommit = handled.length := by
  induction handled with
  | nil => rfl
  | cons a rest ih =>
      have hone : (a.calls g).countP isCommit = 1 := by
        obtain ⟨key, hfate⟩ := h a List.mem_cons_self
        rw [Handling.calls, hfate]
        rfl
      rw [List.flatMap_cons, List.countP_append, hone,
        ih fun b hb => h b (List.mem_cons_of_mem a hb), List.length_cons, Nat.add_comm]

theorem countP_isCommit_fetches (token groupId : String) (fetches : List FetchCall) :
    (fetches.map (FetchCall.event token groupId)).countP isCommit = 0 := by
  rw [List.countP_eq_zero]
  intro e he
  obtain ⟨f, _, rfl⟩ := List.mem_map.mp he
  rcases f with ⟨cursor, _ | _⟩
  all_goals exact Bool.false_ne_true

theorem countP_isCommit_rounds (g : Group) {rounds : List Round}
    (h : ∀ a ∈ rounds.flatMap Round.handled, a.Resolved) :
    (rounds.flatMap (Round.calls g)).countP isCommit = handledCount rounds := by
  induction rounds with
  | nil => rfl
  | cons r rest ih =>
      simp only [List.flatMap_cons, List.mem_append] at h
      have hrest := ih fun a ha => h a (.inr ha)
      rw [List.flatMap_cons, List.countP_append, hrest, Round.calls, List.countP_append,
        countP_isCommit_handled g fun a ha => h a (.inl ha), countP_isCommit_fetches]
      simp [handledCount]

/-- The calls of a finish run that has a pending list: after the request for it come the calls of
the rounds, and at the end the record may be written to the store. -/
structure Account (g : Group) (calls : List Event) (pending : List Output) (rounds : List Round) :
    Prop where
  calls_eq : ∃ closing, calls =
      .called (.pendingOutputs g.actor.token g.record.groupId) (.ok pending) ::
        (rounds.flatMap (Round.calls g) ++ closing) ∧
    (closing = [] ∨ ∃ text reply, closing =
      [.ofReply (.writeStore (storeKey g.config.store.space g.record.groupId) text) reply])
  bounded : rounds.length ≤ max 1 g.config.rotation.maxRounds.toNat
  counted : rounds.length < UInt32.size
  fair : Fair g.record.history.keys pending rounds
  derivable : ∀ h ∈ rounds.flatMap Round.handled, ∀ engine : Memory.Engine,
    engine.failing = false → ∃ key, (engine.derive h.startKey h.output g.actor).2 = .ok key

/-- What a finish run without a pending list does: nothing, or the request for it in vain. -/
def Unopened (g : Group) (calls : List Event) : Prop :=
  calls = [] ∨ ∃ reply, calls =
    [.ofReply (.pendingOutputs g.actor.token g.record.groupId) reply]

/-- An outcome that accounts for every pending output: those in the places that were handled are
resolved, all others are given as unresolved. -/
structure Concluded (g : Group) (calls : List Event) (pending : List Output) (rounds : List Round)
    (outcome : Outcome) (g' : Group) : Prop where
  handled : ∀ h ∈ rounds.flatMap Round.handled, h.Resolved
  resolved_eq : outcome.resolved = calls.countP isCommit
  rounds_eq : outcome.rounds = rounds.length
  unresolved_eq : outcome.unresolved = (waitingAfter pending rounds).map Prod.fst
  total : outcome.resolved + outcome.unresolved.length = pending.length
  complete : outcome.isComplete = true ↔ outcome.unresolved = []
  incomplete : outcome.isComplete = false →
    outcome.rounds = max 1 g.config.rotation.maxRounds.toNat ∧
      ∀ o ∈ outcome.unresolved, ∀ before, before <+: rounds → before ≠ rounds →
        o.preKeyId ∉ Key.ids (heldAfter g.record.history.keys before)
  history : g'.record.history.keys = heldAfter g.record.history.keys rounds

/-- A fetch loop whose requests are used up has made them all. -/
def EndsSpent (fuel : Nat) (g : Group) (halt : Halt) (calls : List Event) : Prop :=
  halt = .exhausted → ∃ fetches : List FetchCall, fetches.length = fuel ∧
    fetches.map (FetchCall.event g.actor.token g.record.groupId) <:+ calls

theorem derive_startKey {h : Handling} (hid : h.startKey.id = h.output.preKeyId)
    (engine : Memory.Engine) (hworks : engine.failing = false) (actor : Actor) :
    ∃ key, (engine.derive h.startKey h.output actor).2 = .ok key := by
  refine ⟨Memory.Engine.rotatedKey h.startKey h.output actor, ?_⟩
  rw [Memory.Engine.derive, if_neg (by simp [hworks]), if_neg (not_not_intro hid)]

theorem Account.of_fair {pending : List Output} {rounds : List Round} {closing : List Event}
    (hbound : rounds.length ≤ g.furtherRounds + 1)
    (hfair : Fair g.record.history.keys pending rounds)
    (hclosing : closing = [] ∨ ∃ text reply, closing =
      [.ofReply (.writeStore (storeKey g.config.store.space g.record.groupId) text) reply]) :
    Account g ([.called (.pendingOutputs g.actor.token g.record.groupId) (.ok pending)] ++
      rounds.flatMap (Round.calls g) ++ closing) pending rounds := by
  have hlimit := g.config.rotation.maxRounds.toNat_lt
  unfold furtherRounds at hbound
  refine ⟨⟨closing, by simp, hclosing⟩, by omega, by simp only [UInt32.size]; omega, hfair, ?_⟩
  intro h hh engine hworks
  obtain ⟨r, hr, hh⟩ := List.mem_flatMap.mp hh
  obtain ⟨before, after, hsplit⟩ := List.append_of_mem hr
  exact derive_startKey (hfair.startKey before r after hsplit h hh).2 engine hworks g.actor

theorem persist_recorded {Q : Unit → Group → List Event × S → Prop}
    (hQ : ∀ text s', Q () g (calls ++ [.ofReply (.writeStore
      (storeKey g.config.store.space g.record.groupId) text) (some (.ok ()))], s'))
    (hX : ∀ text reply halt s', EndsCut halt [.ofReply (.writeStore
      (storeKey g.config.store.space g.record.groupId) text) reply] → halt ≠ .exhausted →
      X halt g (calls ++ [.ofReply (.writeStore
        (storeKey g.config.store.space g.record.groupId) text) reply], s')) :
    Attempt.Ensures w.recorded fuel persist Q X g (calls, s) := by
  simp only [persist, Record.store, Attempt.ensures_bind, Attempt.ensures_get,
    Attempt.ensures_notice]
  apply Attempt.ensures_recorded_request
  · intro (answer : Unit) s'
    exact hQ _ s'
  · intro e s'
    exact hX _ (some (.error e)) _ s' (endsCut_failed e _) (by simp)
  · intro s'
    exact hX _ none _ s' (endsCut_dropped .cut _) (by simp)

/-- What is certain of a finish run that ends without an outcome. -/
structure BrokenOff (fuel : Nat) (g : Group) (halt : Halt) (calls : List Event) : Prop where
  cut : EndsCut halt calls
  spent : EndsSpent fuel g halt calls
  account : Unopened g calls ∨ ∃ pending rounds, Account g calls pending rounds

/-- The outcome of a run whose loop has come to its end. -/
def outcomeOf (pending : List Output) (rounds : List Round) : Outcome :=
  if ((waitingAfter pending rounds).map Prod.fst).isEmpty then
    .completed (handledCount rounds) rounds.length
  else
    .incomplete (handledCount rounds) rounds.length ((waitingAfter pending rounds).map Prod.fst)

/-- Where a run stands when its loop has come to its end. -/
structure CaughtUp (g : Group) (pending : List Output) (rounds : List Round) (g' : Group) : Prop where
  course : Course g.record.history.keys pending rounds
  bounded : rounds.length ≤ g.furtherRounds + 1
  ended : waitingAfter pending rounds = [] ∨ rounds.length = g.furtherRounds + 1
  history : g'.record.history.keys = heldAfter g.record.history.keys rounds
  config : g'.config = g.config
  groupId : g'.record.groupId = g.record.groupId

section CaughtUp

variable {pending : List Output} {rounds : List Round} {g' : Group}

theorem CaughtUp.concluded (h : CaughtUp g pending rounds g')
    (hcalls : calls.countP isCommit = handledCount rounds) :
    Concluded g calls pending rounds (outcomeOf pending rounds) g' := by
  have hresolved : (outcomeOf pending rounds).resolved = handledCount rounds :=
    outcomeWith_resolved ..
  have hrounds : (outcomeOf pending rounds).rounds = rounds.length := outcomeWith_rounds ..
  have hunresolved : (outcomeOf pending rounds).unresolved =
      (waitingAfter pending rounds).map Prod.fst := outcomeWith_unresolved ..
  have hcomplete : (outcomeOf pending rounds).isComplete = true ↔
      waitingAfter pending rounds = [] := by
    rw [show (outcomeOf pending rounds).isComplete = _ from outcomeWith_isComplete ..,
      List.isEmpty_iff, List.map_eq_nil_iff]
  refine ⟨h.course.resolved, hresolved.trans hcalls.symm, hrounds, hunresolved, ?_, ?_, ?_,
    h.history⟩
  · rw [hresolved, hunresolved, List.length_map, h.course.fair.handledCount_add]
  · rw [hcomplete, hunresolved, List.map_eq_nil_iff]
  · intro hincomplete
    have hwait : waitingAfter pending rounds ≠ [] := by
      intro hempty
      rw [hcomplete.mpr hempty] at hincomplete
      exact Bool.true_eq_false.mp hincomplete
    refine ⟨?_, ?_⟩
    · rw [hrounds, h.ended.resolve_left hwait, furtherRounds]
      omega
    · intro o ho before hbefore hne
      rw [hunresolved] at ho
      obtain ⟨p, hp, rfl⟩ := List.mem_map.mp ho
      exact h.course.unknown hp hbefore hne

theorem countP_isCommit_account {closing : List Event} {held : List Key}
    (hcourse : Course held pending rounds)
    (hclosing : closing.countP isCommit = 0) (token groupId : String) :
    ([Event.called (.pendingOutputs token groupId) (.ok pending)] ++
      rounds.flatMap (Round.calls g) ++ closing).countP isCommit = handledCount rounds := by
  rw [List.countP_append, List.countP_append, countP_isCommit_rounds g hcourse.resolved, hclosing]
  exact Nat.zero_add _

theorem CaughtUp.persist_recorded (h : CaughtUp g pending rounds g') (m : Metric)
    {outcome : Outcome} (houtcome : outcome = outcomeOf pending rounds) :
    Attempt.Ensures w.recorded fuel (do
        persist
        Attempt.metric m
        return outcome)
      (fun outcome g' x => ∃ pending rounds, Account g x.1 pending rounds ∧
        Concluded g x.1 pending rounds outcome g')
      (fun halt _ x => BrokenOff fuel g halt x.1) g'
      ([.called (.pendingOutputs g.actor.token g.record.groupId) (.ok pending)] ++
        rounds.flatMap (Round.calls g), s) := by
  have haccount : ∀ text reply, Account g
      ([.called (.pendingOutputs g.actor.token g.record.groupId) (.ok pending)] ++
        rounds.flatMap (Round.calls g) ++ [.ofReply (.writeStore
          (storeKey g'.config.store.space g'.record.groupId) text) reply]) pending rounds := by
    intro text reply
    rw [h.config, h.groupId]
    exact .of_fair h.bounded h.course.fair (.inr ⟨text, reply, rfl⟩)
  rw [Attempt.ensures_bind]
  apply Group.persist_recorded
  · intro text s'
    refine ⟨pending, rounds, haccount text _, ?_⟩
    rw [houtcome]
    exact h.concluded (countP_isCommit_account h.course (by rfl) _ _)
  · intro text reply halt s' hcut hhalt
    exact ⟨hcut.append _, fun he => absurd he hhalt, .inr ⟨pending, rounds, haccount text reply⟩⟩

end CaughtUp

theorem caughtUp_recorded (hsound : g.record.history.Sound) (pending : List Output) (s : S) :
    Attempt.Ensures w.recorded fuel (catchUp 1 0 g.furtherRounds pending)
      (fun r g' x => ∃ rounds, CaughtUp g pending rounds g' ∧
        r = (handledCount rounds, rounds.length, (waitingAfter pending rounds).map Prod.fst) ∧
        x.1 = [.called (.pendingOutputs g.actor.token g.record.groupId) (.ok pending)] ++
          rounds.flatMap (Round.calls g))
      (fun halt _ x => BrokenOff fuel g halt x.1) { g with phase := .finishing }
      ([.called (.pendingOutputs g.actor.token g.record.groupId) (.ok pending)], s) := by
  have hpending : pending = (waitingAfter pending []).map Prod.fst := by
    simp [waitingAfter]
  nth_rewrite 1 [hpending]
  show Attempt.Ensures w.recorded fuel _ _ _ _
    ([.called (.pendingOutputs g.actor.token g.record.groupId) (.ok pending)] ++
      [].flatMap (Round.calls g), s)
  refine catchUp_recorded (g := { g with phase := .finishing }) hsound rfl .start _ ?_ ?_
  · intro rounds hcourse hle hend h s₂ hsound₂ hkeys
    exact ⟨rounds, ⟨hcourse, by simpa using hle, by simpa using hend, hkeys, rfl, rfl⟩, rfl, rfl⟩
  · intro rounds r hcourse hbegun hle halt h s₂ hcut hexhausted
    have haccount : Account g
        ([.called (.pendingOutputs g.actor.token g.record.groupId) (.ok pending)] ++
          (rounds ++ [r]).flatMap (Round.calls g) ++ []) pending (rounds ++ [r]) :=
      Account.of_fair (by simpa using hle) (hcourse.fair.snoc hbegun) (.inl rfl)
    rw [List.append_nil] at haccount
    refine ⟨?_, ?_, .inr ⟨pending, rounds ++ [r], haccount⟩⟩
    · rw [List.flatMap_append, List.flatMap_singleton, ← List.append_assoc]
      exact hcut.append _
    · intro hhalt
      refine ⟨r.fetches, hexhausted hhalt, ?_⟩
      rw [List.flatMap_append, List.flatMap_singleton, ← List.append_assoc]
      exact (List.suffix_append _ _).trans (List.suffix_append _ _)

theorem finishPending_recorded (hsound : g.record.history.Sound) :
    Attempt.Ensures w.recorded fuel finishPending
      (fun outcome g' x => ∃ pending rounds, Account g x.1 pending rounds ∧
        Concluded g x.1 pending rounds outcome g')
      (fun halt _ x => BrokenOff fuel g halt x.1) { g with phase := .finishing } ([], s) := by
  simp only [finishPending, Attempt.ensures_bind, Attempt.ensures_get]
  apply Attempt.ensures_recorded_request
  · intro (pending : List Output) s₁
    by_cases hempty : pending.isEmpty
    · rw [if_pos hempty]
      obtain rfl := List.isEmpty_iff.mp hempty
      have hcaught : CaughtUp g [] [] { g with phase := .finishing } :=
        ⟨.start, Nat.zero_le _, .inl rfl, rfl, rfl, rfl⟩
      have haccount := Account.of_fair hcaught.bounded hcaught.course.fair (.inl rfl)
      exact ⟨[], [], haccount, hcaught.concluded rfl⟩
    · rw [if_neg hempty]
      have hloop := @caughtUp_recorded _ w fuel _ hsound pending s₁
      simp only [Attempt.ensures_bind, Attempt.ensures_notice]
      refine hloop.mono ?_ fun _ _ _ h => h
      rintro _ g₂ ⟨_, s₂⟩ ⟨rounds, hcaught, rfl, rfl⟩
      simp only [Attempt.ensures_bind, Attempt.ensures_metric]
      by_cases hwait : ((waitingAfter pending rounds).map Prod.fst).isEmpty
      · simp only [if_pos hwait, modifyRecord, Attempt.ensures_bind, Attempt.ensures_get,
          Attempt.ensures_set, Attempt.ensures_notice]
        have hnoted : CaughtUp g pending rounds
            { g₂ with record := { g₂.record with keyUpdate := false } } :=
          ⟨hcaught.course, hcaught.bounded, hcaught.ended, hcaught.history, hcaught.config,
            hcaught.groupId⟩
        exact Attempt.ensures_bind.mp
          (hnoted.persist_recorded _ (by rw [outcomeOf, if_pos hwait]))
      · simp only [if_neg hwait, Attempt.ensures_bind, Attempt.ensures_notice]
        exact Attempt.ensures_bind.mp
          (hcaught.persist_recorded _ (by rw [outcomeOf, if_neg hwait]))
  · intro e s₁
    exact ⟨endsCut_failed e _, by simp [EndsSpent], .inl (.inr ⟨some (.error e), rfl⟩)⟩
  · intro s₁
    exact ⟨endsCut_dropped .cut _, by simp [EndsSpent], .inl (.inr ⟨none, rfl⟩)⟩

/-- What the calls of a finish run tell about it, and what its result tells about them. -/
structure Accounted (fuel : Nat) (g : Group) (r : Run Group S (Except Failure Outcome)) : Prop where
  cut : r.ending = .cut → ∃ q, r.calls.getLast? = some (.dropped q)
  exhausted : r.ending = .exhausted → ∃ fetches : List FetchCall, fetches.length = fuel ∧
    fetches.map (FetchCall.event g.actor.token g.record.groupId) <:+ r.calls
  account : (Unopened g r.calls ∧ ∀ outcome, r.ending ≠ .finished (.ok outcome)) ∨
    ∃ pending rounds, Account g r.calls pending rounds ∧
      ∀ outcome, r.ending = .finished (.ok outcome) →
        Concluded g r.calls pending rounds outcome r.state

theorem finish_recorded (hsound : g.record.history.Sound) :
    Attempt.Ensures w.recorded fuel finish
      (fun outcome g' x => ∃ pending rounds, Account g x.1 pending rounds ∧
        Concluded g x.1 pending rounds outcome g')
      (fun halt _ x => BrokenOff fuel g halt x.1) g ([], s) := by
  by_cases hphase : g.phase = .idle ∨ g.phase = .published
  · refine finish_of_finishPending hphase ((finishPending_recorded hsound).mono ?_ ?_)
    · rintro outcome g' x ⟨pending, rounds, haccount, hconcluded⟩
      exact ⟨pending, rounds, haccount, { hconcluded with history := hconcluded.history }⟩
    · intro halt g' x h
      cases halt with
      | failed e => exact h
      | cut => exact h
      | exhausted => exact h
  · have hrefused : ∀ e, BrokenOff fuel g (.failed e) [] :=
      fun e => ⟨endsCut_failed e _, by simp [EndsSpent], .inl (.inl rfl)⟩
    simp only [finish, Attempt.ensures_bind, Attempt.ensures_get]
    split
    · exact absurd (.inl ‹_›) hphase
    · exact absurd (.inr ‹_›) hphase
    · exact hrefused _

/-- Whatever the collaborators answer, a finish run goes through the pending outputs in at most as
many rounds as are allowed, and handles no place twice; and an outcome accounts for all of them. -/
theorem finish_accounts (w : World S) (fuel : Nat) (g : Group) (s : S)
    (hsound : g.record.history.Sound) :
    Accounted fuel g (Operation.finish.run w fuel g s) := by
  have hrecorded : Attempt.Ensures w.recorded fuel finish _ _ g ([], s) := finish_recorded hsound
  have hmeets := hrecorded.of_recorded rfl
  unfold Attempt.Meets at hmeets
  show Accounted fuel g (Group.finish.run.run w fuel g s)
  split at hmeets
  · rename_i outcome hending
    obtain ⟨pending, rounds, haccount, hconcluded⟩ := hmeets
    refine ⟨by simp [hending], by simp [hending], .inr ⟨pending, rounds, haccount, ?_⟩⟩
    rintro outcome' houtcome
    rw [hending] at houtcome
    injection houtcome with houtcome
    injection houtcome with houtcome
    exact houtcome ▸ hconcluded
  all_goals
    rename_i hending
    refine ⟨fun h => hmeets.cut (by simp_all), fun h => hmeets.spent (by simp_all), ?_⟩
    rcases hmeets.account with hunopened | ⟨pending, rounds, haccount⟩
    · exact .inl ⟨hunopened, by simp [hending]⟩
    · exact .inr ⟨pending, rounds, haccount, by simp [hending]⟩

theorem finish_accounts_sample :
    sampleMember.record.history.Sound ∧
      (∃ outcome g' s' trace, Operation.finish.run Memory.world 2 sampleMember sampleState =
        ⟨.finished (.ok outcome), g', s', trace⟩) ∧
      Accounted 2 sampleMember (Operation.finish.run Memory.world 2 sampleMember sampleState) := by
  have hsound : sampleMember.record.history.Sound := joined_sample.sound
  have hrun : Attempt.Ensures Memory.world 2 finish (fun _ _ _ => True) (fun _ _ _ => False)
      sampleMember sampleState :=
    finish_ensures Memory.follows_world ⟨joined_sample.undelayed, ⟨rfl, rfl, rfl⟩⟩
      (joined_sample.stands Memory.State.settled rfl) joined_sample.ready (Nat.le_refl 2)
      joined_sample.phase (fun _ _ _ _ => trivial) (fun _ _ _ _ _ _ _ => trivial) False.elim
  obtain ⟨outcome, g', s', trace, heq, -⟩ := hrun.exists_run
  exact ⟨hsound, ⟨outcome, g', s', trace, heq⟩, finish_accounts _ _ _ _ hsound⟩

end Keyring.Group
