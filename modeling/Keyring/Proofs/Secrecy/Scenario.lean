import Keyring.Community.Scenario
import Keyring.Proofs.Secrecy.Community

namespace Keyring

namespace Community

inductive Founding.Resembles : Founding → Founding → Prop where
  | mk (groupId : String) (rank : UInt32) {keys keys' : List Key}
      (hk : Key.ListResembles keys keys') (parentGroupId : Option String) (keyUpdate : Bool)
      (createTime joinedTime : Option UInt64) :
      Resembles ⟨groupId, rank, keys, parentGroupId, keyUpdate, createTime, joinedTime⟩
        ⟨groupId, rank, keys', parentGroupId, keyUpdate, createTime, joinedTime⟩

section Foundings

variable {f f' : Founding} {cm cm' : Community} {actor actor' : Actor}

theorem Founding.Resembles.record (h : f.Resembles f') :
    Agree Group.Record.Resembles f.record f'.record := by
  obtain ⟨groupId, rank, hk, parentGroupId, keyUpdate, createTime, joinedTime⟩ := h
  apply (Group.Record.agree_ofKeys hk).bind
  intro history history' hh
  have hmade := Group.Record.Resembles.make hh groupId rank
  dsimp only
  generalize Group.Record.make groupId rank history = r,
    Group.Record.make groupId rank history' = r' at hmade ⊢
  obtain ⟨_, _, _, _, _, _, hh⟩ := hmade
  exact .ok (.mk _ _ _ _ _ _ hh)

theorem Founding.Resembles.events_eq (h : f.Resembles f') :
    Event.signals f.events = Event.signals f'.events := by
  obtain ⟨groupId, rank, hk, parentGroupId, keyUpdate, createTime, joinedTime⟩ := h
  rw [events, events, hk.appended_eq]

theorem Resembles.found (h : cm.Resembles cm') (member store : String) (hf : f.Resembles f')
    (ha : actor.Resembles actor') (config : Config) :
    SameCourse (Agree Eq) (cm.found member store f actor config)
      (cm'.found member store f' actor' config) := by
  have hrecord := hf.record
  unfold Community.found
  generalize f.record = record, f'.record = record' at hrecord ⊢
  cases hrecord with
  | error e => exact ⟨.error e, rfl, h⟩
  | ok hr =>
      obtain ⟨hadded, hhandle⟩ := h.addCell (.mk (.mk hr ha config .idle) store)
      refine ⟨.ok rfl, hf.events_eq, ?_⟩
      dsimp only
      rw [hhandle]
      exact hadded.assign member _

theorem Resembles.foundRegistered (h : cm.Resembles cm') (member store : String)
    (hf : f.Resembles f') (ha : actor.Resembles actor') :
    SameCourse (Agree Eq) (cm.foundRegistered member store f actor)
      (cm'.foundRegistered member store f' actor') := by
  have hgroupId : f.groupId = f'.groupId := by
    obtain ⟨_, _, _, _, _, _, _⟩ := hf
    rfl
  obtain ⟨hresult, hsignals, hcommunity⟩ := h.found member store hf ha cm'.config
  unfold Community.foundRegistered
  rw [h.config_eq, h.cells.length_eq, hgroupId]
  generalize cm.found member store f actor cm'.config = founded,
    cm'.found member store f' actor' cm'.config = founded' at hresult hsignals hcommunity ⊢
  obtain ⟨r, events, next⟩ := founded
  obtain ⟨r', events', next'⟩ := founded'
  cases hresult with
  | error e => exact ⟨.error e, hsignals, hcommunity⟩
  | ok _ => exact ⟨.ok rfl, hsignals, hcommunity.enter store _ _⟩

theorem Resembles.foundLone (h : cm.Resembles cm') (store : String) (hf : f.Resembles f')
    (ha : actor.Resembles actor') (config : Config) :
    SameCourse (Agree Eq) (cm.foundLone store f actor config)
      (cm'.foundLone store f' actor' config) := by
  have hrecord := hf.record
  unfold Community.foundLone
  generalize f.record = record, f'.record = record' at hrecord ⊢
  cases hrecord with
  | error e => exact ⟨.error e, rfl, h⟩
  | ok hr =>
      exact ⟨.ok rfl, hf.events_eq, { h with lone := .some (.mk (.mk hr ha config .idle) store) }⟩

theorem Resembles.adjustLone (h : cm.Resembles cm') (rank : Option UInt32)
    (keyUpdate : Option Bool) :
    (cm.adjustLone rank keyUpdate).Resembles (cm'.adjustLone rank keyUpdate) := by
  refine { h with lone := ?_ }
  have hlone := h.lone
  unfold Community.adjustLone
  dsimp only
  generalize cm.lone = lone, cm'.lone = lone' at hlone ⊢
  cases hlone with
  | none => exact .none
  | some hc =>
      obtain ⟨⟨⟨_, _, _, _, _, _, hh⟩, ha, config, hp⟩, store⟩ := hc
      exact .some (.mk (.mk (.mk _ _ _ _ _ _ hh) ha config hp) store)

theorem Resembles.loadMember (h : cm.Resembles cm') (member store groupId : String)
    (ha : actor.Resembles actor') :
    SameCourse (Agree Eq) (cm.loadMember member store groupId actor)
      (cm'.loadMember member store groupId actor') := by
  obtain ⟨hending, hsignals, hcommunity⟩ := h.load store groupId ha
  unfold Community.loadMember
  generalize cm.load store groupId actor = loaded, cm'.load store groupId actor' = loaded'
    at hending hsignals hcommunity ⊢
  obtain ⟨ending, trace, next⟩ := loaded
  obtain ⟨ending', trace', next'⟩ := loaded'
  cases hending with
  | cut => exact ⟨.error _, hsignals, hcommunity⟩
  | exhausted => exact ⟨.error _, hsignals, hcommunity⟩
  | finished hr =>
      cases hr with
      | error e => exact ⟨.error e, hsignals, hcommunity⟩
      | ok hg =>
          obtain ⟨hadded, hhandle⟩ := hcommunity.addCell (.mk hg store)
          have hgroupId := hg.record.groupId_eq
          refine ⟨.ok hgroupId, hsignals, ?_⟩
          dsimp only
          rw [hhandle]
          exact hadded.assign member _

end Foundings

end Community

namespace Scenario

inductive Deed.Resembles : Deed → Deed → Prop where
  | same (deed : Deed) : Resembles deed deed
  | append {keys keys' : List Key} (hk : Key.ListResembles keys keys') :
      Resembles (.append keys) (.append keys')

inductive Step.Resembles : Step → Step → Prop where
  | pushKeys {keys keys' : List Key} (hk : Key.ListResembles keys keys') :
      Resembles (.pushKeys keys) (.pushKeys keys')
  | reveal (number : Nat) {keys keys' : List Key} (hk : Key.ListResembles keys keys') :
      Resembles (.reveal number keys) (.reveal number keys')
  | script {batches batches' : List (List Key)}
      (hb : List.Forall₂ Key.ListResembles batches batches') :
      Resembles (.script batches) (.script batches')
  | failFetches (failing : Bool) : Resembles (.failFetches failing) (.failFetches failing)
  | delayFetches (milliseconds : Nat) :
      Resembles (.delayFetches milliseconds) (.delayFetches milliseconds)
  | pushOutput (output : Rotation.Output) : Resembles (.pushOutput output) (.pushOutput output)
  | setSessionThreshold (keyCount : Nat) :
      Resembles (.setSessionThreshold keyCount) (.setSessionThreshold keyCount)
  | failPages (pages : List UInt64) : Resembles (.failPages pages) (.failPages pages)
  | pushJoin (request : JoinRequest) : Resembles (.pushJoin request) (.pushJoin request)
  | failDerivations (failing : Bool) :
      Resembles (.failDerivations failing) (.failDerivations failing)
  | plant (name : String) (fault : Memory.Fault) : Resembles (.plant name fault) (.plant name fault)
  | call {q q' : Request} {A : q.Answer → q'.Answer → Prop} (hq : Request.Resembles q q' A) :
      Resembles (.call q) (.call q')
  | write (store key : String) {text text' : String}
      (ht : Group.Record.TextResembles text text') :
      Resembles (.write store key text) (.write store key text')
  | hold : Resembles .hold .hold
  | look (member : String) : Resembles (.look member) (.look member)
  | found (member store : String) {f f' : Community.Founding} (hf : f.Resembles f')
      {actor actor' : Actor} (ha : actor.Resembles actor') (config : Config) :
      Resembles (.found member store f actor config) (.found member store f' actor' config)
  | foundRegistered (member store : String) {f f' : Community.Founding} (hf : f.Resembles f')
      {actor actor' : Actor} (ha : actor.Resembles actor') :
      Resembles (.foundRegistered member store f actor) (.foundRegistered member store f' actor')
  | foundLone (store : String) {f f' : Community.Founding} (hf : f.Resembles f')
      {actor actor' : Actor} (ha : actor.Resembles actor') (config : Config) :
      Resembles (.foundLone store f actor config) (.foundLone store f' actor' config)
  | load (member store groupId : String) {actor actor' : Actor} (ha : actor.Resembles actor') :
      Resembles (.load member store groupId actor) (.load member store groupId actor')
  | forget (member : String) : Resembles (.forget member) (.forget member)
  | openGroup (member store groupId : String) {actor actor' : Actor}
      (ha : actor.Resembles actor') :
      Resembles (.openGroup member store groupId actor) (.openGroup member store groupId actor')
  | openMany (store groupId : String) {actor actor' : Actor} (ha : actor.Resembles actor')
      (tasks : Nat) :
      Resembles (.openMany store groupId actor tasks) (.openMany store groupId actor' tasks)
  | lookUp (store groupId : String) : Resembles (.lookUp store groupId) (.lookUp store groupId)
  | remove (store groupId : String) : Resembles (.remove store groupId) (.remove store groupId)
  | act (member : Option String) {deed deed' : Deed} (hd : deed.Resembles deed') :
      Resembles (.act member deed) (.act member deed')
  | leave (member : String) : Resembles (.leave member) (.leave member)
  | adjustLone (rank : Option UInt32) (keyUpdate : Option Bool) :
      Resembles (.adjustLone rank keyUpdate) (.adjustLone rank keyUpdate)

/-- Events that tell the same, and communities left behind that differ in nothing but secret
material. -/
def SameEvents (r r' : List Event × Community) : Prop :=
  Event.signals r.1 = Event.signals r'.1 ∧ r.2.Resembles r'.2

section Steps

variable {cm cm' : Community}

theorem sameEvents_carryOut {α β : Type} {V : α → β → Prop} {deed : Community.Deed α}
    {deed' : Community.Deed β} (h : cm.Resembles cm')
    (hdeed : Community.Deed.Resembles V deed deed') (member : Option String) :
    SameEvents (carryOut member deed cm) (carryOut member deed' cm') := by
  have haftermath {done : Option (Ending α × List Event × Community)}
      {done' : Option (Ending β × List Event × Community)}
      (hdone : Option.Rel (Community.SameCourse (Ending.Rel V)) done done') :
      SameEvents (aftermath cm done) (aftermath cm' done') := by
    cases hdone with
    | none => exact ⟨rfl, h⟩
    | some hcourse => exact ⟨hcourse.signals_eq, hcourse.community⟩
  cases member with
  | none => exact haftermath (h.onLone hdeed)
  | some m => exact haftermath (h.onMember m hdeed)

theorem Deed.Resembles.perform {deed deed' : Deed} (hd : deed.Resembles deed')
    (h : cm.Resembles cm') (member : Option String) :
    SameEvents (deed.perform member cm) (deed'.perform member cm') := by
  have haction {α β : Type} {V : α → β → Prop} {a : Group.Action α} {b : Group.Action β}
      (ha : Group.Alike V a b) :
      SameEvents (carryOut member (.action a) cm) (carryOut member (.action b) cm') :=
    sameEvents_carryOut h (Community.Deed.resembles_action ha) member
  cases hd with
  | append hk => exact haction (Group.alike_append hk)
  | same =>
      cases deed with
      | operation op => exact sameEvents_carryOut h (Community.Deed.resembles_operation op) member
      | dropped limit op =>
          have hdropped := Community.Deed.resembles_dropped limit (Group.alike_action op)
          exact sameEvents_carryOut h hdropped member
      | fetchNew token threshold => exact haction (Group.alike_fetchNew token threshold)
      | transfer paging kind recipient recipientKey =>
          exact haction (Group.alike_transfer paging kind recipient recipientKey)
      | append keys => exact haction (Group.alike_append (.refl keys))
      | abandonFinish => exact haction Group.alike_abandonFinish

theorem Step.Resembles.perform {step step' : Step} (hs : step.Resembles step')
    (h : cm.Resembles cm') : SameEvents (step.perform cm) (step'.perform cm') := by
  have hcourse {α β : Type} {V : α → β → Prop} {r : α × List Event × Community}
      {r' : β × List Event × Community} (hr : Community.SameCourse V r r') :
      SameEvents r.2 r'.2 :=
    ⟨hr.signals_eq, hr.community⟩
  cases hs with
  | pushKeys hk =>
      exact ⟨rfl, { h with server := { h.server with log := List.rel_append h.server.log hk } }⟩
  | reveal number hk =>
      exact ⟨rfl, { h with server := { h.server with
        delayed := List.rel_append h.server.delayed (.cons ⟨rfl, hk⟩ .nil) } }⟩
  | script hb =>
      have hscripted := List.rel_append h.server.scripted hb
      exact ⟨rfl, { h with server := { h.server with scripted := hscripted } }⟩
  | failFetches failing =>
      exact ⟨rfl, { h with server := { h.server with failing_eq := rfl } }⟩
  | delayFetches milliseconds =>
      exact ⟨rfl, { h with server := { h.server with delay_eq := rfl } }⟩
  | pushOutput output =>
      have hpending := congrArg (· ++ [output]) h.server.pending_eq
      exact ⟨rfl, { h with server := { h.server with pending_eq := hpending } }⟩
  | setSessionThreshold keyCount =>
      exact ⟨rfl, { h with server := { h.server with sessionThreshold_eq := rfl } }⟩
  | failPages pages =>
      have hfailing := congrArg (· ++ pages) h.server.failingPages_eq
      exact ⟨rfl, { h with server := { h.server with failingPages_eq := hfailing } }⟩
  | pushJoin request =>
      have hjoins := congrArg (· ++ [request]) h.server.joinRequests_eq
      exact ⟨rfl, { h with server := { h.server with joinRequests_eq := hjoins } }⟩
  | failDerivations failing =>
      have hengine := congrArg (fun e : Memory.Engine => { e with failing }) h.engine_eq
      exact ⟨rfl, { h with engine_eq := hengine }⟩
  | plant name fault =>
      exact ⟨rfl, { h with faults_eq := congrArg (·.plant name fault) h.faults_eq }⟩
  | call hq => exact hcourse (h.call hq)
  | write store key ht => exact ⟨rfl, h.write store key ht⟩
  | hold => exact ⟨rfl, h.hold⟩
  | look member => exact ⟨rfl, h.look member⟩
  | found member store hf ha config => exact hcourse (h.found member store hf ha config)
  | foundRegistered member store hf ha => exact hcourse (h.foundRegistered member store hf ha)
  | foundLone store hf ha config => exact hcourse (h.foundLone store hf ha config)
  | load member store groupId ha => exact hcourse (h.loadMember member store groupId ha)
  | forget member => exact ⟨rfl, h.forget member⟩
  | openGroup member store groupId ha => exact hcourse (h.openMember member store groupId ha)
  | openMany store groupId ha tasks => exact hcourse (h.openMany store groupId ha tasks)
  | lookUp store groupId => exact ⟨rfl, h.hold⟩
  | remove store groupId => exact ⟨rfl, h.remove store groupId⟩
  | act member hd => exact hd.perform h member
  | leave member =>
      have hleave := h.leave member
      rw [Step.perform, Step.perform]
      generalize cm.leave member = left, cm'.leave member = left' at hleave ⊢
      cases hleave with
      | none => exact ⟨rfl, h⟩
      | @some r r' hr =>
          obtain ⟨done, next⟩ := r
          obtain ⟨done', next'⟩ := r'
          obtain ⟨hdone, hnext⟩ := hr
          cases hdone with
          | none => exact ⟨rfl, hnext⟩
          | some hsignals => exact ⟨hsignals, hnext⟩
  | adjustLone rank keyUpdate => exact ⟨rfl, h.adjustLone rank keyUpdate⟩

theorem sameEvents_performAll {steps steps' : List Step}
    (hs : List.Forall₂ Step.Resembles steps steps') (h : cm.Resembles cm') :
    SameEvents (performAll steps cm) (performAll steps' cm') := by
  induction hs generalizing cm cm' with
  | nil => exact ⟨rfl, h⟩
  | cons hstep _ ih =>
      obtain ⟨hfirst, hnext⟩ := hstep.perform h
      obtain ⟨hmore, hlast⟩ := ih hnext
      refine ⟨?_, hlast⟩
      rw [performAll, performAll]
      dsimp only
      rw [Event.signals_append, Event.signals_append, hfirst, hmore]

end Steps

/-- Two scenarios that differ in nothing but secret material. -/
structure Resembles (s s' : Scenario) : Prop where
  config_eq : s.config = s'.config
  plain_eq : s.plain = s'.plain
  serverKeys : Key.ListResembles s.serverKeys s'.serverKeys
  steps : List.Forall₂ Step.Resembles s.steps s'.steps

variable {s s' : Scenario}

theorem Resembles.start (h : s.Resembles s') : s.start.Resembles s'.start := by
  have hserver : Memory.Server.Resembles { log := s.serverKeys } { log := s'.serverKeys } := by
    constructor
    · exact h.serverKeys
    · exact .nil
    · exact .nil
    all_goals rfl
  constructor
  · exact h.config_eq
  · exact hserver
  · exact congrArg (fun plain => ({ plain } : Memory.Engine)) h.plain_eq
  · rfl
  · rfl
  · exact .nil
  · rfl
  · exact .nil
  · rfl
  · exact .none

theorem Resembles.signals_eq (h : s.Resembles s') : s.signals = s'.signals :=
  (sameEvents_performAll h.steps h.start).1

/-- Secret material never reaches the log or the measurements. -/
theorem log_keeps_secrets (h : s.Resembles s') :
    (∀ threshold, s.log threshold = s'.log threshold) ∧
      Metric.totals s.metrics = Metric.totals s'.metrics ∧
        Metric.samples s.metrics = Metric.samples s'.metrics := by
  refine ⟨fun threshold => ?_, ?_, ?_⟩
  · rw [log, log, h.signals_eq]
  · rw [metrics, metrics, h.signals_eq]
  · rw [metrics, metrics, h.signals_eq]

/-- A member comes up with a rotation and stores what there is then; another one loads it. The
secret is the material of all keys, the private key that of the member. -/
def catchingUp (secret privateKey : String) : Scenario where
  config := {}
  plain := false
  serverKeys := [⟨"k0", secret, secret, secret, 1⟩]
  steps := [
    .found "alice" "main" { groupId := "g", rank := 0, keys := [⟨"k0", secret, secret, secret, 1⟩] }
      ⟨"alice", "public", privateKey, "token"⟩ {},
    .pushKeys [⟨"k1", secret, secret, secret, 2⟩],
    .pushOutput ⟨"k0", "output"⟩,
    .act (some "alice") (.operation .finish),
    .load "bob" "main" "g" ⟨"bob", "public", privateKey, "token"⟩]

theorem catchingUp_resembles {secret secret' : String}
    (h : Json.encodedSize secret = Json.encodedSize secret') (privateKey privateKey' : String) :
    (catchingUp secret privateKey).Resembles (catchingUp secret' privateKey') := by
  have hkeys (id : String) (time : UInt64) : Key.ListResembles
      [⟨id, secret, secret, secret, time⟩] [⟨id, secret', secret', secret', time⟩] :=
    .cons ⟨rfl, h, h, h, rfl⟩ .nil
  refine ⟨rfl, rfl, hkeys _ _, ?_⟩
  have hactor (userId : String) :
      Actor.Resembles ⟨userId, "public", privateKey, "token"⟩
        ⟨userId, "public", privateKey', "token"⟩ :=
    .mk _ _ _ _ _ _
  refine .cons (.found _ _ (.mk _ _ (hkeys _ _) _ _ _ _) (hactor _) _) ?_
  refine .cons (.pushKeys (hkeys _ _)) (.cons (.pushOutput _) ?_)
  exact .cons (.act _ (.same _)) (.cons (.load _ _ _ (hactor _)) .nil)

theorem log_keeps_secrets_finish :
    Json.encodedSize "line\n" = Json.encodedSize "secret" ∧
      (∀ threshold, (catchingUp "line\n" "mine").log threshold =
        (catchingUp "secret" "another").log threshold) ∧
      Metric.totals (catchingUp "line\n" "mine").metrics =
        Metric.totals (catchingUp "secret" "another").metrics ∧
      Metric.samples (catchingUp "line\n" "mine").metrics =
        Metric.samples (catchingUp "secret" "another").metrics := by
  have hsize : Json.encodedSize "line\n" = Json.encodedSize "secret" := by decide
  exact ⟨hsize, log_keeps_secrets (catchingUp_resembles hsize _ _)⟩

end Scenario

end Keyring
