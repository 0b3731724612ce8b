import Keyring.Config.Environment

namespace Keyring.Config

/-- The environment of variables that are set to bytes. A variable that is no text counts as one
that is not set. -/
def Environment.ofBytes (bytes : String → Option ByteArray) : Environment :=
  fun name => (bytes name).bind String.fromUTF8?

/-- A setting that has a variable. -/
inductive Setting where
  | pageSize
  | fetchThreshold
  | boundary
  | maxRounds
  | timeout
  | invite
  | joinRequests
  | rotation
  | space
  | level
  | asJson
  deriving DecidableEq, Repr

namespace Setting

/-- The settings in the order of their variables. -/
def all : List Setting :=
  [pageSize, fetchThreshold, boundary, maxRounds, timeout, invite, joinRequests, rotation, space,
    level, asJson]

def Value : Setting → Type
  | pageSize | fetchThreshold => UInt64
  | boundary => Page.Boundary
  | maxRounds | invite | joinRequests | rotation => UInt32
  | timeout => Duration
  | space | level => String
  | asJson => Bool

/-- The name of the variable of a setting. -/
def variableName : Setting → String
  | pageSize => "GROUPKEY_KEYS_PAGE_SIZE"
  | fetchThreshold => "GROUPKEY_KEYS_FETCH_BATCH_THRESHOLD"
  | boundary => "GROUPKEY_KEYS_PAGE_BOUNDARY"
  | maxRounds => "GROUPKEY_ROTATION_MAX_ROUNDS"
  | timeout => "GROUPKEY_ROTATION_FINISH_TIMEOUT"
  | invite => "GROUPKEY_RANKS_INVITE"
  | joinRequests => "GROUPKEY_RANKS_JOIN_REQUESTS"
  | rotation => "GROUPKEY_RANKS_ROTATION"
  | space => "GROUPKEY_STORE_NAMESPACE"
  | level => "GROUPKEY_LOG_LEVEL"
  | asJson => "GROUPKEY_LOG_JSON"

/-- The value that a text stands for, or the reason why it stands for none. -/
def read (wording : String → String) : (x : Setting) → String → Except String x.Value
  | pageSize, s | fetchThreshold, s => readWord64 s
  | boundary, s => readBoundary s
  | maxRounds, s | invite, s | joinRequests, s | rotation, s => readWord32 s
  | timeout, s => readDuration wording s
  | space, s | level, s => .ok s
  | asJson, s => readBool s

/-- What is told of a variable that cannot be read. -/
def complaint : Setting → String → String
  | timeout, reason => "Invalid finish timeout: " ++ reason
  | x, reason => x.variableName ++ ": " ++ reason

def get : (x : Setting) → Config → x.Value
  | pageSize, c => c.keys.pageSize
  | fetchThreshold, c => c.keys.fetchThreshold
  | boundary, c => c.keys.boundary
  | maxRounds, c => c.rotation.maxRounds
  | timeout, c => c.rotation.timeout
  | invite, c => c.ranks.invite
  | joinRequests, c => c.ranks.joinRequests
  | rotation, c => c.ranks.rotation
  | space, c => c.store.space
  | level, c => c.logging.level
  | asJson, c => c.logging.asJson

def put : (x : Setting) → Config → x.Value → Config
  | pageSize, c, n => { c with keys := { c.keys with pageSize := n } }
  | fetchThreshold, c, n => { c with keys := { c.keys with fetchThreshold := n } }
  | boundary, c, b => { c with keys := { c.keys with boundary := b } }
  | maxRounds, c, n => { c with rotation := { c.rotation with maxRounds := n } }
  | timeout, c, d => { c with rotation := { c.rotation with timeout := d } }
  | invite, c, n => { c with ranks := { c.ranks with invite := n } }
  | joinRequests, c, n => { c with ranks := { c.ranks with joinRequests := n } }
  | rotation, c, n => { c with ranks := { c.ranks with rotation := n } }
  | space, c, s => { c with store := { c.store with space := s } }
  | level, c, s => { c with logging := { c.logging with level := s } }
  | asJson, c, b => { c with logging := { c.logging with asJson := b } }

variable {wording : String → String} {c c' : Config} {x y : Setting}

theorem mem_all (x : Setting) : x ∈ all := by
  cases x <;> decide

theorem get_put_self (x : Setting) (c : Config) (v : x.Value) : x.get (x.put c v) = v := by
  cases x <;> rfl

theorem get_put_of_ne (hne : x ≠ y) (c : Config) (v : x.Value) : y.get (x.put c v) = y.get c := by
  cases x <;> cases y <;> first | rfl | exact absurd rfl hne

theorem put_get_self (x : Setting) (c : Config) : x.put c (x.get c) = c := by
  cases x <;> rfl

theorem withTimestamp_put (x : Setting) (c : Config) (v : x.Value) :
    (x.put c v).logging.withTimestamp = c.logging.withTimestamp := by
  cases x <;> rfl

theorem withTarget_put (x : Setting) (c : Config) (v : x.Value) :
    (x.put c v).logging.withTarget = c.logging.withTarget := by
  cases x <;> rfl

/-- The settings that have a variable, and the two that have none, make up a configuration. -/
theorem eq_of_get_eq (hget : ∀ x : Setting, x.get c = x.get c')
    (htimestamp : c.logging.withTimestamp = c'.logging.withTimestamp)
    (htarget : c.logging.withTarget = c'.logging.withTarget) : c = c' := by
  obtain ⟨⟨_, _, _⟩, ⟨_, _⟩, ⟨_, _, _⟩, ⟨_⟩, ⟨_, _, _, _⟩⟩ := c
  obtain ⟨⟨_, _, _⟩, ⟨_, _⟩, ⟨_, _, _⟩, ⟨_⟩, ⟨_, _, _, _⟩⟩ := c'
  obtain rfl := hget pageSize
  obtain rfl := hget fetchThreshold
  obtain rfl := hget boundary
  obtain rfl := hget maxRounds
  obtain rfl := hget timeout
  obtain rfl := hget invite
  obtain rfl := hget joinRequests
  obtain rfl := hget rotation
  obtain rfl := hget space
  obtain rfl := hget level
  obtain rfl := hget asJson
  obtain rfl := htimestamp
  obtain rfl := htarget
  rfl

/-- The override of a setting by its variable. -/
def override (wording : String → String) (x : Setting) : Override where
  name := x.variableName
  set s c :=
    match x.read wording s with
    | .ok v => .ok (x.put c v)
    | .error reason => .error (.invalidValue (x.complaint reason))

theorem override_eq_read (hne : x ≠ timeout) :
    x.override wording = .read x.variableName (x.read wording) x.put := by
  have hcomplaint : ∀ reason, x.complaint reason = x.variableName ++ ": " ++ reason := by
    cases x <;> first | exact fun _ => rfl | exact absurd rfl hne
  refine congrArg (Override.mk _) (funext fun s => funext fun c => ?_)
  cases x.read wording s with
  | ok v => rfl
  | error reason => simp only [hcomplaint]

theorem override_timeout : timeout.override wording = {
    name := "GROUPKEY_ROTATION_FINISH_TIMEOUT"
    set := fun s c =>
      match readDuration wording s with
      | .ok d => .ok { c with rotation := { c.rotation with timeout := d } }
      | .error reason => .error (.invalidValue ("Invalid finish timeout: " ++ reason)) } := by
  refine congrArg (Override.mk _) (funext fun s => funext fun c => ?_)
  simp only [read]
  cases readDuration wording s <;> rfl

theorem overrides_eq (wording : String → String) :
    overrides wording = all.map (override wording) := by
  simp only [all, List.map_cons, List.map_nil, override_timeout, override_eq_read, ne_eq,
    reduceCtorEq, not_false_eq_true]
  rfl

section Variables

variable (wording : String → String) (env : Environment) (c : Config)

/-- Whether the variable of a setting is not set or can be read. -/
def Readable (x : Setting) : Prop :=
  ∀ s, env x.variableName = some s → ∃ v, x.read wording s = .ok v

/-- The value that a setting is to get, where its variable can be read. -/
def valueIn (x : Setting) : x.Value :=
  match env x.variableName with
  | none => x.get c
  | some s =>
    match x.read wording s with
    | .ok v => v
    | .error _ => x.get c

/-- The configuration in which some settings have the values that their variables give them. -/
def overlay (xs : List Setting) : Config :=
  xs.foldl (fun c x => x.put c (x.valueIn wording env c)) c

/-- What the variables of some settings do, one after the other. -/
def applyAll (xs : List Setting) : Except Fault Config :=
  xs.foldlM (fun c x => (x.override wording).apply env c) c

theorem applyEnvironment_eq : applyEnvironment wording env c = applyAll wording env c all := by
  rw [applyEnvironment, overrides_eq, List.foldlM_map, applyAll]

variable {wording env c}

theorem valueIn_of_set {s : String} {v : x.Value} (hset : env x.variableName = some s)
    (hread : x.read wording s = .ok v) : x.valueIn wording env c = v := by
  simp only [valueIn, hset, hread]

theorem valueIn_of_unset (hunset : env x.variableName = none) :
    x.valueIn wording env c = x.get c := by
  simp only [valueIn, hunset]

variable (wording env c)

theorem apply_cases (x : Setting) :
    (x.Readable wording env ∧
        (x.override wording).apply env c = .ok (x.put c (x.valueIn wording env c))) ∨
      ∃ s reason, env x.variableName = some s ∧ x.read wording s = .error reason ∧
        (x.override wording).apply env c = .error (.invalidValue (x.complaint reason)) := by
  rw [Override.apply, valueIn, override]
  cases hset : env x.variableName with
  | none =>
      refine .inl ⟨fun s hs => ?_, congrArg Except.ok (x.put_get_self c).symm⟩
      rw [hset] at hs
      exact nomatch hs
  | some s =>
      dsimp only
      cases hread : x.read wording s with
      | ok v =>
          refine .inl ⟨fun s' hs => ?_, rfl⟩
          rw [hset] at hs
          exact ⟨v, Option.some.inj hs ▸ hread⟩
      | error reason => exact .inr ⟨s, reason, rfl, hread, rfl⟩

/-- Either all variables can be read, or one cannot while those before it can. -/
theorem applyAll_cases (xs : List Setting) :
    ((∀ x ∈ xs, x.Readable wording env) ∧
        applyAll wording env c xs = .ok (overlay wording env c xs)) ∨
      ∃ front x back s reason, xs = front ++ x :: back ∧
        (∀ y ∈ front, y.Readable wording env) ∧
        env x.variableName = some s ∧ x.read wording s = .error reason ∧
        applyAll wording env c xs = .error (.invalidValue (x.complaint reason)) := by
  induction xs generalizing c with
  | nil => exact .inl ⟨by simp, rfl⟩
  | cons x rest ih =>
      rw [applyAll, List.foldlM_cons]
      rcases apply_cases wording env c x with ⟨hx, happly⟩ | ⟨s, reason, hset, hread, happly⟩
      · rw [happly]
        rcases ih (x.put c (x.valueIn wording env c)) with ⟨hrest, hfold⟩ | hrefused
        · exact .inl ⟨List.forall_mem_cons.mpr ⟨hx, hrest⟩, hfold⟩
        · obtain ⟨front, y, back, s, reason, rfl, hfront, hset, hread, hfold⟩ := hrefused
          exact .inr ⟨x :: front, y, back, s, reason, rfl,
            List.forall_mem_cons.mpr ⟨hx, hfront⟩, hset, hread, hfold⟩
      · rw [happly]
        exact .inr ⟨[], x, rest, s, reason, rfl, by simp, hset, hread, rfl⟩

theorem valueIn_put (x y : Setting) :
    y.valueIn wording env (x.put c (x.valueIn wording env c)) = y.valueIn wording env c := by
  by_cases hxy : x = y
  · subst hxy
    cases hset : env x.variableName with
    | none => simp only [valueIn, hset, get_put_self]
    | some s => cases hread : x.read wording s <;> simp only [valueIn, hset, hread, get_put_self]
  · simp only [valueIn, get_put_of_ne hxy]

theorem get_overlay (xs : List Setting) (y : Setting) :
    y.get (overlay wording env c xs) = if y ∈ xs then y.valueIn wording env c else y.get c := by
  induction xs generalizing c with
  | nil => rfl
  | cons x rest ih =>
      have hstep : overlay wording env c (x :: rest) =
          overlay wording env (x.put c (x.valueIn wording env c)) rest := rfl
      rw [hstep, ih, valueIn_put]
      by_cases hxy : x = y
      · subst hxy
        simp [get_put_self]
      · simp [get_put_of_ne hxy, Ne.symm hxy]

theorem logging_overlay (xs : List Setting) :
    (overlay wording env c xs).logging.withTimestamp = c.logging.withTimestamp ∧
      (overlay wording env c xs).logging.withTarget = c.logging.withTarget := by
  induction xs generalizing c with
  | nil => exact ⟨rfl, rfl⟩
  | cons x rest ih =>
      have hrest := ih (x.put c (x.valueIn wording env c))
      rwa [withTimestamp_put, withTarget_put] at hrest

end Variables

end Setting

open Setting

/-- What an environment makes of a configuration. -/
structure Overridden (wording : String → String) (env : Environment) (c : Config) : Prop where
  ok_iff : (∃ c', applyEnvironment wording env c = .ok c') ↔
    ∀ x : Setting, x.Readable wording env
  changed : ∀ c', applyEnvironment wording env c = .ok c' → ∀ (x : Setting) (s : String),
    env x.variableName = some s → x.read wording s = .ok (x.get c')
  kept : ∀ c', applyEnvironment wording env c = .ok c' → ∀ x : Setting,
    env x.variableName = none → x.get c' = x.get c
  logging : ∀ c', applyEnvironment wording env c = .ok c' →
    c'.logging.withTimestamp = c.logging.withTimestamp ∧
      c'.logging.withTarget = c.logging.withTarget
  again : ∀ c', applyEnvironment wording env c = .ok c' →
    applyEnvironment wording env c' = .ok c'
  refused : ∀ e, applyEnvironment wording env c = .error e → ∃ front x back s reason,
    Setting.all = front ++ x :: back ∧ (∀ y ∈ front, y.Readable wording env) ∧
      env x.variableName = some s ∧ x.read wording s = .error reason ∧
      e = .invalidValue (x.complaint reason)

variable {wording : String → String} {env : Environment} {c c' : Config}

theorem applyEnvironment_eq_ok_iff : applyEnvironment wording env c = .ok c' ↔
    (∀ x : Setting, x.Readable wording env) ∧ c' = overlay wording env c Setting.all := by
  rw [applyEnvironment_eq]
  rcases applyAll_cases wording env c Setting.all with ⟨hall, hfold⟩ | hrefused
  · rw [hfold, Except.ok.injEq, and_iff_right fun x => hall x x.mem_all]
    exact eq_comm
  · obtain ⟨front, x, back, s, reason, -, -, hset, hread, hfold⟩ := hrefused
    rw [hfold]
    refine ⟨nofun, fun ⟨hall, _⟩ => ?_⟩
    obtain ⟨v, hv⟩ := hall x s hset
    rw [hread] at hv
    exact nomatch hv

variable (wording env c)

theorem get_overlay_all (x : Setting) :
    x.get (overlay wording env c Setting.all) = x.valueIn wording env c := by
  rw [get_overlay, if_pos x.mem_all]

theorem overlay_overlay :
    overlay wording env (overlay wording env c Setting.all) Setting.all =
      overlay wording env c Setting.all := by
  obtain ⟨htimestamp, htarget⟩ :=
    logging_overlay wording env (overlay wording env c Setting.all) Setting.all
  refine Setting.eq_of_get_eq (fun x => ?_) htimestamp htarget
  rw [get_overlay_all]
  cases hset : env x.variableName with
  | none => exact valueIn_of_unset hset
  | some s =>
      cases hread : x.read wording s with
      | ok v => rw [valueIn_of_set hset hread, get_overlay_all, valueIn_of_set hset hread]
      | error reason => simp only [valueIn, hset, hread]

theorem overridden : Overridden wording env c where
  ok_iff := by
    constructor
    · rintro ⟨c', hok⟩
      exact (applyEnvironment_eq_ok_iff.mp hok).1
    · exact fun hall => ⟨_, applyEnvironment_eq_ok_iff.mpr ⟨hall, rfl⟩⟩
  changed c' hok x s hset := by
    obtain ⟨hall, rfl⟩ := applyEnvironment_eq_ok_iff.mp hok
    obtain ⟨v, hread⟩ := hall x s hset
    rw [get_overlay_all, valueIn_of_set hset hread, hread]
  kept c' hok x hunset := by
    obtain ⟨-, rfl⟩ := applyEnvironment_eq_ok_iff.mp hok
    rw [get_overlay_all, valueIn_of_unset hunset]
  logging c' hok := by
    obtain ⟨-, rfl⟩ := applyEnvironment_eq_ok_iff.mp hok
    exact logging_overlay wording env c Setting.all
  again c' hok := by
    obtain ⟨hall, rfl⟩ := applyEnvironment_eq_ok_iff.mp hok
    exact applyEnvironment_eq_ok_iff.mpr ⟨hall, (overlay_overlay wording env c).symm⟩
  refused e herror := by
    rw [applyEnvironment_eq] at herror
    rcases applyAll_cases wording env c Setting.all with ⟨-, hfold⟩ | hrefused
    · rw [hfold] at herror
      exact nomatch herror
    · obtain ⟨front, x, back, s, reason, hsplit, hfront, hset, hread, hfold⟩ := hrefused
      rw [hfold] at herror
      exact ⟨front, x, back, s, reason, hsplit, hfront, hset, hread, (Except.error.inj herror).symm⟩

end Keyring.Config
