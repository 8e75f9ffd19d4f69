import EditorialDesk.Settings
import Mathlib.Tactic.Lemma

/-!
# One client for all uses

The connection through a history in which its settings are changed and it is used, with
any service that makes clients. The service may keep a state, and it may refuse to make a
client. A use that fails leaves the connection as it was, so that a later one can succeed;
the first client that is made answers all uses from then on.
-/
namespace EditorialDesk

namespace ConnectionSettings

/-- The names of the settings. -/
inductive Variable where
  | url
  | publicKey
  | adminKey
deriving DecidableEq, Repr

variable {s : ConnectionSettings}

def get (s : ConnectionSettings) : Variable → Value
  | .url => s.url
  | .publicKey => s.publicKey
  | .adminKey => s.adminKey

def assign (s : ConnectionSettings) (x : Variable) (v : Value) : ConnectionSettings :=
  match x with
  | .url => { s with url := v }
  | .publicKey => { s with publicKey := v }
  | .adminKey => { s with adminKey := v }

lemma get_assign (s : ConnectionSettings) (x y : Variable) (v : Value) :
    (s.assign x v).get y = if x = y then v else s.get y := by
  cases x <;> cases y <;> rfl

/-- The key that a connection is opened with. -/
def key (s : ConnectionSettings) : Value := if s.adminKey.isPresent then s.adminKey else s.publicKey

/-- The key is looked for before the address. -/
lemma open?_of_keyless (hadmin : s.adminKey.isPresent = false)
    (hpublic : s.publicKey.isPresent = false) : s.open? = .error .keyMissing := by
  simp [open?, hadmin, hpublic]

lemma open?_of_urlless (hkey : s.key.isPresent = true) (hurl : s.url.isPresent = false) :
    s.open? = .error .urlMissing := by
  unfold key at hkey
  simp [open?, hkey, hurl]

lemma open?_of_complete (hkey : s.key.isPresent = true) (hurl : s.url.isPresent = true) :
    s.open? = .ok ⟨s.url, s.key⟩ := by
  unfold key at hkey ⊢
  simp [open?, hkey, hurl]

end ConnectionSettings

namespace Connection

open ConnectionSettings (Variable open?_of_keyless open?_of_urlless open?_of_complete)

/-- A step of a history. -/
inductive Step where
  | assign (x : Variable) (text : String)
  | use
deriving DecidableEq, Repr

/-- What a step assigns to a variable. -/
def Step.assigned? (x : Variable) : Step → Option String
  | assign y text => if y = x then some text else none
  | use => none

/-- The value of a variable after a history: what was assigned to it last, if anything was. -/
def current (s : ConnectionSettings) (steps : List Step) (x : Variable) : Value :=
  ((steps.filterMap (Step.assigned? x)).getLast?.map Value.text).getD (s.get x)

/-- The settings that an environment and a history come to. -/
def settingsAfter (env : Environment) (steps : List Step) : ConnectionSettings where
  url := current (.ofEnvironment env) steps .url
  publicKey := current (.ofEnvironment env) steps .publicKey
  adminKey := current (.ofEnvironment env) steps .adminKey

/-- Why a use ends without a client. -/
inductive UseFault (ε : Type) where
  | missing (fault : ConnectionFault)
  | refused (e : ε)

/-- What makes clients for addresses and keys, or refuses to. -/
abbrev Maker (Client ε σ : Type) : Type := Opened → σ → Except ε Client × σ

/-- One request for a client, and what became of it. -/
structure Creation (Client ε : Type) where
  opened : Opened
  answer : Except ε Client

/-- The request failed. -/
def Creation.Failed {Client ε : Type} (c : Creation Client ε) : Prop := ∃ e, c.answer = .error e

/-- A connection with the client that is kept for it, and with the service that makes clients. -/
structure Live (Client ε σ : Type) where
  connection : Connection
  client : Option Client
  service : σ
  /-- The requests for clients so far, oldest first. -/
  creations : List (Creation Client ε)

namespace Live

variable {Client ε σ : Type} {create : Maker Client ε σ} {l : Live Client ε σ} {x : Client}

def ofEnvironment (env : Environment) (service : σ) : Live Client ε σ :=
  ⟨.ofEnvironment env, none, service, []⟩

/-- Uses the connection. Where it is only now to be opened a client is made for it; if that fails
the connection is not open. -/
def use (create : Maker Client ε σ) (l : Live Client ε σ) :
    Except (UseFault ε) Client × Live Client ε σ :=
  match l.connection.use with
  | (.error fault, c) => (.error (.missing fault), { l with connection := c })
  | (.ok o, c) =>
    match l.client with
    | some x => (.ok x, { l with connection := c })
    | none =>
      match create o l.service with
      | (.ok x, service) => (.ok x, ⟨c, some x, service, l.creations ++ [⟨o, .ok x⟩]⟩)
      | (.error e, service) =>
        (.error (.refused e),
          { l with service := service, creations := l.creations ++ [⟨o, .error e⟩] })

def step (create : Maker Client ε σ) (l : Live Client ε σ) : Step → Live Client ε σ
  | .assign x text =>
    { l with connection := l.connection.configure (l.connection.settings.assign x (.text text)) }
  | .use => (l.use create).2

/-- The connection after a history. -/
def after (create : Maker Client ε σ) (l : Live Client ε σ) (steps : List Step) :
    Live Client ε σ :=
  steps.foldl (step create) l

/-- A client is kept as long as the connection is open. It is what the last request was answered
with, and all requests before it failed. -/
structure Sound (l : Live Client ε σ) : Prop where
  opened : l.connection.opened.isSome = l.client.isSome
  creations : ∃ failed, (∀ c ∈ failed, c.Failed) ∧
    match l.client with
    | none => l.creations = failed
    | some x => ∃ o, l.creations = failed ++ [⟨o, .ok x⟩]

lemma sound_ofEnvironment (env : Environment) (service : σ) :
    (ofEnvironment env service : Live Client ε σ).Sound :=
  ⟨rfl, [], fun _ hc => absurd hc List.not_mem_nil, rfl⟩

lemma Sound.use_of_client (h : l.Sound) (hx : l.client = some x) :
    l.use create = (.ok x, l) := by
  obtain ⟨o, ho⟩ : ∃ o, l.connection.opened = some o :=
    Option.isSome_iff_exists.1 (by rw [h.opened, hx]; rfl)
  have huse : l.connection.use = (.ok o, l.connection) := by rw [Connection.use, ho]
  unfold use
  rw [huse, hx]
  dsimp only
  rw [← hx]

/-- Without a client the settings decide whether one is asked for. -/
lemma Sound.connection_use (h : l.Sound) (hx : l.client = none) :
    l.connection.use =
      match l.connection.settings.open? with
      | .ok o => (.ok o, ⟨l.connection.settings, some o⟩)
      | .error fault => (.error fault, l.connection) := by
  have ho : l.connection.opened = none := by
    rw [← Option.not_isSome_iff_eq_none, h.opened, hx]
    exact Bool.false_ne_true
  rcases hs : l.connection.settings.open? with fault | o <;> simp only [Connection.use, ho, hs]

/-- Where something is missing from the settings a use changes nothing. -/
lemma Sound.use_of_missing (h : l.Sound) (hx : l.client = none) {fault : ConnectionFault}
    (hs : l.connection.settings.open? = .error fault) :
    l.use create = (.error (.missing fault), l) := by
  unfold use
  rw [h.connection_use hx, hs]

lemma Sound.use_of_open (h : l.Sound) (hx : l.client = none) {o : Opened}
    (hs : l.connection.settings.open? = .ok o) :
    l.use create =
      match create o l.service with
      | (.ok x, service) =>
        (.ok x, ⟨⟨l.connection.settings, some o⟩, some x, service, l.creations ++ [⟨o, .ok x⟩]⟩)
      | (.error e, service) =>
        (.error (.refused e),
          { l with service := service, creations := l.creations ++ [⟨o, .error e⟩] }) := by
  unfold use
  rw [h.connection_use hx, hs]
  dsimp only
  rw [hx]

lemma Sound.step (h : l.Sound) (st : Step) : (l.step create st).Sound := by
  cases st with
  | assign x text => exact ⟨h.opened, h.creations⟩
  | use =>
    change (l.use create).2.Sound
    cases hx : l.client with
    | some x =>
      rw [h.use_of_client hx]
      exact h
    | none =>
      cases hs : l.connection.settings.open? with
      | error fault =>
        rw [h.use_of_missing hx hs]
        exact h
      | ok o =>
        obtain ⟨failed, hfailed, hcreations⟩ := h.creations
        rw [hx] at hcreations
        rw [h.use_of_open hx hs]
        rcases create o l.service with ⟨e | x, service⟩
        · refine ⟨h.opened, l.creations ++ [⟨o, .error e⟩], fun c hc => ?_, ?_⟩
          · rcases List.mem_append.1 hc with hc | hc
            · exact hfailed c (hcreations ▸ hc)
            · exact ⟨e, by rw [List.mem_singleton.1 hc]⟩
          · dsimp only
            rw [hx]
        · exact ⟨rfl, failed, hfailed, o, by rw [hcreations]⟩

lemma Sound.after (h : l.Sound) (steps : List Step) : (l.after create steps).Sound := by
  induction steps generalizing l with
  | nil => exact h
  | cons st rest ih => exact ih (h.step st)

/-- A client that is kept is kept, and no other is asked for. -/
lemma Sound.kept_after (h : l.Sound) (hx : l.client = some x) (steps : List Step) :
    (l.after create steps).client = some x ∧
      (l.after create steps).creations = l.creations := by
  induction steps generalizing l with
  | nil => exact ⟨hx, rfl⟩
  | cons st rest ih =>
    cases st with
    | assign y text => exact ih (h.step (.assign y text)) hx
    | use =>
      have hstep : l.step create .use = l := congrArg Prod.snd (h.use_of_client hx)
      change ((l.step create .use).after create rest).client = some x ∧
        ((l.step create .use).after create rest).creations = l.creations
      rw [hstep]
      exact ih h hx

lemma settings_use (l : Live Client ε σ) :
    (l.use create).2.connection.settings = l.connection.settings := by
  have huse : l.connection.use.2.settings = l.connection.settings := by
    unfold Connection.use
    split
    · rfl
    · split <;> rfl
  unfold use
  rcases hc : l.connection.use with ⟨fault | o, c⟩ <;> rw [hc] at huse
  · exact huse
  · dsimp only
    rcases l.client with _ | x
    · rcases create o l.service with ⟨e | x, service⟩
      · rfl
      · exact huse
    · exact huse

/-- The settings after a history are what was assigned last. -/
lemma settings_after (create : Maker Client ε σ) (steps : List Step) (l : Live Client ε σ)
    (x : Variable) :
    (l.after create steps).connection.settings.get x =
      current l.connection.settings steps x := by
  induction steps generalizing l with
  | nil => rfl
  | cons st rest ih =>
    refine (ih (l.step create st)).trans ?_
    unfold current
    cases st with
    | use =>
      have hsettings : (l.step create .use).connection.settings = l.connection.settings :=
        settings_use l
      rw [hsettings]
      rfl
    | assign y text =>
      have hget : (l.step create (.assign y text)).connection.settings.get x =
          if y = x then .text text else l.connection.settings.get x :=
        ConnectionSettings.get_assign _ _ _ _
      rw [hget, List.filterMap_cons, Step.assigned?]
      split
      · rw [List.getLast?_cons]
        cases (rest.filterMap (Step.assigned? x)).getLast? <;> rfl
      · rfl

/-- A use asks the service once at most, and notes its answer. -/
lemma creations_use (create : Maker Client ε σ) (l : Live Client ε σ) :
    (l.use create).2.creations = l.creations ∨
      ∃ o, (l.use create).2.creations = l.creations ++ [⟨o, (create o l.service).1⟩] := by
  unfold use
  rcases l.connection.use with ⟨fault | o, c⟩
  · exact .inl rfl
  · dsimp only
    rcases l.client with _ | x
    · refine .inr ⟨o, ?_⟩
      rcases create o l.service with ⟨e | x, service⟩ <;> rfl
    · exact .inl rfl

/-- All requests are answered by the service. -/
lemma answered_after (steps : List Step)
    (h : ∀ c ∈ l.creations, ∃ t, c.answer = (create c.opened t).1) :
    ∀ c ∈ (l.after create steps).creations, ∃ t, c.answer = (create c.opened t).1 := by
  induction steps generalizing l with
  | nil => exact h
  | cons st rest ih =>
    refine ih (l := l.step create st) ?_
    cases st with
    | assign x text => exact h
    | use =>
      rcases creations_use create l with hsame | ⟨o, hmore⟩
      · exact hsame ▸ h
      · intro c hc
        change c ∈ (l.use create).2.creations at hc
        rw [hmore, List.mem_append, List.mem_singleton] at hc
        rcases hc with hc | rfl
        · exact h c hc
        · exact ⟨l.service, rfl⟩

/-- The connection as the environment sets it up, after a history. -/
def reached (create : Maker Client ε σ) (env : Environment) (service : σ) (steps : List Step) :
    Live Client ε σ :=
  (ofEnvironment env service).after create steps

lemma sound_reached (create : Maker Client ε σ) (env : Environment) (service : σ)
    (steps : List Step) : (reached create env service steps).Sound :=
  (sound_ofEnvironment env service).after steps

/-- All requests for clients failed before the one that was answered, after which there are none. -/
lemma Sound.pairwise_creations (h : l.Sound) : l.creations.Pairwise fun c _ => c.Failed := by
  obtain ⟨failed, hfailed, hcreations⟩ := h.creations
  have hpairwise : failed.Pairwise fun c _ => c.Failed :=
    List.pairwise_of_forall_mem_list fun c hc _ _ => hfailed c hc
  cases hx : l.client with
  | none =>
    rw [hx] at hcreations
    exact hcreations ▸ hpairwise
  | some x =>
    rw [hx] at hcreations
    obtain ⟨o, hcreations⟩ := hcreations
    rw [hcreations]
    exact List.pairwise_append.2
      ⟨hpairwise, List.pairwise_singleton _ _, fun c hc _ _ => hfailed c hc⟩

lemma Sound.failed_of_none (h : l.Sound) (hx : l.client = none) :
    ∀ c ∈ l.creations, c.Failed := by
  obtain ⟨failed, hfailed, hcreations⟩ := h.creations
  rw [hx] at hcreations
  exact hcreations ▸ hfailed

lemma settings_reached (create : Maker Client ε σ) (env : Environment) (service : σ)
    (steps : List Step) :
    (reached create env service steps).connection.settings = settingsAfter env steps := by
  have hget := settings_after create steps (ofEnvironment env service)
  exact (ConnectionSettings.mk.injEq ..).mpr ⟨hget .url, hget .publicKey, hget .adminKey⟩

lemma Sound.length_le_one (h : l.Sound) (hcreate : ∀ c ∈ l.creations, ¬c.Failed) :
    l.creations.length ≤ 1 := by
  have hpairwise := h.pairwise_creations
  match hcreations : l.creations with
  | [] => exact Nat.zero_le 1
  | [_] => exact Nat.le_refl 1
  | c :: d :: _ =>
    rw [hcreations] at hpairwise hcreate
    have hfailed := (List.pairwise_cons.1 hpairwise).1 d List.mem_cons_self
    exact absurd hfailed (hcreate c List.mem_cons_self)

/-- A client is made once, when the settings are complete, whatever they become. Of all requests for
a client only the last can have been answered with one, so that a service that never fails is asked
once at most. Until then a use tells that both keys are missing, or else that the address is, and
changes nothing; where neither is missing it asks for a client with the address and the key as they
are. From then on each use is answered with this client, and none other is asked for. -/
theorem opened_once (create : Maker Client ε σ) (env : Environment) (service : σ)
    (steps : List Step) :
    let l := reached create env service steps
    let now := settingsAfter env steps
    let key := if now.adminKey.isPresent then now.adminKey else now.publicKey
    (l.creations.Pairwise fun c _ => c.Failed) ∧
      ((∀ o t, ∃ x, (create o t).1 = .ok x) → l.creations.length ≤ 1) ∧
      (l.client = none →
        (∀ c ∈ l.creations, c.Failed) ∧
        (now.adminKey.isPresent = false → now.publicKey.isPresent = false →
          l.use create = (.error (.missing .keyMissing), l)) ∧
        (key.isPresent = true → now.url.isPresent = false →
          l.use create = (.error (.missing .urlMissing), l)) ∧
        (key.isPresent = true → now.url.isPresent = true →
          let answer := (create ⟨now.url, key⟩ l.service).1
          (l.use create).2.creations = l.creations ++ [⟨⟨now.url, key⟩, answer⟩] ∧
          (l.use create).2.client = answer.toOption ∧
          (l.use create).1 = answer.mapError .refused)) ∧
      ∀ x, l.client = some x →
        (∃ o, l.creations.getLast? = some ⟨o, .ok x⟩) ∧
        ∀ more, (l.after create more).creations = l.creations ∧
          (l.after create more).use create = (.ok x, l.after create more) := by
  intro l now key
  have hsound : l.Sound := sound_reached create env service steps
  have hsettings : l.connection.settings = now := settings_reached create env service steps
  refine ⟨hsound.pairwise_creations, fun hcreate => ?_, fun hx => ⟨hsound.failed_of_none hx,
    fun hadmin hpublic => ?_, fun hkey hurl => ?_, fun hkey hurl => ?_⟩, fun x hx => ⟨?_,
    fun more => ⟨(hsound.kept_after hx more).2, ?_⟩⟩⟩
  · refine hsound.length_le_one fun c hc ⟨e, he⟩ => ?_
    obtain ⟨t, ht⟩ := answered_after steps (fun c hc => absurd hc List.not_mem_nil) c hc
    obtain ⟨x, hx⟩ := hcreate c.opened t
    rw [ht, hx] at he
    cases he
  · exact hsound.use_of_missing hx (hsettings ▸ open?_of_keyless hadmin hpublic)
  · exact hsound.use_of_missing hx (hsettings ▸ open?_of_urlless hkey hurl)
  · have hopen : l.connection.settings.open? = .ok ⟨now.url, key⟩ := by
      rw [hsettings]
      exact open?_of_complete hkey hurl
    rw [hsound.use_of_open hx hopen]
    rcases create ⟨now.url, key⟩ l.service with ⟨e | x, t⟩
    · exact ⟨rfl, hx, rfl⟩
    · exact ⟨rfl, rfl, rfl⟩
  · obtain ⟨failed, -, hcreations⟩ := hsound.creations
    rw [hx] at hcreations
    obtain ⟨o, hcreations⟩ := hcreations
    exact ⟨o, by rw [hcreations, List.getLast?_concat]⟩
  · exact (hsound.after more).use_of_client (hsound.kept_after hx more).1

example : (reached (fun _ n => (.ok n, n + 1)) [("SUPABASE_KEY", "k")] 0
    [.use, .assign .url "u", .use, .assign .url "", .assign .adminKey "a", .use] :
      Live Nat Empty Nat).creations = [⟨⟨.text "u", .text "k"⟩, .ok 0⟩] := rfl

end Live
end Connection
end EditorialDesk
