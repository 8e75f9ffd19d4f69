import EditorialDesk.Desk.Operation
import EditorialDesk.Review.View
import Mathlib.Tactic.Lemma

/-!
# Settings that are not understood

What the environment's settings mean where those that are not understood are taken as not
set. This is what is read from the environment without them, whatever zones there are. With
them in it, three things can happen: a name that cannot be looked up is a fault, which every
intake and every review then ends with; a word that is none of those for on and off switches
logging off, though it is on by default; and any other name is as good as none.
-/
namespace EditorialDesk

open Calendar

namespace Environment

/-- The environment with a variable not set. -/
def without (env : Environment) (name : String) : Environment := env.filter (·.1 != name)

@[simp] theorem get?_without_self (env : Environment) (name : String) :
    (env.without name).get? name = none := by
  simp [without, get?]

theorem get?_without_of_ne (env : Environment) {name other : String} (h : other ≠ name) :
    (env.without name).get? other = env.get? other := by
  have hp : ∀ p : String × String,
      decide ((p.1 != name) = true ∧ (p.1 == other) = true) = (p.1 == other) := by
    intro p
    by_cases ho : p.1 = other <;> simp [ho, h]
  simp only [without, get?, List.find?_filter, hp]

end Environment

namespace Calendar.ZoneDatabase

variable {zones : ZoneDatabase} {name : String}

/-- The zone that a name leads to. -/
def zone? (zones : ZoneDatabase) (name : String) : Option Zone := (zones.find name).toOption.join

/-- Whether a text is the name of a zone. -/
def hasZone (zones : ZoneDatabase) (name : String) : Bool := (zones.zone? name).isSome

lemma exists_find_of_hasZone (h : zones.hasZone name = true) :
    ∃ found, zones.find name = .ok found := by
  unfold hasZone zone? at h
  cases hfind : zones.find name with
  | ok found => exact ⟨found, rfl⟩
  | error f => simp [hfind, Except.toOption] at h

end Calendar.ZoneDatabase

namespace WorkflowSettings

/-- Words that are there to switch a setting off. -/
def offWords : List String := ["0", "false", "no", "n", "off"]

/-- Whether a text is a word for on or off. -/
def isSwitch (s : String) : Bool := (onWords ++ offWords).contains (Text.lower (Text.trim s))

end WorkflowSettings

namespace Environment

variable {zones : ZoneDatabase} {env : Environment}

/-- The name that is given for the zone. -/
def zoneName (env : Environment) : String := Text.trim (env.get "WORKFLOW_TIMEZONE")

/-- The text that is given for logging. -/
def logWord? (env : Environment) : Option String := env.get? "WORKFLOW_LOG_EVENTS"

/-- Whether logging is left alone, or switched on or off by one of the words for that. -/
def logsClearly (env : Environment) : Bool := env.logWord?.all WorkflowSettings.isSwitch

/-- The environment with those settings of the workflow not set that are not understood. -/
def understood (zones : ZoneDatabase) (env : Environment) : Environment :=
  let named := if zones.hasZone env.zoneName then env else env.without "WORKFLOW_TIMEZONE"
  if env.logsClearly then named else named.without "WORKFLOW_LOG_EVENTS"

theorem logWord?_understood :
    (env.understood zones).logWord? = if env.logsClearly then env.logWord? else none := by
  have hne : "WORKFLOW_LOG_EVENTS" ≠ "WORKFLOW_TIMEZONE" := by decide
  unfold understood
  split <;> split <;> simp [logWord?, get?_without_of_ne _ hne]

theorem zoneName_understood : (env.understood zones).zoneName =
    if zones.hasZone env.zoneName then env.zoneName else "" := by
  have hne : "WORKFLOW_TIMEZONE" ≠ "WORKFLOW_LOG_EVENTS" := by decide
  have hempty : Text.trim "" = "" := by decide
  unfold understood
  split <;> split <;> simp [zoneName, get, get?_without_of_ne _ hne, hempty]

end Environment

namespace WorkflowSettings

variable {zones : ZoneDatabase} {env : Environment}

/-- What the settings mean if what is not understood is taken as not set. -/
def meant (zones : ZoneDatabase) (env : Environment) : WorkflowSettings where
  zone := (zones.zone? env.zoneName).getD .utc
  logEvents := !env.logWord?.any fun s => offWords.contains (Text.lower (Text.trim s))

/-- The zone is that of the name, or UTC, unless the look-up is a fault. -/
lemma zoneOf_eq : zoneOf zones (env.get "WORKFLOW_TIMEZONE") =
    match zones.find env.zoneName with
    | .ok _ => .ok (meant zones env).zone
    | .error f => .error (.zone f) := by
  have hname : Text.trim (env.get "WORKFLOW_TIMEZONE") = env.zoneName := rfl
  unfold zoneOf meant ZoneDatabase.zone?
  rw [hname]
  cases zones.find env.zoneName <;> rfl

/-- Events are logged if that is what the word means, and there is no doubt about it. -/
lemma logsOn_eq : logsOn env.logWord? = (env.logsClearly && (meant zones env).logEvents) := by
  have hdisjoint : ∀ word ∈ onWords, word ∉ offWords := by decide
  unfold Environment.logsClearly meant
  cases env.logWord? with
  | none => rfl
  | some s =>
    simp only [logsOn, Option.all_some, Option.any_some, isSwitch]
    generalize Text.lower (Text.trim s) = word
    rw [Bool.eq_iff_iff]
    simp only [Bool.and_eq_true, Bool.not_eq_true', ← Bool.not_eq_true, List.contains_iff_mem,
      List.mem_append]
    exact ⟨fun hon => ⟨.inl hon, hdisjoint word hon⟩,
      fun ⟨hword, hoff⟩ => hword.resolve_right hoff⟩

lemma logEvents_of_not_logsClearly (h : env.logsClearly = false) :
    (meant zones env).logEvents = true := by
  unfold Environment.logsClearly at h
  unfold meant
  cases hword : env.logWord? with
  | none => rfl
  | some s =>
    rw [hword] at h
    simp only [Option.all_some, isSwitch, List.contains_eq_mem, List.mem_append,
      decide_eq_false_iff_not, not_or] at h
    simpa using h.2

theorem ofEnvironmentIn_eq : ofEnvironmentIn zones env =
    match zones.find env.zoneName with
    | .ok _ => .ok ⟨(meant zones env).zone, env.logsClearly && (meant zones env).logEvents⟩
    | .error f => .error (.zone f) := by
  have hlogs : logsOn (env.get? "WORKFLOW_LOG_EVENTS") =
    (env.logsClearly && (meant zones env).logEvents) := logsOn_eq
  rw [ofEnvironmentIn, hlogs, zoneOf_eq]
  cases zones.find env.zoneName <;> rfl

/-- Without what is not understood the settings are what they mean. -/
theorem ofEnvironmentIn_understood :
    ofEnvironmentIn zones (env.understood zones) = .ok (meant zones env) := by
  have hzone : (meant zones (env.understood zones)).zone = (meant zones env).zone ∧
      ∃ found, zones.find (env.understood zones).zoneName = .ok found := by
    simp only [meant, Environment.zoneName_understood]
    split
    · next h => exact ⟨rfl, ZoneDatabase.exists_find_of_hasZone h⟩
    · next h =>
      have hnone : zones.zone? env.zoneName = none := by simpa [ZoneDatabase.hasZone] using h
      rw [hnone]
      exact ⟨rfl, none, rfl⟩
  have hlogs : logsOn (env.understood zones).logWord? = (meant zones env).logEvents := by
    rw [Environment.logWord?_understood]
    cases h : env.logsClearly with
    | true => rw [if_pos rfl, logsOn_eq, h, Bool.true_and]
    | false => rw [logEvents_of_not_logsClearly h]; rfl
  obtain ⟨hsame, found, hfound⟩ := hzone
  rw [ofEnvironmentIn_eq, hfound, ← logsOn_eq, hlogs, hsame]

end WorkflowSettings

/-- Whether an operation is one of the intake, which looks at the settings. -/
def Operation.isIntake : Operation → Bool
  | .candidates _ | .run .. | .finalize .. => true
  | _ => false

/-- The operation as it is wanted without entries in the log. -/
def Operation.unlogged : Operation → Operation
  | .run ref submitter _ => .run ref submitter false
  | .finalize ref submitter _ notes now => .finalize ref submitter false notes now
  | op => op

namespace Desk

/-- The desk with other settings. -/
def withSettings (d : Desk) (settings : Reading WorkflowSettings) : Desk := { d with settings }

/-- The desk with the settings of an environment. -/
def under (d : Desk) (zones : ZoneDatabase) (env : Environment) : Desk :=
  d.withSettings (.ofExcept (WorkflowSettings.ofEnvironmentIn zones env))

variable {α : Type} {d : Desk} {r r' : Reading WorkflowSettings} {s s' : WorkflowSettings}

/-- The answer to a request and the state after it have nothing to do with the settings. -/
lemma serve_withSettings (q : Request) (d : Desk) (r : Reading WorkflowSettings) :
    serve q (d.withSettings r) = ((serve q d).1, (serve q d).2.withSettings r) := by
  have hbacking : (d.withSettings r).backing = d.backing := rfl
  unfold serve
  rw [hbacking]
  cases d.backing with
  | database => rfl
  | unconfigured => rfl
  | memory => dsimp only; split <;> rfl

lemma carryOut_withSettings (d : Desk) (r : Reading WorkflowSettings) (plan : Plan α) :
    (d.withSettings r).carryOut plan =
      ((d.carryOut plan).1, (d.carryOut plan).2.withSettings r) := by
  unfold carryOut
  induction plan generalizing d with
  | done a => rfl
  | fault e => rfl
  | ask q next ih =>
    rw [Program.run, Program.run, serve_withSettings]
    rcases serve q d with ⟨e | answer, d'⟩
    · rfl
    · exact ih answer d'

lemma replyTo_withSettings (d : Desk) (r : Reading WorkflowSettings) (wrap : α → Reply)
    (plan : Plan α) : (d.withSettings r).replyTo wrap plan =
      ((d.replyTo wrap plan).1, (d.replyTo wrap plan).2.withSettings r) := by
  unfold replyTo
  rw [carryOut_withSettings]
  rcases d.carryOut plan with ⟨e | a, d'⟩ <;> rfl

lemma finalize_withSettings (d : Desk) (r : Reading WorkflowSettings) (x : Submission)
    (submitter : Value) (logs notes : Bool) (clock : Reading Calendar.Moment) :
    (d.withSettings r).finalize x submitter logs notes clock =
      ((d.finalize x submitter logs notes clock).1,
        (d.finalize x submitter logs notes clock).2.withSettings r) := by
  unfold finalize
  rw [carryOut_withSettings]
  rcases d.carryOut (Intake.finalize logs notes clock x submitter) with ⟨e | f, d'⟩ <;> rfl

/-- Only an intake has to do with the settings. -/
lemma perform_withSettings_of_not_isIntake (d : Desk) (r : Reading WorkflowSettings)
    {op : Operation} (hop : op.isIntake = false) : (d.withSettings r).perform op =
      ((d.perform op).1, (d.perform op).2.withSettings r) := by
  cases op with
  | setClock | fail | unfail | put => rfl
  | candidates | run | finalize => cases hop
  | _ => exact replyTo_withSettings d r _ _

/-- Whatever the settings, the other operations come to the same. -/
lemma perform_withSettings_comm (d : Desk) (r r' : Reading WorkflowSettings) {op : Operation}
    (hop : op.isIntake = false) : (d.withSettings r).perform op =
      (((d.withSettings r').perform op).1, ((d.withSettings r').perform op).2.withSettings r) :=
  perform_withSettings_of_not_isIntake (d.withSettings r') r hop

lemma intake_shows (d : Desk) (s : WorkflowSettings) (ref : Reading SubmissionRef) (wanted : Bool)
    (go : Bool → Submission → Except Fault Reply × Desk) :
    (d.withSettings (.shows s)).intake ref wanted go =
      match ref.look.bind d.submission with
      | .ok x => go (wanted && s.logEvents) x
      | .error f => (.error f, d.withSettings (.shows s)) := by
  cases ref with
  | fails f => rfl
  | shows ref =>
    have hsubmission : (d.withSettings (.shows s)).submission ref = d.submission ref := rfl
    unfold intake
    simp only [withSettings, Reading.look, bind, Except.bind, pure, Except.pure] at hsubmission ⊢
    rw [hsubmission]
    cases d.submission ref <;> rfl

/-- An intake that goes on alike whatever the settings ends alike, if it is not to log. -/
lemma intake_of_not_logEvents (d : Desk) (s' : WorkflowSettings) (hs : s.logEvents = false)
    (ref : Reading SubmissionRef) (wanted : Bool)
    {go go' : Bool → Submission → Except Fault Reply × Desk}
    (hgo : ∀ x, go false x = ((go' false x).1, (go' false x).2.withSettings (.shows s))) :
    (d.withSettings (.shows s)).intake ref wanted go =
      (((d.withSettings (.shows s')).intake ref false go').1,
        ((d.withSettings (.shows s')).intake ref false go').2.withSettings (.shows s)) := by
  rw [intake_shows, intake_shows, hs, Bool.and_false, Bool.false_and]
  cases ref.look.bind d.submission with
  | error f => rfl
  | ok x => exact hgo x

/-- Where logging is switched off, every operation is performed as one that does not want it. -/
lemma perform_of_not_logEvents (d : Desk) (s' : WorkflowSettings) (hs : s.logEvents = false)
    (op : Operation) : (d.withSettings (.shows s)).perform op =
      (((d.withSettings (.shows s')).perform op.unlogged).1,
        ((d.withSettings (.shows s')).perform op.unlogged).2.withSettings (.shows s)) := by
  cases op with
  | candidates ref =>
    refine intake_of_not_logEvents d s' hs ref false fun x => ?_
    exact replyTo_withSettings (d.withSettings (.shows s')) (.shows s) _ _
  | run ref submitter wanted =>
    refine intake_of_not_logEvents d s' hs ref wanted fun x => ?_
    exact replyTo_withSettings (d.withSettings (.shows s')) (.shows s) _ _
  | finalize ref submitter wanted notes now =>
    refine intake_of_not_logEvents d s' hs ref wanted fun x => ?_
    exact finalize_withSettings (d.withSettings (.shows s')) (.shows s) x submitter false notes _
  | _ =>
    exact perform_withSettings_of_not_isIntake (d.withSettings (.shows s')) (.shows s) rfl

/-- Where the settings are a fault, every intake ends with it before anything is asked. -/
lemma perform_fails (d : Desk) (f : Fault) (op : Operation) (hop : op.isIntake = true) :
    (d.withSettings (.fails f)).perform op = (.error f, d.withSettings (.fails f)) := by
  cases op with
  | candidates | run | finalize => rfl
  | _ => cases hop

end Desk

namespace Review

variable {zones : ZoneDatabase} {env : Environment}

/-- A review as it is presented in the zone of an environment. -/
def presentUnder (zones : ZoneDatabase) (env : Environment) (today : Today)
    (write : Option Calendar.Date → Option String) (a : Assignment) : Except Fault View := do
  let settings ← WorkflowSettings.ofEnvironmentIn zones env
  Presenter.present ⟨settings.zone, today, write⟩ a

lemma presentUnder_of_ok {s : WorkflowSettings}
    (h : WorkflowSettings.ofEnvironmentIn zones env = .ok s) (today : Today)
    (write : Option Calendar.Date → Option String) (a : Assignment) :
    presentUnder zones env today write a = Presenter.present ⟨s.zone, today, write⟩ a := by
  rw [presentUnder, h]
  rfl

lemma presentUnder_of_error {f : Fault}
    (h : WorkflowSettings.ofEnvironmentIn zones env = .error f) (today : Today)
    (write : Option Calendar.Date → Option String) (a : Assignment) :
    presentUnder zones env today write a = .error f := by
  rw [presentUnder, h]
  rfl

end Review

namespace WorkflowSettings

/-- Whatever zones there are, without the settings that are not understood the environment says
what the others mean. With them it says the same unless the name of the zone cannot be looked
up, which is the end of every review and every intake, or the word for logging is neither on
nor off, which keeps every intake from logging though it would log otherwise. -/
theorem ofEnvironment_exact (zones : ZoneDatabase) (env : Environment) (d : Desk) (op : Operation)
    (today : Review.Today) (write : Option Calendar.Date → Option String)
    (a : Review.Assignment) :
    ofEnvironmentIn zones (env.understood zones) = .ok (meant zones env) ∧
    match zones.find env.zoneName with
    | .error f =>
      ofEnvironmentIn zones env = .error (.zone f) ∧
      Review.presentUnder zones env today write a = .error (.zone f) ∧
      (d.under zones env).perform op =
        if op.isIntake then (.error (.zone f), d.under zones env)
        else (((d.under zones (env.understood zones)).perform op).1,
          ((d.under zones (env.understood zones)).perform op).2.under zones env)
    | .ok _ =>
      Review.presentUnder zones env today write a =
        Review.presentUnder zones (env.understood zones) today write a ∧
      if env.logsClearly then
        ofEnvironmentIn zones env = .ok (meant zones env) ∧
        (d.under zones env).perform op = (d.under zones (env.understood zones)).perform op
      else
        ofEnvironmentIn zones env = .ok { meant zones env with logEvents := false } ∧
        (meant zones env).logEvents = true ∧
        (d.under zones env).perform op =
          (((d.under zones (env.understood zones)).perform op.unlogged).1,
            ((d.under zones (env.understood zones)).perform op.unlogged).2.under zones env) := by
  have hmeant : ofEnvironmentIn zones (env.understood zones) = .ok (meant zones env) :=
    ofEnvironmentIn_understood
  have henv : ofEnvironmentIn zones env = _ := ofEnvironmentIn_eq
  refine ⟨hmeant, ?_⟩
  cases hzone : zones.find env.zoneName with
  | error f =>
    rw [hzone] at henv
    dsimp only at henv ⊢
    refine ⟨henv, Review.presentUnder_of_error henv today write a, ?_⟩
    simp only [Desk.under, henv]
    cases hop : op.isIntake with
    | true => exact d.perform_fails _ op hop
    | false => exact d.perform_withSettings_comm _ _ hop
  | ok found =>
    rw [hzone] at henv
    dsimp only at henv ⊢
    refine ⟨?_, ?_⟩
    · rw [Review.presentUnder_of_ok henv, Review.presentUnder_of_ok hmeant]
    cases hlogs : env.logsClearly with
    | true =>
      rw [hlogs, Bool.true_and] at henv
      simp only [Desk.under, henv, hmeant, if_true, and_self]
    | false =>
      rw [hlogs, Bool.false_and] at henv
      have hon : (meant zones env).logEvents = true := logEvents_of_not_logsClearly hlogs
      simp only [Desk.under, henv, hmeant, hon, Bool.false_eq_true, if_false, true_and]
      exact d.perform_of_not_logEvents (meant zones env) rfl op

/-- An environment with a word for logging that is neither on nor off. -/
def doubtful : Environment := [("WORKFLOW_LOG_EVENTS", "maybe")]

/-- An environment with a region in place of a zone. -/
def abroad : Environment := [("WORKFLOW_TIMEZONE", "Europe")]

/-- A word that is neither on nor off switches logging off, and a region in place of a zone is a
fault. If they are taken out, both settings have their defaults. -/
theorem not_understood_not_unset :
    isSwitch "maybe" = false ∧ ofEnvironment doubtful = .ok ⟨.utc, false⟩ ∧
    ofEnvironment (doubtful.understood .listed) = .ok ⟨.utc, true⟩ ∧
    ZoneDatabase.listed.hasZone "Europe" = false ∧
    ofEnvironment abroad = .error (.zone .region) ∧
    ofEnvironment (abroad.understood .listed) = .ok ⟨.utc, true⟩ := by
  have hunset : ZoneDatabase.listed.find doubtful.zoneName = .ok none := rfl
  have hregion : ZoneDatabase.listed.find abroad.zoneName = .error .region := rfl
  have hdoubtful : meant .listed doubtful = ⟨.utc, true⟩ := by
    rw [meant, ZoneDatabase.zone?, hunset]
    rfl
  have habroad : meant .listed abroad = ⟨.utc, true⟩ := by
    rw [meant, ZoneDatabase.zone?, hregion]
    rfl
  have hlogs : doubtful.logsClearly = false := by decide +kernel
  refine ⟨by decide +kernel, ?_, ?_, ?_, ?_, ?_⟩
  · rw [ofEnvironment, ofEnvironmentIn_eq, hunset, hlogs, hdoubtful]
    rfl
  · rw [ofEnvironment, ofEnvironmentIn_understood, hdoubtful]
  · have hname : abroad.zoneName = "Europe" := by decide
    rw [← hname, ZoneDatabase.hasZone, ZoneDatabase.zone?, hregion]
    rfl
  · rw [ofEnvironment, ofEnvironmentIn_eq, hregion]
  · rw [ofEnvironment, ofEnvironmentIn_understood, habroad]

end WorkflowSettings
end EditorialDesk
