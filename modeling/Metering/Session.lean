import Metering.Service.Metrics
import Metering.Session.Command

/-!
# Metering — sessions

A session is a service in use: commands are carried out one after another, and what they got is
held under labels.

* `Held` — what may be held under a label;
* `Session` — the service with what is held;
* `Session.run` — carries out a command.
-/

namespace Metering

/-- What may be held under a label: a metric, or the filter that lets through what counts. -/
inductive Held where
  | metric (h : Handle)
  | filter

/-- A service in use: what is held under each label, and the source of the latest gauge that was
asked for under a label. -/
structure Session where
  service : Service
  held : NameMap Held
  sources : NameMap Nat

namespace Session

/-- A session in which nothing is held yet. -/
def new (s : Service) : Session := ⟨s, .empty, .empty⟩

/-- What a command brings about. -/
abbrev Outcome := Session × Except Unanswered Reply

/-- The session with a changed service. -/
def onService (st : Session) (s : Service) : Session := { st with service := s }

/-- The session with nothing written or put down since. -/
def cleared (st : Session) : Session :=
  st.onService { st.service with site := st.service.site.cleared }

/-- The session with something held under a label. -/
def hold (st : Session) (label : String) (h : Held) : Session :=
  { st with held := st.held.insert label h }

/-- A reply that changes nothing. -/
def reply (st : Session) (r : Reply) : Outcome := (st, .ok r)

/-- No reply. -/
def fail (st : Session) (u : Unanswered) : Outcome := (st, .error u)

/-- The outcome of something that comes to its end or breaks off. -/
def ended (st : Session) (outcome : Service × Bool) : Outcome :=
  (st.onService outcome.1, if outcome.2 then .ok .nothing else .error (.failed .brokenOff))

/-- The outcome of something that may fail. -/
def tried {α : Type} (st : Session) (r : α → Reply) (outcome : Service × Except Failure α) :
    Outcome :=
  (st.onService outcome.1, (outcome.2.map r).mapError .failed)

/-- The outcome of a question that may be refused. -/
def asked {α : Type} (st : Session) (r : α → Reply) (answer : Except Fault α) : Outcome :=
  (st, (answer.map r).mapError fun fault => .failed (.refused fault))

/-- Holds a metric under a label, if it was got. -/
def got (st : Session) (label : String) (outcome : Service × Except Failure Handle) : Outcome :=
  let st := st.onService outcome.1
  match outcome.2 with
  | .ok h => (st.hold label (.metric h), .ok (.truth true))
  | .error failure => (st, .error (.failed failure))

/-- The samples of a service, or none if a supplier broke off. -/
def sampled (st : Session) (outcome : Service × Option (List Sample)) : Outcome :=
  match outcome with
  | (s, some samples) => (st.onService s, .ok (.samples samples))
  | (s, none) => (st.onService s, .error (.failed .brokenOff))

/-! ## What is held -/

/-- Uses the metric that is held under a label. -/
def withMetric (st : Session) (label : String) (fits : Handle → Bool)
    (use : Handle → Outcome) : Outcome :=
  match st.held.get? label with
  | none => st.fail .unknownLabel
  | some .filter => st.fail .unfit
  | some (.metric h) => if fits h then use h else st.fail .unfit

/-- How much the metric of a handle has recorded. -/
def countOf (s : Service) (h : Handle) : Int := (s.statistic? h).elim 0 Statistic.count

/-- Tells an update to a metric. The reply is the count afterwards. -/
def update (st : Session) (u : Update) (h : Handle) : Outcome :=
  let s := st.service.update h u
  (st.onService s).reply (.number (countOf s h))

/-- Lets a metric time something that takes so long and may break off at its end. The reply is
the count meanwhile and afterwards. -/
def timed (st : Session) (took : Duration) (breaks : Bool) (h : Handle) : Outcome :=
  let s := st.service
  let watch : Stopwatch := ⟨s.site.now⟩
  let meanwhile := countOf s h
  let s := ({ s with site := s.site.later took } : Service).lap h watch
  (st.onService s,
    if breaks then .error (.failed .brokenOff) else .ok (.numbers [meanwhile, countOf s h]))

/-- What a metric shows: its count, the values that are kept, or the value of a gauge. -/
def read (st : Session) (h : Handle) : Outcome :=
  let s := st.service
  match s.statistic? h with
  | some (.histogram kept) =>
    st.reply (.spread kept.count.toNat (kept.snapshot s.site.now))
  | some (.timer kept) => st.reply (.spread kept.count.toNat (kept.snapshot s.site.now))
  | some (.counter n) => st.reply (.number n.toInt)
  | some (.meter m) => st.reply (.number m.count.toNat)
  | _ =>
    match s.reading h with
    | (s, some (.gauge x)) => (st.onService s).reply (.value x)
    | (s, _) => (st.onService s).fail (.failed .brokenOff)

/-- The rates that a metric shows. -/
def rates (st : Session) (h : Handle) : Outcome :=
  match st.service.reading h with
  | (s, some (.meter _ r)) => (st.onService s).reply (.rates r)
  | (s, some (.timer _ r _)) => (st.onService s).reply (.rates r)
  | (s, _) => (st.onService s).fail .unfit

/-- Whether a metric has rates. -/
def hasRates (h : Handle) : Bool := h.kind = .meter || h.kind = .timer

/-! ## Commands -/

/-- Carries out a command on what reporters read. -/
def runStored (st : Session) (c : StoreCommand) : Outcome :=
  let s := st.service
  let r := s.registry
  match c with
  | .kindOf name => st.reply (.kind (r.store.kind? r.statistics name))
  | .contains name => st.reply (.truth (r.store.contains name))
  | .remove name =>
    let (s, found) := s.unstore name
    (st.onService s).reply (.truth found)
  | .names => st.reply (.names r.store.names)
  | .clear => (st.onService s.clearStore).reply .nothing
  | .size => st.reply (.number r.store.size)
  | .samples names => st.sampled (s.samples names.holds)

/-- Does what an observer could do. -/
def act (st : Session) (action : Action) : Outcome :=
  match st.service.perform Service.announce action with
  | (s, some (.ok .nothing)) => (st.onService s).reply .nothing
  | (s, some (.ok (.truth b))) => (st.onService s).reply (.truth b)
  | (s, some (.ok (.number n))) => (st.onService s).reply (.number n)
  | (s, some (.error failure)) => (st.onService s).fail (.failed failure)
  | (s, none) => (st.onService s).fail (.failed .brokenOff)

/-- The calls of one reporter. -/
def visitOf : Call → Report.Reporter → Site → Site × Report.Reporter × Report.Outcome
  | .start => Report.Reporter.start
  | .stop => Report.Reporter.stop
  | .report => Report.Reporter.report

/-- The calls of all reporters. -/
def visitAll : Call → Reporters → Reporters × Bool
  | .start => Reporters.startAll
  | .stop => Reporters.stopAll
  | .report => Reporters.reportAll

/-- What the registry and the supervisor come to. -/
def statusOf (s : Service) : Status :=
  ⟨s.registry.enabled, s.registry.levels.root, s.registry.size, s.registry.countingSize,
    s.registry.groupCount, s.reporterNames⟩

/-- Carries out a command. -/
def run (st : Session) (c : Command) : Outcome :=
  let s := st.service
  let r := s.registry
  match c with
  | .metric label measure name level ancestors =>
    st.got label (s.metric measure name level ancestors)
  | .gauge label name level timeout supplier =>
    let (s, source) := s.addSource
    let st := { st with sources := st.sources.insert label source }
    st.got label (match timeout with
      | some timeout => s.cachedGauge name level timeout supplier source
      | none => s.gauge name level supplier source)
  | .find label kind name =>
    match s.find? kind name with
    | .ok h => (st.hold label (.metric h)).reply (.truth true)
    | .error fault => st.fail (.failed (.refused fault))
  | .filter label => (st.hold label .filter).reply .nothing
  | .update label u => st.withMetric label (fun h => h.kind = u.measure.kind) (st.update u)
  | .timed label took breaks =>
    st.withMetric label (fun h => h.kind = .timer) (st.timed took breaks)
  | .read label => st.withMetric label (fun _ => true) st.read
  | .rates label => st.withMetric label hasRates st.rates
  | .accepted label names =>
    match st.held.get? label with
    | none => st.fail .unknownLabel
    | some .filter => st.reply (.truths (names.map r.counts))
    | some (.metric _) => st.fail .unfit
  | .timesAsked label =>
    match st.sources.get? label with
    | some source => st.reply (.number (s.timesAsked source))
    | none => st.fail .unknownLabel
  | .act action => st.act action
  | .isEnabled => st.reply (.truth r.enabled)
  | .rootLevel => st.reply (.level (some r.levels.root))
  | .levelOf name => st.asked .level (r.level? name)
  | .sizes => st.reply (.numbers [r.size, r.countingSize, r.groupCount])
  | .countingSamples => st.sampled (s.samples r.counts)
  | .stored command => st.runStored command
  | .registryShown => st.reply (.text r.shown)
  | .advance d => (st.onService { s with site := s.site.later d }).reply .nothing
  | .setWall seconds => (st.onService { s with site := s.site.setWall seconds }).reply .nothing
  | .status => st.reply (.status (statusOf s))
  | .register reporter => st.ended (s.supervised fun rs => rs.register reporter)
  | .addBuiltIn reporter => st.tried (fun _ => .nothing) (s.addBuiltIn reporter)
  | .discharge name => st.tried .truth (s.supervised fun rs => rs.discharge name)
  | .reporterNames => st.reply (.names s.reporterNames)
  | .call c name =>
    st.tried (fun _ => .nothing) (s.supervised fun rs => rs.callOne (visitOf c) name)
  | .callAll c => st.ended (s.supervised (visitAll c))
  | .isRunning name =>
    match s.reporters.running? name with
    | .ok on => st.reply (.truth on)
    | .error fault => st.fail (.failed (.unreported fault))
  | .supervisorShown => st.reply (.text s.supervisorShown)
  | .dropSupervisor => st.ended s.dropSupervisor
  | .renewSupervisor => st.ended s.renewSupervisor
  | .activate => st.ended s.activate
  | .deactivate => st.ended s.deactivate
  | .settings => st.reply (.settings s.settings)

end Session

end Metering
