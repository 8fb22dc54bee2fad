import PathSeal.Startup
import PathSeal.Telemetry.Export
import PathSeal.Telemetry.Filter

/-!
# PathSeal.Server

The life of the program from its environment to its exit: the settings are
loaded, the log is set up, the service starts, listens, and stops when it is
told to.

What it writes is a value: the exit code, the text on the error channel and the
log events that the filter lets through.
-/

namespace PathSeal.Server

open Kms (World Remote)

/-- The version that the log names. -/
def version : String := "0.1.0"

/-- What a run of the program leaves behind. -/
structure Result where
  exit : Nat
  errors : String
  events : List Log.Event
deriving DecidableEq

/-! ## Reporting faults -/

/-- The texts of a chain with colons between them. -/
def inline (chain : List String) : String :=
  ": ".intercalate chain

/-- A text with its lines indented: the first after a given start, the others below it. -/
def indented (start margin text : String) : String :=
  let lines := (Text.fields (· == '\n') text.toList).map String.ofList
  start ++ ("\n" ++ margin).intercalate lines

/-- A cause with its number. -/
def numbered (n : Nat) (cause : String) : String :=
  let digits := toString n
  let pad := String.ofList (List.replicate (5 - digits.length) ' ')
  indented s!"{pad}{digits}: " "       " cause

/-- The report of a fault that ends the program. Several causes are numbered. -/
def report (chain : List String) : String :=
  match chain with
  | [] => "Error: \n"
  | [top] => s!"Error: {top}\n"
  | top :: causes => s!"Error: {top}\n\nCaused by:\n{causeLines causes}\n"
where
  /-- The causes beneath each other. -/
  causeLines (causes : List String) : String :=
    match causes with
    | [cause] => indented "    " "    " cause
    | causes => "\n".intercalate (causes.zipIdx.map fun (cause, n) => numbered n cause)

/-! ## The log -/

/-- The value of a field as JSON. -/
def valueJson : Log.Value → Json.Value
  | .count n => .count n
  | .text s => .text s

/-- A line of the log: an event as a JSON object. -/
def line (e : Log.Event) : String :=
  let fields := e.fields.map fun (n, v) => (n, valueJson v)
  (Json.Value.object
    [("level", .text e.level.name), ("fields", .object (("message", .text e.message) :: fields)),
      ("target", .text e.target)]).compact

/-- The filter of the log and the complaints about it. The variable of the logging system goes
before the setting, if every directive in it is right. -/
def filterOf (env : Config.Environment) (level : String) : Telemetry.Filter × List String :=
  match (env.lookup "RUST_LOG").bind Telemetry.Filter.strict? with
  | some filter => (filter, [])
  | none => Telemetry.Filter.lenient level

/-- The texts of a fault of the export of spans. -/
def exportFault (e : Telemetry.ExportFault) : List String :=
  ["failed to install OTLP tracing pipeline",
    s!"Exporter otlp encountered the following error(s): {e.message}"]

/-- The event of the program's start. -/
def startingEvent (c : Config) : Log.Event :=
  Startup.setupEvent .info "sealer starting"
    [("version", .text version), ("listen_port", .count c.listenPort.toNat),
      ("algorithm", .text c.algorithm.name)]

/-- The event of a service that stores plaintexts. -/
def plaintextEvent : Log.Event :=
  Startup.setupEvent .warn "ENCRYPTION_DISABLED is set: objects will be stored in plaintext" []

/-- The events from listening to the end. -/
def servingEvents (c : Config) : List Log.Event :=
  [Startup.setupEvent .info "listening" [("addr", .text s!"0.0.0.0:{c.listenPort.toNat}")],
    Startup.setupEvent .info "shutdown signal received" [],
    Startup.setupEvent .info "sealer stopped" []]

/-! ## Running -/

/-- Runs with checked settings. -/
def runWith (c : Config) (filter : Telemetry.Filter) (complaints : String)
    (google : Kms.Google.Peer σ) (amazon : Kms.Amazon.Peer τ) :
    StateM (World (Remote σ τ)) Result := do
  let start ← Startup.start c google amazon
  let events := startingEvent c :: start.events
  match start.outcome with
  | .error e => return ⟨1, complaints ++ report e.chain, events.filter filter.admits⟩
  | .ok _ =>
    let warning := if c.encryptionDisabled then [plaintextEvent] else []
    return ⟨0, complaints, (events ++ warning ++ servingEvents c).filter filter.admits⟩

/-- Runs the program in an environment; it is told to stop as soon as it listens. -/
def run (env : Config.Environment) (google : Kms.Google.Peer σ) (amazon : Kms.Amazon.Peer τ) :
    StateM (World (Remote σ τ)) Result := do
  match Config.load env with
  | .error e =>
    return ⟨1, s!"ERROR: configuration invalid: {inline e.chain}\n" ++ report e.chain, []⟩
  | .ok c =>
    match c.telemetryEndpoint.map (Telemetry.checkExport fun name => env.lookup name) with
    | some (.error e) => return ⟨1, report (exportFault e), []⟩
    | _ =>
      let (filter, complaints) := filterOf env c.logLevel
      runWith c filter (String.join (complaints.map (· ++ "\n"))) google amazon

end PathSeal.Server
