import TrustedRouter.Telemetry.Recorder
import TrustedRouter.Telemetry.Reporter
import TrustedRouter.Transport.Routing

/-!
# `TrustedRouter.Telemetry.Enablement`: whether a client reports, and to whom

`resolve_telemetry_enabled` of `crates/trusted-router/src/telemetry.rs`, the part of
`ClientBuilder::build` that makes the reporter of a client, `TelemetryReporter::new`, and the
request that `flush_with` posts.

The environment is a function from names to values. A sample rate that is not finite is `none`.
The id of the process is drawn at random, so it is an argument. Certificates and name resolution,
which the reporter's own transport takes over from the builder, are left out, as is the debug echo.
-/

set_option autoImplicit false

namespace TrustedRouter.Telemetry

open Rust.Duration
open Rust.Str
open Transport (ClientBuilder)
open Whatwg (Url Backend)

/-! ## The setting -/

/-- `host_enum_str`. -/
def hostEnumStr (lib : Backend) (baseUrl : String) : Host :=
  match Whatwg.parse lib baseUrl with
  | .ok url => hostEnum lib url
  | .error _ => .custom

/-- `control_host`. -/
def controlHost (lib : Backend) (url : String) : Bool :=
  match Whatwg.parse lib url with
  | .error _ => false
  | .ok parsed =>
      parsed.scheme == "https" &&
        parsed.host.any fun host => trustedrouterDomain (toAsciiLowercase host)

/-- `TRUSTEDROUTER_TELEMETRY`, as it is compared. -/
def configured (env : String → Option String) : String :=
  toAsciiLowercase (trim ((env "TRUSTEDROUTER_TELEMETRY").getD ""))

/-- The values of `TRUSTEDROUTER_TELEMETRY` that turn telemetry off. -/
def offWords : List String := ["0", "false", "off", "no"]

/-- The values that turn it on. -/
def onWords : List String := ["1", "true", "on", "yes"]

/-- `resolve_telemetry_enabled`. -/
def resolveTelemetryEnabled (lib : Backend) (explicit : Option Bool)
    (baseUrl controlBaseUrl : String) (env : String → Option String) : Bool :=
  match explicit with
  | some explicit => explicit
  | none =>
      if offWords.contains (configured env) then false
      else if onWords.contains (configured env) then true
      else if trim ((env "DO_NOT_TRACK").getD "") == "1" then false
      else hostEnumStr lib baseUrl != .custom && controlHost lib controlBaseUrl

/-! ## The reporter of a client -/

/-- `TELEMETRY_RETENTION_BYTES`. -/
def retentionBytes : Nat := 524288

/-- `DEFAULT_TELEMETRY_PATH`. -/
def defaultTelemetryPath : String := "/client-events"

/-- `ReporterConfig`. -/
structure ReporterConfig where
  controlBaseUrl : BaseUrl
  apiKey : Option String
  workspaceId : Option String := none
  sdk : SdkIdentity
  successSampleRate : Option Rat := some (1 / 100)
  flushInterval : Nat := fromSecs flushSeconds
  retentionBytes : Nat := Telemetry.retentionBytes

/-- `TelemetryReporter`: where it posts, as whom, and its state. -/
structure TelemetryReporter where
  endpoint : Url
  workspaceId : Option String
  reporter : Reporter
  state : State

/-- `TelemetryReporter::new`. -/
def TelemetryReporter.new (lib : Backend) (library : Library) (instanceId : String)
    (config : ReporterConfig) : TelemetryReporter where
  endpoint :=
    (Whatwg.join lib config.controlBaseUrl.url
      (trimStartMatches '/' defaultTelemetryPath)).toOption.getD config.controlBaseUrl.url
  workspaceId := config.workspaceId
  reporter :=
    { library
      apiKey := config.apiKey
      sdk := config.sdk
      retentionBytes := config.retentionBytes }
  state := .new config.successSampleRate config.flushInterval instanceId

/-- What `flush_with` posts to: the URL and the headers that it sets. -/
structure BeaconRequest where
  url : Url
  headers : List (String × String)

/-- The request of a flush. Without a key there is none. -/
def TelemetryReporter.request (userAgent : String) (reporter : TelemetryReporter) :
    Option BeaconRequest :=
  (reporter.reporter.apiKey.filter fun key => !isEmpty key).map fun key =>
    { url := reporter.endpoint
      headers :=
        [("authorization", "Bearer " ++ key), ("user-agent", userAgent),
            ("content-type", "application/json")] ++
          ((reporter.workspaceId.filter fun value => !isEmpty value).map fun value =>
            ("x-trustedrouter-workspace", value)).toList }

/-! ## Building a client -/

/-- The telemetry settings of a builder. -/
structure TelemetryOptions where
  telemetry : Option Bool := none
  telemetrySampleRate : Option Rat := some (1 / 100)

/-- A client and its sink. -/
structure Built where
  client : Client
  telemetrySink : Option TelemetryReporter

/-- `ClientBuilder::build`, with the setting resolved from the environment. -/
def build (lib : Backend) (library : Library) (env : String → Option String)
    (sdk : SdkIdentity) (instanceId : String) (options : TelemetryOptions)
    (builder : ClientBuilder) : Except Error Built := do
  let telemetry := resolveTelemetryEnabled lib options.telemetry builder.apiBaseUrl
    builder.controlBaseUrl env
  let client ← { builder with telemetry }.build lib
  pure
    { client
      telemetrySink :=
        if telemetry then
          some (.new lib library instanceId
            { controlBaseUrl := client.controlBaseUrl
              apiKey := builder.apiKey
              workspaceId := builder.workspaceId
              sdk
              successSampleRate := options.telemetrySampleRate })
        else none }

end TrustedRouter.Telemetry
