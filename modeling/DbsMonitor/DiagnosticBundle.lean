import DbsMonitor.Bisection
import DbsMonitor.Json
import DbsMonitor.Mail

/-!
# The diagnostic bundle

`createDiagnosticBundleWithOptions` packs the journal of the last day with the health summary found
in it and the configuration, scanned for secrets first. When the archive exceeds the limit, lines at
the beginning of the journal are left out.

JSON, URLs and the size of an archive are parameters. Texts are bytes.
-/

namespace DbsMonitor

open Utf8

structure ParsedURL where
  user : Option (List UInt8 × List UInt8)
  hostname : List UInt8
  port : List UInt8
  path : List UInt8
  searchPath : List UInt8
  sslMode : List UInt8

structure BundleConfig where
  platformDatabaseURL : List UInt8
  setting : String → Json

structure HealthSource where
  source : String
  version : Option (List UInt8)
  startedAt : Option Json
  json : Json

structure HealthSummary where
  sources : List HealthSource
  json : Json

/-- `encoding/json` and `net/url`. `Marshal` writes a value's names and texts with only punctuation,
numbers and constants around them, and `Unmarshal` reads the same texts. -/
structure BundlePackages where
  escape : List UInt8 → List UInt8
  marshal : Json → List UInt8
  marshalIndent : Json → List UInt8
  unmarshal : List UInt8 → Option Json
  unmarshalEvent : List UInt8 → Option (List UInt8)
  unmarshalSummary : List UInt8 → Option HealthSummary
  number : ℤ → Json.Number
  parseURL : List UInt8 → Option ParsedURL
  marshal_written : ∀ value, Json.Written escape (value.texts fun _ => false) (marshal value)
  marshalIndent_written : ∀ value,
    Json.Written escape (value.texts fun _ => false) (marshalIndent value)
  unmarshal_texts : ∀ value value' hides,
    unmarshal (marshalIndent value ++ [Mail.lf]) = some value' →
      value'.texts hides = value.texts hides

def diagnosticRedactedValue : List UInt8 := ascii "[REDACTED]"

def isDiagnosticPasswordField (name : List UInt8) : Bool := ascii "password" <:+: toLower name

mutual

def redactDiagnosticPasswordFields : Json → Json
  | .array items => .array (redactItems items)
  | .object fields => .object (redactFields fields)
  | value => value

def redactItems : List Json → List Json
  | [] => []
  | item :: items => redactDiagnosticPasswordFields item :: redactItems items

def redactFields : List (List UInt8 × Json) → List (List UInt8 × Json)
  | [] => []
  | (name, child) :: fields =>
    (name, if isDiagnosticPasswordField name then .string diagnosticRedactedValue
      else redactDiagnosticPasswordFields child) :: redactFields fields

end

def isRedacted : Json → Bool
  | .string text => text = diagnosticRedactedValue
  | _ => false

mutual

def removeRedactedPasswordFields : Json → Option Json
  | .array items => (removeFromItems items).map .array
  | .object fields => (removeFromFields fields).map .object
  | value => some value

def removeFromItems : List Json → Option (List Json)
  | [] => some []
  | item :: items =>
    (removeRedactedPasswordFields item).bind fun item' => (removeFromItems items).map (item' :: ·)

def removeFromFields : List (List UInt8 × Json) → Option (List (List UInt8 × Json))
  | [] => some []
  | (name, child) :: fields =>
    if isDiagnosticPasswordField name then
      if isRedacted child then removeFromFields fields else none
    else (removeRedactedPasswordFields child).bind fun child' =>
      (removeFromFields fields).map ((name, child') :: ·)

end

inductive BundleError
  | localWriteRejected
  | maximumSize
  | url
  | outputExists
  | configuredSecret (name : String)
  | notRedacted (name : String)
  | forbiddenMarker (name : String)
  | noSummary
  | metadataSize

def forbiddenMarkers : List (List UInt8) :=
  ["password", "ciphertext", "master_key", "master key", "token", "authorization", "dsn",
    "request_body", "raw_sql", "postgres://", "postgresql://", "bearer ", "-----begin private key",
    "select ", "insert into ", "update ", "delete from ", "create table ", "alter table ",
    "drop table "].map ascii

structure DiagnosticFile where
  name : String
  content : List UInt8

structure DiagnosticArchive where
  manifest : DiagnosticFile
  journal : List UInt8
  snapshotFiles : List DiagnosticFile

namespace BundlePackages

variable (packages : BundlePackages)

def contentWithoutRedactedPasswordFields (file : DiagnosticFile) :
    Except BundleError (List UInt8) :=
  if !".json".toList.isSuffixOf file.name.toList then .ok file.content
  else
    match packages.unmarshal file.content with
    | none => .ok file.content
    | some value =>
      match removeRedactedPasswordFields value with
      | none => .error (.notRedacted file.name)
      | some value => .ok (packages.marshal value)

def scanDiagnosticContent (secrets : List (List UInt8)) (file : DiagnosticFile) :
    Except BundleError Unit :=
  if ∃ secret ∈ secrets, secret ≠ [] ∧ secret <:+: file.content then
    .error (.configuredSecret file.name)
  else (packages.contentWithoutRedactedPasswordFields file).bind fun content =>
    if ∃ marker ∈ forbiddenMarkers, marker <:+: toLower content then
      .error (.forbiddenMarker file.name)
    else .ok ()

def latestHealthSummary (journal : List UInt8) : Option HealthSummary :=
  ((Mail.pieces journal).filterMap fun line =>
    let candidate := line.dropWhile (· ≠ 123)
    if candidate ≠ []
        ∧ packages.unmarshalEvent candidate = some (ascii "platform_health_summary") then
      packages.unmarshalSummary candidate
    else none).getLast?

def marshalDiagnosticJSON (name : String) (value : Json) : DiagnosticFile :=
  ⟨name, packages.marshalIndent (redactDiagnosticPasswordFields value) ++ [Mail.lf]⟩

end BundlePackages

def HealthSummary.bySource (snapshot : HealthSummary) (source : String) : Option HealthSource :=
  snapshot.sources.reverse.find? (·.source = source)

def text (value : String) : Json := .string (ascii value)

def endpoints : List (String × String) :=
  [("disk", "DISK"), ("scheduler", "COLLECTION_SCHEDULER"),
    ("partitions", "PARTITION_MAINTENANCE"), ("certificate", "TLS_CERTIFICATE"),
    ("keyring", "CREDENTIAL_KEYRING"), ("platform", "SERVER_PROCESS")]

def deploymentSummary (process : Option HealthSource) (shape : List UInt8) : Json :=
  .object ([(ascii "shape", .string shape)]
    ++ ((process.bind HealthSource.startedAt).map fun at_ => (ascii "started_at", at_)).toList
    ++ [(ascii "version", .string ((process.bind HealthSource.version).getD []))])

def effectiveDiagnosticConfigSummary (config : BundleConfig) (url : ParsedURL) : Json :=
  let setting := fun name => (ascii name, config.setting name)
  .object (["agent_binary_dir", "collection_freshness_threshold", "diagnostic_bundle_directory",
      "diagnostic_bundle_retention_limit", "local_disk_path", "migration_lock_wait_timeout",
      "notification_snapshot_retention_limit", "partition_maintenance_interval", "partition_span",
      "platform_database_capacity_budget_bytes"].map setting
    ++ [(ascii "platform_database_host", .string url.hostname),
      (ascii "platform_database_name",
        .string (if url.path.head? = some 47 then url.path.tail else url.path)),
      (ascii "platform_database_password", .string diagnosticRedactedValue),
      (ascii "platform_database_port", .string url.port),
      (ascii "platform_database_search_path", .string url.searchPath),
      (ascii "platform_database_sslmode", .string url.sslMode),
      (ascii "platform_database_username", .string (url.user.elim [] Prod.fst))]
    ++ ["repeat_interval_minimum", "session_absolute_ttl", "session_idle_ttl",
      "snapshot_truncation_limit"].map setting)

namespace BundlePackages

variable (packages : BundlePackages)

def diagnosticSnapshotFiles (snapshot : HealthSummary) (shape : List UInt8)
    (config : Option (BundleConfig × ParsedURL)) : List DiagnosticFile :=
  packages.marshalDiagnosticJSON "diagnostics/health.json" snapshot.json
    :: endpoints.map (fun (name, source) =>
      packages.marshalDiagnosticJSON ("diagnostics/" ++ name ++ ".json")
        ((snapshot.bySource source).elim (.object [(ascii "code", text "FACT_UNAVAILABLE"),
          (ascii "source", text source), (ascii "status", text "UNKNOWN")]) HealthSource.json))
    ++ [packages.marshalDiagnosticJSON "deployment.json"
      (deploymentSummary (snapshot.bySource "SERVER_PROCESS") shape)]
    ++ (config.map fun (config, url) => packages.marshalDiagnosticJSON "config.json"
      (effectiveDiagnosticConfigSummary config url)).toList

def platformDatabaseURL :
    Option BundleConfig → Except BundleError (Option (BundleConfig × ParsedURL))
  | none => .ok none
  | some config =>
    match packages.parseURL config.platformDatabaseURL with
    | none => .error .url
    | some url => .ok (some (config, url))

def renderDiagnosticArchive (snapshotFiles : List DiagnosticFile) (generatedAt : Json)
    (maximumBytes : ℤ) (journal : List UInt8) (journalTruncated : Bool) : DiagnosticArchive :=
  ⟨packages.marshalDiagnosticJSON "manifest.json" (.object
    [(ascii "generated_at", generatedAt), (ascii "journal_truncated", .bool journalTruncated),
      (ascii "journal_window", text "24h"),
      (ascii "maximum_bytes", .number (packages.number maximumBytes))]), journal, snapshotFiles⟩

end BundlePackages

def wholeLines : List UInt8 → List (List UInt8)
  | [] => []
  | byte :: journal =>
    if byte = Mail.lf then [byte] :: wholeLines journal
    else Mail.consFirst byte (wholeLines journal)

def lastLines (journal : List UInt8) (count : ℕ) : List UInt8 :=
  ((wholeLines journal).drop ((wholeLines journal).length - count)).flatten

def largestFittingDiagnosticArchive (size : DiagnosticArchive → ℕ) (maximumBytes : ℤ)
    (journal : List UInt8) (render : List UInt8 → DiagnosticArchive) :
    Except BundleError DiagnosticArchive :=
  let fits := fun count => decide (size (render (lastLines journal count)) ≤ maximumBytes)
  if fits 0 then
    .ok (render (lastLines journal (Bisection.last fits 0 ((wholeLines journal).length + 1) 0)))
  else .error .metadataSize

/-- The options are whether the journal was cut before, the configuration, and what
`LocalWriteAllowed` answers at the beginning and at the end. -/
def BundlePackages.createDiagnosticBundle (packages : BundlePackages)
    (size : DiagnosticArchive → ℕ) (outputExists : Bool) (journal : List UInt8)
    (generatedAt : Json) (shape : List UInt8) (maximumBytes : ℤ) (inputTruncated : Bool)
    (config : Option BundleConfig) (allowedBefore allowedAfter : Bool) :
    Except BundleError DiagnosticArchive :=
  if !allowedBefore then .error .localWriteRejected
  else if maximumBytes ≤ 0 then .error .maximumSize
  else (packages.platformDatabaseURL config).bind fun config =>
    let secrets := config.toList.map fun (_, url) => url.user.elim [] Prod.snd
    if outputExists then .error .outputExists
    else (packages.scanDiagnosticContent secrets ⟨"journal.log", journal⟩).bind fun _ =>
      match packages.latestHealthSummary journal with
      | none => .error .noSummary
      | some snapshot =>
        let files := packages.diagnosticSnapshotFiles snapshot shape config
        (files.forM (packages.scanDiagnosticContent secrets)).bind fun _ =>
          let render := packages.renderDiagnosticArchive files generatedAt maximumBytes
          let archive := render journal inputTruncated
          (if size archive ≤ maximumBytes then .ok archive
            else largestFittingDiagnosticArchive size maximumBytes journal (render · true)).bind
              fun archive => if allowedAfter then .ok archive else .error .localWriteRejected

end DbsMonitor
