import Paryty.Lib.Float64
import Paryty.Lib.JavaScript

/-!
# Load-test scripts

`generateK6Script` of `cluster/internal/simulation/chaos.go` puts a k6 script together from a
configuration: the target URL, escaped by hand, the durations and the thresholds stand in
single-quoted literals.

`Faithful` says that the script is the template with these literals: each ends where the template
ends it, the URL is the target URL, and the durations are the configured ones. `Clean` is when.

`url.Parse` is a parameter. A text is a list of Unicode characters.
-/

namespace Paryty.Simulation

open Lib.Float64 (nearest truncate)
open Lib.JavaScript (Slot)

/-! ## Durations -/

/-- A `time.Duration`, in nanoseconds. -/
abbrev Duration := Int64

/-- `time.Second`. -/
def second : ℤ := 1000000000

/-- `time.Minute`. -/
def minute : ℤ := 60 * second

/-- A duration as a float in a unit: the whole units and the nanoseconds left are converted one by
one. -/
def Duration.inUnits (unit : ℤ) (d : Duration) : ℚ :=
  nearest (nearest (d.toInt.tdiv unit) + nearest (nearest (d.toInt.tmod unit) / unit))

/-- `Duration.Seconds`. -/
def Duration.seconds (d : Duration) : ℚ := d.inUnits second

/-- `Duration.Minutes`. -/
def Duration.minutes (d : Duration) : ℚ := d.inUnits minute

/-- The duration as k6 reads it, without fractions. -/
def formatDuration (d : Duration) : String :=
  if d.toInt < minute then toString (truncate d.seconds) ++ "s"
  else toString (truncate d.minutes) ++ "m"

/-! ## Scripts -/

/-- The configuration of a load test. -/
structure LoadTestConfig where
  targetURL : String
  vus : Int64
  duration : Duration
  rampUp : Duration
  thresholds : List String
  scriptTemplate : String

/-- The replacer of the characters that could end a literal: the first pair that matches is
replaced, from left to right. -/
def replace : List Char → List Char
  | '\\' :: '\\' :: url => '\\' :: '\\' :: '\\' :: '\\' :: replace url
  | '\'' :: url => '\\' :: '\\' :: '\'' :: replace url
  | '"' :: url => '\\' :: '\\' :: '"' :: replace url
  | '\n' :: url => '\\' :: '\\' :: 'n' :: replace url
  | '\r' :: url => '\\' :: '\\' :: 'r' :: replace url
  | c :: url => c :: replace url
  | [] => []

/-- The URL as it is written into the script. -/
def safeURL (targetURL : String) : String := .ofList (replace targetURL.toList)

/-- The part before the first separator, if there is one. -/
def splitAt (separator : Char) (t : String) : Option String :=
  if separator ∈ t.toList then some (.ofList (t.toList.takeWhile (· ≠ separator))) else none

/-- The metric of a threshold. -/
def metric (t : String) : Option String := (splitAt '<' t).or (splitAt '>' t)

/-- The virtual users and the duration, in stages if there is a ramp-up. -/
def writeStages (config : LoadTestConfig) : String :=
  if config.rampUp.toInt > 0 then
    "  stages: [\n" ++
    ("    \x7b duration: '" ++ formatDuration config.rampUp ++ "', target: " ++
      toString config.vus.toInt ++ " \x7d,\n") ++
    ("    \x7b duration: '" ++ formatDuration config.duration ++ "', target: " ++
      toString config.vus.toInt ++ " \x7d,\n") ++
    "  ],\n"
  else
    ("  vus: " ++ toString config.vus.toInt ++ ",\n") ++
    ("  duration: '" ++ formatDuration config.duration ++ "',\n")

/-- A threshold, if it has the format. -/
def writeThreshold (t : String) : String :=
  match metric t with
  | some metric => "    '" ++ metric ++ "': ['" ++ ("'" ++ t ++ "'") ++ "'],\n"
  | none => ""

/-- The thresholds, if there are any. -/
def writeThresholds (config : LoadTestConfig) : String :=
  if config.thresholds.length > 0 then
    "  thresholds: \x7b\n" ++ config.thresholds.foldr (fun t rest => writeThreshold t ++ rest) "" ++
    "  \x7d,\n"
  else ""

/-- The generated script. -/
def writeScript (config : LoadTestConfig) : String :=
  "import http from 'k6/http';\n" ++
  "import \x7b check, sleep \x7d from 'k6';\n" ++
  "\n" ++
  "export const options = \x7b\n" ++
  writeStages config ++
  writeThresholds config ++
  "\x7d;\n" ++
  "\n" ++
  "export default function () \x7b\n" ++
  ("  const res = http.get('" ++ safeURL config.targetURL ++ "');\n") ++
  "  check(res, \x7b\n" ++
  "    'status is 200': (r) => r.status === 200,\n" ++
  "    'response time < 500ms': (r) => r.timings.duration < 500,\n" ++
  "  \x7d);\n" ++
  "  sleep(1);\n" ++
  "\x7d\n"

/-- The parts of a URL that are checked. -/
structure URL where
  scheme : String
  host : String

/-- `generateK6Script`; a custom script is taken as it is. -/
def generateK6Script (parse : String → Option URL) (config : LoadTestConfig) :
    Except String String :=
  if config.scriptTemplate ≠ "" then .ok config.scriptTemplate
  else
    match parse config.targetURL with
    | none => .error "invalid target URL: must be http or https"
    | some parsedURL =>
      if parsedURL.scheme ≠ "http" ∧ parsedURL.scheme ≠ "https" then
        .error "invalid target URL: must be http or https"
      else if parsedURL.host = "" then .error "invalid target URL: missing host"
      else .ok (writeScript config)

/-! ## What a script should be -/

/-- An integer in decimal. -/
def integerOf : List Char → Option ℤ
  | '-' :: digits =>
    if digits ≠ [] ∧ digits.all Char.isDigit then some (-Nat.ofDigitChars 10 digits 0) else none
  | digits =>
    if digits ≠ [] ∧ digits.all Char.isDigit then some (Nat.ofDigitChars 10 digits 0) else none

/-- The nanoseconds of a k6 duration in seconds or minutes. -/
def durationOf (text : List Char) : Option ℤ :=
  match text.getLast? with
  | some 's' => (integerOf text.dropLast).map (· * second)
  | some 'm' => (integerOf text.dropLast).map (· * minute)
  | _ => none

/-- The literal denotes the duration. -/
def Denotes (d : Duration) (value : List ℕ) : Prop :=
  durationOf (value.map Char.ofNat) = some d.toInt

/-- A literal of the template. -/
def fixed (text : String) : Slot := .quoted text.toList (· = Lib.JavaScript.units text.toList)

/-- Code of the template. -/
def code (text : String) : Slot := .code text.toList

/-- The stages of the template. -/
def stageSlots (config : LoadTestConfig) : List Slot :=
  let target := ", target: " ++ toString config.vus.toInt ++ " \x7d,\n"
  if config.rampUp.toInt > 0 then
    [code "  stages: [\n    \x7b duration: ",
      .quoted (formatDuration config.rampUp).toList (Denotes config.rampUp), code target,
      code "    \x7b duration: ",
      .quoted (formatDuration config.duration).toList (Denotes config.duration), code target,
      code "  ],\n"]
  else
    [code ("  vus: " ++ toString config.vus.toInt ++ ",\n  duration: "),
      .quoted (formatDuration config.duration).toList (Denotes config.duration), code ",\n"]

/-- A threshold in the template: the metric and the threshold stay in their literals. -/
def thresholdSlots (t : String) : List Slot :=
  match metric t with
  | some metric =>
    [code "    ", .quoted metric.toList fun _ => True, code ": [",
      .quoted ("'" ++ t ++ "'").toList fun _ => True, code "],\n"]
  | none => []

/-- The template with the literals of a configuration. -/
def template (config : LoadTestConfig) : List Slot :=
  [code "import http from ", fixed "k6/http",
    code ";\nimport \x7b check, sleep \x7d from ", fixed "k6",
    code ";\n\nexport const options = \x7b\n"] ++
  stageSlots config ++
  (if config.thresholds.length > 0 then
    code "  thresholds: \x7b\n" :: config.thresholds.flatMap thresholdSlots ++ [code "  \x7d,\n"]
  else []) ++
  [code "\x7d;\n\nexport default function () \x7b\n  const res = http.get(",
    .quoted (safeURL config.targetURL).toList
      (· = Lib.JavaScript.units config.targetURL.toList),
    code ");\n  check(res, \x7b\n    ", fixed "status is 200",
    code ": (r) => r.status === 200,\n    ", fixed "response time < 500ms",
    code ": (r) => r.timings.duration < 500,\n  \x7d);\n  sleep(1);\n\x7d\n"]

/-- The script is the template with the literals of the configuration. -/
def Faithful (config : LoadTestConfig) (script : String) : Prop :=
  ∃ tokens, Lib.JavaScript.scan .code script.toList = some tokens ∧
    Lib.JavaScript.Fits (template config) tokens

/-! ## When it is -/

/-- Quotes and line ends only behind a backslash, and no other backslashes but pairs. -/
def cleanURL : List Char → Bool
  | [] => true
  | ['\\'] => false
  | '\\' :: c :: url => (c = '\\' || c = '\'' || c = '"' || c = '\n' || c = '\r') && cleanURL url
  | c :: url => c ≠ '\'' && c ≠ '"' && c ≠ '\n' && c ≠ '\r' && cleanURL url

/-- Whole seconds below a minute, whole minutes from there on. -/
def Exact (d : Duration) : Prop :=
  if d.toInt < minute then second ∣ d.toInt else minute ∣ d.toInt

/-- The configurations whose script is faithful. -/
def Clean (config : LoadTestConfig) : Prop :=
  cleanURL config.targetURL.toList = true ∧ (config.rampUp.toInt > 0 → Exact config.rampUp) ∧
    Exact config.duration ∧ ∀ t ∈ config.thresholds, metric t = none

end Paryty.Simulation
