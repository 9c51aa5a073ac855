import Pentagon5.Python.Float
import Pentagon5.Python.Urlparse

/-!
# Environment configuration

`secret_value` and `load_runtime_settings`, with the checks in the order of the source.
-/

namespace Pentagon5.Runtime.Config

open Python

/-- The exceptions of loading settings; a `ConfigurationError` with its text. -/
inductive ConfigError where
  | configurationError (message : Str)
  | valueError
  | osError
deriving DecidableEq

/-- `os.environ`; of entries with the same key the first counts. -/
abbrev Environ := List (Str × Str)

/-- `environ.get(name)`. -/
def Environ.get (environ : Environ) (name : String) : Option Str := environ.lookup ↑name

/-- What a path leads to. -/
inductive FileEntry where
  | irregular
  | unreadable
  | regular (content : List UInt8)

/-- What the settings depend on besides the environment. -/
structure ConfigPlatform where
  /-- `float(text)`. -/
  float : Str → Option PyFloat
  upper : Str → Str
  /-- The authorities that `urlsplit` refuses. -/
  refused : Str → Bool
  file : Str → FileEntry

/-- The line ends of a text file. -/
def universalNewlines : List Char → List Char
  | '\r' :: '\n' :: rest => '\n' :: universalNewlines rest
  | '\r' :: rest => '\n' :: universalNewlines rest
  | c :: rest => c :: universalNewlines rest
  | [] => []

/-- `path.read_text(encoding="utf-8")` of a file with this content. -/
def readText (content : List UInt8) : Except ConfigError String :=
  match decode content with
  | some text => .ok (ofChars (universalNewlines (chars text)))
  | none => .error .valueError

/-- `text.removesuffix("\n")`. -/
def removeNewline (text : Str) : Str :=
  if text.codes.getLast? = some '\n'.toNat then ⟨text.codes.dropLast⟩ else text

section

variable (P : ConfigPlatform) (environ : Environ)

/-- `secret_value`. -/
def secretValue (name : String) : Except ConfigError Str := do
  let direct := (environ.get name).getD ""
  let fileName := (environ.get (name ++ "_FILE")).getD ""
  if direct ≠ ⟨[]⟩ ∧ fileName ≠ ⟨[]⟩ then
    .error (.configurationError s!"{name} and {name}_FILE are mutually exclusive")
  else
    let value ←
      if fileName ≠ ⟨[]⟩ then
        match P.file fileName with
        | .irregular => .error (.configurationError s!"{name}_FILE does not reference a regular file")
        | .unreadable => .error .osError
        | .regular content => (readText content).map fun text => removeNewline (Str.ofString text)
      else .ok direct
    if value = ⟨[]⟩ then .error (.configurationError s!"{name} is required") else .ok value

/-- `_bounded_number`, where `range` is how the bounds are printed. -/
def boundedNumber (name default : String) (minimum maximum : ℚ) (range : String) :
    Except ConfigError ℚ :=
  match P.float ((environ.get name).getD default) with
  | none => .error (.configurationError s!"{name} must be numeric")
  | some (.finite value) =>
    if minimum ≤ value ∧ value ≤ maximum then .ok value
    else .error (.configurationError s!"{name} must be between {range}")
  | some _ => .error (.configurationError s!"{name} must be between {range}")

structure RuntimeSettings where
  serviceName : Str
  environment : Str
  databaseUrl : Str
  logLevel : Str
  otlpEndpoint : Option Str
  corsOrigins : List Str
  maxBodyBytes : ℕ
  requestTimeoutSeconds : ℚ
deriving DecidableEq

def knownKeys : List String := ["P5_DATABASE_URL", "P5_DATABASE_URL_FILE", "P5_ENVIRONMENT",
  "P5_LOG_LEVEL", "P5_CORS_ORIGINS", "P5_MAX_BODY_BYTES", "P5_OTLP_ENDPOINT",
  "P5_REQUEST_TIMEOUT_SECONDS", "P5_SERVICE_NAME"]

/-- The keys that start with the prefix and are not known. -/
def unknownKeys (allowedExtra : List String) : List Str :=
  ((environ.map Prod.fst).filter fun key => key.startsWith "P5_" ∧
    key ∉ (knownKeys ++ allowedExtra).map Str.ofString).mergeSort (· ≤ ·)

/-- `", ".join(texts)`. -/
def joinComma : List Str → Str
  | [] => ""
  | [text] => text
  | text :: texts => text ++ Str.ofString ", " ++ joinComma texts

/-- `tuple(origin.strip() for origin in raw_origins.split(",") if origin.strip())`. -/
def originEntries (rawOrigins : Str) : List Str :=
  ((rawOrigins.codes.splitOn ','.toNat).map fun origin => Str.strip ⟨origin⟩).filter (· ≠ ⟨[]⟩)

/-- What makes an origin be refused. -/
def isInexact (origin : Str) (parsed : ParseResult) : Bool :=
  origin = "*" ∨ parsed.scheme ∉ ["http", "https"].map Str.ofString ∨ parsed.netloc = ⟨[]⟩ ∨
    parsed.path ∉ ["", "/"].map Str.ofString ∨ parsed.params ≠ ⟨[]⟩ ∨ parsed.query ≠ ⟨[]⟩ ∨
    parsed.fragment ≠ ⟨[]⟩

/-- The entries of `P5_CORS_ORIGINS`, once they are checked. -/
def corsOrigins (rawOrigins : Str) : Except ConfigError (List Str) :=
  let origins := originEntries rawOrigins
  match origins.mapM (urlparse P.refused) with
  | none => .error .valueError
  | some parsedOrigins =>
    if (origins.zip parsedOrigins).any fun (origin, parsed) => isInexact origin parsed then
      .error (.configurationError "P5_CORS_ORIGINS must contain exact HTTP(S) origins")
    else .ok origins

/-- `load_runtime_settings`. -/
def loadRuntimeSettings (allowedExtra : List String) : Except ConfigError RuntimeSettings := do
  let unknown := unknownKeys environ allowedExtra
  if unknown ≠ [] then
    .error (.configurationError (("unknown PENTAGON5 settings: " : Str) ++ joinComma unknown))
  else
    let environment := (environ.get "P5_ENVIRONMENT").getD "production"
    if environment ∉ ["development", "test", "staging", "production"].map Str.ofString then
      .error (.configurationError "P5_ENVIRONMENT must be development, test, staging, or production")
    else
      let databaseUrl ← secretValue P environ "P5_DATABASE_URL"
      match urlparse P.refused databaseUrl with
      | none => .error .valueError
      | some parsed =>
        if parsed.scheme ∉ ["postgresql", "postgresql+psycopg"].map Str.ofString then
          .error (.configurationError "P5_DATABASE_URL must use PostgreSQL")
        else
          let logLevel := P.upper ((environ.get "P5_LOG_LEVEL").getD "INFO")
          if logLevel ∉ ["DEBUG", "INFO", "WARNING", "ERROR", "CRITICAL"].map Str.ofString then
            .error (.configurationError "P5_LOG_LEVEL is invalid")
          else
            let serviceName := ((environ.get "P5_SERVICE_NAME").getD "").strip
            if serviceName = ⟨[]⟩ then .error (.configurationError "P5_SERVICE_NAME is required")
            else
              let origins ← corsOrigins P ((environ.get "P5_CORS_ORIGINS").getD "")
              let maxBodyBytes ← boundedNumber P environ "P5_MAX_BODY_BYTES" "1048576" 1024 10485760
                "1024 and 1.04858e+07"
              let requestTimeout ← boundedNumber P environ "P5_REQUEST_TIMEOUT_SECONDS" "15" 1 60
                "1 and 60"
              let otlpEndpoint := (environ.get "P5_OTLP_ENDPOINT").filter (· ≠ ⟨[]⟩)
              return ⟨serviceName, environment, databaseUrl, logLevel, otlpEndpoint, origins,
                ⌊maxBodyBytes⌋₊, requestTimeout⟩

end

section

variable {P : ConfigPlatform} {environ environ' : Environ}

lemma secretValue_congr {name : String} (h : environ.get name = environ'.get name)
    (hfile : environ.get (name ++ "_FILE") = environ'.get (name ++ "_FILE")) :
    secretValue P environ name = secretValue P environ' name := by
  rw [secretValue, h, hfile]
  rfl

lemma boundedNumber_congr {name default range : String} {minimum maximum : ℚ}
    (h : environ.get name = environ'.get name) :
    boundedNumber P environ name default minimum maximum range =
      boundedNumber P environ' name default minimum maximum range := by
  rw [boundedNumber, h]
  rfl

/-- The settings depend on the known variables and on which variables are unknown. -/
lemma loadRuntimeSettings_congr {allowedExtra : List String}
    (hunknown : unknownKeys environ allowedExtra = unknownKeys environ' allowedExtra)
    (hget : ∀ name ∈ knownKeys, environ.get name = environ'.get name) :
    loadRuntimeSettings P environ allowedExtra = loadRuntimeSettings P environ' allowedExtra := by
  rw [loadRuntimeSettings, loadRuntimeSettings, hunknown,
    hget "P5_ENVIRONMENT" (by decide), hget "P5_LOG_LEVEL" (by decide),
    hget "P5_SERVICE_NAME" (by decide), hget "P5_CORS_ORIGINS" (by decide),
    hget "P5_OTLP_ENDPOINT" (by decide),
    secretValue_congr (hget "P5_DATABASE_URL" (by decide)) (hget "P5_DATABASE_URL_FILE" (by decide)),
    boundedNumber_congr (hget "P5_MAX_BODY_BYTES" (by decide)),
    boundedNumber_congr (hget "P5_REQUEST_TIMEOUT_SECONDS" (by decide))]

lemma universalNewlines_eq_self {cs : List Char} (h : '\r' ∉ cs) : universalNewlines cs = cs := by
  induction cs with
  | nil => rfl
  | cons c cs ih =>
    have hc : c ≠ '\r' := fun he => h (he ▸ List.mem_cons_self)
    have hcs : '\r' ∉ cs := fun hmem => h (List.mem_cons_of_mem _ hmem)
    rw [universalNewlines, ih hcs]
    · exact fun _ he => absurd he hc
    · exact fun he => absurd he hc

/-- A text without carriage returns is read as it was written. -/
lemma readText_encode {text : String} (h : '\r' ∉ text.toList) : readText (encode text) = .ok text := by
  rw [readText, decode_encode]
  simp only [chars_eq, universalNewlines_eq_self h, ofChars_eq, String.ofList_toList]

lemma removeNewline_of_ne {text : Str} (h : text.codes.getLast? ≠ some '\n'.toNat) :
    removeNewline text = text := if_neg h

lemma removeNewline_append (text : Str) : removeNewline (text ++ Str.ofString "\n") = text := by
  have hcodes : (text ++ Str.ofString "\n").codes = text.codes ++ ['\n'.toNat] := rfl
  rw [removeNewline, hcodes, if_pos List.getLast?_concat, List.dropLast_concat]

end

end Pentagon5.Runtime.Config
