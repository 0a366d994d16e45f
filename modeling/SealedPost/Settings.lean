import SealedPost.Json.Writer
import SealedPost.Text.ByteEscape
import SealedPost.Text.UpperCase
import SealedPost.Wire.Part

/-! # Settings

The settings have defaults, which variables of the environment replace. Variables are
bytes and are read as text; numbers among them are read as integers of a field. -/

namespace SealedPost

/-- The settings of the service. -/
structure Settings where
  allowedOrigins : List Text
  leeway : Int
  idLifetime : Int
  logLevel : Text

namespace Settings

/-- The settings without any variable. -/
def default : Settings where
  allowedOrigins := ["http://localhost:5173", "http://127.0.0.1:5173"]
  leeway := 60
  idLifetime := 600
  logLevel := "INFO"

/-- Origins between commas, without blanks around them and without empty ones. -/
def splitOrigins (t : Text) : List Text :=
  ((t.splitOn (.char ',')).map Text.trim).filter fun origin => !origin.isEmpty

/-- A number from a variable, or its default. -/
def number (field : Text) (value? : Option Text) (default : Int) : Wire.Checked Int :=
  match value? with
  | some t => .under (.field field) (Wire.integer (.str t))
  | none => .ok default

/-- The text of a variable, if it is set. -/
def valueOf? (name : Text) (environment : List (Text × Bytes)) : Option Text :=
  (environment.lookup name).map Utf8.decodeEscaped

/-- The settings from the variables of an environment. An empty list of origins counts as
none given. -/
def ofEnvironment (environment : List (Text × Bytes)) : Wire.Checked Settings :=
  let origins :=
    match valueOf? "NOLIK_CORS_ORIGINS" environment with
    | some t => if t.isEmpty then default.allowedOrigins else splitOrigins t
    | none => default.allowedOrigins
  let level := ((valueOf? "NOLIK_LOG_LEVEL" environment).map Text.upper).getD default.logLevel
  ((number "jws_leeway_sec" (valueOf? "NOLIK_JWS_LEEWAY" environment) default.leeway).both
    (number "jti_ttl_sec" (valueOf? "NOLIK_JTI_TTL" environment) default.idLifetime)).map
    fun numbers => ⟨origins, numbers.1, numbers.2, level⟩

/-- Writes settings. -/
def toJson (s : Settings) : Json :=
  .obj [("cors_origins", .arr (s.allowedOrigins.map Json.str)),
    ("jws_leeway_sec", .int s.leeway), ("jti_ttl_sec", .int s.idLifetime),
    ("log_level", .str s.logLevel)]

end Settings
end SealedPost
