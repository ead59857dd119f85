/-!
# Settings

What is configured about the process around the providers: the deadline of a webhook call, the level
and the format of the log, the name of the environment and the offset of the time line in messages.
-/

set_option autoImplicit false

namespace Tocsin.Settings

/-- Settings of the client that calls the webhooks. -/
structure HttpSettings where
  /-- The deadline of one call in seconds. -/
  timeoutSeconds : Float
  deriving Repr

/-- Settings of the log. -/
structure LoggingSettings where
  level : String
  format : String
  deriving DecidableEq, Repr

/-- All settings of a process. -/
structure AppSettings where
  env : String
  /-- Hours east of UTC of the time line in messages. -/
  utcOffsetHours : Int
  http : HttpSettings
  logging : LoggingSettings
  deriving Repr

/-- Whether the process runs in production. -/
def AppSettings.isProduction (s : AppSettings) : Bool := s.env = "production"

/-- Whether two settings of the client are equal; a deadline that is no number equals none. -/
def HttpSettings.agrees (s t : HttpSettings) : Bool := s.timeoutSeconds == t.timeoutSeconds

/-- Whether all settings are equal. -/
def AppSettings.agrees (s t : AppSettings) : Bool :=
  s.env == t.env && s.utcOffsetHours == t.utcOffsetHours && s.http.agrees t.http
    && s.logging == t.logging

end Tocsin.Settings
