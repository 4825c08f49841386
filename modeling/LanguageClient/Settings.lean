import LanguageClient.Json.Shape

/-!
The settings of the client: how the server is run, how long its shutdown may take, and whether the
server writes logs of its own.
-/
namespace LanguageClient

structure LoggingSettings where
  enabled : Bool
  path : String
  deriving DecidableEq, Repr

namespace LoggingSettings

def default : LoggingSettings := ⟨false, "."⟩

def record : Json.Record LoggingSettings :=
  LoggingSettings.mk <$> .withDefault "enabled" Json.Decoder.bool default.enabled
    <*> .withDefault "path" Json.Decoder.path default.path

def decodeWith (spare : Bool) : Json.Decoder LoggingSettings :=
  record.decodeWith spare "ServerLoggingConfig"

def decode : Json.Decoder LoggingSettings := decodeWith false

def toJson (s : LoggingSettings) : Json :=
  .ofMembers [("enabled", .bool s.enabled), ("path", .string s.path)]

end LoggingSettings

/-- The server process. The time for its shutdown is in seconds. -/
structure ServerSettings where
  executablePath : String
  shutdownTimeout : UInt64
  logging : LoggingSettings
  deriving DecidableEq, Repr

namespace ServerSettings

def default : ServerSettings := ⟨"lean", 5, .default⟩

def loggingDirectory? (s : ServerSettings) : Option String :=
  if s.logging.enabled then some s.logging.path else none

def record (spare : Bool) : Json.Record ServerSettings :=
  ServerSettings.mk <$> .withDefault "executable_path" Json.Decoder.string default.executablePath
    <*> .withDefault "shutdown_timeout_secs" Json.Decoder.uint64 default.shutdownTimeout
    <*> .withDefault "logging" (LoggingSettings.decodeWith spare) default.logging

def decodeWith (spare : Bool) : Json.Decoder ServerSettings :=
  (record spare).decodeWith spare "ServerConfig"

def decode : Json.Decoder ServerSettings := decodeWith false

def toJson (s : ServerSettings) : Json :=
  .ofMembers [("executable_path", .string s.executablePath),
    ("shutdown_timeout_secs", .whole (.ofUInt64 s.shutdownTimeout)),
    ("logging", s.logging.toJson)]

end ServerSettings

structure Settings where
  server : ServerSettings
  deriving DecidableEq, Repr

namespace Settings

def default : Settings := ⟨.default⟩

def record (spare : Bool) : Json.Record Settings :=
  Settings.mk <$> .withDefault "server" (ServerSettings.decodeWith spare) default.server

def decodeWith (spare : Bool) : Json.Decoder Settings :=
  (record spare).decodeWith spare "LeanConfig"

def decode : Json.Decoder Settings := decodeWith false

def toJson (s : Settings) : Json := .ofMembers [("server", s.server.toJson)]

end Settings

end LanguageClient
