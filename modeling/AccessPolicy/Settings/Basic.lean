import AccessPolicy.Fault
import AccessPolicy.Policy.Matching

namespace AccessPolicy

structure EngineSettings where
  storeTimeoutMs : UInt64
  cacheTtlMs : UInt64
  patternMode : PatternMode
  audit : Bool
  deriving DecidableEq, Repr

inductive LogFormat where
  | pretty
  | json
  deriving DecidableEq, Repr

structure LogSettings where
  filter : String
  format : LogFormat
  deriving DecidableEq, Repr

structure StoreSettings where
  policiesFile : Option String
  deriving DecidableEq, Repr

structure Settings where
  version : UInt32
  engine : EngineSettings
  log : LogSettings
  store : StoreSettings
  deriving DecidableEq, Repr

namespace EngineSettings

def standard : EngineSettings := ⟨2000, 30000, .stub, false⟩

def storeTimeout (s : EngineSettings) : Span := .ofMillis s.storeTimeoutMs.toNat

def cacheTtl (s : EngineSettings) : Option Span :=
  if s.cacheTtlMs = 0 then none else some (.ofMillis s.cacheTtlMs.toNat)

def validate (s : EngineSettings) : Except Fault Unit :=
  if s.storeTimeoutMs < 10 ∨ 60000 < s.storeTimeoutMs then
    .error (.badRequest "engine.store_timeout_ms must be between 10 and 60000")
  else if 3600000 < s.cacheTtlMs then .error (.badRequest "engine.cache_ttl_ms must be at most 3600000")
  else .ok ()

end EngineSettings

namespace LogSettings

def standard : LogSettings := ⟨"info", .pretty⟩

def validate (s : LogSettings) : Except Fault Unit :=
  if Text.isBlankText s.filter then .error (.badRequest "log.filter must not be empty") else .ok ()

end LogSettings

namespace Settings

def standard : Settings := ⟨1, .standard, .standard, ⟨none⟩⟩

instance : Inhabited Settings := ⟨standard⟩

def validate (s : Settings) : Except Fault Unit :=
  if s.version ≠ 1 then .error .unsupportedVersion
  else do
    s.engine.validate
    s.log.validate

end Settings

end AccessPolicy
