import AccessPolicy.Settings.Basic
import AccessPolicy.Yaml.Decode

namespace AccessPolicy

open Yaml

def EngineSettings.fields : List (Field Node EngineSettings) := [
  .optional "store_timeout_ms" (Decoder.natural (UInt64.size - 1)) fun n s => { s with storeTimeoutMs := .ofNat n },
  .optional "cache_ttl_ms" (Decoder.natural (UInt64.size - 1)) fun n s => { s with cacheTtlMs := .ofNat n },
  .optional "regex_operator" (Decoder.word [("stub", PatternMode.stub), ("enabled", .enabled)])
    fun m s => { s with patternMode := m },
  .optional "audit" Decoder.bool fun b s => { s with audit := b }
]

def LogSettings.fields : List (Field Node LogSettings) := [
  .optional "filter" Decoder.text fun t s => { s with filter := t },
  .optional "format" (Decoder.word [("pretty", LogFormat.pretty), ("json", .json)]) fun f s => { s with format := f }
]

def StoreSettings.fields : List (Field Node StoreSettings) := [
  .optional "policies_file" Decoder.optionText fun t s => { s with policiesFile := t }
]

namespace Settings

def fields : List (Field Node Settings) := [
  .needed "version" (Decoder.natural (UInt32.size - 1)) fun n s => { s with version := .ofNat n },
  .optional "engine" (record .standard EngineSettings.fields) fun e s => { s with engine := e },
  .optional "log" (record .standard LogSettings.fields) fun l s => { s with log := l },
  .optional "store" (record ⟨none⟩ StoreSettings.fields) fun t s => { s with store := t }
]

def decoder : Decoder Settings := record standard fields

def ofText (text : String) : Except Fault Settings :=
  match Yaml.decode decoder text with
  | .error f => .error (.badRequest ("invalid yaml: " ++ f.message))
  | .ok s => s.validate.map fun _ => s

end Settings

end AccessPolicy
