import Mathlib
import AccessPolicy.Proofs.Yaml.Records
import AccessPolicy.Settings.Decode

namespace AccessPolicy

open Yaml

theorem Yaml.decode_of_not_cut {α : Type} {d : Decoder α} {text : String} (h : (Yaml.read text).cut = false) :
    Yaml.decode d text = d (Yaml.read text).root := by
  rw [decode]
  cases d (Yaml.read text).root <;> simp [h, bind, Except.bind]

namespace EngineSettings

def parts : List (RecordPart EngineSettings) := [
  ⟨"store_timeout_ms", false, storeTimeoutMs, fun n ms => n.IsNatural ms.toNat⟩,
  ⟨"cache_ttl_ms", false, cacheTtlMs, fun n ms => n.IsNatural ms.toNat⟩,
  ⟨"regex_operator", false, patternMode, Node.IsWord [("stub", .stub), ("enabled", .enabled)]⟩,
  ⟨"audit", false, audit, Node.IsFlag⟩
]

theorem covers : Covers fields parts where
  reads :=
    .cons (Field.reads_of_decoder .ofNat rfl rfl rfl (fun _ _ => rfl) Node.isNatural_uInt64_iff)
      (.cons (Field.reads_of_decoder .ofNat rfl rfl rfl (fun _ _ => rfl) Node.isNatural_uInt64_iff)
        (.cons (Field.reads_optional (fun _ _ => rfl) fun _ _ => Decoder.word_eq_ok_iff)
          (.cons (Field.reads_optional (fun _ _ => rfl) fun _ _ => Decoder.bool_eq_ok_iff) .nil)))
  leaves := by simp [fields, parts]
  distinct := by decide
  ext := by
    rintro ⟨⟩ ⟨⟩ h
    simpa [parts] using h

end EngineSettings

namespace LogSettings

def parts : List (RecordPart LogSettings) := [
  ⟨"filter", false, filter, Node.IsText⟩,
  ⟨"format", false, format, Node.IsWord [("pretty", .pretty), ("json", .json)]⟩
]

theorem covers : Covers fields parts where
  reads :=
    .cons (Field.reads_optional (fun _ _ => rfl) fun _ _ => Decoder.text_eq_ok_iff)
      (.cons (Field.reads_optional (fun _ _ => rfl) fun _ _ => Decoder.word_eq_ok_iff) .nil)
  leaves := by simp [fields, parts]
  distinct := by decide
  ext := by
    rintro ⟨⟩ ⟨⟩ h
    simpa [parts] using h

end LogSettings

namespace StoreSettings

def parts : List (RecordPart StoreSettings) := [⟨"policies_file", false, policiesFile, Node.IsOptionText⟩]

theorem covers : Covers fields parts where
  reads := .cons (Field.reads_optional (fun _ _ => rfl) fun _ _ => Decoder.optionText_eq_ok_iff) .nil
  leaves := by simp [fields, parts]
  distinct := by decide
  ext := by
    rintro ⟨⟩ ⟨⟩ h
    simpa [parts] using h

end StoreSettings

namespace Settings

def parts : List (RecordPart Settings) := [
  ⟨"version", true, version, fun n v => n.IsNatural v.toNat⟩,
  ⟨"engine", false, engine, Node.IsRecord EngineSettings.parts .standard⟩,
  ⟨"log", false, log, Node.IsRecord LogSettings.parts .standard⟩,
  ⟨"store", false, store, Node.IsRecord StoreSettings.parts ⟨none⟩⟩
]

theorem covers : Covers fields parts where
  reads :=
    .cons (Field.reads_of_decoder .ofNat rfl rfl rfl (fun _ _ => rfl) Node.isNatural_uInt32_iff)
      (.cons (Field.reads_optional (fun _ _ => rfl) fun _ _ => EngineSettings.covers.record_eq_ok_iff)
        (.cons (Field.reads_optional (fun _ _ => rfl) fun _ _ => LogSettings.covers.record_eq_ok_iff)
          (.cons (Field.reads_optional (fun _ _ => rfl) fun _ _ => StoreSettings.covers.record_eq_ok_iff) .nil)))
  leaves := by simp [fields, parts]
  distinct := by decide
  ext := by
    rintro ⟨⟩ ⟨⟩ h
    simpa [parts] using h

variable {s : Settings}

inductive Check where
  | version
  | storeTimeout
  | cacheTtl
  | filter
  deriving DecidableEq, Repr

namespace Check

def all : List Check := [.version, .storeTimeout, .cacheTtl, .filter]

def Holds (s : Settings) : Check → Prop
  | .version => s.version = 1
  | .storeTimeout => 10 ≤ s.engine.storeTimeoutMs ∧ s.engine.storeTimeoutMs ≤ 60000
  | .cacheTtl => s.engine.cacheTtlMs ≤ 3600000
  | .filter => ∃ c ∈ s.log.filter.toList, Text.isBlank c = false

instance : DecidablePred (Holds s)
  | .version => inferInstanceAs (Decidable (_ = _))
  | .storeTimeout => inferInstanceAs (Decidable (_ ∧ _))
  | .cacheTtl => inferInstanceAs (Decidable (_ ≤ _))
  | .filter => inferInstanceAs (Decidable (∃ c ∈ s.log.filter.toList, Text.isBlank c = false))

def fault : Check → Fault
  | .version => .unsupportedVersion
  | .storeTimeout => .badRequest "engine.store_timeout_ms must be between 10 and 60000"
  | .cacheTtl => .badRequest "engine.cache_ttl_ms must be at most 3600000"
  | .filter => .badRequest "log.filter must not be empty"

end Check

def failing? (s : Settings) : Option Check := Check.all.find? fun c => !decide (c.Holds s)

theorem failing?_eq_none_iff : s.failing? = none ↔ ∀ c : Check, c.Holds s := by
  rw [failing?, List.find?_eq_none]
  constructor
  · intro h c
    simpa using h c (by cases c <;> decide)
  · intro h c _
    simpa using h c

theorem find?_failing_cons (c : Check) (cs : List Check) :
    ((c :: cs).find? fun c => !decide (c.Holds s)) =
      if c.Holds s then cs.find? fun c => !decide (c.Holds s) else some c := by
  by_cases h : c.Holds s
  · rw [if_pos h, List.find?_cons_of_neg (by simpa using h)]
  · rw [if_neg h, List.find?_cons_of_pos (by simpa using h)]

theorem failing?_eq_version_iff : s.failing? = some .version ↔ s.version ≠ 1 := by
  rw [failing?, Check.all, find?_failing_cons]
  split
  · rename_i hversion
    refine iff_of_false (fun h => ?_) (not_not.2 hversion)
    simpa using List.mem_of_find?_eq_some h
  · exact iff_of_true rfl ‹_›

theorem validate_engine_eq (s : Settings) : s.engine.validate =
    if Check.storeTimeout.Holds s then
      if Check.cacheTtl.Holds s then .ok () else .error Check.cacheTtl.fault
    else .error Check.storeTimeout.fault := by
  have htimeout : (s.engine.storeTimeoutMs < 10 ∨ 60000 < s.engine.storeTimeoutMs) ↔ ¬ Check.storeTimeout.Holds s := by
    rw [Check.Holds, not_and_or, UInt64.not_le, UInt64.not_le]
  have httl : 3600000 < s.engine.cacheTtlMs ↔ ¬ Check.cacheTtl.Holds s := UInt64.not_le.symm
  simp only [EngineSettings.validate, htimeout, httl, ite_not, Check.fault]

theorem validate_log_eq (s : Settings) :
    s.log.validate = if Check.filter.Holds s then .ok () else .error Check.filter.fault := by
  have hblank : Text.isBlankText s.log.filter = true ↔ ¬ Check.filter.Holds s := by simp [Text.isBlankText, Check.Holds]
  simp only [LogSettings.validate, hblank, ite_not, Check.fault]

theorem validate_eq (s : Settings) :
    s.validate = match s.failing? with
      | none => .ok ()
      | some c => .error c.fault := by
  have hversion : s.version ≠ 1 ↔ ¬ Check.version.Holds s := Iff.rfl
  simp only [validate, validate_engine_eq, validate_log_eq, hversion, ite_not, failing?, Check.all, find?_failing_cons,
    List.find?_nil]
  split
  · split
    · split
      · split <;> rfl
      · rfl
    · rfl
  · rfl

section Documents

variable {text : String} {members : List (Node × Node)} (hroot : (Yaml.read text).root.HasMembers members)
  (hend : (Yaml.read text).cut = false)

include hroot hend

theorem ofText_of_said (hsaid : Says parts standard members s) :
    ofText text = match s.failing? with
      | none => .ok s
      | some c => .error c.fault := by
  have hread : decoder (Yaml.read text).root = .ok s := (covers.record_eq_ok_iff_said hroot).2 hsaid
  rw [ofText, decode_of_not_cut hend, hread]
  simp only [validate_eq]
  cases s.failing? <;> rfl

theorem ofText_of_unsaid (hnone : ∀ s, ¬ Says parts standard members s) :
    ∃ reason, decoder (Yaml.read text).root = .error reason ∧
      ofText text = .error (.badRequest ("invalid yaml: " ++ reason.message)) := by
  cases hread : decoder (Yaml.read text).root with
  | ok s => exact absurd ((covers.record_eq_ok_iff_said hroot).1 hread) (hnone s)
  | error reason => exact ⟨reason, rfl, by rw [ofText, decode_of_not_cut hend, hread]⟩

theorem ofText_eq_ok_iff : ofText text = .ok s ↔ Says parts standard members s ∧ ∀ c : Check, c.Holds s := by
  constructor
  · intro h
    by_cases hany : ∃ t, Says parts standard members t
    · obtain ⟨t, hsaid⟩ := hany
      rw [ofText_of_said hroot hend hsaid] at h
      cases hfailing : t.failing? with
      | none =>
        obtain rfl : t = s := by simpa [hfailing] using h
        exact ⟨hsaid, failing?_eq_none_iff.1 hfailing⟩
      | some c => simp [hfailing] at h
    · obtain ⟨reason, -, hfault⟩ := ofText_of_unsaid hroot hend fun t hsaid => hany ⟨t, hsaid⟩
      rw [hfault] at h
      contradiction
  · rintro ⟨hsaid, hholds⟩
    rw [ofText_of_said hroot hend hsaid, failing?_eq_none_iff.2 hholds]

theorem ofText_eq_error_iff {f : Fault} : ofText text = .error f ↔
    ((∀ s, ¬ Says parts standard members s) ∧ ∃ reason, decoder (Yaml.read text).root = .error reason ∧
      f = .badRequest ("invalid yaml: " ++ reason.message)) ∨
    ∃ s c, Says parts standard members s ∧ s.failing? = some c ∧ f = c.fault := by
  constructor
  · intro h
    by_cases hany : ∃ t, Says parts standard members t
    · obtain ⟨t, hsaid⟩ := hany
      rw [ofText_of_said hroot hend hsaid] at h
      cases hfailing : t.failing? with
      | none => simp [hfailing] at h
      | some c =>
        obtain rfl : c.fault = f := by simpa [hfailing] using h
        exact .inr ⟨t, c, hsaid, hfailing, rfl⟩
    · have hnone : ∀ t, ¬ Says parts standard members t := fun t hsaid => hany ⟨t, hsaid⟩
      obtain ⟨reason, hread, hfault⟩ := ofText_of_unsaid hroot hend hnone
      exact .inl ⟨hnone, reason, hread, Except.error.inj (h.symm.trans hfault)⟩
  · rintro (⟨hnone, reason, hread, rfl⟩ | ⟨s, c, hsaid, hfailing, rfl⟩)
    · obtain ⟨reason', hread', hfault⟩ := ofText_of_unsaid hroot hend hnone
      obtain rfl := Except.error.inj (hread.symm.trans hread')
      exact hfault
    · rw [ofText_of_said hroot hend hsaid, hfailing]

theorem code_of_ofText_eq_error {f : Fault} (h : ofText text = .error f) :
    (f.code = .unsupportedVersion ↔ ∃ s, Says parts standard members s ∧ s.version ≠ 1) ∧
      (f.code ≠ .unsupportedVersion → f.code = .badRequest) := by
  rcases (ofText_eq_error_iff hroot hend).1 h with ⟨hnone, reason, -, rfl⟩ | ⟨s, c, hsaid, hfailing, rfl⟩
  · exact ⟨iff_of_false (by simp [Fault.code]) fun ⟨s, hsaid, _⟩ => hnone s hsaid, fun _ => rfl⟩
  · have honly : (∃ t, Says parts standard members t ∧ t.version ≠ 1) ↔ c = .version := by
      have hversion : s.version ≠ 1 ↔ c = .version := by
        rw [← failing?_eq_version_iff, hfailing, Option.some.injEq]
      constructor
      · rintro ⟨t, ht, hne⟩
        obtain rfl := covers.says_unique ht hsaid
        exact hversion.1 hne
      · exact fun hc => ⟨s, hsaid, hversion.2 hc⟩
    rw [honly]
    cases c <;> simp [Check.fault, Fault.code]

end Documents

/-- The settings of a document are what its members say, if these are known and once each, have all that must be there
and are of their kinds, and if all checks hold. Otherwise the first of reading and the checks that fails says why, and
only the version has a code of its own. -/
theorem ofText_decided_by_members {text : String} {members : List (Node × Node)}
    (hroot : (Yaml.read text).root.HasMembers members) (hend : (Yaml.read text).cut = false) :
    (∀ s, ofText text = .ok s ↔ Says parts standard members s ∧ ∀ c : Check, c.Holds s) ∧
    (∀ f, ofText text = .error f ↔
      ((∀ s, ¬ Says parts standard members s) ∧ ∃ reason, decoder (Yaml.read text).root = .error reason ∧
        f = .badRequest ("invalid yaml: " ++ reason.message)) ∨
      ∃ s c, Says parts standard members s ∧ s.failing? = some c ∧ f = c.fault) ∧
    ∀ f, ofText text = .error f →
      (f.code = .unsupportedVersion ↔ ∃ s, Says parts standard members s ∧ s.version ≠ 1) ∧
        (f.code ≠ .unsupportedVersion → f.code = .badRequest) :=
  ⟨fun _ => ofText_eq_ok_iff hroot hend, fun _ => ofText_eq_error_iff hroot hend,
    fun _ h => code_of_ofText_eq_error hroot hend h⟩

def faultyText : String := "version: 1\nengine:\n  store_timeout_ms: 5\n  audit: true\nlog:\n  filter: ' '\nstore:\n"

def faultyMembers : List (Node × Node) := [
  (.scalar "version" .plain, .scalar "1" .plain),
  (.scalar "engine" .plain, .mapping [
    (.scalar "store_timeout_ms" .plain, .scalar "5" .plain),
    (.scalar "audit" .plain, .scalar "true" .plain)] false),
  (.scalar "log" .plain, .mapping [(.scalar "filter" .plain, .scalar " " .quoted)] false),
  (.scalar "store" .plain, .empty)
]

def faulty : Settings := ⟨1, ⟨5, 30000, .stub, true⟩, ⟨" ", .pretty⟩, ⟨none⟩⟩

theorem faultyText_refused_for_timeout :
    (Yaml.read faultyText).root.HasMembers faultyMembers ∧ (Yaml.read faultyText).cut = false ∧
      Says parts standard faultyMembers faulty ∧
      ofText faultyText = .error (.badRequest "engine.store_timeout_ms must be between 10 and 60000") := by
  have hread : Yaml.read faultyText = ⟨.mapping faultyMembers false, false⟩ := by cbv
  have hroot : (Yaml.read faultyText).root.HasMembers faultyMembers := .mapping (by rw [hread]; rfl)
  have hend : (Yaml.read faultyText).cut = false := by rw [hread]
  have hsaid : Says parts standard faultyMembers faulty :=
    (covers.record_eq_ok_iff_said (.mapping (n := .mapping faultyMembers false) rfl)).1 (by cbv)
  have hfailing : faulty.failing? = some .storeTimeout := by decide
  obtain ⟨-, hrefused, -⟩ := ofText_decided_by_members hroot hend
  exact ⟨hroot, hend, hsaid, (hrefused _).2 (.inr ⟨faulty, .storeTimeout, hsaid, hfailing, rfl⟩)⟩

end Settings

end AccessPolicy
