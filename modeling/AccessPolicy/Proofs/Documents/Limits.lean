import AccessPolicy.Proofs.Documents.Decisions

namespace AccessPolicy

open Json

theorem Json.Decoder.integer_node_of_lt {low high i : Int} (hhigh : high < i) (hmin : -(1 <<< 63) ≤ i)
    (hmax : i < UInt64.size) : integer low high (Json.int i).node = .error .invalidValue := by
  have hout : ¬ (low ≤ i ∧ i ≤ high) := fun h => absurd h.2 (Int.not_le.2 hhigh)
  rw [node, integer, Numeral.number?_ofInt hmin hmax]
  exact if_neg hout

namespace RateLimit

variable {l : RateLimit}

theorem stored_iff : l.Stored ↔ l.window.nanos < 2 ^ 63 := by
  have hmax : Int64.maxValue.toInt = 2 ^ 63 - 1 := by decide
  rw [Stored, hmax]
  omega

theorem decoder_toJson_of_not_stored (h : ¬ l.Stored) : decoder l.toJson.node = .error .invalidValue := by
  have hlong : Int64.maxValue.toInt < l.window.nanos := Int.not_le.1 h
  have hmax : Int64.maxValue.toInt = 2 ^ 63 - 1 := by decide
  have hsize : UInt64.size = 2 ^ 64 := rfl
  have hmin : (1 <<< 63 : Int) = 2 ^ 63 := rfl
  have hrequests := Decoder.int64_node l.requests
  have hwindow : Decoder.int64 (Json.int (min l.window.nanos (UInt64.size - 1))).node = .error .invalidValue := by
    rw [Decoder.int64, Decoder.integer_node_of_lt (by omega) (by omega) (by omega)]
    rfl
  rw [toJson, node, memberNodes, memberNodes, memberNodes]
  generalize (Json.int l.requests.toInt).node = requests at hrequests
  generalize (Json.int (min l.window.nanos (UInt64.size - 1))).node = window at hwindow
  simp [decoder, record, recordOfMembers, fields, Field.optional, hrequests, hwindow, Except.map, bind, Except.bind]

theorem decode_toJson (l : RateLimit) :
    Json.decode decoder l.toJson.compact = if l.window.nanos < 2 ^ 63 then .ok l else .error .invalidValue := by
  rw [decode_compact]
  split
  · exact decoder_toJson (stored_iff.2 ‹_›)
  · exact decoder_toJson_of_not_stored fun h => ‹¬ _› (stored_iff.1 h)

theorem stored_of_decoder_toJson {m : RateLimit} (h : decoder l.toJson.node = .ok m) : l.Stored := by
  refine Classical.byContradiction fun hlong => ?_
  rw [decoder_toJson_of_not_stored hlong] at h
  contradiction

/-- Whether a limit is the given one, but for a window of 2 ^ 64 nanoseconds or more, which may have become the longest
below that. -/
def SameUpToSaturation (m l : RateLimit) : Prop :=
  m.requests = l.requests ∧ (m.window = l.window ∨ 2 ^ 64 ≤ l.window.nanos ∧ m.window = ⟨2 ^ 64 - 1⟩)

theorem readsAs_same_iff : ReadsAs (Json.decode decoder) l.toJson (SameUpToSaturation · l) ↔ l.Stored := by
  constructor
  · intro h
    obtain ⟨m, hm, -⟩ := h _ (.inl rfl)
    rw [decode_compact] at hm
    exact stored_of_decoder_toJson hm
  · intro h
    exact readsAs_of_decoder ⟨l, decoder_toJson h, rfl, .inl rfl⟩

section Decisions

variable [ZoneDatabase]

theorem stored_of_decision {d c : Decision} (hl : d.rateLimit = some l)
    (h : Decision.decode d.toJson.compact = .ok c) : l.Stored := by
  rw [Decision.decode, decode_compact] at h
  let field : Field Node Decision :=
    .optional "rate_limit" (Decoder.option decoder) fun x d => { d with rateLimit := x }
  have hfield : Decision.fields.find? (·.name == "rate_limit") = some field := rfl
  have hmember : (some "rate_limit", l.toJson.node) ∈ memberNodes (Effect.member "rate_limit" toJson d.rateLimit) := by
    rw [hl]
    exact List.mem_cons_self
  obtain ⟨set, hset⟩ := exists_read_of_record h (by
    simp only [memberNodes_append]
    exact List.mem_append_left _ (List.mem_append_right _ hmember)) hfield
  obtain ⟨x, hx, -⟩ := exists_of_map_ok hset
  obtain ⟨m, hm, -⟩ := exists_of_map_ok hx
  exact stored_of_decoder_toJson hm

theorem exists_decision (h : l.Stored) : ∃ d c : Decision, d.rateLimit = some l ∧
    Decision.decode d.toJson.compact = .ok c ∧ c.rateLimit = some l := by
  let d : Decision := { Decision.stating true "" with rateLimit := some l }
  have hstored : d.Stored := ⟨Value.stored_empty, nofun, fun m hm => Option.some.inj hm ▸ h, nofun⟩
  obtain ⟨c, hc, es, -, rfl⟩ := Decision.exists_decoder_toJson hstored nofun
  exact ⟨d, _, rfl, (decode_compact ..).trans hc, rfl⟩

theorem rereads_iff_window_fits (l : RateLimit) :
    (ReadsAs (Json.decode decoder) l.toJson (SameUpToSaturation · l) ↔ l.window.nanos < 2 ^ 63) ∧
      ((∃ d c : Decision, d.rateLimit = some l ∧ Decision.decode d.toJson.compact = .ok c ∧ c.rateLimit = some l) ↔
        l.window.nanos < 2 ^ 63) ∧
      Json.decode decoder l.toJson.compact = if l.window.nanos < 2 ^ 63 then .ok l else .error .invalidValue := by
  refine ⟨readsAs_same_iff.trans stored_iff, ⟨?_, ?_⟩, decode_toJson l⟩
  · rintro ⟨d, c, hl, hc, -⟩
    exact stored_iff.1 (stored_of_decision hl hc)
  · intro h
    exact exists_decision (stored_iff.2 h)

end Decisions

theorem long_window_refused :
    let l : RateLimit := ⟨0, ⟨9223372036854775808⟩⟩
    l.toJson.compact = "\x7b\"requests\":0,\"window\":9223372036854775808\x7d" ∧
      Json.decode decoder l.toJson.compact = .error .invalidValue ∧
      ¬ ReadsAs (Json.decode decoder) l.toJson (SameUpToSaturation · l) := by
  intro l
  have hlong : ¬ l.Stored := fun h => absurd (stored_iff.1 h) (by decide)
  refine ⟨by decide +kernel, ?_, fun h => hlong (readsAs_same_iff.1 h)⟩
  rw [decode_compact]
  exact decoder_toJson_of_not_stored hlong

end RateLimit

end AccessPolicy
