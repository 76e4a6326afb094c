import AccessPolicy.Proofs.Decision.Settlement
import AccessPolicy.Proofs.Value.Sameness
import AccessPolicy.Time.ZoneTable

namespace AccessPolicy

namespace Request

def fixedFields : List String :=
  ["user_id", "tenant_id", "workspace_id", "resource", "action", "resource_id", "time", "hour", "day_of_week", "ip",
    "user_agent"]

def clockFields : List String := ["time", "hour", "day_of_week"]

variable (r : Request) {field : String}

theorem resolve_of_fixed (h : field ∈ fixedFields) (es : Entries Value) :
    { r with metadata := es }.resolve field = r.resolve field := by
  simp only [fixedFields, List.mem_cons, List.not_mem_nil, or_false] at h
  rcases h with rfl | rfl | rfl | rfl | rfl | rfl | rfl | rfl | rfl | rfl | rfl <;> rfl

theorem resolve_of_not_fixed (h : field ∉ fixedFields) : r.resolve field = (r.metadata.get? field).getD .null := by
  simp only [fixedFields, List.mem_cons, List.not_mem_nil, or_false, not_or] at h
  unfold resolve
  split <;> simp_all

theorem resolve_set_offset (h : field ∉ clockFields) (offset : Int) :
    { r with time := ⟨r.time.instant, offset⟩ }.resolve field = r.resolve field := by
  simp only [clockFields, List.mem_cons, List.not_mem_nil, or_false, not_or] at h
  obtain ⟨htime, hhour, hday⟩ := h
  unfold resolve
  split
  case h_7 => contradiction
  case h_8 => contradiction
  case h_9 => contradiction
  all_goals rfl

end Request

namespace Condition

variable (mode : PatternMode) {v w : Value} {r r' : Request}

theorem holds_congr (c : Condition) (h : v.Agrees w) : c.holds mode v = c.holds mode w := by
  have hdisplay : v.display = w.display := congrArg String.ofList h.chars
  have hcompare := h.compare c.value
  have hamong : v.isAmong c.value = w.isAmong c.value := by simp only [Value.isAmong, h.compare]
  simp only [holds, hcompare, hamong, h.chars, hdisplay]

theorem allHold_congr {cs : List Condition} (h : ∀ c ∈ cs, (r.resolve c.field).Agrees (r'.resolve c.field)) :
    allHold mode cs r = allHold mode cs r' := by
  have hresults : cs.map (fun c => (c.logic, c.holds mode (r.resolve c.field))) =
      cs.map fun c => (c.logic, c.holds mode (r'.resolve c.field)) :=
    List.map_congr_left fun c hc => by rw [holds_congr mode c (h c hc)]
  rw [allHold, allHold, hresults]

end Condition

namespace Policy

def ReadAlike (ps : List Policy) (r r' : Request) : Prop :=
  ∀ p ∈ ps, ∀ c ∈ p.conditions, (r.resolve c.field).Agrees (r'.resolve c.field)

section Deciding

variable [ZoneDatabase]

/-- Whether a list of policies is narrowed down in the same way for two requests, and decides them in the same way
before and after that. -/
structure TreatAlike (mode : PatternMode) (ps : List Policy) (r r' : Request) : Prop where
  applicable : applicable mode ps r.resource r.action = applicable mode ps r'.resource r'.action
  decide : decide mode ps r = decide mode ps r'
  inScope : decideInScope mode ps r = decideInScope mode ps r'

variable {mode : PatternMode} {ps : List Policy} {r r' : Request}

omit [ZoneDatabase] in
theorem matching_congr (h : ReadAlike ps r r') : matching mode r ps = matching mode r' ps :=
  List.filter_congr fun p hp => Condition.allHold_congr mode (h p hp)

theorem decide_congr (htime : r.time.instant = r'.time.instant) (h : ReadAlike ps r r') :
    decide mode ps r = decide mode ps r' := by
  rw [decide_eq_settle, decide_eq_settle, htime, matching_congr h]

theorem treatAlike_of_readAlike (hresource : r.resource = r'.resource) (haction : r.action = r'.action)
    (htime : r.time.instant = r'.time.instant) (h : ReadAlike ps r r') : TreatAlike mode ps r r' where
  applicable := by rw [hresource, haction]
  decide := decide_congr htime h
  inScope := by
    have hscope : ReadAlike (Policy.applicable mode ps r.resource r.action) r r' :=
      fun p hp => h p (List.mem_filter.1 hp).1
    rw [decideInScope, decideInScope, decide_congr htime hscope, hresource, haction]

omit [ZoneDatabase] in
theorem readAlike_of_metadata {es : Entries Value}
    (h : ∀ key, key ∉ Request.fixedFields → es.get? key = r.metadata.get? key) :
    ReadAlike ps { r with metadata := es } r := by
  intro p _ c _
  refine .inl ?_
  by_cases hfixed : c.field ∈ Request.fixedFields
  · exact r.resolve_of_fixed hfixed es
  · rw [Request.resolve_of_not_fixed _ hfixed, Request.resolve_of_not_fixed _ hfixed, h _ hfixed]

theorem decisions_rest_on_attributes_read (mode : PatternMode) (ps : List Policy) :
    (∀ r r' : Request, r.resource = r'.resource → r.action = r'.action → r.time.instant = r'.time.instant →
      ReadAlike ps r r' → TreatAlike mode ps r r') ∧
    (∀ (r : Request) (es : Entries Value),
      (∀ key, key ∉ Request.fixedFields → es.get? key = r.metadata.get? key) →
        TreatAlike mode ps { r with metadata := es } r) ∧
    ∀ (r : Request) (offset : Int), (∀ p ∈ ps, ∀ c ∈ p.conditions, c.field ∉ Request.clockFields) →
      TreatAlike mode ps { r with time := ⟨r.time.instant, offset⟩ } r := by
  refine ⟨fun r r' => treatAlike_of_readAlike, fun r es h => ?_, fun r offset h => ?_⟩
  · exact treatAlike_of_readAlike rfl rfl rfl (readAlike_of_metadata h)
  · exact treatAlike_of_readAlike rfl rfl rfl fun p hp c hc => .inl (r.resolve_set_offset (h p hp c hc) offset)

end Deciding

open ZoneTable in
theorem decisions_rest_on_score_and_user :
    let onScore : Condition := ⟨"score", .atMost, .number .zero, .and⟩
    let onUser : Condition := ⟨"user_id", .equal, .ofNat 7, .and⟩
    let freeze : Policy := { (default : Policy) with name := "freeze", kind := .deny, conditions := [onScore, onUser] }
    let r : Request := { Request.blank with user := 7, metadata := .set "score" (.number .zero) .empty }
    let disguised : Request := { r with metadata := r.metadata.set "user_id" (.ofNat 8) }
    let abroad : Request := { r with time := ⟨r.time.instant, 19800⟩ }
    let r' : Request := { abroad with metadata := .set "score" (.number (.signed true .zero)) .empty }
    (ReadAlike [freeze] r r' ∧ decide .stub [freeze] r' = .deniedBy "freeze") ∧
    ((∀ key, key ∉ Request.fixedFields → disguised.metadata.get? key = r.metadata.get? key) ∧
      decide .stub [freeze] disguised = .deniedBy "freeze") ∧
    (∀ p ∈ [freeze], ∀ c ∈ p.conditions, c.field ∉ Request.clockFields) ∧
      decide .stub [freeze] abroad = .deniedBy "freeze" := by
  intro onScore onUser freeze r disguised abroad r'
  obtain ⟨hread, hmetadata, hclock⟩ := decisions_rest_on_attributes_read .stub [freeze]
  have hdenied : decide .stub [freeze] r = .deniedBy "freeze" := by
    have hmatch : freeze.isMatchedBy .stub r = true := by decide +kernel
    exact decideFrom_cons_of_deny [] _ hmatch rfl
  have hconditions {P : Condition → Prop} (hscore : P onScore) (huser : P onUser) :
      ∀ p ∈ [freeze], ∀ c ∈ p.conditions, P c := by
    intro p hp c hc
    rw [List.mem_singleton.1 hp] at hc
    rcases List.mem_cons.1 hc with rfl | hc
    · exact hscore
    · rw [List.mem_singleton.1 hc]
      exact huser
  have halike : ReadAlike [freeze] r r' := hconditions (.inr (by decide +kernel)) (.inr (by decide +kernel))
  have hhidden : ∀ key, key ∉ Request.fixedFields → disguised.metadata.get? key = r.metadata.get? key :=
    fun key hkey => Entries.get?_set_of_ne (fun h => hkey (by rw [h]; decide)) _ _
  have hunread : ∀ p ∈ [freeze], ∀ c ∈ p.conditions, c.field ∉ Request.clockFields :=
    hconditions (by decide) (by decide)
  refine ⟨⟨halike, ?_⟩, ⟨hhidden, ?_⟩, hunread, ?_⟩
  · exact (hread r r' rfl rfl rfl halike).decide.symm.trans hdenied
  · exact (hmetadata r disguised.metadata hhidden).decide.trans hdenied
  · exact (hclock r 19800 hunread).decide.trans hdenied

end Policy

end AccessPolicy
