import AccessPolicy.Policy.Matching
import AccessPolicy.Proofs.Documents.Scalars
import AccessPolicy.Proofs.Value.Rereading
import AccessPolicy.Proofs.Value.Sameness

namespace AccessPolicy

open Json

namespace Value

theorem any_compare_eq_of_sameItems {vs ws : List Value} (h : sameItems vs ws = true) (u : Value) :
    vs.any (u.compare · == .eq) = ws.any (u.compare · == .eq) := by
  have hall := sameItems_iff.1 h
  induction hall with
  | nil => rfl
  | cons hvw _ ih =>
    obtain ⟨-, hrest⟩ := Bool.and_eq_true_iff.1 h
    rw [List.any_cons, List.any_cons, compare_same_right hvw, ih hrest]

theorem isAmong_eq_of_same {v w : Value} (h : v.same w = true) (u : Value) : u.isAmong v = u.isAmong w := by
  cases v <;> cases w <;> try contradiction
  case list.list vs ws => exact any_compare_eq_of_sameItems h u
  all_goals rfl

end Value

namespace Condition

section Sameness

variable {c d : Condition} {cs ds : List Condition}

theorem same_iff : c.same d = true ↔
    c.field = d.field ∧ c.operator = d.operator ∧ c.value.same d.value = true ∧ c.logic = d.logic := by
  simp [same, and_assoc]

theorem pattern?_eq_of_same (h : c.same d = true) : c.pattern? = d.pattern? := by
  obtain ⟨field, operator, value, logic⟩ := c
  obtain ⟨field', operator', value', logic'⟩ := d
  obtain ⟨-, rfl, hvalue, -⟩ := same_iff.1 h
  cases value <;> cases value' <;> try contradiction
  case text.text s t =>
    obtain rfl : s = t := eq_of_beq hvalue
    rfl
  all_goals cases operator <;> rfl

theorem holds_eq_of_same (h : c.same d = true) (mode : PatternMode) (v : Value) : c.holds mode v = d.holds mode v := by
  obtain ⟨-, hoperator, hvalue, -⟩ := same_iff.1 h
  simp only [holds, hoperator, pattern?_eq_of_same h, Value.compare_same_right hvalue,
    Value.isAmong_eq_of_same hvalue, Value.chars_eq_of_same hvalue]

theorem allHold_eq_of_same (h : List.Forall₂ (fun c d => c.same d = true) cs ds) (mode : PatternMode) (r : Request) :
    allHold mode cs r = allHold mode ds r := by
  have hresults : cs.map (fun c => (c.logic, c.holds mode (r.resolve c.field))) =
      ds.map fun d => (d.logic, d.holds mode (r.resolve d.field)) := by
    induction h with
    | nil => rfl
    | cons hcd _ ih =>
      obtain ⟨hfield, -, -, hlogic⟩ := same_iff.1 hcd
      rw [List.map_cons, List.map_cons, ih, hfield, hlogic, holds_eq_of_same hcd]
  rw [allHold, allHold, hresults]

end Sameness

structure Stored (level : Nat) (c : Condition) : Prop where
  operator : ∃ s, c.operator = .ofName s
  value : Durable c.value.numbers → c.value.Rereads (Value.depthLimit - level - 1)

variable {level : Nat} {c : Condition} {cs : List Condition}

theorem stored_of_decoder {n : Node} (h : decoder level n = .ok c) : c.Stored level := by
  refine record_keeps (P := Stored level) ?_ h ⟨⟨"", rfl⟩, fun _ => ⟨.null, rfl, rfl⟩⟩
  simp only [fields, List.forall_mem_cons, List.not_mem_nil, false_implies, implies_true, and_true]
  refine ⟨?_, ?_, ?_, ?_⟩
  · exact Field.keeps_of_read rfl fun _ _ _ _ h => ⟨h.operator, h.value⟩
  · exact Field.keeps_of_read rfl fun _ s _ _ h => ⟨⟨s, rfl⟩, h.value⟩
  · exact Field.keeps_of_read rfl fun _ _ hv _ h => ⟨h.operator, Value.rereads_of_ofNode hv⟩
  · exact Field.keeps_of_read rfl fun _ _ _ _ h => ⟨h.operator, h.value⟩

theorem exists_decoder_toJson (h : c.Stored level) (hd : Durable c.value.numbers) :
    ∃ d, decoder level c.toJson.node = .ok d ∧ d.same c = true := by
  obtain ⟨field, operator, value, logic⟩ := c
  obtain ⟨s, hs⟩ : ∃ s, operator = .ofName s := h.operator
  obtain ⟨v, hv, hsame⟩ := h.value hd
  subst hs
  have hnames : ["field", "operator", "value", "logic"].Nodup := by decide
  refine ⟨⟨field, .ofName s, v, logic⟩, record_of_fills hnames ?_, by simp [same, hsame]⟩
  simp only [Operator.name_ofName]
  refine .optional rfl (.optional rfl (.optional hv (.optional rfl ?_)))
  cases logic <;> exact .done _

theorem stored_of_decodeAll {s : String} (h : decodeAll s = .ok cs) : ∀ c ∈ cs, c.Stored 1 := by
  rcases exists_of_decodeBlob h with rfl | rfl | ⟨n, hn⟩
  · simp
  · simp
  · intro c hc
    obtain ⟨m, hm⟩ := Decoder.exists_of_mem_list hn hc
    exact stored_of_decoder hm

theorem readsAs_same (h : ∀ c ∈ cs, c.Stored 1) (hd : ∀ c ∈ cs, Durable c.value.numbers) :
    ReadsAs decodeAll (Json.array (cs.map toJson)) fun ds => List.Forall₂ (fun d c => d.same c = true) ds cs := by
  obtain ⟨ds, hread, hsame⟩ := Decoder.exists_list_node fun c hc => exists_decoder_toJson (h c hc) (hd c hc)
  exact fun t ht =>
    ⟨ds, decodeBlob_of_writes ht (isBlankText_of_writes_array ht) (node_array_ne_null _) hread, hsame⟩

end Condition

end AccessPolicy
